import ResilientAgent.Service.World

/-!
# Token buckets

A `TokenBucket` spends tokens of one named resource, whose level lives in the shared store.
A request for more tokens than the bucket can ever hold is denied at once. Otherwise the bucket
tries the store; a blocking caller that is denied sleeps in slices of at most 100 ms, never
less than 1 ms and never past what is left of its longest wait (`TokenBucket.napAfter?`), and
tries again, up to a number of attempts that its longest wait or the bucket's fill time bounds
(`BucketRates.attemptsFor`). Every denial
is reported with the time waited; a grant is reported only when the caller had to wait for it.
A store that fails lets the call through. A store that refills a bucket whose capacity is
below zero stops the run.
-/

namespace ResilientAgent

def waitSlice : Duration := Duration.ofMillis 100

def bucketAttempts : Nat := 1000000

/-- Attempts a blocked caller may make before it gives up: at least `bucketAttempts`, and one a
millisecond over its longest wait or, with no longest wait, over the time a bucket it has to
itself takes to fill from empty. -/
def BucketRates.attemptsFor {α : Type} [TokenCount α] (config : BucketRates α)
    (maxWait : Option Duration) : Nat :=
  max bucketAttempts (match maxWait with
    | some m => m.ceilMillis + 1
    | none => config.fillAttempts)

/-- The bucket of one resource. -/
structure TokenBucket where
  resource : String
  config : BucketConfig
  /-- The longest a blocking caller waits, if bounded. -/
  maxWait : Option Duration := none
  deriving Inhabited

namespace TokenBucket

def report (b : TokenBucket) (waited : Duration) (granted : Bool) : Action Unit :=
  Action.record (.rateLimited b.resource waited granted)

/-- How long a denied caller sleeps before its next try, having waited `waited`: the store's
estimate held within `[1 ms, 100 ms]` and never past what is left of the longest wait; nothing
when the caller may not block or its longest wait is used up. -/
def napAfter? (b : TokenBucket) (block : Bool) (waited retryAfter : Duration) : Option Duration :=
  let budget := b.maxWait.map (·.saturatingSub waited)
  if !block || budget.any (·.isZero) then none
  else
    let nap := Duration.larger (Duration.min retryAfter waitSlice) (Duration.ofMillis 1)
    some (match budget with
      | some left => Duration.min nap left
      | none => nap)

/-- Takes `n` tokens, sleeping for them if `block` allows; whether the caller may go on. -/
def consume (b : TokenBucket) (n : Float) (block : Bool) : Action Bool := do
  if n > b.config.effectiveCapacity then
    b.report Duration.zero false
    return false
  let started ← Action.tick
  attempt started (b.config.attemptsFor b.maxWait)
where
  /-- One try at the store, with `fuel` tries left after it. -/
  attempt (started : Nat) : Nat → Action Bool
    | 0 => pure false
    | fuel + 1 => do
      let now ← Action.now
      let acquired ← Action.update (·.tryAcquire b.resource b.config n now)
      if acquired.isOk then
        if let some reason := b.config.refillFault? then
          Action.halt reason
          return false
      let waited ← Action.elapsedSince started
      let timed ← Proc.read fun w => .pure w.timed
      match acquired with
      | .error _ => return true
      | .ok .granted =>
        if !waited.isZero || !timed then b.report waited true
        return true
      | .ok (.denied retryAfter) =>
        match b.napAfter? block waited retryAfter with
        | none =>
          b.report waited false
          return false
        | some nap =>
          Action.sleep nap
          attempt started fuel

/-- The level of the bucket now. -/
def level (b : TokenBucket) : Action (Except AgentError Float) := do
  let now ← Action.now
  let r ← Action.update (·.level b.resource b.config now)
  if r.isOk then
    if let some reason := b.config.refillFault? then Action.halt reason
  return r

end TokenBucket

end ResilientAgent
