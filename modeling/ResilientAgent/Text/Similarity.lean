/-!
# Similarity of words

The Jaro similarity of two words, used to suggest a known name for a mistyped one. Two
characters match when they are equal and no further apart than half the longer word, less
one; each character matches at most once, the earliest free partner first. With `m` matches
and `t` matched characters out of order (counted in pairs), the similarity is
`(m / |a| + m / |b| + (m - t) / m) / 3`, or `0` without matches; two empty words are alike.

A name is suggested when its similarity exceeds `0.7`; suggestions are ordered from the least
to the most similar, equally similar names keeping their order.
-/

namespace ResilientAgent

namespace Text

/-- The first index in `[lo, hi)` holding `c` and not yet taken, if any. -/
def freePartner (b : Array Char) (taken : Array Bool) (c : Char) (lo hi : Nat) : Option Nat :=
  (List.range (hi - lo)).findSome? fun k =>
    let j := lo + k
    if b[j]? == some c && taken[j]? == some false then some j else none

/-- The Jaro similarity of two words. -/
def jaro (a b : String) : Float :=
  let xs := a.toList.toArray
  let ys := b.toList.toArray
  if xs.isEmpty && ys.isEmpty then 1.0
  else if xs.isEmpty || ys.isEmpty then 0.0
  else
    let reach := Nat.max xs.size ys.size / 2 - 1
    let (aTaken, bTaken) := (List.range xs.size).foldl (fun (aTaken, bTaken) i =>
      let lo := i - reach
      let hi := Nat.min ys.size (i + reach + 1)
      match freePartner ys bTaken (xs.getD i ' ') lo hi with
      | some j => (aTaken.setIfInBounds i true, bTaken.setIfInBounds j true)
      | none => (aTaken, bTaken)) (Array.replicate xs.size false, Array.replicate ys.size false)
    let aMatched := (List.range xs.size).filterMap fun i => if aTaken.getD i false then some (xs.getD i ' ') else none
    let bMatched := (List.range ys.size).filterMap fun j => if bTaken.getD j false then some (ys.getD j ' ') else none
    let matched := aMatched.length
    if matched == 0 then 0.0
    else
      let transpositions := ((aMatched.zip bMatched).countP fun (x, y) => x != y) / 2
      let m := matched.toFloat
      ((m / xs.size.toFloat + m / ys.size.toFloat) + (matched - transpositions).toFloat / m) / 3.0

/-- The names of `known` similar enough to `word` to be suggested, least similar first. -/
def similarNames (word : String) (known : List String) : List String :=
  let scored := (known.map fun k => (jaro word k, k)).filter fun (s, _) => s > 0.7
  (scored.mergeSort fun x y => x.1 ≤ y.1).map (·.2)

end Text

end ResilientAgent
