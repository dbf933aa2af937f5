import Mathlib
import ResilientAgent.Proofs.Json.Literals
import ResilientAgent.Proofs.Idempotency.ToolKeys

/-!
# What a tool call's key is made from

A tool call's key is the digest of the framed parts `tool`, scope, tool name and canonical
arguments. Two calls hash the same bytes exactly when they have one scope, one tool and
arguments that differ only in the order of object members (`toolCall_parts_eq_iff`), for
arguments that JSON text can hold. Two facts carry this.

The framing is injective (`framedParts_inj`): each part is preceded by its byte length, so a
reader of the bytes knows where every part ends.

Canonical text is unambiguous (`canonicalJson_eq_iff_reordered`), read left to right by
induction on the value (`canonicalJson_append_inj`). A value's first character names its kind
(`skeletonOf_leadChar`). A string literal and a number are read off as in
`quoteJson_append_inj` and `Number.render_inj`. The items of an array and the members of an
object are read one at a time up to a comma or the closing bracket (`intercalate_append_inj`),
members in sorted order, which a permutation takes back to the object's own order. Every step
of the reading also gives back what followed the value, which is where the next step starts.

Values JSON text can hold (`Json.WellFormed`) have finite numbers and objects with distinct
names. The texts of floats are not shown to be distinct here: floats with one text are assumed
to be one float (`Json.FloatsApart`).
-/

namespace ResilientAgent

/-! ## Length-prefixed parts -/

theorem length_bigEndian64 (n : Nat) : (Sha256.bigEndian64 n).length = 8 := by
  simp [Sha256.bigEndian64]

theorem bigEndian64_inj {m n : Nat} (hm : m < 2 ^ 64) (hn : n < 2 ^ 64)
    (h : Sha256.bigEndian64 m = Sha256.bigEndian64 n) : m = n := by
  simp only [Sha256.bigEndian64, show List.range 8 = [0, 1, 2, 3, 4, 5, 6, 7] from rfl,
    List.map_cons, List.map_nil, List.cons.injEq, and_true, ← UInt8.toNat_inj, Nat.toUInt8_eq,
    Nat.pow_eq] at h
  obtain ⟨h7, h6, h5, h4, h3, h2, h1, h0⟩ := h
  simp only [UInt8.toNat_ofNat', Nat.reduceSub, Nat.reduceMul, Nat.reducePow]
    at h7 h6 h5 h4 h3 h2 h1 h0
  omega

namespace IdempotencyKey

/-- The bytes one part adds to the framing: its byte length as a big-endian word, then its
bytes. -/
def frame (p : String) : List UInt8 := Sha256.bigEndian64 p.utf8ByteSize ++ p.toUTF8.data.toList

theorem frame_ne_nil (p : String) : frame p ≠ [] := by
  simp [frame, ← List.length_eq_zero_iff, length_bigEndian64]

theorem framedParts_toList (parts : List String) :
    (framedParts parts).data.toList = parts.flatMap frame := by
  suffices h : ∀ acc : ByteArray, (parts.foldl (fun acc p =>
      acc ++ ⟨(Sha256.bigEndian64 p.utf8ByteSize).toArray⟩ ++ p.toUTF8) acc).data.toList =
      acc.data.toList ++ parts.flatMap frame by
    simpa [framedParts] using h ByteArray.empty
  induction parts with
  | nil => simp
  | cons p ps ih =>
    intro acc
    rw [List.foldl_cons, ih]
    simp [frame]

theorem frame_append_inj {p q : String} {r r' : List UInt8} (hp : p.utf8ByteSize < 2 ^ 64)
    (hq : q.utf8ByteSize < 2 ^ 64) (h : frame p ++ r = frame q ++ r') : p = q ∧ r = r' := by
  simp only [frame, List.append_assoc] at h
  obtain ⟨hlen, hbytes⟩ := List.append_inj h (by simp [length_bigEndian64])
  have hsize : p.utf8ByteSize = q.utf8ByteSize := bigEndian64_inj hp hq hlen
  obtain ⟨hdata, rfl⟩ := List.append_inj hbytes (by simp [hsize])
  exact ⟨String.toByteArray_inj.mp (ByteArray.ext (Array.toList_inj.mp hdata)), rfl⟩

theorem flatMap_frame_inj {ps qs : List String} (hps : ∀ p ∈ ps, p.utf8ByteSize < 2 ^ 64)
    (hqs : ∀ q ∈ qs, q.utf8ByteSize < 2 ^ 64) (h : ps.flatMap frame = qs.flatMap frame) :
    ps = qs := by
  induction ps generalizing qs with
  | nil =>
    cases qs with
    | nil => rfl
    | cons q qs => simp [frame_ne_nil] at h
  | cons p ps ih =>
    cases qs with
    | nil => simp [frame_ne_nil] at h
    | cons q qs =>
      simp only [List.flatMap_cons] at h
      obtain ⟨rfl, hrest⟩ :=
        frame_append_inj (hps p List.mem_cons_self) (hqs q List.mem_cons_self) h
      rw [ih (fun p hp => hps p (List.mem_cons_of_mem _ hp))
        (fun q hq => hqs q (List.mem_cons_of_mem _ hq)) hrest]

/-- Lists of parts whose lengths fit the word are framed apart. -/
theorem framedParts_inj {ps qs : List String} (hps : ∀ p ∈ ps, p.utf8ByteSize < 2 ^ 64)
    (hqs : ∀ q ∈ qs, q.utf8ByteSize < 2 ^ 64) (h : framedParts ps = framedParts qs) :
    ps = qs := by
  have hbytes := congrArg (fun b : ByteArray => b.data.toList) h
  simp only [framedParts_toList] at hbytes
  exact flatMap_frame_inj hps hqs hbytes

end IdempotencyKey

/-! ## Values JSON text can hold -/

namespace Json

/-- A value that JSON text can hold: every number finite, and the members of every object under
distinct names. -/
inductive WellFormed : Json → Prop
  | null : WellFormed .null
  | bool (b : Bool) : WellFormed (.bool b)
  | number {n : Number} (hn : n.Finite) : WellFormed (.number n)
  | string (s : String) : WellFormed (.string s)
  | array {items : List Json} (hitems : ∀ x ∈ items, WellFormed x) : WellFormed (.array items)
  | object {fields : List (String × Json)} (hdistinct : (fields.map (·.1)).Nodup)
      (hvalues : ∀ kv ∈ fields, WellFormed kv.2) : WellFormed (.object fields)

/-- A float written somewhere in a value. -/
inductive HasFloat : Json → Float → Prop
  | here (x : Float) : HasFloat (.number (.float x)) x
  | item {items : List Json} {j : Json} {x : Float} (hmem : j ∈ items) (h : HasFloat j x) :
      HasFloat (.array items) x
  | member {fields : List (String × Json)} {kv : String × Json} {x : Float} (hmem : kv ∈ fields)
      (h : HasFloat kv.2 x) : HasFloat (.object fields) x

/-- The floats of two values are told apart by their texts. -/
def FloatsApart (a b : Json) : Prop :=
  ∀ x y, a.HasFloat x → b.HasFloat y →
    Numeral.floatDataText? x = Numeral.floatDataText? y → x = y

theorem FloatsApart.item {xs ys : List Json} {x y : Json}
    (h : (array xs).FloatsApart (.array ys)) (hx : x ∈ xs) (hy : y ∈ ys) :
    x.FloatsApart y :=
  fun u v hu hv => h u v (.item hx hu) (.item hy hv)

theorem FloatsApart.member {fs gs : List (String × Json)} {kv kv' : String × Json}
    (h : (object fs).FloatsApart (.object gs)) (hkv : kv ∈ fs) (hkv' : kv' ∈ gs) :
    kv.2.FloatsApart kv'.2 :=
  fun u v hu hv => h u v (.member hkv hu) (.member hkv' hv)

/-- The first character of a value's text. -/
def leadChar : Json → Char
  | .null => 'n'
  | .bool b => if b then 't' else 'f'
  | .number n => n.render.toList.headD '0'
  | .string _ => '"'
  | .array _ => '['
  | .object _ => '\x7b'

/-- A value with its contents dropped: its kind, and its truth value if it is a boolean. -/
def skeleton : Json → Json
  | .null => .null
  | .bool b => .bool b
  | .number _ => .number (.int 0)
  | .string _ => .string ""
  | .array _ => .array []
  | .object _ => .object []

/-- The kind of value a text starting with `c` holds. -/
def skeletonOf (c : Char) : Json :=
  if numberChar c then .number (.int 0)
  else if c = 'n' then .null
  else if c = 't' then .bool true
  else if c = 'f' then .bool false
  else if c = '"' then .string ""
  else if c = '[' then .array []
  else .object []

theorem numberChar_leadChar {n : Number} (hn : n.Finite) :
    numberChar (Json.number n).leadChar := by
  obtain ⟨hne, hchars⟩ := Number.render_chars hn
  obtain ⟨c, rest, hcons⟩ := List.exists_cons_of_ne_nil hne
  simp only [leadChar, hcons, List.headD_cons]
  exact hchars c (by simp [hcons])

/-- The first character of a value JSON can hold names its kind. -/
theorem skeletonOf_leadChar {a : Json} (ha : a.WellFormed) : skeletonOf a.leadChar = a.skeleton := by
  cases ha with
  | number hn => simp [skeletonOf, numberChar_leadChar hn, skeleton]
  | bool b => cases b <;> rfl
  | _ => rfl

theorem leadChar_ne_close {a : Json} (ha : a.WellFormed) : a.leadChar ≠ ']' := by
  cases ha with
  | number hn =>
    intro h
    have hnum := numberChar_leadChar hn
    rw [h] at hnum
    exact absurd hnum (by decide)
  | bool b => cases b <;> decide
  | _ => simp [leadChar]

end Json

/-! ## The shape of canonical text -/

namespace IdempotencyKey

open Json

/-- The order canonical text writes an object's members in: by name. -/
def fieldLE (x y : String × Json) : Bool := !decide (y.1 < x.1)

/-- One member of an object as canonical text writes it. -/
def memberChars (kv : String × Json) : List Char :=
  (quoteJson kv.1).toList ++ ':' :: (canonicalJson kv.2).toList

@[simp] theorem canonicalJson_null : canonicalJson .null = "null" := by
  simp [canonicalJson, Json.render]

@[simp] theorem canonicalJson_bool (b : Bool) :
    canonicalJson (.bool b) = if b then "true" else "false" := by
  simp [canonicalJson, Json.render]

@[simp] theorem canonicalJson_number (n : Number) : canonicalJson (.number n) = n.render := by
  simp [canonicalJson, Json.render]

@[simp] theorem canonicalJson_string (s : String) : canonicalJson (.string s) = quoteJson s := by
  simp [canonicalJson, Json.render]

theorem canonicalJson_array_chars (items : List Json) :
    (canonicalJson (.array items)).toList =
      '[' :: [','].intercalate (items.map fun x => (canonicalJson x).toList) ++ [']'] := by
  simp [canonicalJson_array, String.toList_intercalate, Function.comp_def]

theorem canonicalJson_object_chars (fields : List (String × Json)) :
    (canonicalJson (.object fields)).toList =
      '\x7b' :: [','].intercalate ((fields.mergeSort fieldLE).map memberChars) ++ ['\x7d'] := by
  have hsorted : (canonicalMembers fields).mergeSort memberLE =
      (fields.mergeSort fieldLE).map fun kv => (kv.1, canonicalJson kv.2) := by
    rw [canonicalMembers]
    symm
    exact List.map_mergeSort fun _ _ _ _ => rfl
  rw [canonicalJson_object, hsorted]
  simp [String.toList_intercalate, Function.comp_def]
  rfl

theorem canonicalJson_chars_cons {a : Json} (ha : a.WellFormed) :
    ∃ rest, (canonicalJson a).toList = a.leadChar :: rest := by
  cases ha with
  | null => exact ⟨_, by rw [canonicalJson_null]; rfl⟩
  | bool b => cases b <;> exact ⟨_, by rw [canonicalJson_bool]; rfl⟩
  | number hn =>
    obtain ⟨c, rest, hcons⟩ := List.exists_cons_of_ne_nil (Number.render_chars hn).1
    exact ⟨rest, by simp [leadChar, hcons]⟩
  | string s => exact ⟨_, by rw [canonicalJson_string, quoteJson_toList]; rfl⟩
  | array => exact ⟨_, by rw [canonicalJson_array_chars]; rfl⟩
  | object => exact ⟨_, by rw [canonicalJson_object_chars]; rfl⟩

theorem skeleton_eq_of_append {a b : Json} {r r' : List Char} (ha : a.WellFormed)
    (hb : b.WellFormed) (h : (canonicalJson a).toList ++ r = (canonicalJson b).toList ++ r') :
    a.skeleton = b.skeleton := by
  obtain ⟨u, hu⟩ := canonicalJson_chars_cons ha
  obtain ⟨v, hv⟩ := canonicalJson_chars_cons hb
  simp only [hu, hv, List.cons_append, List.cons.injEq] at h
  rw [← skeletonOf_leadChar ha, ← skeletonOf_leadChar hb, h.1]

/-! ## Reading canonical text back -/

/-- What may follow a value's text inside canonical text: nothing, a comma, or the end of an
array or an object. -/
def Follows (r : List Char) : Prop := ∀ c ∈ r.head?, c = ',' ∨ c = ']' ∨ c = '\x7d'

theorem Follows.numberChar_eq_false {r : List Char} (hr : Follows r) :
    ∀ c ∈ r.head?, numberChar c = false := by
  intro c hc
  rcases hr c hc with rfl | rfl | rfl <;> decide

theorem follows_nil : Follows [] := by
  simp [Follows]

/-- Items written with commas between them and a closing character after them are read back
one at a time, as long as each item's text stops at the comma or the closer after it. -/
theorem intercalate_append_inj {α β : Type} {enc : α → List Char} {enc' : β → List Char}
    {R : α → β → Prop} (close : Char) (hclose : close ≠ ',') {xs : List α} {ys : List β}
    (hitem : ∀ x ∈ xs, ∀ y ∈ ys, ∀ r r' : List Char, (∀ c ∈ r.head?, c = ',' ∨ c = close) →
      (∀ c ∈ r'.head?, c = ',' ∨ c = close) → enc x ++ r = enc' y ++ r' → R x y ∧ r = r')
    (hxs : ∀ x ∈ xs, ∃ c rest, enc x = c :: rest ∧ c ≠ close)
    (hys : ∀ y ∈ ys, ∃ c rest, enc' y = c :: rest ∧ c ≠ close) {r r' : List Char}
    (h : [','].intercalate (xs.map enc) ++ close :: r =
      [','].intercalate (ys.map enc') ++ close :: r') :
    List.Forall₂ R xs ys ∧ r = r' := by
  induction xs generalizing ys with
  | nil =>
    cases ys with
    | nil => simpa using h
    | cons y ys =>
      obtain ⟨c, rest, hy, hc⟩ := hys y List.mem_cons_self
      simp only [List.map_nil, List.intercalate_nil, List.nil_append, List.map_cons, hy,
        List.intercalate_cons_cons_left, List.cons_append, List.cons.injEq] at h
      exact absurd h.1 hc.symm
  | cons x xs ih =>
    cases ys with
    | nil =>
      obtain ⟨c, rest, hx, hc⟩ := hxs x List.mem_cons_self
      simp only [List.map_nil, List.intercalate_nil, List.nil_append, List.map_cons, hx,
        List.intercalate_cons_cons_left, List.cons_append, List.cons.injEq] at h
      exact absurd h.1 hc
    | cons y ys =>
      have hfirst := hitem x List.mem_cons_self y List.mem_cons_self
      rcases xs with _ | ⟨x₂, xs⟩ <;> rcases ys with _ | ⟨y₂, ys⟩
      · simp only [List.map_cons, List.map_nil, List.intercalate_singleton] at h
        obtain ⟨hxy, hr⟩ := hfirst _ _ (by simp) (by simp) h
        exact ⟨.cons hxy .nil, (List.cons.inj hr).2⟩
      · simp only [List.map_cons, List.map_nil, List.intercalate_singleton,
          List.intercalate_cons_cons, List.append_assoc, List.singleton_append] at h
        exact absurd (List.cons.inj (hfirst _ _ (by simp) (by simp) h).2).1 hclose
      · simp only [List.map_cons, List.map_nil, List.intercalate_singleton,
          List.intercalate_cons_cons, List.append_assoc, List.singleton_append] at h
        exact absurd (List.cons.inj (hfirst _ _ (by simp) (by simp) h).2).1.symm hclose
      · simp only [List.map_cons, List.intercalate_cons_cons, List.append_assoc,
          List.singleton_append] at h
        obtain ⟨hxy, hr⟩ := hfirst _ _ (by simp) (by simp) h
        simp only [← List.map_cons] at hr
        obtain ⟨hrest, rfl⟩ := ih
          (fun x hx y hy => hitem x (List.mem_cons_of_mem _ hx) y (List.mem_cons_of_mem _ hy))
          (fun x hx => hxs x (List.mem_cons_of_mem _ hx))
          (fun y hy => hys y (List.mem_cons_of_mem _ hy)) (List.cons.inj hr).2
        exact ⟨.cons hxy hrest, rfl⟩

theorem reordered_array_of_forall₂ {xs ys : List Json} (h : List.Forall₂ Reordered xs ys) :
    (Json.array xs).Reordered (.array ys) := by
  obtain ⟨hlen, hitems⟩ := List.forall₂_iff_get.1 h
  exact .array hlen fun i hx hy => hitems i hx hy

theorem reordered_object_of_forall₂ {fs gs : List (String × Json)} (hdistinct : (fs.map (·.1)).Nodup)
    (h : List.Forall₂ (fun kv kv' => kv.1 = kv'.1 ∧ kv.2.Reordered kv'.2)
      (fs.mergeSort fieldLE) (gs.mergeSort fieldLE)) :
    (Json.object fs).Reordered (.object gs) := by
  obtain ⟨fs', hmatch, hperm⟩ := List.perm_comp_forall₂ (List.mergeSort_perm fs fieldLE).symm h
  obtain ⟨hlen, hpairs⟩ := List.forall₂_iff_get.1 hmatch
  exact .object fs' hdistinct hlen (fun i hx hy => (hpairs i hx hy).1)
    (fun i hx hy => (hpairs i hx hy).2) (hperm.trans (List.mergeSort_perm gs fieldLE))

/-- A canonical text followed by anything that may follow a value is read back to a reordered
copy of the value, and to what followed. -/
theorem canonicalJson_append_inj {a b : Json} (ha : a.WellFormed) (hb : b.WellFormed)
    (hfloats : a.FloatsApart b) {r r' : List Char} (hr : Follows r) (hr' : Follows r')
    (h : (canonicalJson a).toList ++ r = (canonicalJson b).toList ++ r') :
    a.Reordered b ∧ r = r' := by
  have hkind := skeleton_eq_of_append ha hb h
  induction ha generalizing b r r' with
  | null =>
    cases hb <;> simp only [skeleton, reduceCtorEq] at hkind
    exact ⟨.refl _, List.append_cancel_left h⟩
  | bool x =>
    cases hb <;> simp only [skeleton, reduceCtorEq, Json.bool.injEq] at hkind
    subst hkind
    exact ⟨.refl _, List.append_cancel_left h⟩
  | @number n hn =>
    obtain ⟨m, rfl, hm⟩ : ∃ m, b = .number m ∧ m.Finite := by
      cases hb <;> simp only [skeleton, reduceCtorEq] at hkind
      exact ⟨_, rfl, ‹_›⟩
    rw [canonicalJson_number, canonicalJson_number] at h
    obtain ⟨htext, rfl⟩ := append_inj_of_run (Number.render_chars hn).2
      (Number.render_chars hm).2 hr.numberChar_eq_false hr'.numberChar_eq_false h
    have hnm : n = m := Number.render_inj hn hm
      (fun x y hx hy => hfloats x y (hx ▸ .here x) (hy ▸ .here y)) (String.toList_inj.mp htext)
    exact ⟨hnm ▸ .refl _, rfl⟩
  | string s =>
    obtain ⟨t, rfl⟩ : ∃ t, b = .string t := by
      cases hb <;> simp only [skeleton, reduceCtorEq] at hkind
      exact ⟨_, rfl⟩
    rw [canonicalJson_string, canonicalJson_string] at h
    obtain ⟨rfl, rfl⟩ := quoteJson_append_inj h
    exact ⟨.refl _, rfl⟩
  | @array xs hxs ih =>
    obtain ⟨ys, rfl, hys⟩ : ∃ ys, b = .array ys ∧ ∀ y ∈ ys, y.WellFormed := by
      cases hb <;> simp only [skeleton, reduceCtorEq] at hkind
      exact ⟨_, rfl, ‹_›⟩
    rw [canonicalJson_array_chars, canonicalJson_array_chars] at h
    simp only [List.cons_append, List.cons.injEq, true_and, List.append_assoc] at h
    obtain ⟨hitems, rfl⟩ := intercalate_append_inj ']' (by decide)
      (fun x hx y hy u u' hu hu' hxy =>
        ih x hx (hys y hy) (FloatsApart.item hfloats hx hy)
          (fun c hc => by rcases hu c hc with rfl | rfl <;> simp)
          (fun c hc => by rcases hu' c hc with rfl | rfl <;> simp) hxy
          (skeleton_eq_of_append (hxs x hx) (hys y hy) hxy))
      (fun x hx => ⟨_, _, (canonicalJson_chars_cons (hxs x hx)).choose_spec,
        leadChar_ne_close (hxs x hx)⟩)
      (fun y hy => ⟨_, _, (canonicalJson_chars_cons (hys y hy)).choose_spec,
        leadChar_ne_close (hys y hy)⟩) h
    exact ⟨reordered_array_of_forall₂ hitems, rfl⟩
  | @object fs hdistinct hfs ih =>
    obtain ⟨gs, rfl, hgs⟩ : ∃ gs, b = .object gs ∧ ∀ kv ∈ gs, kv.2.WellFormed := by
      cases hb <;> simp only [skeleton, reduceCtorEq] at hkind
      exact ⟨_, rfl, ‹_›⟩
    rw [canonicalJson_object_chars, canonicalJson_object_chars] at h
    simp only [List.cons_append, List.cons.injEq, true_and, List.append_assoc] at h
    have hmem : ∀ {l : List (String × Json)} {kv}, kv ∈ l.mergeSort fieldLE → kv ∈ l :=
      fun hkv => (List.mergeSort_perm _ _).mem_iff.1 hkv
    have hmember : ∀ kv ∈ fs.mergeSort fieldLE, ∀ kv' ∈ gs.mergeSort fieldLE,
        ∀ u u' : List Char, (∀ c ∈ u.head?, c = ',' ∨ c = '\x7d') →
        (∀ c ∈ u'.head?, c = ',' ∨ c = '\x7d') → memberChars kv ++ u = memberChars kv' ++ u' →
        (kv.1 = kv'.1 ∧ kv.2.Reordered kv'.2) ∧ u = u' := by
      intro kv hkv kv' hkv' u u' hu hu' hmc
      simp only [memberChars, List.append_assoc, List.cons_append] at hmc
      obtain ⟨hname, hvalue⟩ := quoteJson_append_inj hmc
      simp only [List.cons.injEq, true_and] at hvalue
      have hwf := hfs kv (hmem hkv)
      have hwf' := hgs kv' (hmem hkv')
      obtain ⟨hre, rfl⟩ := ih kv (hmem hkv) hwf' (FloatsApart.member hfloats (hmem hkv) (hmem hkv'))
        (fun c hc => by rcases hu c hc with rfl | rfl <;> simp)
        (fun c hc => by rcases hu' c hc with rfl | rfl <;> simp) hvalue
        (skeleton_eq_of_append hwf hwf' hvalue)
      exact ⟨⟨hname, hre⟩, rfl⟩
    have hstart : ∀ kv : String × Json, ∃ c rest, memberChars kv = c :: rest ∧ c ≠ '\x7d' :=
      fun kv => ⟨'"', _, by rw [memberChars, quoteJson_toList]; rfl, by decide⟩
    obtain ⟨hmembers, rfl⟩ := intercalate_append_inj '\x7d' (by decide) hmember
      (fun kv _ => hstart kv) (fun kv _ => hstart kv) h
    exact ⟨reordered_object_of_forall₂ hdistinct hmembers, rfl⟩

/-- Two values JSON text can hold, whose floats are told apart by their texts, have one
canonical text exactly when they differ only in the order of object members. -/
theorem canonicalJson_eq_iff_reordered {a b : Json} (ha : a.WellFormed) (hb : b.WellFormed)
    (hfloats : a.FloatsApart b) : canonicalJson a = canonicalJson b ↔ a.Reordered b := by
  constructor
  · intro h
    have htext : (canonicalJson a).toList ++ [] = (canonicalJson b).toList ++ [] := by rw [h]
    exact (canonicalJson_append_inj ha hb hfloats follows_nil follows_nil htext).1
  · exact canonicalJson_eq_of_reordered

/-- Two tool calls hash the same bytes exactly when they are made in one scope, of one tool,
with arguments that differ only in the order of object members: for arguments JSON text can
hold, whose floats are told apart by their texts, and parts whose byte lengths fit the length
word. -/
theorem toolCall_parts_eq_iff {scope₁ scope₂ tool₁ tool₂ : String} {args₁ args₂ : Json}
    (hwf₁ : args₁.WellFormed) (hwf₂ : args₂.WellFormed) (hfloats : args₁.FloatsApart args₂)
    (hfit : ∀ p ∈ [scope₁, tool₁, canonicalJson args₁, scope₂, tool₂, canonicalJson args₂],
      p.utf8ByteSize < 2 ^ 64) :
    framedParts ["tool", scope₁, tool₁, canonicalJson args₁] =
        framedParts ["tool", scope₂, tool₂, canonicalJson args₂] ↔
      scope₁ = scope₂ ∧ tool₁ = tool₂ ∧ args₁.Reordered args₂ := by
  have hframed : ∀ {s t : String} {j : Json}, s.utf8ByteSize < 2 ^ 64 →
      t.utf8ByteSize < 2 ^ 64 → (canonicalJson j).utf8ByteSize < 2 ^ 64 →
      ∀ p ∈ ["tool", s, t, canonicalJson j], p.utf8ByteSize < 2 ^ 64 := by
    intro s t j hs ht hj
    simp only [List.forall_mem_cons, List.not_mem_nil, IsEmpty.forall_iff, implies_true,
      and_true]
    exact ⟨by decide, hs, ht, hj⟩
  simp only [List.forall_mem_cons, List.not_mem_nil, IsEmpty.forall_iff, implies_true,
    and_true] at hfit
  obtain ⟨hscope₁, htool₁, hargs₁, hscope₂, htool₂, hargs₂⟩ := hfit
  constructor
  · intro h
    have hparts := framedParts_inj (hframed hscope₁ htool₁ hargs₁)
      (hframed hscope₂ htool₂ hargs₂) h
    simp only [List.cons.injEq, true_and, and_true] at hparts
    obtain ⟨rfl, rfl, hargs⟩ := hparts
    exact ⟨rfl, rfl, (canonicalJson_eq_iff_reordered hwf₁ hwf₂ hfloats).1 hargs⟩
  · rintro ⟨rfl, rfl, hargs⟩
    rw [canonicalJson_eq_of_reordered hargs]

/-- Two searches with their arguments in either order hash the same bytes, and a search in
another scope does not. -/
theorem search_call_parts :
    framedParts ["tool", "job-7", "search",
        canonicalJson (.object [("query", .string "lean"), ("limit", .number (.int 10))])] =
      framedParts ["tool", "job-7", "search",
        canonicalJson (.object [("limit", .number (.int 10)), ("query", .string "lean")])] ∧
    framedParts ["tool", "job-7", "search",
        canonicalJson (.object [("query", .string "lean"), ("limit", .number (.int 10))])] ≠
      framedParts ["tool", "job-8", "search",
        canonicalJson (.object [("limit", .number (.int 10)), ("query", .string "lean")])] := by
  have hwf₁ : (Json.object [("query", .string "lean"), ("limit", .number (.int 10))]).WellFormed :=
    .object (by decide) (by simpa using ⟨.string _, .number trivial⟩)
  have hwf₂ : (Json.object [("limit", .number (.int 10)), ("query", .string "lean")]).WellFormed :=
    .object (by decide) (by simpa using ⟨.number trivial, .string _⟩)
  have hfloats : (Json.object [("query", .string "lean"), ("limit", .number (.int 10))]).FloatsApart
      (.object [("limit", .number (.int 10)), ("query", .string "lean")]) := by
    intro x y hx
    cases hx with
    | member hmem h =>
      simp only [List.mem_cons, List.not_mem_nil, or_false] at hmem
      rcases hmem with rfl | rfl <;> cases h
  have hcanon₁ : (canonicalJson
      (.object [("query", .string "lean"), ("limit", .number (.int 10))])).utf8ByteSize < 2 ^ 64 := by
    rw [canonicalJson_object]
    simp [canonicalMembers, List.mergeSort, List.cons_merge_cons]
    decide
  have hcanon₂ : (canonicalJson
      (.object [("limit", .number (.int 10)), ("query", .string "lean")])).utf8ByteSize < 2 ^ 64 := by
    rw [canonicalJson_object]
    simp [canonicalMembers, List.mergeSort, List.cons_merge_cons]
    decide
  have hreordered : (Json.object [("query", .string "lean"), ("limit", .number (.int 10))]).Reordered
      (.object [("limit", .number (.int 10)), ("query", .string "lean")]) :=
    .object _ (by decide) rfl (fun _ _ _ => rfl) (fun _ _ _ => .refl _) (.swap _ _ _)
  have hfit : ∀ scope ∈ ["job-7", "job-8"], ∀ p ∈ ["job-7", "search",
      canonicalJson (.object [("query", .string "lean"), ("limit", .number (.int 10))]), scope,
      "search", canonicalJson (.object [("limit", .number (.int 10)), ("query", .string "lean")])],
      p.utf8ByteSize < 2 ^ 64 := by
    simp only [List.forall_mem_cons, List.not_mem_nil, IsEmpty.forall_iff, implies_true,
      and_true]
    exact ⟨⟨by decide, by decide, hcanon₁, by decide, by decide, hcanon₂⟩,
      ⟨by decide, by decide, hcanon₁, by decide, by decide, hcanon₂⟩⟩
  refine ⟨(toolCall_parts_eq_iff hwf₁ hwf₂ hfloats (hfit "job-7" (by simp))).2
    ⟨rfl, rfl, hreordered⟩, fun h => ?_⟩
  have hscope := (toolCall_parts_eq_iff hwf₁ hwf₂ hfloats (hfit "job-8" (by simp))).1 h
  exact absurd hscope.1 (by decide)

end IdempotencyKey

end ResilientAgent
