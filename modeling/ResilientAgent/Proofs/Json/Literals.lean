import Mathlib.Tactic.SplitIfs
import ResilientAgent.Json.Print

/-!
# Reading JSON leaves back

The text of a leaf of a value can be told apart from whatever follows it.

A string literal is read back one character at a time (`readEscaped`): every escape starts with
a backslash and a letter or quote that names it, and a character written as itself is neither
a backslash nor a quote. So a literal ends at the first quote that no backslash introduces, and
two literals followed by anything are equal only if the strings are (`quoteJson_append_inj`).

A number is written with digits, a sign, a point and an exponent mark (`Number.render_chars`),
none of which can end a value. Its text is the whole run of such characters before what follows
it (`append_inj_of_run`).
-/

namespace ResilientAgent

/-! ## Splitting at a run -/

/-- Two texts made of characters satisfying `p`, each followed by a rest that does not start
with one, are equal, and so are the rests. -/
theorem append_inj_of_run {p : Char → Bool} {s t r r' : List Char} (hs : ∀ c ∈ s, p c)
    (ht : ∀ c ∈ t, p c) (hr : ∀ c ∈ r.head?, p c = false) (hr' : ∀ c ∈ r'.head?, p c = false)
    (h : s ++ r = t ++ r') : s = t ∧ r = r' := by
  have hrun : ∀ u v : List Char, (∀ c ∈ u, p c) → (∀ c ∈ v.head?, p c = false) →
      (u ++ v).takeWhile p = u := by
    intro u v hu hv
    rw [List.takeWhile_append_of_pos hu]
    cases v with
    | nil => simp
    | cons c v => simp [hv c rfl]
  have hst : s = t := by rw [← hrun s r hs hr, h, hrun t r' ht hr']
  subst hst
  exact ⟨rfl, List.append_cancel_left h⟩

/-! ## String literals -/

/-- The value of a lower-case hex digit. -/
def hexValue (c : Char) : Nat :=
  if c.toNat < 'a'.toNat then c.toNat - '0'.toNat else c.toNat - 'a'.toNat + 10

theorem hexValue_hexDigit : ∀ n < 16, hexValue (hexDigit n) = n := by decide

/-- Reads one character of a string literal's body, an escape or a character written as
itself, and returns it with the rest of the text. -/
def readEscaped : List Char → Option (Char × List Char)
  | [] => none
  | c :: t => if c = '\\' then readEscape t else some (c, t)
where
  /-- Reads what follows the backslash of an escape. -/
  readEscape : List Char → Option (Char × List Char)
    | '"' :: t => some ('"', t)
    | '\\' :: t => some ('\\', t)
    | 'n' :: t => some ('\n', t)
    | 't' :: t => some ('\t', t)
    | 'r' :: t => some ('\r', t)
    | 'b' :: t => some (Char.ofNat 8, t)
    | 'f' :: t => some (Char.ofNat 12, t)
    | 'u' :: '0' :: '0' :: h :: l :: t => some (Char.ofNat (hexValue h * 16 + hexValue l), t)
    | _ => none

theorem readEscaped_escapeChar (c : Char) (t : List Char) :
    readEscaped ((escapeChar c).toList ++ t) = some (c, t) := by
  unfold escapeChar
  split
  · rfl
  · rfl
  · rfl
  · rfl
  · rfl
  · rename_i hquote hback hnl htab hcr
    split
    · -- the two control characters with a letter escape of their own
      rename_i h8
      have hc : c = Char.ofNat 8 := by rw [← Char.ofNat_toNat c, eq_of_beq h8]
      subst hc
      rfl
    split
    · rename_i h12
      have hc : c = Char.ofNat 12 := by rw [← Char.ofNat_toNat c, eq_of_beq h12]
      subst hc
      rfl
    split
    · -- the other control characters are written as four hex digits
      rename_i hcontrol
      have hhi : c.toNat / 16 < 16 := by omega
      have hlo : c.toNat % 16 < 16 := Nat.mod_lt _ (by decide)
      simp only [String.toList_append, String.toList_singleton, List.cons_append,
        List.nil_append, List.append_assoc]
      simp [show "\\u00".toList = ['\\', 'u', '0', '0'] from rfl, readEscaped,
        readEscaped.readEscape, hexValue_hexDigit _ hhi, hexValue_hexDigit _ hlo,
        Nat.div_add_mod' c.toNat 16]
    · -- everything else is written as itself, and is no backslash
      have hne : c ≠ '\\' := fun h => hback h
      simp [readEscaped, hne]

theorem escapeChar_toList (c : Char) : ∃ d rest, (escapeChar c).toList = d :: rest ∧ d ≠ '"' := by
  unfold escapeChar
  split
  · exact ⟨_, _, rfl, by decide⟩
  · exact ⟨_, _, rfl, by decide⟩
  · exact ⟨_, _, rfl, by decide⟩
  · exact ⟨_, _, rfl, by decide⟩
  · exact ⟨_, _, rfl, by decide⟩
  · rename_i hquote _ _ _ _
    split
    · exact ⟨_, _, rfl, by decide⟩
    split
    · exact ⟨_, _, rfl, by decide⟩
    split
    · exact ⟨'\\', ['u', '0', '0', hexDigit (c.toNat / 16), hexDigit (c.toNat % 16)],
        by simp [show "\\u00".toList = ['\\', 'u', '0', '0'] from rfl], by decide⟩
    · exact ⟨c, [], by simp, fun h => hquote h⟩

/-- The body of a string literal: each character escaped. -/
def escapedBody (cs : List Char) : List Char := cs.flatMap fun c => (escapeChar c).toList

theorem quoteJson_toList (s : String) :
    (quoteJson s).toList = '"' :: escapedBody s.toList ++ ['"'] := by
  simp [quoteJson, escapedBody, String.toList_join, List.flatMap, Function.comp_def]

theorem escapedBody_append_inj {cs cs' r r' : List Char}
    (h : escapedBody cs ++ '"' :: r = escapedBody cs' ++ '"' :: r') : cs = cs' ∧ r = r' := by
  induction cs generalizing cs' with
  | nil =>
    cases cs' with
    | nil => simpa using h
    | cons c' cs' =>
      obtain ⟨d, rest, hd, hne⟩ := escapeChar_toList c'
      simp [escapedBody, hd] at h
      exact absurd h.1.symm hne
  | cons c cs ih =>
    cases cs' with
    | nil =>
      obtain ⟨d, rest, hd, hne⟩ := escapeChar_toList c
      simp [escapedBody, hd] at h
      exact absurd h.1 hne
    | cons c' cs' =>
      have hread := congrArg readEscaped h
      simp only [escapedBody, List.flatMap_cons, List.append_assoc] at hread
      rw [readEscaped_escapeChar, readEscaped_escapeChar] at hread
      obtain ⟨rfl, htail⟩ := Prod.mk.inj (Option.some.inj hread)
      obtain ⟨rfl, rfl⟩ := ih htail
      exact ⟨rfl, rfl⟩

/-- Two string literals, each followed by anything, are equal only if the strings are. -/
theorem quoteJson_append_inj {s s' : String} {r r' : List Char}
    (h : (quoteJson s).toList ++ r = (quoteJson s').toList ++ r') : s = s' ∧ r = r' := by
  rw [quoteJson_toList, quoteJson_toList] at h
  simp only [List.cons_append, List.cons.injEq, true_and, List.append_assoc] at h
  obtain ⟨hbody, rfl⟩ := escapedBody_append_inj h
  exact ⟨String.toList_inj.mp hbody, rfl⟩

/-! ## Number texts -/

/-- The characters a number's text is made of. -/
def numberChar (c : Char) : Bool := c.isDigit || c == '-' || c == '+' || c == '.' || c == 'e'

/-- A text made of number characters. -/
def NumberText (t : String) : Prop := ∀ c ∈ t.toList, numberChar c

@[simp] theorem numberText_append {a b : String} :
    NumberText (a ++ b) ↔ NumberText a ∧ NumberText b := by
  simp [NumberText, String.toList_append, or_imp, forall_and]

theorem numberText_of_digits {t : String} (h : ∀ c ∈ t.toList, c.isDigit) : NumberText t :=
  fun c hc => by simp [numberChar, h c hc]

theorem digitString_digits (n : Nat) : ∀ c ∈ (Numeral.digitString n).toList, c.isDigit :=
  fun c hc => by
    simp only [Numeral.digitString, String.toList_ofList] at hc
    exact Nat.isDigit_of_mem_toDigits (by decide) (by decide) hc

@[simp] theorem numberText_digitString (n : Nat) : NumberText (Numeral.digitString n) :=
  numberText_of_digits (digitString_digits n)

@[simp] theorem numberText_zeros (n : Nat) : NumberText (Numeral.zeros n) :=
  numberText_of_digits fun c hc => by
    simp only [Numeral.zeros, String.toList_ofList, List.mem_replicate] at hc
    rw [hc.2]
    decide

theorem numberText_ofList {l : List Char} (h : ∀ c ∈ l, numberChar c) :
    NumberText (String.ofList l) := by
  simpa [NumberText] using h

theorem numberText_dataLayout {s : String} (hs : ∀ c ∈ s.toList, c.isDigit) (k : Int) :
    NumberText (Numeral.dataLayout s k) := by
  have hdigit : ∀ c ∈ s.toList, numberChar c := fun c hc => by simp [numberChar, hs c hc]
  have hs' : NumberText s := hdigit
  have hminus : NumberText "-" := by simp [NumberText, numberChar]
  have hplus : NumberText "+" := by simp [NumberText, numberChar]
  have hpoint : NumberText "." := by simp [NumberText, numberChar]
  have hpoint0 : NumberText ".0" := by simp [NumberText, numberChar]
  have hzeroPoint : NumberText "0." := by simp [NumberText, numberChar]
  have he : NumberText "e" := by simp [NumberText, numberChar]
  have hzeroE : NumberText "0e" := by simp [NumberText, numberChar]
  simp only [Numeral.dataLayout]
  split_ifs
  · simp [hs', hpoint0]
  · simp only [numberText_append]
    exact ⟨⟨numberText_ofList fun c hc => hdigit c (List.mem_of_mem_take hc), hpoint⟩,
      numberText_ofList fun c hc => hdigit c (List.mem_of_mem_drop hc)⟩
  · simp [hs', hzeroPoint]
  all_goals
    split
    · rename_i d hd
      have hd' : numberChar d := hdigit d (by simp [hd])
      have hfirst : NumberText (String.singleton d) := by simp [NumberText, hd']
      simp [hminus, hplus, he, hfirst]
    · rename_i d rest _ hd
      have hd' : numberChar d := hdigit d (by simp [hd])
      have hrest : NumberText (String.ofList rest) :=
        numberText_ofList fun c hc => hdigit c (by simp [hd, hc])
      have hfirst : NumberText (String.singleton d) := by simp [NumberText, hd']
      simp [hminus, hplus, he, hpoint, hrest, hfirst]
    · simp [hminus, hplus, hzeroE]

theorem dataLayout_point_or_exponent (s : String) (k : Int) :
    '.' ∈ (Numeral.dataLayout s k).toList ∨ 'e' ∈ (Numeral.dataLayout s k).toList := by
  simp only [Numeral.dataLayout]
  split_ifs
  · simp
  · simp
  · simp
  all_goals split <;> simp

theorem dataText?_chars {f : Numeral.Format} {bits : Nat} {t : String}
    (h : Numeral.dataText? f bits = some t) :
    NumberText t ∧ ('.' ∈ t.toList ∨ 'e' ∈ t.toList) := by
  simp only [Numeral.dataText?] at h
  split at h
  · rename_i negative m q _
    generalize hsg : (if negative then "-" else "") = sign at h
    have hsign : NumberText sign := by
      rw [← hsg]
      split <;> simp [NumberText, numberChar]
    split at h
    · obtain rfl := Option.some.inj h
      have hzero : NumberText "0.0" := by simp [NumberText, numberChar]
      exact ⟨by simp [hsign, hzero], by simp⟩
    · obtain rfl := Option.some.inj h
      refine ⟨by simp [hsign, numberText_dataLayout (digitString_digits _)], ?_⟩
      rcases dataLayout_point_or_exponent (Numeral.digitString (Numeral.shortest f m q).significand)
        (Numeral.shortest f m q).exponent with hp | hp
      · exact .inl (by simp [hp])
      · exact .inr (by simp [hp])
  · cases h

theorem toList_intText (n : Int) :
    (toString n).toList =
      if 0 ≤ n then Nat.toDigits 10 n.toNat else '-' :: Nat.toDigits 10 (-n).toNat := by
  rw [Int.toString_eq_repr, Int.repr_eq_if]
  split <;> simp [Nat.toList_repr]

theorem intText_chars (n : Int) :
    (toString n).toList ≠ [] ∧ NumberText (toString n) ∧
      '.' ∉ (toString n).toList ∧ 'e' ∉ (toString n).toList := by
  have hdigits : ∀ m : Nat, ∀ c ∈ Nat.toDigits 10 m, c.isDigit :=
    fun m c hc => Nat.isDigit_of_mem_toDigits (by decide) (by decide) hc
  have hpoint : ∀ m : Nat, '.' ∉ Nat.toDigits 10 m := fun m h => by
    simpa using hdigits m '.' h
  have hexp : ∀ m : Nat, 'e' ∉ Nat.toDigits 10 m := fun m h => by
    simpa using hdigits m 'e' h
  unfold NumberText
  rw [toList_intText]
  split
  · exact ⟨Nat.toDigits_ne_nil, fun c hc => by simp [numberChar, hdigits _ c hc], hpoint _,
      hexp _⟩
  · refine ⟨by simp, ?_, by simp [hpoint], by simp [hexp]⟩
    intro c hc
    simp only [List.mem_cons] at hc
    rcases hc with rfl | hc
    · decide
    · simp [numberChar, hdigits _ c hc]

theorem intText_inj {m n : Int} (h : toString m = toString n) : m = n := by
  have hdigits : ∀ k : Nat, ∀ c ∈ Nat.toDigits 10 k, c.isDigit :=
    fun k c hc => Nat.isDigit_of_mem_toDigits (by decide) (by decide) hc
  have hhead : ∀ k : Nat, ∀ rest, Nat.toDigits 10 k ≠ '-' :: rest := fun k rest h => by
    simpa using hdigits k '-' (by simp [h])
  have hnat : ∀ a b : Nat, Nat.toDigits 10 a = Nat.toDigits 10 b → a = b := fun a b h => by
    rw [← Nat.ofDigitChars_ten_toDigits (n := a), h, Nat.ofDigitChars_ten_toDigits]
  have hlist := congrArg String.toList h
  rw [toList_intText, toList_intText] at hlist
  split at hlist <;> split at hlist
  · have := hnat _ _ hlist
    omega
  · exact absurd hlist (hhead _ _)
  · exact absurd hlist.symm (hhead _ _)
  · have := hnat _ _ (List.cons.inj hlist).2
    omega

/-- A number JSON can hold: any integer, and a float that is neither NaN nor infinite. -/
def Number.Finite : Number → Prop
  | .int _ => True
  | .float x => (Numeral.floatDataText? x).isSome

/-- A number JSON can hold is written as a non-empty run of number characters. -/
theorem Number.render_chars {n : Number} (hn : n.Finite) :
    n.render.toList ≠ [] ∧ NumberText n.render := by
  cases n with
  | int i => exact ⟨(intText_chars i).1, (intText_chars i).2.1⟩
  | float x =>
    obtain ⟨t, ht⟩ := Option.isSome_iff_exists.1 hn
    obtain ⟨htext, hmark⟩ := dataText?_chars ht
    have hrender : (Number.float x).render = t := by
      simp [Number.render, Numeral.floatDataText?] at ht ⊢
      simp [ht]
    rw [hrender]
    exact ⟨fun hnil => by simp [hnil] at hmark, htext⟩

theorem Number.render_inj {m n : Number} (hm : m.Finite) (hn : n.Finite)
    (hfloat : ∀ x y, m = .float x → n = .float y →
      Numeral.floatDataText? x = Numeral.floatDataText? y → x = y)
    (h : m.render = n.render) : m = n := by
  have hfloatText : ∀ x, (Number.float x).Finite → ∃ t, Numeral.floatDataText? x = some t ∧
      (Number.float x).render = t ∧ ('.' ∈ t.toList ∨ 'e' ∈ t.toList) := by
    intro x hx
    obtain ⟨t, ht⟩ := Option.isSome_iff_exists.1 hx
    exact ⟨t, ht, by simp [Number.render, ht], (dataText?_chars ht).2⟩
  cases m with
  | int i =>
    cases n with
    | int j => exact congrArg Number.int (intText_inj h)
    | float y =>
      obtain ⟨t, -, hrender, hmark⟩ := hfloatText y hn
      obtain ⟨-, -, hpoint, hexp⟩ := intText_chars i
      rw [show (Number.int i).render = toString i from rfl, hrender] at h
      rw [← h] at hmark
      exact hmark.elim (fun hp => absurd hp hpoint) (fun hp => absurd hp hexp)
  | float x =>
    obtain ⟨t, ht, hrender, hmark⟩ := hfloatText x hm
    cases n with
    | int j =>
      obtain ⟨-, -, hpoint, hexp⟩ := intText_chars j
      rw [show (Number.int j).render = toString j from rfl, hrender] at h
      rw [h] at hmark
      exact hmark.elim (fun hp => absurd hp hpoint) (fun hp => absurd hp hexp)
    | float y =>
      obtain ⟨t', ht', hrender', -⟩ := hfloatText y hn
      rw [hrender, hrender'] at h
      subst h
      exact congrArg Number.float (hfloat x y rfl rfl (ht.trans ht'.symm))

end ResilientAgent
