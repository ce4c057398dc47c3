import Qri.Go.Basic

/-!
What `json.Marshal` followed by `json.Unmarshal` does to the values the sources
clone that way: maps, slices and strings.

A string comes back with its invalid UTF-8 replaced. The encoder walks the
bytes with `utf8.DecodeRuneInString`, writes `�` for each byte it rejects
(`RuneError` of size 1) and then moves one byte on; every other byte is copied
or escaped, and the decoder reads every escape back. So the round trip is
`coerceUTF8`: the sequences `DecodeRune` accepts are kept and each rejected
byte becomes the three bytes of U+FFFD. `DecodeRune`'s `first` and
`acceptRanges` tables are `leading`.

Against it stands the syntax of UTF-8 from RFC 3629 §4 (`Utf8Char`,
`ValidUTF8`): the round trip gives back exactly the strings the syntax derives
(`coerceUTF8_eq_self_iff`), and whatever it returns is one of them
(`validUTF8_coerceUTF8`).

A map or a slice comes back with the same keys and shape, and `Unmarshal` into
an `interface{}` makes every map a `map[string]interface{}` and every slice a
`[]interface{}` (`Value.jsonClone`), which is what a type assertion afterwards
sees.
-/

set_option autoImplicit false

namespace Qri

namespace Go

/-! ## The round trip of a string -/

/-- A byte that starts a sequence of two, three or four bytes, with the least
and the greatest byte that may come second. -/
inductive Lead
  | two (lo hi : Nat)
  | three (lo hi : Nat)
  | four (lo hi : Nat)

/-- `first` and `acceptRanges` of package `unicode/utf8`, for a byte at or above
`RuneSelf`; `none` for the bytes the table marks `xx`, which start no
sequence. -/
def leading (b : UInt8) : Option Lead :=
  let b := b.toNat
  if b < 0xC2 then none
  else if b ≤ 0xDF then some (.two 0x80 0xBF)
  else if b = 0xE0 then some (.three 0xA0 0xBF)
  else if b = 0xED then some (.three 0x80 0x9F)
  else if b ≤ 0xEF then some (.three 0x80 0xBF)
  else if b = 0xF0 then some (.four 0x90 0xBF)
  else if b ≤ 0xF3 then some (.four 0x80 0xBF)
  else if b = 0xF4 then some (.four 0x80 0x8F)
  else none

/-- `lo ≤ b ≤ hi`. -/
def inRange (lo hi : Nat) (b : UInt8) : Bool := lo ≤ b.toNat && b.toNat ≤ hi

/-- The UTF-8 bytes of U+FFFD, what `�` decodes to. -/
def runeError : GoString := [0xEF, 0xBF, 0xBD]

/-- A string after `json.Marshal` and `json.Unmarshal`: each sequence
`utf8.DecodeRuneInString` accepts is kept, and each byte it rejects becomes
U+FFFD, the next byte starting the next sequence. -/
def coerceUTF8 : GoString → GoString
  | [] => []
  | b :: s =>
    if b.toNat < 0x80 then b :: coerceUTF8 s
    else
      let invalid := runeError ++ coerceUTF8 s
      match leading b with
      | some (.two lo hi) =>
        match s with
        | b1 :: s₁ => if inRange lo hi b1 then b :: b1 :: coerceUTF8 s₁ else invalid
        | _ => invalid
      | some (.three lo hi) =>
        match s with
        | b1 :: b2 :: s₂ =>
          if inRange lo hi b1 && inRange 0x80 0xBF b2 then b :: b1 :: b2 :: coerceUTF8 s₂
          else invalid
        | _ => invalid
      | some (.four lo hi) =>
        match s with
        | b1 :: b2 :: b3 :: s₃ =>
          if inRange lo hi b1 && inRange 0x80 0xBF b2 && inRange 0x80 0xBF b3 then
            b :: b1 :: b2 :: b3 :: coerceUTF8 s₃
          else invalid
        | _ => invalid
      | none => invalid

example : coerceUTF8 [0x41, 0xE2, 0x82, 0xAC, 0xFF, 0xE2, 0x82] =
    [0x41, 0xE2, 0x82, 0xAC] ++ runeError ++ runeError ++ runeError := by decide

/-! ## UTF-8, RFC 3629 §4 -/

/-- `UTF8-tail = %x80-BF` -/
def Tail (b : UInt8) : Prop := 0x80 ≤ b.toNat ∧ b.toNat ≤ 0xBF

/-- `UTF8-char`, one constructor for each alternative of the RFC's grammar. -/
inductive Utf8Char : GoString → Prop
  /-- `UTF8-1 = %x00-7F` -/
  | one {a : UInt8} : a.toNat ≤ 0x7F → Utf8Char [a]
  /-- `UTF8-2 = %xC2-DF UTF8-tail` -/
  | two {a b : UInt8} : 0xC2 ≤ a.toNat → a.toNat ≤ 0xDF → Tail b → Utf8Char [a, b]
  /-- `UTF8-3 = %xE0 %xA0-BF UTF8-tail` -/
  | e0 {a b c : UInt8} : a.toNat = 0xE0 → 0xA0 ≤ b.toNat → b.toNat ≤ 0xBF → Tail c →
      Utf8Char [a, b, c]
  /-- `/ %xE1-EC 2( UTF8-tail )` -/
  | e1ec {a b c : UInt8} : 0xE1 ≤ a.toNat → a.toNat ≤ 0xEC → Tail b → Tail c → Utf8Char [a, b, c]
  /-- `/ %xED %x80-9F UTF8-tail` -/
  | ed {a b c : UInt8} : a.toNat = 0xED → 0x80 ≤ b.toNat → b.toNat ≤ 0x9F → Tail c →
      Utf8Char [a, b, c]
  /-- `/ %xEE-EF 2( UTF8-tail )` -/
  | eeef {a b c : UInt8} : 0xEE ≤ a.toNat → a.toNat ≤ 0xEF → Tail b → Tail c → Utf8Char [a, b, c]
  /-- `UTF8-4 = %xF0 %x90-BF 2( UTF8-tail )` -/
  | f0 {a b c d : UInt8} : a.toNat = 0xF0 → 0x90 ≤ b.toNat → b.toNat ≤ 0xBF → Tail c → Tail d →
      Utf8Char [a, b, c, d]
  /-- `/ %xF1-F3 3( UTF8-tail )` -/
  | f1f3 {a b c d : UInt8} : 0xF1 ≤ a.toNat → a.toNat ≤ 0xF3 → Tail b → Tail c → Tail d →
      Utf8Char [a, b, c, d]
  /-- `/ %xF4 %x80-8F 2( UTF8-tail )` -/
  | f4 {a b c d : UInt8} : a.toNat = 0xF4 → 0x80 ≤ b.toNat → b.toNat ≤ 0x8F → Tail c → Tail d →
      Utf8Char [a, b, c, d]

/-- `UTF8-octets = *( UTF8-char )` -/
inductive ValidUTF8 : GoString → Prop
  | nil : ValidUTF8 []
  | cons {c rest : GoString} : Utf8Char c → ValidUTF8 rest → ValidUTF8 (c ++ rest)

section Utf8

variable {a b c d : UInt8} {lo hi : Nat}

/-! ## The round trip keeps exactly the strings the syntax derives -/

theorem tail_iff_inRange : Tail b ↔ inRange 0x80 0xBF b := by
  simp [Tail, inRange]

/-- The rows of the table, by the range of the byte. -/
theorem leading_cases (a : UInt8) :
    leading a = none ∧ (a.toNat < 0xC2 ∨ 0xF4 < a.toNat) ∨
    leading a = some (.two 0x80 0xBF) ∧ 0xC2 ≤ a.toNat ∧ a.toNat ≤ 0xDF ∨
    leading a = some (.three 0xA0 0xBF) ∧ a.toNat = 0xE0 ∨
    leading a = some (.three 0x80 0x9F) ∧ a.toNat = 0xED ∨
    leading a = some (.three 0x80 0xBF) ∧
      (0xE1 ≤ a.toNat ∧ a.toNat ≤ 0xEC ∨ 0xEE ≤ a.toNat ∧ a.toNat ≤ 0xEF) ∨
    leading a = some (.four 0x90 0xBF) ∧ a.toNat = 0xF0 ∨
    leading a = some (.four 0x80 0xBF) ∧ 0xF1 ≤ a.toNat ∧ a.toNat ≤ 0xF3 ∨
    leading a = some (.four 0x80 0x8F) ∧ a.toNat = 0xF4 := by
  -- one test of the chain at a time: rewriting is much cheaper here than splitting
  have hl : leading a = leading a := rfl
  conv at hl => rhs; simp only [leading]
  by_cases h1 : a.toNat < 0xC2
  · rw [if_pos h1] at hl; exact .inl ⟨hl, .inl h1⟩
  rw [if_neg h1] at hl
  by_cases h2 : a.toNat ≤ 0xDF
  · rw [if_pos h2] at hl; exact .inr (.inl ⟨hl, by omega, h2⟩)
  rw [if_neg h2] at hl
  by_cases h3 : a.toNat = 0xE0
  · rw [if_pos h3] at hl; exact .inr (.inr (.inl ⟨hl, h3⟩))
  rw [if_neg h3] at hl
  by_cases h4 : a.toNat = 0xED
  · rw [if_pos h4] at hl; exact .inr (.inr (.inr (.inl ⟨hl, h4⟩)))
  rw [if_neg h4] at hl
  by_cases h5 : a.toNat ≤ 0xEF
  · rw [if_pos h5] at hl; exact .inr (.inr (.inr (.inr (.inl ⟨hl, by omega⟩))))
  rw [if_neg h5] at hl
  by_cases h6 : a.toNat = 0xF0
  · rw [if_pos h6] at hl; exact .inr (.inr (.inr (.inr (.inr (.inl ⟨hl, h6⟩)))))
  rw [if_neg h6] at hl
  by_cases h7 : a.toNat ≤ 0xF3
  · rw [if_pos h7] at hl; exact .inr (.inr (.inr (.inr (.inr (.inr (.inl ⟨hl, by omega, h7⟩))))))
  rw [if_neg h7] at hl
  by_cases h8 : a.toNat = 0xF4
  · rw [if_pos h8] at hl; exact .inr (.inr (.inr (.inr (.inr (.inr (.inr ⟨hl, h8⟩))))))
  rw [if_neg h8] at hl
  exact .inl ⟨hl, .inr (by omega)⟩

theorem leading_eq_two_iff :
    leading a = some (.two lo hi) ↔ 0xC2 ≤ a.toNat ∧ a.toNat ≤ 0xDF ∧ lo = 0x80 ∧ hi = 0xBF := by
  rcases leading_cases a with ⟨h, hr⟩ | ⟨h, hr⟩ | ⟨h, hr⟩ | ⟨h, hr⟩ | ⟨h, hr⟩ | ⟨h, hr⟩ |
    ⟨h, hr⟩ | ⟨h, hr⟩ <;>
    rw [h] <;> simp only [reduceCtorEq, Option.some.injEq, Lead.two.injEq, false_iff] <;> omega

theorem leading_eq_three_iff :
    leading a = some (.three lo hi) ↔
      (a.toNat = 0xE0 ∧ lo = 0xA0 ∧ hi = 0xBF) ∨
      (0xE1 ≤ a.toNat ∧ a.toNat ≤ 0xEC ∧ lo = 0x80 ∧ hi = 0xBF) ∨
      (a.toNat = 0xED ∧ lo = 0x80 ∧ hi = 0x9F) ∨
      (0xEE ≤ a.toNat ∧ a.toNat ≤ 0xEF ∧ lo = 0x80 ∧ hi = 0xBF) := by
  rcases leading_cases a with ⟨h, hr⟩ | ⟨h, hr⟩ | ⟨h, hr⟩ | ⟨h, hr⟩ | ⟨h, hr⟩ | ⟨h, hr⟩ |
    ⟨h, hr⟩ | ⟨h, hr⟩ <;>
    rw [h] <;> simp only [reduceCtorEq, Option.some.injEq, Lead.three.injEq, false_iff] <;> omega

theorem leading_eq_four_iff :
    leading a = some (.four lo hi) ↔
      (a.toNat = 0xF0 ∧ lo = 0x90 ∧ hi = 0xBF) ∨
      (0xF1 ≤ a.toNat ∧ a.toNat ≤ 0xF3 ∧ lo = 0x80 ∧ hi = 0xBF) ∨
      (a.toNat = 0xF4 ∧ lo = 0x80 ∧ hi = 0x8F) := by
  rcases leading_cases a with ⟨h, hr⟩ | ⟨h, hr⟩ | ⟨h, hr⟩ | ⟨h, hr⟩ | ⟨h, hr⟩ | ⟨h, hr⟩ |
    ⟨h, hr⟩ | ⟨h, hr⟩ <;>
    rw [h] <;> simp only [reduceCtorEq, Option.some.injEq, Lead.four.injEq, false_iff] <;> omega

theorem coerceUTF8_two (ha : ¬ a.toNat < 0x80) (hl : leading a = some (.two lo hi))
    (hb : inRange lo hi b = true) (s : GoString) :
    coerceUTF8 (a :: b :: s) = a :: b :: coerceUTF8 s := by
  rw [coerceUTF8, if_neg ha]
  simp only [hl, if_pos hb]

theorem coerceUTF8_three (ha : ¬ a.toNat < 0x80) (hl : leading a = some (.three lo hi))
    (hb : inRange lo hi b = true) (hc : Tail c) (s : GoString) :
    coerceUTF8 (a :: b :: c :: s) = a :: b :: c :: coerceUTF8 s := by
  rw [coerceUTF8, if_neg ha]
  simp only [hl, hb, tail_iff_inRange.1 hc, Bool.and_self, if_true]

theorem coerceUTF8_four (ha : ¬ a.toNat < 0x80) (hl : leading a = some (.four lo hi))
    (hb : inRange lo hi b = true) (hc : Tail c) (hd : Tail d) (s : GoString) :
    coerceUTF8 (a :: b :: c :: d :: s) = a :: b :: c :: d :: coerceUTF8 s := by
  rw [coerceUTF8, if_neg ha]
  simp only [hl, hb, tail_iff_inRange.1 hc, tail_iff_inRange.1 hd, Bool.and_self, if_true]

/-- Every character of the grammar is a sequence `DecodeRune` accepts. -/
theorem coerceUTF8_char_append {c : GoString} (hc : Utf8Char c) (r : GoString) :
    coerceUTF8 (c ++ r) = c ++ coerceUTF8 r := by
  have inr : ∀ {x : UInt8} {lo hi : Nat}, lo ≤ x.toNat → x.toNat ≤ hi → inRange lo hi x = true :=
    fun h₁ h₂ => by simp [inRange, h₁, h₂]
  cases hc with
  | one ha =>
    show coerceUTF8 (_ :: r) = _ :: coerceUTF8 r
    rw [coerceUTF8, if_pos (by omega)]
  | two ha ha' hb =>
    exact coerceUTF8_two (by omega) (leading_eq_two_iff.2 ⟨ha, ha', rfl, rfl⟩) (tail_iff_inRange.1 hb) r
  | e0 ha hb hb' hc =>
    exact coerceUTF8_three (by omega) (leading_eq_three_iff.2 (.inl ⟨ha, rfl, rfl⟩)) (inr hb hb') hc r
  | e1ec ha ha' hb hc =>
    exact coerceUTF8_three (by omega) (leading_eq_three_iff.2 (.inr (.inl ⟨ha, ha', rfl, rfl⟩)))
      (tail_iff_inRange.1 hb) hc r
  | ed ha hb hb' hc =>
    exact coerceUTF8_three (by omega) (leading_eq_three_iff.2 (.inr (.inr (.inl ⟨ha, rfl, rfl⟩))))
      (inr hb hb') hc r
  | eeef ha ha' hb hc =>
    exact coerceUTF8_three (by omega)
      (leading_eq_three_iff.2 (.inr (.inr (.inr ⟨ha, ha', rfl, rfl⟩)))) (tail_iff_inRange.1 hb) hc r
  | f0 ha hb hb' hc hd =>
    exact coerceUTF8_four (by omega) (leading_eq_four_iff.2 (.inl ⟨ha, rfl, rfl⟩)) (inr hb hb') hc hd r
  | f1f3 ha ha' hb hc hd =>
    exact coerceUTF8_four (by omega) (leading_eq_four_iff.2 (.inr (.inl ⟨ha, ha', rfl, rfl⟩)))
      (tail_iff_inRange.1 hb) hc hd r
  | f4 ha hb hb' hc hd =>
    exact coerceUTF8_four (by omega) (leading_eq_four_iff.2 (.inr (.inr ⟨ha, rfl, rfl⟩)))
      (inr hb hb') hc hd r

/-- Valid UTF-8 comes back unchanged. -/
theorem coerceUTF8_of_valid {s : GoString} (h : ValidUTF8 s) : coerceUTF8 s = s := by
  induction h with
  | nil => rfl
  | cons hc _ ih => rw [coerceUTF8_char_append hc, ih]

/-- U+FFFD is a character of the grammar. -/
theorem utf8Char_runeError : Utf8Char runeError :=
  .eeef (by decide) (by decide) ⟨by decide, by decide⟩ ⟨by decide, by decide⟩

theorem utf8Char_two (hl : leading a = some (.two lo hi)) (hb : inRange lo hi b = true) :
    Utf8Char [a, b] := by
  obtain ⟨ha, ha', rfl, rfl⟩ := leading_eq_two_iff.1 hl
  exact .two ha ha' (tail_iff_inRange.2 hb)

theorem utf8Char_three (hl : leading a = some (.three lo hi))
    (hbc : (inRange lo hi b && inRange 0x80 0xBF c) = true) : Utf8Char [a, b, c] := by
  simp only [Bool.and_eq_true, inRange, decide_eq_true_eq] at hbc
  obtain ⟨⟨hb, hb'⟩, hc⟩ := hbc
  rcases leading_eq_three_iff.1 hl with ⟨ha, rfl, rfl⟩ | ⟨ha, ha', rfl, rfl⟩ | ⟨ha, rfl, rfl⟩ |
    ⟨ha, ha', rfl, rfl⟩
  · exact .e0 ha hb hb' hc
  · exact .e1ec ha ha' ⟨hb, hb'⟩ hc
  · exact .ed ha hb hb' hc
  · exact .eeef ha ha' ⟨hb, hb'⟩ hc

theorem utf8Char_four (hl : leading a = some (.four lo hi))
    (hbcd : (inRange lo hi b && inRange 0x80 0xBF c && inRange 0x80 0xBF d) = true) :
    Utf8Char [a, b, c, d] := by
  simp only [Bool.and_eq_true, inRange, decide_eq_true_eq] at hbcd
  obtain ⟨⟨⟨hb, hb'⟩, hc⟩, hd⟩ := hbcd
  rcases leading_eq_four_iff.1 hl with ⟨ha, rfl, rfl⟩ | ⟨ha, ha', rfl, rfl⟩ | ⟨ha, rfl, rfl⟩
  · exact .f0 ha hb hb' hc hd
  · exact .f1f3 ha ha' ⟨hb, hb'⟩ hc hd
  · exact .f4 ha hb hb' hc hd

/-- **What comes back is valid UTF-8**, whatever went in. -/
theorem validUTF8_coerceUTF8 (s : GoString) : ValidUTF8 (coerceUTF8 s) := by
  have invalid : ∀ {s : GoString}, ValidUTF8 s → ValidUTF8 (runeError ++ s) :=
    .cons utf8Char_runeError
  induction s using coerceUTF8.induct with
  | case1 => exact .nil
  | case2 b s hb ih =>
    rw [coerceUTF8, if_pos hb]
    exact .cons (c := [b]) (.one (by omega)) ih
  | case3 b hb lo hi hl b1 s₁ hr _ ih =>
    rw [coerceUTF8_two hb hl hr]
    exact .cons (c := [b, b1]) (utf8Char_two hl hr) ih
  | case4 b hb lo hi hl b1 s₁ hr ih =>
    rw [coerceUTF8, if_neg hb]
    simp only [hl, if_neg hr]
    exact invalid ih
  | case5 b s hb lo hi hl hs ih =>
    -- too few bytes left: the match falls through by `hs`
    rw [coerceUTF8, if_neg hb]
    simp only [hl]
    exact invalid ih
  | case6 b hb lo hi hl b1 b2 s₂ hr _ ih =>
    rw [coerceUTF8, if_neg hb]
    simp only [hl, if_pos hr]
    exact .cons (c := [b, b1, b2]) (utf8Char_three hl hr) ih
  | case7 b hb lo hi hl b1 b2 s₂ hr ih =>
    rw [coerceUTF8, if_neg hb]
    simp only [hl, if_neg hr]
    exact invalid ih
  | case8 b s hb lo hi hl hs ih =>
    rw [coerceUTF8, if_neg hb]
    simp only [hl]
    exact invalid ih
  | case9 b hb lo hi hl b1 b2 b3 s₃ hr _ ih =>
    rw [coerceUTF8, if_neg hb]
    simp only [hl, if_pos hr]
    exact .cons (c := [b, b1, b2, b3]) (utf8Char_four hl hr) ih
  | case10 b hb lo hi hl b1 b2 b3 s₃ hr ih =>
    rw [coerceUTF8, if_neg hb]
    simp only [hl, if_neg hr]
    exact invalid ih
  | case11 b s hb lo hi hl hs ih =>
    rw [coerceUTF8, if_neg hb]
    simp only [hl]
    exact invalid ih
  | case12 b s hb hl ih =>
    rw [coerceUTF8, if_neg hb]
    simp only [hl]
    exact invalid ih

/-- **The round trip keeps a string exactly when it is valid UTF-8.** -/
theorem coerceUTF8_eq_self_iff (s : GoString) : coerceUTF8 s = s ↔ ValidUTF8 s :=
  ⟨fun h => h ▸ validUTF8_coerceUTF8 s, coerceUTF8_of_valid⟩

end Utf8

/-! ## The round trip of a value -/

/-- The dynamic values the sources clone, by their Go type. Keys are Lean
strings: every key the sources put in these maps is a literal, valid UTF-8,
which the round trip keeps. -/
inductive Value
  /-- `string` -/
  | string (s : GoString)
  /-- `map[string]string` -/
  | stringMap (m : List (String × GoString))
  /-- `map[string]interface{}` -/
  | map (m : List (String × Value))
  /-- `[]interface{}` -/
  | slice (l : List Value)

mutual

/-- `json.Marshal`, then `json.Unmarshal` into an `interface{}`: strings coerced,
and every map a `map[string]interface{}`. -/
def Value.jsonClone : Value → Value
  | .string s => .string (coerceUTF8 s)
  | .stringMap m => .map (m.map fun kv => (kv.1, .string (coerceUTF8 kv.2)))
  | .map m => .map (Value.jsonCloneFields m)
  | .slice l => .slice (Value.jsonCloneList l)

/-- The entries of a cloned map. -/
def Value.jsonCloneFields : List (String × Value) → List (String × Value)
  | [] => []
  | (k, v) :: m => (k, v.jsonClone) :: Value.jsonCloneFields m

/-- The elements of a cloned slice. -/
def Value.jsonCloneList : List Value → List Value
  | [] => []
  | v :: l => v.jsonClone :: Value.jsonCloneList l

end

/-- The type assertion `v.(map[string]interface{})` on a map entry, `nil` when the
key is missing. -/
def Value.asMap : Option Value → Option (List (String × Value))
  | some (.map m) => some m
  | _ => none

/-- The type assertion `v.([]interface{})`. -/
def Value.asSlice : Option Value → Option (List Value)
  | some (.slice l) => some l
  | _ => none

/-- The type assertion `v.(string)`. -/
def Value.asString : Option Value → Option GoString
  | some (.string s) => some s
  | _ => none

namespace Value

@[simp] theorem jsonCloneFields_eq_map (m : List (String × Value)) :
    jsonCloneFields m = m.map fun kv => (kv.1, kv.2.jsonClone) := by
  induction m with
  | nil => rfl
  | cons kv m ih => rw [jsonCloneFields, ih]; rfl

@[simp] theorem jsonCloneList_eq_map (l : List Value) : jsonCloneList l = l.map jsonClone := by
  induction l with
  | nil => rfl
  | cons v l ih => rw [jsonCloneList, ih, List.map_cons]

/-- Looking a key up in a cloned map is cloning what it held. -/
theorem lookup_jsonCloneFields (m : List (String × Value)) (k : String) :
    (jsonCloneFields m).lookup k = (m.lookup k).map jsonClone := by
  induction m with
  | nil => rfl
  | cons kv m ih =>
    obtain ⟨k', v⟩ := kv
    rw [jsonCloneFields_eq_map] at ih ⊢
    by_cases hk : k = k'
    · simp [hk, List.lookup_cons_self]
    · have hne : (k == k') = false := by simpa using hk
      simp [List.lookup_cons, hne, ih]

end Value

end Go

end Qri
