import Qri.Go.Basic
import Mathlib.Data.List.Basic

/-!
The functions of Go's `strings` package the sources call on paths, over byte
strings. Every cutset and separator they are given is ASCII, so working byte by
byte does what Go does rune by rune: no byte of a multi-byte UTF-8 sequence is
ASCII, and an invalid byte decodes to `RuneError`, in no ASCII cutset.

Each function comes with what it does to a string with a `/` in it, `s ++ "/" ++ r`,
which is all the path proofs need: trimming and cutting at the first `/` only
look at what stands before it.
-/

set_option autoImplicit false

namespace Qri

namespace Go

/-- `strings.TrimLeft(s, cutset)`: the leading bytes in `cutset` dropped. -/
def trimLeft (s cutset : GoString) : GoString := s.dropWhile fun b => cutset.contains b

/-- `strings.TrimPrefix(s, t)`: `s` without `t` in front, when `strings.HasPrefix(s, t)`. -/
def trimPrefix (s t : GoString) : GoString := if t.isPrefixOf s then s.drop t.length else s

/-- `strings.Split(s, sep)` for a one-byte separator. -/
def split (s : GoString) (sep : UInt8) : List GoString := s.splitOn sep

/-- `strings.Join(elems, sep)`. -/
def join : List GoString → GoString → GoString
  | [], _ => []
  | [e], _ => e
  | e :: es, sep => e ++ sep ++ join es sep

section Lemmas

variable {s t r : GoString}

@[simp] theorem join_pair (a b sep : GoString) : join [a, b] sep = a ++ sep ++ b := rfl

@[simp] theorem trimPrefix_nil (t : GoString) : trimPrefix [] t = [] := by
  unfold trimPrefix
  split <;> simp

theorem trimPrefix_self_append (t r : GoString) : trimPrefix (t ++ r) t = r := by
  rw [trimPrefix, if_pos (List.isPrefixOf_iff_prefix.2 (List.prefix_append _ _)),
    List.drop_left]

theorem trimPrefix_of_not_isPrefix (h : ¬ t <+: s) : trimPrefix s t = s := by
  rw [trimPrefix, if_neg (mt List.isPrefixOf_iff_prefix.1 h)]

/-- A non-empty `t` without `/` is never trimmed from a string starting with `/`. -/
theorem trimPrefix_slash_cons (hne : t ≠ []) (ht : slash ∉ t) (r : GoString) :
    trimPrefix (slash :: r) t = slash :: r := by
  refine trimPrefix_of_not_isPrefix fun h => ?_
  obtain ⟨b, t', rfl⟩ := List.exists_cons_of_ne_nil hne
  rw [List.cons_prefix_cons] at h
  exact ht (h.1 ▸ List.mem_cons_self _ _)

@[simp] theorem trimLeft_slash_cons (r : GoString) :
    trimLeft (slash :: r) [slash] = trimLeft r [slash] := by
  simp [trimLeft, List.dropWhile_cons]

/-- Trimming `/` from the left reaches past `s` only when `s` is all `/`. -/
theorem trimLeft_append (h : trimLeft s [slash] ≠ []) :
    trimLeft (s ++ r) [slash] = trimLeft s [slash] ++ r := by
  unfold trimLeft at h ⊢
  rw [List.dropWhile_append, if_neg (by simpa using h)]

theorem trimLeft_cons_of_ne {b : UInt8} (hb : b ≠ slash) (s : GoString) :
    trimLeft (b :: s) [slash] = b :: s := by
  simp [trimLeft, List.dropWhile_cons, hb]

/-- A cut-free `t` that is a prefix of `s ++ "/" ++ r` is one of `s`. -/
theorem isPrefix_of_isPrefix_append_slash (ht : slash ∉ t) (h : t <+: s ++ slash :: r) :
    t <+: s := by
  rw [List.prefix_iff_eq_take] at h ⊢
  rcases Nat.lt_or_ge s.length t.length with hlt | hle
  · -- past `s`, `t` would hold the `/`
    have hget : t[s.length]? = some slash := by
      rw [h, List.getElem?_take_of_lt hlt, List.getElem?_append_right (le_refl _)]
      simp
    exact absurd (List.mem_iff_getElem?.2 ⟨_, hget⟩) ht
  · rwa [List.take_append_of_le_length hle] at h

/-- Trimming a cut-free `t` only looks before the first `/`. -/
theorem trimPrefix_append_slash (ht : slash ∉ t) :
    trimPrefix (s ++ slash :: r) t = trimPrefix s t ++ slash :: r := by
  unfold trimPrefix
  by_cases hp : t <+: s
  · have hp' : t <+: s ++ slash :: r := hp.trans (List.prefix_append _ _)
    rw [if_pos (List.isPrefixOf_iff_prefix.2 hp'), if_pos (List.isPrefixOf_iff_prefix.2 hp),
      List.drop_append_of_le_length hp.length_le]
  · have hp' : ¬ t <+: s ++ slash :: r := fun h => hp (isPrefix_of_isPrefix_append_slash ht h)
    rw [if_neg (mt List.isPrefixOf_iff_prefix.1 hp'), if_neg (mt List.isPrefixOf_iff_prefix.1 hp)]

/-- The first piece of a split is everything before the first separator. -/
theorem headD_split (s : GoString) (sep : UInt8) :
    (split s sep).headD [] = s.takeWhile (· != sep) := by
  change (List.splitOnP (· == sep) s).headD [] = _
  induction s with
  | nil => rfl
  | cons b s ih =>
    rw [List.splitOnP_cons, List.takeWhile_cons]
    by_cases hb : b = sep
    · simp [hb]
    · have hne := List.splitOnP_ne_nil (· == sep) s
      rw [if_neg (by simpa using hb), if_pos (by simpa using hb), ← ih]
      cases h : List.splitOnP (· == sep) s with
      | nil => exact absurd h hne
      | cons l ls => rfl

/-- A string without `/` is left whole by trimming and cutting at `/`. -/
theorem trimLeft_of_not_mem (hne : s ≠ []) (hs : slash ∉ s) : trimLeft s [slash] = s := by
  obtain ⟨b, s', rfl⟩ := List.exists_cons_of_ne_nil hne
  exact trimLeft_cons_of_ne (fun hb => hs (hb ▸ List.mem_cons_self _ _)) s'

theorem takeWhile_of_not_mem (hs : slash ∉ s) : s.takeWhile (· != slash) = s :=
  List.takeWhile_eq_self_iff.2 fun b hb => by
    have hne : b ≠ slash := fun h => hs (h ▸ hb)
    simpa using hne

theorem not_mem_takeWhile (s : GoString) : slash ∉ s.takeWhile (· != slash) := fun h => by
  simpa using List.mem_takeWhile_imp h

/-- Cutting at the first `/` does not see past it. -/
theorem takeWhile_append_slash (s r : GoString) :
    (s ++ slash :: r).takeWhile (· != slash) = s.takeWhile (· != slash) := by
  induction s with
  | nil => simp [List.takeWhile_cons]
  | cons b s ih => simp only [List.cons_append, List.takeWhile_cons, ih]

end Lemmas

end Go

end Qri
