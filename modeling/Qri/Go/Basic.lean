import Mathlib.Data.List.Basic
import Mathlib.Data.BitVec

/-!
The parts of Go that every modelled package shares: its integers, its strings,
and the `Except` results a modelled function returns where Go returns a value
and an error.

`int` is 64 bits on every platform qri ships for, the flatbuffer's `int` columns
are 32 bits, and `int32(x)` / `int(y)` are truncation and sign extension.

A Go `string` is a sequence of bytes with no encoding promised. Where a property
is about what a path or a column name may contain, the model keeps that:
`GoString` is the list of bytes, and `GoString.ofString` writes a Lean string
literal (always valid UTF-8) as the bytes Go stores for it. Where strings are
only compared for equality (identifiers, profile IDs, usernames), Lean's
`String` stands for them.
-/

set_option autoImplicit false

namespace Qri

/-! ## Integers -/

/-- Go's `int` on the 64-bit platforms qri is built for. -/
abbrev GoInt := BitVec 64

namespace Go

/-- The conversion `int32(x)`: the low 32 bits of `x`. -/
def int32 (x : GoInt) : BitVec 32 := x.setWidth 32

/-- The conversion `int(y)` of an `int32`: sign extension. -/
def int (y : BitVec 32) : GoInt := y.signExtend 64

end Go

/-! ## Byte strings -/

/-- A Go `string`: its bytes. -/
abbrev GoString := List UInt8

/-- The bytes of a Go string literal: its UTF-8 encoding. -/
def GoString.ofString (s : String) : GoString := s.data.flatMap String.utf8EncodeChar

/-- The byte `'/'`. -/
def slash : UInt8 := 0x2F

/-! ## Results with an error -/

/-- Results of the modelled functions are compared as values. -/
instance instDecidableEqExcept {ε α : Type} [DecidableEq ε] [DecidableEq α] :
    DecidableEq (Except ε α)
  | .error a, .error b => decidable_of_iff (a = b) (by simp)
  | .ok a, .ok b => decidable_of_iff (a = b) (by simp)
  | .error _, .ok _ => isFalse (by simp)
  | .ok _, .error _ => isFalse (by simp)

namespace Except

variable {ε α β : Type}

@[simp] theorem error_bind (e : ε) (f : α → Except ε β) : (Except.error e >>= f) = .error e := rfl

@[simp] theorem ok_bind (a : α) (f : α → Except ε β) : (Except.ok a >>= f) = f a := rfl

/-- A bind succeeds exactly when both steps do. -/
theorem bind_eq_ok {x : Except ε α} {f : α → Except ε β} {b : β} :
    x >>= f = .ok b ↔ ∃ a, x = .ok a ∧ f a = .ok b := by
  cases x <;> simp

end Except

end Qri
