import Qri.Dscache.Basic

/-!
How a new root table is put together. `dscache.go` never edits a flatbuffer in
place: every update starts a fresh buffer and writes the rows it keeps into it,
either through `dscache.Builder` (`NewBuilder`, `AddUser`,
`AddDsVersionInfoWithIndexes`, `Build`) or through three helpers of the wrapper
(`copyUserAssociationList`, `copyReferenceListWithReplacement`,
`finishBuilding`). Neither `builder.go` nor the file holding the helpers is among
the sources, so each definition below is written from the spec's account of
them: "updates rebuild the serialized buffer wholesale, replacing or omitting
the affected entry".

What the builder does with a `VersionInfo` is the one place where this choice
shows: the row it writes carries every field the `VersionInfo` has, narrowed to
the schema's widths, and the indexes it is given. `copyRow` is what the
`updateInitDataset` copy loop writes back for an existing row, and
`copyRow_eq` says that round trip loses exactly `FsiPath`, because
`convertEntryToVersionInfo` does not carry it.

One behaviour of flatbuffers-go itself (v1.11.0, the version `go.mod` pins)
matters: the generated `RefEntryInfoAdd*` of a scalar field does not write a
value equal to the field's default, 0 (`Flatbuffers.prependSlot`). A fresh row
cannot tell, since an unwritten field reads as its default; a row rewritten over
a copy of an old one keeps the old value.
-/

set_option autoImplicit false

namespace Qri

open Dscachefb (UserAssoc RefEntryInfo)

/-! ## flatbuffers-go -/

namespace Flatbuffers

/-- `(*Builder).PrependInt32Slot(o, x, d)` and `PrependInt64Slot` of
flatbuffers-go v1.11.0, which the generated `RefEntryInfoAdd*` of a scalar field
call with the default `d = 0`: the slot is written only `if x != d`, and
otherwise keeps what the table being built already holds there. -/
def prependSlot {w : Nat} (x old : BitVec w) : BitVec w :=
  if x = 0 then old else x

@[simp] theorem prependSlot_zero {w : Nat} (old : BitVec w) : prependSlot 0 old = old :=
  if_pos rfl

theorem prependSlot_of_ne {w : Nat} {x : BitVec w} (h : x ≠ 0) (old : BitVec w) :
    prependSlot x old = x :=
  if_neg h

/-- Writing a value twice is writing it once. -/
@[simp] theorem prependSlot_prependSlot {w : Nat} (x old : BitVec w) :
    prependSlot x (prependSlot x old) = prependSlot x old := by
  by_cases h : x = 0
  · rw [h, prependSlot_zero, prependSlot_zero]
  · rw [prependSlot_of_ne h, prependSlot_of_ne h]

end Flatbuffers

/-! ## `dscache.Builder` -/

/-- Modelled from the spec: `dscache.Builder` (`builder.go` is not among the
sources) collects the users and rows of a new cache in the order they are added. -/
structure Builder where
  users : List UserAssoc
  refs : List RefEntryInfo
deriving Repr, DecidableEq

/-- Modelled from the spec: `NewBuilder()`, a builder with nothing added. -/
def newBuilder : Builder := ⟨[], []⟩

namespace Builder

/-- Modelled from the spec: `AddUser` appends a `Users` row. -/
def addUser (b : Builder) (username profileID : String) : Builder :=
  { b with users := b.users ++ [{ username := username, profileID := profileID }] }

/-- Modelled from the spec: the row `AddDsVersionInfoWithIndexes` writes, every
field of the version info at the schema's width and the two indexes given. -/
def entryOf (info : VersionInfo) (topIndex cursorIndex : GoInt) : RefEntryInfo :=
  { initID := info.initID
    profileID := info.profileID
    topIndex := Go.int32 topIndex
    cursorIndex := Go.int32 cursorIndex
    prettyName := info.name
    published := info.published
    foreign := info.foreign
    metaTitle := info.metaTitle
    themeList := info.themeList
    bodySize := info.bodySize
    bodyRows := Go.int32 info.bodyRows
    bodyFormat := info.bodyFormat
    numErrors := Go.int32 info.numErrors
    commitTime := info.commitTime.unix
    commitCount := Go.int32 info.commitCount
    headRef := info.path
    fsiPath := info.fsiPath }

/-- Modelled from the spec: `AddDsVersionInfoWithIndexes` appends a `Refs` row. -/
def addDsVersionInfoWithIndexes (b : Builder) (info : VersionInfo)
    (topIndex cursorIndex : GoInt) : Builder :=
  { b with refs := b.refs ++ [entryOf info topIndex cursorIndex] }

/-- Modelled from the spec: `AddDsVersionInfo`, a row "with zeroed indexes". -/
def addDsVersionInfo (b : Builder) (info : VersionInfo) : Builder :=
  b.addDsVersionInfoWithIndexes info 0 0

/-- Modelled from the spec: `Build()`, a cache whose root holds what was added. -/
def build (b : Builder) : Dscache := { root := some ⟨b.users, b.refs⟩ }

@[simp] theorem addUser_users (b : Builder) (u p : String) :
    (b.addUser u p).users = b.users ++ [{ username := u, profileID := p }] := rfl
@[simp] theorem addUser_refs (b : Builder) (u p : String) : (b.addUser u p).refs = b.refs := rfl
@[simp] theorem addDsVersionInfoWithIndexes_users (b : Builder) (info : VersionInfo)
    (t c : GoInt) : (b.addDsVersionInfoWithIndexes info t c).users = b.users := rfl
@[simp] theorem addDsVersionInfoWithIndexes_refs (b : Builder) (info : VersionInfo)
    (t c : GoInt) :
    (b.addDsVersionInfoWithIndexes info t c).refs = b.refs ++ [entryOf info t c] := rfl
@[simp] theorem build_root (b : Builder) : b.build.root = some ⟨b.users, b.refs⟩ := rfl

/-- Re-adding the users of a table one by one, as both `updateInitDataset`
loops over `Users` do, appends that table. -/
theorem foldl_addUser (us : List UserAssoc) (b : Builder) :
    us.foldl (fun b up => b.addUser up.username up.profileID) b
      = { b with users := b.users ++ us } := by
  induction us generalizing b with
  | nil => simp
  | cons u us ih => simp [ih]

end Builder

/-! ## A row written back through `convertEntryToVersionInfo` -/

/-- `int32(int(y)) = y`: sign extension then truncation is the identity. -/
@[simp] theorem Go.int32_int (y : BitVec 32) : Go.int32 (Go.int y) = y := by
  ext i
  simp [Go.int32, Go.int, BitVec.getLsbD_setWidth, BitVec.getLsbD_signExtend]
  omega

/-- What the copy loop of `updateInitDataset` writes for an existing row `r`. -/
def copyRow (r : RefEntryInfo) : RefEntryInfo :=
  Builder.entryOf (convertEntryToVersionInfo r) (Go.int r.topIndex) (Go.int r.cursorIndex)

/-- A copied row is the row with its `FsiPath` cleared: every other field
survives the trip through `VersionInfo` and the builder's narrowing. -/
theorem copyRow_eq (r : RefEntryInfo) : copyRow r = { r with fsiPath := "" } := by
  simp [copyRow, Builder.entryOf, convertEntryToVersionInfo, Time.ofUnix]

/-! ## The copy helpers of the wrapper -/

namespace Dscache

/-- Modelled from the spec: `copyUserAssociationList` writes every `Users` row
of the current root, in order. -/
def copyUserAssociationList (root : Dscachefb.Dscache) : List UserAssoc := root.users

/-- Modelled from the spec: `copyReferenceListWithReplacement` writes every
`Refs` row of the current root in order; a row the matcher accepts is replaced
by what the replacer writes over a copy of it, or omitted when the replacer is
nil. -/
def copyReferenceListWithReplacement (root : Dscachefb.Dscache)
    (matcher : RefEntryInfo → Bool) (replacer : Option (RefEntryInfo → RefEntryInfo)) :
    List RefEntryInfo :=
  root.refs.filterMap fun r => if matcher r then replacer.map (· r) else some r

/-- Modelled from the spec: `finishBuilding` makes the root of the new buffer. -/
def finishBuilding (users : List UserAssoc) (refs : List RefEntryInfo) :
    Dscachefb.Dscache :=
  ⟨users, refs⟩

/-- With a replacer, every row is kept: the matching ones rewritten. -/
theorem copyReferenceListWithReplacement_some (root : Dscachefb.Dscache)
    (matcher : RefEntryInfo → Bool) (f : RefEntryInfo → RefEntryInfo) :
    copyReferenceListWithReplacement root matcher (some f)
      = root.refs.map fun r => if matcher r then f r else r := by
  simp only [copyReferenceListWithReplacement, Option.map_some', ← apply_ite some]
  exact congrFun (List.filterMap_eq_map _) _

/-- Without one, the matching rows are left out. -/
theorem copyReferenceListWithReplacement_none (root : Dscachefb.Dscache)
    (matcher : RefEntryInfo → Bool) :
    copyReferenceListWithReplacement root matcher none
      = root.refs.filter fun r => !matcher r := by
  simp only [copyReferenceListWithReplacement, Option.map_none']
  induction root.refs with
  | nil => rfl
  | cons r rs ih => by_cases h : matcher r <;> simp [h, ih, List.filter_cons]

end Dscache

end Qri
