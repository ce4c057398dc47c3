import Qri.Dscache.Builder

/-!
The write side of the dscache: `Assign`, the three updates the event handler
calls, and `Dscache.handler` itself (`dscache.go`, lines 77-415).

Each update returns an error with the cache untouched, or a cache whose root was
rebuilt from scratch; `Except DscacheError Dscache` says exactly that. The one
exception is the copy loop of `updateInitDataset`, which runs its index up to
`UsersLength()` while reading `Refs`: when there are more users than rows it
reads past the `Refs` vector, and that fault is the outer `Option` of
`updateInitDataset` and of the handler.

The lemmas after each definition are the only way later files look at it:
`updateInitDataset_of_root` and `updateInitDataset_of_empty` say what an init
does on each shape of cache, `updateChangeCursor_of_root` and
`updateDeleteDataset_of_root` are a `map` and a `filter` over the rows,
`commitMutation_spec` says what the `map` writes into a matched row, and
`handler_cases` lists the four things a delivered event can do.
-/

set_option autoImplicit false

namespace Qri

open Dscachefb (UserAssoc RefEntryInfo)

namespace Dscache

/-! ## Small methods -/

/-- `IsEmpty`: no root table. A nil receiver is empty too, and is not kept
apart: every method modelled here treats it as a cache without a root. -/
def isEmpty (d : Dscache) : Bool := d.root.isNone

/-- `Assign`: take the other cache's root and buffer; the map and the switch
stay. -/
def assign (d other : Dscache) : Dscache := { d with root := other.root }

/-- `lengthOfProfileID`. -/
def lengthOfProfileID : Nat := 46

/-- `validateProfileID`: Go's `len` counts bytes. -/
def validateProfileID (profileID : String) : Bool :=
  profileID.utf8ByteSize == lengthOfProfileID

@[simp] theorem assign_root (d other : Dscache) : (d.assign other).root = other.root := rfl

/-! ## `updateInitDataset` -/

/-- The version info both branches of `updateInitDataset` add for a new dataset:
`dsref.VersionInfo{InitID, ProfileID, Name}` and zero everywhere else. -/
def initInfo (act : VersionInfo) : VersionInfo :=
  { initID := act.initID, profileID := act.profileID, name := act.name }

/-- The row that version info becomes, with zeroed indexes. -/
def initEntry (act : VersionInfo) : RefEntryInfo := Builder.entryOf (initInfo act) 0 0

/-- One pass of the second copy loop: `d.Root.Refs(&r, i)`, then the row goes
back through `convertEntryToVersionInfo` with its two indexes. -/
def copyRefStep (root : Dscachefb.Dscache) (b : Builder) (i : Nat) : Option Builder := do
  let r ← root.refsAt i
  pure (b.addDsVersionInfoWithIndexes (convertEntryToVersionInfo r)
    (Go.int r.topIndex) (Go.int r.cursorIndex))

/-- `updateInitDataset`. On an empty cache it builds a one-user, one-row cache
when `CreateNewEnabled` is set and the profile ID is valid. On a non-empty one it
copies `Users`, then copies `Refs` with a loop that runs to `UsersLength()`,
then adds the new row. -/
def updateInitDataset (d : Dscache) (act : VersionInfo) :
    Option (Except DscacheError Dscache) :=
  match d.root with
  | none =>
    if !d.createNewEnabled then some (.ok d)
    else if !validateProfileID act.profileID then some (.error .invalidProfileID)
    else
      let cache := ((newBuilder.addUser act.username act.profileID).addDsVersionInfo
        (initInfo act)).build
      some (.ok (d.assign cache))
  | some root => do
    let builder := root.users.foldl (fun b up => b.addUser up.username up.profileID)
      newBuilder
    let builder ← (List.range root.users.length).foldlM (copyRefStep root) builder
    let cache := (builder.addDsVersionInfo (initInfo act)).build
    pure (.ok (d.assign cache))

/-- The copy loop up to `n`: the first `n` rows, copied, or a fault when `n`
passes `RefsLength()`. -/
theorem foldlM_copyRefStep (root : Dscachefb.Dscache) (n : Nat) (b : Builder) :
    (List.range n).foldlM (copyRefStep root) b =
      if n ≤ root.refs.length then
        some { b with refs := b.refs ++ (root.refs.take n).map copyRow }
      else none := by
  induction n with
  | zero => simp
  | succ n ih =>
    rw [List.range_succ, List.foldlM_append, ih]
    by_cases hn : n < root.refs.length
    · have hget : root.refsAt n = some root.refs[n] := List.getElem?_eq_getElem hn
      rw [if_pos (Nat.le_of_lt hn), if_pos (show n + 1 ≤ root.refs.length from hn)]
      simp only [Option.bind_eq_bind, Option.some_bind, List.foldlM_cons, List.foldlM_nil,
        copyRefStep, hget, Builder.addDsVersionInfoWithIndexes]
      rw [List.take_succ, List.getElem?_eq_getElem hn]
      simp only [Option.toList, List.map_append, List.append_assoc, List.map_cons,
        List.map_nil, copyRow]
      rfl
    · rw [if_neg (by omega : ¬ n + 1 ≤ root.refs.length)]
      by_cases hn' : n ≤ root.refs.length
      · have hnone : root.refsAt n = none := List.getElem?_eq_none (by omega)
        simp [hn', copyRefStep, hnone]
      · simp [hn']

/-- **`updateInitDataset` on a non-empty cache.** Users are copied as they are;
of the rows, only the first `UsersLength()` are copied, each with its `FsiPath`
cleared, and the new row follows. With more users than rows the copy faults. -/
theorem updateInitDataset_of_root {d : Dscache} {root : Dscachefb.Dscache}
    (h : d.root = some root) (act : VersionInfo) :
    d.updateInitDataset act =
      if root.users.length ≤ root.refs.length then
        some (.ok { d with root := some ⟨root.users,
          (root.refs.take root.users.length).map (fun r => { r with fsiPath := "" })
            ++ [initEntry act]⟩ })
      else none := by
  simp only [updateInitDataset, h, Builder.foldl_addUser, foldlM_copyRefStep]
  split <;> simp [newBuilder, Builder.addDsVersionInfo, assign, initEntry,
    show copyRow = fun r => { r with fsiPath := "" } from funext copyRow_eq]

/-- `updateInitDataset` on an empty cache: nothing without `CreateNewEnabled`,
`ErrInvalidProfileID` for a profile ID that is not 46 bytes, and otherwise a
cache holding the event's user and one row. -/
theorem updateInitDataset_of_empty {d : Dscache} (h : d.root = none) (act : VersionInfo) :
    d.updateInitDataset act =
      some (if !d.createNewEnabled then .ok d
        else if !validateProfileID act.profileID then .error .invalidProfileID
        else .ok { d with root := some ⟨[⟨act.username, act.profileID⟩], [initEntry act]⟩ }) := by
  simp only [updateInitDataset, h]
  split_ifs <;> rfl

/-! ## `updateChangeCursor` and `updateDeleteDataset` -/

/-- What `updateChangeCursor`'s replacement function writes over a copy of the
row it matched: the commit's count in both indexes, and its title, time, sizes
and path, at the schema's widths. The two strings are always written; a counter
is written through `prependSlot`, so where the commit has 0 the copy's value
stays. -/
def commitMutation (act : VersionInfo) (r : RefEntryInfo) : RefEntryInfo :=
  { r with
    topIndex := Flatbuffers.prependSlot (Go.int32 act.commitCount) r.topIndex
    cursorIndex := Flatbuffers.prependSlot (Go.int32 act.commitCount) r.cursorIndex
    metaTitle := act.metaTitle
    commitTime := Flatbuffers.prependSlot act.commitTime.unix r.commitTime
    bodySize := Flatbuffers.prependSlot act.bodySize r.bodySize
    bodyRows := Flatbuffers.prependSlot (Go.int32 act.bodyRows) r.bodyRows
    numErrors := Flatbuffers.prependSlot (Go.int32 act.numErrors) r.numErrors
    headRef := act.path }

/-- `r'` differs from `r` at most in the eight fields `updateChangeCursor`
writes: putting `r`'s values back into those gives `r`. -/
def ChangesOnlyCommitFields (r r' : RefEntryInfo) : Prop :=
  { r' with topIndex := r.topIndex, cursorIndex := r.cursorIndex, metaTitle := r.metaTitle,
            commitTime := r.commitTime, bodySize := r.bodySize, bodyRows := r.bodyRows,
            numErrors := r.numErrors, headRef := r.headRef } = r

/-- A row shows commit `v`: its path and title, and each of its counters, at the
schema's width, that is not 0. -/
structure CarriesCommit (v : VersionInfo) (r : RefEntryInfo) : Prop where
  headRef : r.headRef = v.path
  metaTitle : r.metaTitle = v.metaTitle
  topIndex : Go.int32 v.commitCount ≠ 0 → r.topIndex = Go.int32 v.commitCount
  cursorIndex : Go.int32 v.commitCount ≠ 0 → r.cursorIndex = Go.int32 v.commitCount
  commitTime : v.commitTime.unix ≠ 0 → r.commitTime = v.commitTime.unix
  bodySize : v.bodySize ≠ 0 → r.bodySize = v.bodySize
  bodyRows : Go.int32 v.bodyRows ≠ 0 → r.bodyRows = Go.int32 v.bodyRows
  numErrors : Go.int32 v.numErrors ≠ 0 → r.numErrors = Go.int32 v.numErrors

/-- **What a commit writes.** The rewritten row differs from the old one only in
the commit fields, and carries the commit. -/
theorem commitMutation_spec (act : VersionInfo) (r : RefEntryInfo) :
    ChangesOnlyCommitFields r (commitMutation act r) ∧ CarriesCommit act (commitMutation act r) :=
  ⟨rfl, rfl, rfl, (Flatbuffers.prependSlot_of_ne · _), (Flatbuffers.prependSlot_of_ne · _),
    (Flatbuffers.prependSlot_of_ne · _), (Flatbuffers.prependSlot_of_ne · _),
    (Flatbuffers.prependSlot_of_ne · _), (Flatbuffers.prependSlot_of_ne · _)⟩

/-- Rewriting by a commit keeps a row within the commit fields of another. -/
theorem ChangesOnlyCommitFields.commitMutation {r r' : RefEntryInfo}
    (h : ChangesOnlyCommitFields r r') (act : VersionInfo) :
    ChangesOnlyCommitFields r (Dscache.commitMutation act r') := h

theorem ChangesOnlyCommitFields.initID {r r' : RefEntryInfo} (h : ChangesOnlyCommitFields r r') :
    r'.initID = r.initID := by
  rw [← h]

theorem ChangesOnlyCommitFields.fsiPath {r r' : RefEntryInfo} (h : ChangesOnlyCommitFields r r') :
    r'.fsiPath = r.fsiPath := by
  rw [← h]

/-- `updateChangeCursor`: rebuild the cache, rewriting the rows whose `InitID`
is the commit's. -/
def updateChangeCursor (d : Dscache) (act : VersionInfo) : Except DscacheError Dscache :=
  match d.root with
  | none => .error .noDscache
  | some root =>
    let users := copyUserAssociationList root
    let refs := copyReferenceListWithReplacement root (fun r => r.initID == act.initID)
      (some (commitMutation act))
    .ok { d with root := some (finishBuilding users refs) }

/-- `updateDeleteDataset`: rebuild the cache, leaving out the rows whose
`InitID` is the one deleted. -/
def updateDeleteDataset (d : Dscache) (initID : String) : Except DscacheError Dscache :=
  match d.root with
  | none => .error .noDscache
  | some root =>
    let users := copyUserAssociationList root
    let refs := copyReferenceListWithReplacement root (fun r => r.initID == initID) none
    .ok { d with root := some (finishBuilding users refs) }

/-- The row a commit leaves in place of `r`. -/
def commitRow (act : VersionInfo) (r : RefEntryInfo) : RefEntryInfo :=
  if r.initID = act.initID then commitMutation act r else r

@[simp] theorem commitMutation_initID (act : VersionInfo) (r : RefEntryInfo) :
    (commitMutation act r).initID = r.initID := rfl

@[simp] theorem commitRow_initID (act : VersionInfo) (r : RefEntryInfo) :
    (commitRow act r).initID = r.initID := by
  unfold commitRow; split <;> rfl

theorem updateChangeCursor_of_root {d : Dscache} {root : Dscachefb.Dscache}
    (h : d.root = some root) (act : VersionInfo) :
    d.updateChangeCursor act = .ok { d with root := some ⟨root.users,
      root.refs.map (commitRow act)⟩ } := by
  simp [updateChangeCursor, h, copyReferenceListWithReplacement_some, commitRow,
    copyUserAssociationList, finishBuilding]

theorem updateDeleteDataset_of_root {d : Dscache} {root : Dscachefb.Dscache}
    (h : d.root = some root) (initID : String) :
    d.updateDeleteDataset initID = .ok { d with root := some ⟨root.users,
      root.refs.filter (fun r => !(r.initID == initID))⟩ } := by
  simp [updateDeleteDataset, h, copyReferenceListWithReplacement_none,
    copyUserAssociationList, finishBuilding]

theorem updateChangeCursor_of_empty {d : Dscache} (h : d.root = none) (act : VersionInfo) :
    d.updateChangeCursor act = .error .noDscache := by
  simp [updateChangeCursor, h]

theorem updateDeleteDataset_of_empty {d : Dscache} (h : d.root = none) (initID : String) :
    d.updateDeleteDataset initID = .error .noDscache := by
  simp [updateDeleteDataset, h]

/-! ## `handler` -/

/-- What the handler keeps of an update: the new cache, or the old one when the
update returned an error, which the handler only logs. -/
def keepOnError (d : Dscache) : Except DscacheError Dscache → Dscache
  | .ok d' => d'
  | .error _ => d

/-- `Dscache.handler`. A payload of the wrong dynamic type is logged and
ignored; `ETDatasetRename` is a `TODO` and `ETDatasetCreateLink` has no case, so
both leave the cache as it is. `none` is the fault of the init copy loop. -/
def handler (d : Dscache) (e : Event) : Option Dscache :=
  match e.type, e.payload with
  | .datasetNameInit, .versionInfo act => (d.updateInitDataset act).map d.keepOnError
  | .logbookWriteCommit, .versionInfo act => some (d.keepOnError (d.updateChangeCursor act))
  | .datasetDeleteAll, .string initID => some (d.keepOnError (d.updateDeleteDataset initID))
  | _, _ => some d

/-- The events handled in order, stopping at a fault. -/
def run (d : Dscache) (es : List Event) : Option Dscache := es.foldlM handler d

@[simp] theorem keepOnError_ok (d d' : Dscache) : d.keepOnError (.ok d') = d' := rfl
@[simp] theorem keepOnError_error (d : Dscache) (e : DscacheError) :
    d.keepOnError (.error e) = d := rfl

/-- The cache with its rows replaced by `f` of them; an empty cache stays empty. -/
def withRefs (d : Dscache) (f : List RefEntryInfo → List RefEntryInfo) : Dscache :=
  match d.root with
  | none => d
  | some root => { d with root := some ⟨root.users, f root.refs⟩ }

@[simp] theorem withRefs_createNewEnabled (d : Dscache)
    (f : List RefEntryInfo → List RefEntryInfo) : (d.withRefs f).createNewEnabled = d.createNewEnabled := by
  unfold withRefs; split <;> rfl

/-- A root after `withRefs` is an old root with its rows replaced. -/
theorem withRefs_root_eq_some {d : Dscache} {f : List RefEntryInfo → List RefEntryInfo}
    {root' : Dscachefb.Dscache} :
    (d.withRefs f).root = some root' ↔
      ∃ root, d.root = some root ∧ root' = ⟨root.users, f root.refs⟩ := by
  unfold withRefs
  split <;> simp_all [eq_comm]

@[simp] theorem withRefs_root_eq_none {d : Dscache} {f : List RefEntryInfo → List RefEntryInfo} :
    (d.withRefs f).root = none ↔ d.root = none := by
  unfold withRefs
  split <;> simp_all

@[simp] theorem withRefs_withRefs (d : Dscache) (f g : List RefEntryInfo → List RefEntryInfo) :
    (d.withRefs f).withRefs g = d.withRefs (g ∘ f) := by
  cases h : d.root <;> simp [withRefs, h]

@[simp] theorem handler_init (d : Dscache) (act : VersionInfo) :
    d.handler ⟨.datasetNameInit, .versionInfo act⟩
      = (d.updateInitDataset act).map d.keepOnError := rfl

/-- A commit rewrites the rows with `commitRow`, and nothing else. -/
@[simp] theorem handler_commit (d : Dscache) (act : VersionInfo) :
    d.handler ⟨.logbookWriteCommit, .versionInfo act⟩
      = some (d.withRefs (List.map (commitRow act))) := by
  cases h : d.root <;>
    simp [handler, withRefs, h, updateChangeCursor_of_empty, updateChangeCursor_of_root]

/-- A delete-all filters the rows, and nothing else. -/
@[simp] theorem handler_delete (d : Dscache) (initID : String) :
    d.handler ⟨.datasetDeleteAll, .string initID⟩
      = some (d.withRefs (List.filter fun r => !(r.initID == initID))) := by
  cases h : d.root <;>
    simp [handler, withRefs, h, updateDeleteDataset_of_empty, updateDeleteDataset_of_root]

/-- **What a delivered event can do**: run one of the three updates on its
payload, or nothing at all, on any cache. -/
theorem handler_cases (e : Event) :
    (∃ act, e = ⟨.datasetNameInit, .versionInfo act⟩) ∨
    (∃ act, e = ⟨.logbookWriteCommit, .versionInfo act⟩) ∨
    (∃ initID, e = ⟨.datasetDeleteAll, .string initID⟩) ∨
    ∀ d : Dscache, d.handler e = some d := by
  obtain ⟨t, p⟩ := e
  cases t <;> cases p <;> simp [handler]

@[simp] theorem run_nil (d : Dscache) : d.run [] = some d := rfl
@[simp] theorem run_cons (d : Dscache) (e : Event) (es : List Event) :
    d.run (e :: es) = (d.handler e).bind (·.run es) := rfl

end Dscache

end Qri
