import Qri.Dscache.Read

/-!
What an `ETLogbookWriteCommit` event does to the cache, and what the cache then
says about the commit; and what an `ETDatasetDeleteAll` event does.

The first half is a frame property (`updateChangeCursor_frame`): the users stay,
the rows stay in number and order, a row of another dataset is untouched, and a
row of the committed dataset differs from before at most in the eight fields the
replacement function writes. It rests on the copy helper rewriting exactly the
matched rows, which is written from the spec (`Builder.lean`).

The second half reads those eight fields back. The path and title come back as
written. Three of the commit's counters go through the schema's 32-bit columns,
so what comes back is `int(int32(x))`: equal to `x` exactly inside `int32`'s
range (`Go.int_int32_eq_iff`), and a body of `2^31` rows reads back negative.
And a counter the commit has as 0 is not written at all
(`Flatbuffers.prependSlot`), so a commit of an empty body after one of 7 rows
still reads back 7 (`handler_commit_counters_not_read_back`): what a counter
reads is stated only where the commit's is not 0. `ListRefs` reads the commit
count from `TopIndex`, where the commit wrote it.

A delete keeps the users and every row of another dataset, in order, and leaves
no row `ResolveRef` could find by the deleted `InitID`
(`handler_delete_removes`). That last part needs the `InitID` to be non-empty:
`ResolveRef` reads a ref without an `InitID` by username and name, and a user
with the empty username can still own a row with the empty name
(`handler_delete_empty_initID_resolves`).
-/

set_option autoImplicit false

namespace Qri

open Dscachefb (UserAssoc RefEntryInfo)

namespace Dscache

/-! ## The frame of a commit -/

/-- **A commit touches only the committed dataset's commit fields.** On an empty
cache `updateChangeCursor` fails with `ErrNoDscache` and changes nothing. On any
other it keeps the users, keeps the rows in number and order, leaves every row of
another dataset as it was, and in a row of the committed dataset changes nothing
but the eight commit fields; when no row matches, the root is unchanged. -/
theorem updateChangeCursor_frame (d : Dscache) (v : VersionInfo) :
    (d.root = none → d.updateChangeCursor v = .error .noDscache) ∧
    ∀ root, d.root = some root →
      ∃ root', d.updateChangeCursor v = .ok { d with root := some root' } ∧
        root'.users = root.users ∧
        List.Forall₂ (fun r r' => if r.initID = v.initID then ChangesOnlyCommitFields r r'
          else r' = r) root.refs root'.refs ∧
        ((∀ r ∈ root.refs, r.initID ≠ v.initID) → root' = root) := by
  refine ⟨(updateChangeCursor_of_empty · v),
    fun root h => ⟨_, updateChangeCursor_of_root h v, rfl, ?_, fun hno => ?_⟩⟩
  · rw [List.forall₂_map_right_iff]
    refine List.forall₂_same.2 fun r _ => ?_
    by_cases hr : r.initID = v.initID
    · simp only [hr, if_true, commitRow]; exact (commitMutation_spec v r).1
    · simp [hr, commitRow]
  · have : root.refs.map (commitRow v) = root.refs := by
      refine (List.map_congr_left fun r hr => ?_).trans (List.map_id _)
      simp [commitRow, hno r hr]
    simp [this]

/-! ## Reading a commit back -/

/-- `int(int32(x)) = x` exactly for the `x` in `int32`'s range. -/
theorem Go.int_int32_eq_iff (x : GoInt) :
    Go.int (Go.int32 x) = x ↔ -2 ^ 31 ≤ x.toInt ∧ x.toInt < 2 ^ 31 := by
  rw [← BitVec.toInt_inj, Go.int, BitVec.signExtend, BitVec.toInt_ofInt, Go.int32,
    BitVec.toInt_eq_toNat_bmod (BitVec.setWidth 32 x), BitVec.toNat_setWidth,
    BitVec.toInt_eq_toNat_bmod]
  have hx := x.isLt
  simp only [Int.bmod]
  push_cast at *
  split_ifs <;> omega

/-- What the cache reports about a commit `v`: its path and title as they were,
and its body size, its row and error counts through `int32` and its time to the
second, each where the commit's value is not 0. -/
structure ReadsBackCommit (v vi : VersionInfo) : Prop where
  path : vi.path = v.path
  metaTitle : vi.metaTitle = v.metaTitle
  bodySize : v.bodySize ≠ 0 → vi.bodySize = v.bodySize
  bodyRows : Go.int32 v.bodyRows ≠ 0 → vi.bodyRows = Go.int (Go.int32 v.bodyRows)
  numErrors : Go.int32 v.numErrors ≠ 0 → vi.numErrors = Go.int (Go.int32 v.numErrors)
  commitTime : v.commitTime.unix ≠ 0 → vi.commitTime = v.commitTime.truncateSecond

/-- A row that carries a commit reads back as the commit. -/
theorem CarriesCommit.readsBack {v : VersionInfo} {r : RefEntryInfo} (h : CarriesCommit v r) :
    ReadsBackCommit v (convertEntryToVersionInfo r) where
  path := h.headRef
  metaTitle := h.metaTitle
  bodySize := h.bodySize
  bodyRows hv := congrArg Go.int (h.bodyRows hv)
  numErrors hv := congrArg Go.int (h.numErrors hv)
  commitTime hv := congrArg Time.ofUnix (h.commitTime hv)

/-- A row of the committed dataset after a commit is the commit written over an
old row. -/
theorem eq_commitMutation_of_mem {v : VersionInfo} {rs : List RefEntryInfo} {r' : RefEntryInfo}
    (hr : r' ∈ rs.map (commitRow v)) (hi : r'.initID = v.initID) :
    ∃ r, r' = commitMutation v r := by
  obtain ⟨r, -, rfl⟩ := List.mem_map.1 hr
  have : r.initID = v.initID := by simpa using hi
  exact ⟨r, by simp [commitRow, this]⟩

/-- **A delete removes exactly the dataset's rows.** On any cache, an
`ETDatasetDeleteAll` event for a non-empty `InitID` keeps the users and the
other rows, unchanged and in order, drops every row of that `InitID`, and
leaves `ResolveRef` nothing to find by it. -/
theorem handler_delete_removes (d : Dscache) (i : String) (hi : i ≠ "") :
    ∃ d', d.handler ⟨.datasetDeleteAll, .string i⟩ = some d' ∧
      d'.root = d.root.map (fun root => ⟨root.users, root.refs.filter fun r => !(r.initID == i)⟩) ∧
      (d'.resolveRef { initID := i }).1 = .error .refNotFound := by
  refine ⟨_, handler_delete d i, ?_⟩
  cases h : d.root with
  | none => simp [withRefs, resolveRef, h]
  | some root =>
    have hgone : (root.refs.filter fun r => !(r.initID == i)).find? (·.initID == i) = none :=
      List.find?_eq_none.2 fun r hr => by simpa using (List.mem_filter.1 hr).2
    simp [withRefs, resolveRef, completeRef, h, hi, hgone]

/-- The theorem on a cache with two rows of the deleted dataset around another. -/
theorem handler_delete_removes_example :
    let d : Dscache := { root := some ⟨[⟨"alice", "p"⟩], [{ initID := "i", profileID := "p" },
      { initID := "j", profileID := "p", prettyName := "b" }, { initID := "i", profileID := "p" }]⟩ }
    "i" ≠ "" ∧ ∃ d', d.handler ⟨.datasetDeleteAll, .string "i"⟩ = some d' ∧
      d'.root = d.root.map (fun root => ⟨root.users, root.refs.filter fun r => !(r.initID == "i")⟩) ∧
      (d'.resolveRef { initID := "i" }).1 = .error .refNotFound :=
  ⟨by decide, handler_delete_removes _ "i" (by decide)⟩

/-- Deleting the empty `InitID` leaves a row `ResolveRef` finds on a ref whose
`InitID` is empty: the lookup goes by the empty username and name instead. -/
theorem handler_delete_empty_initID_resolves :
    let d : Dscache := { root := some ⟨[⟨"", "p"⟩], [{ initID := "x", profileID := "p" }]⟩ }
    ∃ d', d.handler ⟨.datasetDeleteAll, .string ""⟩ = some d' ∧
      d'.resolveRef { initID := "" } = (.ok "", { initID := "x", profileID := "p" }) :=
  ⟨_, rfl, by decide⟩

end Dscache

end Qri
