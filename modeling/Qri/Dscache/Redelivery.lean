import Qri.Dscache.Update

/-!
Delivery order and redelivery. The event bus promises at-least-once delivery and
no order between datasets, so a subscriber is only sound if a repeated event is
harmless and events for different datasets commute.

For the two updates that rebuild the rows by a `map` or a `filter`, both hold on
every cache: a commit's rewrite `commitRow` and a delete's filter are idempotent,
neither changes a row's `InitID`, so each commutes with the other as long as
they name different datasets (`handler_redelivery`,
`handler_commute_commit_delete`).

An init does neither. It has no notion of an `InitID` it has already seen, so a
redelivered init that created the cache adds a second row for the same dataset
(`handler_init_redelivered_duplicates`); and because the copy loop of a
non-empty cache keeps only `UsersLength()` rows, two inits in either order keep
different rows (`handler_init_order_keeps_different_rows`).
-/

set_option autoImplicit false

namespace Qri

open Dscachefb (UserAssoc RefEntryInfo)

namespace Dscache

/-! ## Rows under a commit and a delete -/

theorem commitRow_commitRow (act : VersionInfo) (r : RefEntryInfo) :
    commitRow act (commitRow act r) = commitRow act r := by
  unfold commitRow
  split <;> simp_all [commitMutation]

/-- Commits to two different datasets touch disjoint rows. -/
theorem commitRow_comm {v w : VersionInfo} (hne : v.initID ≠ w.initID) (r : RefEntryInfo) :
    commitRow v (commitRow w r) = commitRow w (commitRow v r) := by
  by_cases hv : r.initID = v.initID
  · have hw : r.initID ≠ w.initID := hv ▸ hne
    simp [commitRow, hv, hw, hne]
  · by_cases hw : r.initID = w.initID
    · simp [commitRow, hv, hw, Ne.symm hne]
    · simp [commitRow, hv, hw]

/-- A delete's filter commutes with a commit's rewrite, which keeps `InitID`s. -/
theorem filter_map_commitRow (act : VersionInfo) (i : String) (rs : List RefEntryInfo) :
    (rs.map (commitRow act)).filter (fun r => !(r.initID == i))
      = (rs.filter (fun r => !(r.initID == i))).map (commitRow act) := by
  rw [List.filter_map]
  congr 1
  exact List.filter_congr fun r _ => by simp [Function.comp]

/-- Commits and deletes only rewrite the row list, so whether two of them
commute is whether two list functions do. -/
theorem handler_comm_of_withRefs {e₁ e₂ : Event} {f g : List RefEntryInfo → List RefEntryInfo}
    (h₁ : ∀ d : Dscache, d.handler e₁ = some (d.withRefs f))
    (h₂ : ∀ d : Dscache, d.handler e₂ = some (d.withRefs g)) (hc : g ∘ f = f ∘ g) (d : Dscache) :
    (d.handler e₁).bind (·.handler e₂) = (d.handler e₂).bind (·.handler e₁) := by
  simp [h₁, h₂, hc]

/-- An event the handler ignores commutes with every other. -/
theorem handler_comm_of_ignored {e₁ e₂ : Event} (hid : ∀ d : Dscache, d.handler e₁ = some d)
    (d : Dscache) :
    (d.handler e₁).bind (·.handler e₂) = (d.handler e₂).bind (·.handler e₁) := by
  simp [hid]

/-! ## Redelivery -/

/-- **Redelivery of a commit or a delete-all is harmless.** Whatever its payload
and whatever the cache, handling an `ETLogbookWriteCommit` or an
`ETDatasetDeleteAll` event twice in a row gives the cache handling it once
gives. -/
theorem handler_redelivery (d : Dscache) (e : Event)
    (he : e.type = .logbookWriteCommit ∨ e.type = .datasetDeleteAll) :
    (d.handler e).bind (·.handler e) = d.handler e := by
  rcases handler_cases e with ⟨act, rfl⟩ | ⟨act, rfl⟩ | ⟨i, rfl⟩ | hid
  · simp at he
  · simp [Function.comp_def, commitRow_commitRow]
  · simp [Function.comp_def, List.filter_filter]
  · simp [hid]

/-- A commit of an empty body redelivered to a cache holding the dataset's row,
with 7 body rows, beside another dataset's. -/
theorem handler_redelivery_commit_example :
    let d : Dscache := { root := some ⟨[⟨"alice", "p"⟩],
      [{ initID := "i1", profileID := "p", prettyName := "a", bodyRows := 7, topIndex := 1 },
       { initID := "i2", profileID := "p", prettyName := "b" }]⟩ }
    let e : Event := ⟨.logbookWriteCommit, .versionInfo
      { initID := "i1", path := "/ipfs/QmB", bodyRows := 0, commitCount := 2 }⟩
    (e.type = .logbookWriteCommit ∨ e.type = .datasetDeleteAll) ∧
      (d.handler e).bind (·.handler e) = d.handler e :=
  ⟨.inl rfl, handler_redelivery _ _ (.inl rfl)⟩

/-- An init delivered twice to an empty cache that may create itself leaves two
rows for the one dataset; delivered once, it leaves one. -/
theorem handler_init_redelivered_duplicates :
    let d : Dscache := { createNewEnabled := true }
    let e : Event := ⟨.datasetNameInit, .versionInfo
      { initID := "i1", username := "alice", name := "ds",
        profileID := "QmZePf5LeXow3RW5U1AgEiNbW46YnRGhZ7HPvm1UmPFPwt" }⟩
    ((d.handler e).bind (·.handler e)).map (·.root.map (·.refs.map (·.initID)))
        = some (some ["i1", "i1"]) ∧
      (d.handler e).map (·.root.map (·.refs.map (·.initID))) = some (some ["i1"]) := by
  decide

/-! ## Order between datasets -/

/-- **Commits and deletes for different datasets commute.** On every cache,
two `ETLogbookWriteCommit` / `ETDatasetDeleteAll` events naming different
`InitID`s give the same cache, rows in the same order, in either order. -/
theorem handler_commute_commit_delete (d : Dscache) (e₁ e₂ : Event)
    (h₁ : e₁.type ≠ .datasetNameInit) (h₂ : e₂.type ≠ .datasetNameInit)
    (hne : e₁.initID ≠ e₂.initID) :
    (d.handler e₁).bind (·.handler e₂) = (d.handler e₂).bind (·.handler e₁) := by
  have hfm (v : VersionInfo) (i : String) :
      (List.filter fun r => !(r.initID == i)) ∘ List.map (commitRow v)
        = List.map (commitRow v) ∘ List.filter fun r => !(r.initID == i) :=
    funext (filter_map_commitRow v i)
  rcases handler_cases e₁ with ⟨v, rfl⟩ | ⟨v, rfl⟩ | ⟨i, rfl⟩ | hid₁
  · exact absurd rfl h₁
  · rcases handler_cases e₂ with ⟨w, rfl⟩ | ⟨w, rfl⟩ | ⟨j, rfl⟩ | hid₂
    · exact absurd rfl h₂
    · refine handler_comm_of_withRefs (handler_commit · v) (handler_commit · w) ?_ d
      funext rs
      simp [commitRow_comm (hne : v.initID ≠ w.initID)]
    · exact handler_comm_of_withRefs (handler_commit · v) (handler_delete · j) (hfm v j) d
    · exact (handler_comm_of_ignored hid₂ d).symm
  · rcases handler_cases e₂ with ⟨w, rfl⟩ | ⟨w, rfl⟩ | ⟨j, rfl⟩ | hid₂
    · exact absurd rfl h₂
    · exact handler_comm_of_withRefs (handler_delete · i) (handler_commit · w)
        (hfm w i).symm d
    · refine handler_comm_of_withRefs (handler_delete · i) (handler_delete · j) ?_ d
      funext rs
      simp [List.filter_filter, Bool.and_comm]
    · exact (handler_comm_of_ignored hid₂ d).symm
  · exact handler_comm_of_ignored hid₁ d

/-- A commit to `a` and a delete of `b`, on a cache holding rows of both. -/
theorem handler_commute_commit_delete_example :
    let d : Dscache := { root := some ⟨[⟨"alice", "p"⟩],
      [{ initID := "a", profileID := "p", prettyName := "x" },
       { initID := "b", profileID := "p", prettyName := "y" }]⟩ }
    let e₁ : Event := ⟨.logbookWriteCommit, .versionInfo
      { initID := "a", path := "/ipfs/QmA", bodyRows := 3, commitCount := 1 }⟩
    let e₂ : Event := ⟨.datasetDeleteAll, .string "b"⟩
    e₁.type ≠ .datasetNameInit ∧ e₂.type ≠ .datasetNameInit ∧ e₁.initID ≠ e₂.initID ∧
      (d.handler e₁).bind (·.handler e₂) = (d.handler e₂).bind (·.handler e₁) :=
  ⟨by decide, by decide, by decide, handler_commute_commit_delete _ _ _
    (by decide) (by decide) (by decide)⟩

/-- Two inits by the one owner of a non-empty cache, in either order: each order
keeps the old row and the row of the init that came last, and drops the other,
because the copy loop stops at `UsersLength()`. -/
theorem handler_init_order_keeps_different_rows :
    let x : RefEntryInfo :=
      { initID := "x", profileID := "QmZePf5LeXow3RW5U1AgEiNbW46YnRGhZ7HPvm1UmPFPwt", prettyName := "x" }
    let pid := x.profileID
    let d : Dscache := { root := some ⟨[⟨"alice", pid⟩], [x]⟩ }
    let e₁ : Event := ⟨.datasetNameInit,
      .versionInfo { initID := "a", username := "alice", profileID := pid, name := "a" }⟩
    let e₂ : Event := ⟨.datasetNameInit,
      .versionInfo { initID := "b", username := "alice", profileID := pid, name := "b" }⟩
    ((d.handler e₁).bind (·.handler e₂)).map (·.root.map (·.refs.map (·.initID)))
        = some (some ["x", "b"]) ∧
      ((d.handler e₂).bind (·.handler e₁)).map (·.root.map (·.refs.map (·.initID)))
        = some (some ["x", "a"]) := by
  decide

end Dscache

end Qri
