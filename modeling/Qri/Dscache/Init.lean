import Qri.Dscache.Read

/-!
`ETDatasetNameInit` and the tables it fills. The two branches of
`updateInitDataset` are not written alike. The empty-cache branch validates the
profile ID and records the event's user; the non-empty branch does neither, and
copies the old rows with a loop bounded by the number of users.

What survives that is an invariant of the `Users` table alone: only the
empty-cache branch ever adds a user, and it validates first, so every user of
every cache the handler can reach from an empty one has a 46-byte profile ID
(`run_users_profileID_valid`). The rows have no such guarantee: once the cache
is non-empty an init with any profile ID is appended
(`run_init_accepts_invalid_profileID`), and an init on a cache with more rows
than users drops rows, clears `FsiPath` on the ones it keeps and leaves the new
owner out of `Users` (`updateInitDataset_drops_rows`).
-/

set_option autoImplicit false

namespace Qri

open Dscachefb (UserAssoc RefEntryInfo)

namespace Dscache

/-! ## The users table over a run -/

/-- Every user of the cache has a profile ID `validateProfileID` accepts. -/
def UsersValid (d : Dscache) : Prop :=
  ∀ root, d.root = some root → ∀ u ∈ root.users, validateProfileID u.profileID = true

/-- An init keeps `UsersValid`: the only branch that adds a user validates it. -/
theorem usersValid_updateInitDataset {d d' : Dscache} {act : VersionInfo} (hv : UsersValid d)
    (h : (d.updateInitDataset act).map d.keepOnError = some d') : UsersValid d' := by
  cases hr : d.root with
  | none =>
    rw [updateInitDataset_of_empty hr] at h
    simp only [Option.map_some', Option.some.injEq] at h
    subst h
    split_ifs with hc hp
    · exact hv
    · exact hv
    · intro root hroot u hu
      simp only [keepOnError_ok, Option.some.injEq] at hroot
      subst hroot
      simp only [List.mem_singleton] at hu
      subst hu
      simpa using hp
  | some root =>
    rw [updateInitDataset_of_root hr] at h
    split_ifs at h
    · simp only [Option.map_some', keepOnError_ok, Option.some.injEq] at h
      subst h
      intro root' hroot'
      simp only [Option.some.injEq] at hroot'
      subst hroot'
      exact hv root hr
    · cases h

/-- Commits and deletes never touch the users. -/
theorem usersValid_withRefs {d : Dscache} (f : List RefEntryInfo → List RefEntryInfo)
    (hv : UsersValid d) : UsersValid (d.withRefs f) := by
  intro root' h'
  obtain ⟨root, hr, rfl⟩ := withRefs_root_eq_some.1 h'
  exact hv root hr

theorem usersValid_handler {d d' : Dscache} {e : Event} (hv : UsersValid d)
    (h : d.handler e = some d') : UsersValid d' := by
  rcases handler_cases e with ⟨act, rfl⟩ | ⟨act, rfl⟩ | ⟨i, rfl⟩ | hid
  · exact usersValid_updateInitDataset hv h
  · simp only [handler_commit, Option.some.injEq] at h
    exact h ▸ usersValid_withRefs _ hv
  · simp only [handler_delete, Option.some.injEq] at h
    exact h ▸ usersValid_withRefs _ hv
  · rw [hid, Option.some.injEq] at h
    exact h ▸ hv

theorem usersValid_run {d d' : Dscache} {es : List Event} (hv : UsersValid d)
    (h : d.run es = some d') : UsersValid d' := by
  induction es generalizing d with
  | nil => simpa [← Option.some.inj h] using hv
  | cons e es ih =>
    rw [run_cons, Option.bind_eq_some] at h
    obtain ⟨d₁, h₁, h₂⟩ := h
    exact ih (usersValid_handler hv h₁) h₂

/-- **Every user of a reachable cache has a well-formed profile ID.** Whatever
events the handler is given, starting from an empty cache, every `Users` row of
every cache it reaches has a profile ID of 46 bytes. -/
theorem run_users_profileID_valid (d₀ : Dscache) (h₀ : d₀.root = none) (es : List Event)
    (d : Dscache) (hd : d₀.run es = some d) :
    ∀ root, d.root = some root → ∀ u ∈ root.users, u.profileID.utf8ByteSize = 46 := by
  intro root hroot u hu
  have := usersValid_run (fun root h => by simp [h₀] at h) hd root hroot u hu
  simpa [validateProfileID, lengthOfProfileID] using this

theorem run_users_profileID_valid_example :
    let es : List Event :=
      [⟨.datasetNameInit, .versionInfo { initID := "i1", username := "alice", name := "a",
                                          profileID := "QmZePf5LeXow3RW5U1AgEiNbW46YnRGhZ7HPvm1UmPFPwt" }⟩]
    ∃ d, ({ createNewEnabled := true } : Dscache).run es = some d ∧
      ∀ root, d.root = some root → ∀ u ∈ root.users, u.profileID.utf8ByteSize = 46 := by
  intro es
  exact ⟨_, rfl, run_users_profileID_valid { createNewEnabled := true } rfl es _ rfl⟩

/-! ## The rows are not guarded -/

/-- From an empty cache, a first init with a valid profile ID and a second with
a three-byte one: the second is appended, and its row carries the bad ID. -/
theorem run_init_accepts_invalid_profileID :
    let d₀ : Dscache := { createNewEnabled := true }
    let es : List Event :=
      [⟨.datasetNameInit, .versionInfo { initID := "i1", username := "alice", name := "a",
                                          profileID := "QmZePf5LeXow3RW5U1AgEiNbW46YnRGhZ7HPvm1UmPFPwt" }⟩,
       ⟨.datasetNameInit, .versionInfo { initID := "i2", username := "bob", name := "b",
                                          profileID := "bad" }⟩]
    (d₀.run es).map (·.root.map (·.refs.map (·.profileID)))
      = some (some ["QmZePf5LeXow3RW5U1AgEiNbW46YnRGhZ7HPvm1UmPFPwt", "bad"]) := by
  decide

/-- An init on a cache of one user and two rows. The second row is dropped, the
first loses its `FsiPath`, and the new owner `bob` is not added, so the new
dataset cannot be found by its owner's name. With two users and one row the copy
reads past the `Refs` vector. -/
theorem updateInitDataset_drops_rows :
    let ra : RefEntryInfo := { initID := "a", profileID := "pa", prettyName := "a",
                               fsiPath := "/home/alice/a" }
    let rb : RefEntryInfo := { initID := "b", profileID := "pa", prettyName := "b" }
    let act : VersionInfo := { initID := "c", username := "bob", profileID := "pb", name := "c" }
    let d : Dscache := { root := some ⟨[⟨"alice", "pa"⟩], [ra, rb]⟩ }
    let root' := ((d.updateInitDataset act).bind (·.toOption)).bind (·.root)
    root'.map (·.refs.map (·.initID)) = some ["a", "c"] ∧
    root'.map (·.refs.map (·.fsiPath)) = some ["", ""] ∧
    root'.map (·.users) = some [⟨"alice", "pa"⟩] ∧
    root'.map (lookupByName · { username := "bob", name := "c" })
      = some (.error (.unknownUsername "bob")) ∧
    ({ root := some ⟨[⟨"alice", "pa"⟩, ⟨"bob", "pb"⟩], [ra]⟩ } : Dscache).updateInitDataset act
      = none := by
  decide

end Dscache

end Qri
