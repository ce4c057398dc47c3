import Qri.Dscache.Read

/-!
Resolution. `ResolveRef` answers the same question two ways: by `InitID`
through `completeRef`, or by `(Username, Name)` through `LookupByName`. This
file says when the two agree, and where the code treats the ref's own fields
differently in the two branches.

The agreement (`resolveRef_name_initID_agree`) needs the tables to be keyed the
way the spec describes them: usernames and profile IDs each name one user,
`InitID`s and `(ProfileID, PrettyName)` pairs each one row. Under those, every
first-match loop of the two readers hits the row or user the other one would,
which is `find?_eq_of_unique` each time. It also needs the row's `InitID` and
profile ID to be non-empty, because both readers use the empty string for "not
given": an empty `InitID` sends `ResolveRef` to the name branch, and an empty
profile ID makes `LookupByName` report an unknown user.

The two branches do not treat a path the caller already set alike. The name
branch keeps it; `completeRef` overwrites it with the row's head
(`resolveRef_initID_replaces_path`). And `ListRefs` reads owners
from a map filled once, so after `Assign` it can disagree with `completeRef`
about who owns a row (`listRefs_peername_stale_after_assign`), while on a fresh
map it agrees (`listRefs_peername_eq_completeRef`).
-/

set_option autoImplicit false

namespace Qri

open Dscachefb (UserAssoc RefEntryInfo)

namespace Dscache

/-! ## Unique keys make the first match the only one -/

section Keys

variable {us : List UserAssoc} {rs : List RefEntryInfo}

theorem find_user_by_username (hu : (us.map (·.username)).Nodup)
    {x : UserAssoc} (hx : x ∈ us) (name : String) (hn : name = x.username) :
    us.find? (fun u => name == u.username) = some x :=
  find?_eq_of_unique hx (by simp [hn]) fun y hy h =>
    List.inj_on_of_nodup_map hu hy hx (by rw [hn, beq_iff_eq] at h; exact h.symm)

theorem find_user_by_profileID (hp : (us.map (·.profileID)).Nodup)
    {x : UserAssoc} (hx : x ∈ us) :
    us.find? (fun u => u.profileID == x.profileID) = some x :=
  find?_eq_of_unique hx (by simp) fun y hy h =>
    List.inj_on_of_nodup_map hp hy hx (by simpa using h)

theorem find_ref_by_initID (hi : (rs.map (·.initID)).Nodup)
    {e : RefEntryInfo} (he : e ∈ rs) :
    rs.find? (fun r => r.initID == e.initID) = some e :=
  find?_eq_of_unique he (by simp) fun y hy h =>
    List.inj_on_of_nodup_map hi hy he (by simpa using h)

theorem find_ref_by_name (hn : (rs.map fun r => (r.profileID, r.prettyName)).Nodup)
    {e : RefEntryInfo} (he : e ∈ rs) :
    rs.find? (fun r => r.profileID == e.profileID && r.prettyName == e.prettyName) = some e :=
  find?_eq_of_unique he (by simp) fun y hy h =>
    List.inj_on_of_nodup_map hn hy he (by simpa using h)

end Keys

/-! ## The two branches agree -/

section Agree

variable {d : Dscache} {root : Dscachefb.Dscache} (hroot : d.root = some root)
  (hus : (root.users.map (·.username)).Nodup) (hps : (root.users.map (·.profileID)).Nodup)
  (his : (root.refs.map (·.initID)).Nodup)
  (hns : (root.refs.map fun r => (r.profileID, r.prettyName)).Nodup)
  {e : RefEntryInfo} (he : e ∈ root.refs) {u : String}
  (hu : (⟨u, e.profileID⟩ : UserAssoc) ∈ root.users)

include hroot hps his he hu in
/-- By `InitID`: `completeRef` fills in the row and its owner. -/
theorem resolveRef_by_initID (hi : e.initID ≠ "") :
    d.resolveRef { initID := e.initID } =
      (.ok "", { username := u, name := e.prettyName, profileID := e.profileID,
                 initID := e.initID, path := e.headRef }) := by
  have hi' : (e.initID != "") = true := by simpa using hi
  simp only [resolveRef, hroot, hi', if_true, completeRef, find_ref_by_initID his he]
  rw [find_user_by_profileID hps hu]

include hroot hus hns he hu in
/-- By name: `LookupByName` finds the owner, then the row. -/
theorem resolveRef_by_name (hp : e.profileID ≠ "") :
    d.resolveRef { username := u, name := e.prettyName } =
      (.ok "", { username := u, name := e.prettyName, profileID := e.profileID,
                 initID := e.initID, path := e.headRef }) := by
  have hlook : lookupByName root { username := u, name := e.prettyName }
      = .ok (convertEntryToVersionInfo e) := by
    have hp' : (e.profileID == "") = false := by simpa using hp
    simp only [lookupByName, find_user_by_username hus hu u rfl, hp', Bool.false_eq_true,
      if_false, find_ref_by_name hns he]
  simp [resolveRef, hroot, hlook, convertEntryToVersionInfo]

include hroot in
/-- A name that no row matches is not found, and the ref is left as it was. -/
theorem resolveRef_by_name_not_found (un nm : String)
    (hno : ¬ ∃ r ∈ root.refs, (⟨un, r.profileID⟩ : UserAssoc) ∈ root.users ∧ r.prettyName = nm) :
    d.resolveRef { username := un, name := nm }
      = (.error .refNotFound, { username := un, name := nm }) := by
  have hlook : ∃ err, lookupByName root { username := un, name := nm } = .error err := by
    simp only [lookupByName]
    cases hf : root.users.find? (fun u => un == u.username) with
    | none => simp
    | some x =>
      have hx := List.mem_of_find?_eq_some hf
      have hxn : x.username = un := by
        have h := List.find?_some hf
        rw [beq_iff_eq] at h
        exact h.symm
      split
      · exact ⟨_, rfl⟩
      · cases hr : root.refs.find? (fun r => r.profileID == x.profileID && r.prettyName == nm) with
        | none => exact ⟨_, rfl⟩
        | some r =>
          have hr' := List.find?_some hr
          simp only [Bool.and_eq_true, beq_iff_eq] at hr'
          exact absurd ⟨r, List.mem_of_find?_eq_some hr, hr'.1 ▸ hxn ▸ hx, hr'.2⟩ hno
  obtain ⟨err, herr⟩ := hlook
  simp [resolveRef, hroot, herr]

include hroot hus hps his hns he hu in
/-- **Resolution by name and by `InitID` agree.** In a cache whose users and rows
are keyed uniquely, a row with a non-empty `InitID` and profile ID owned by `u`
is resolved, by `(u, PrettyName)` and by its `InitID` alike, to the same fully
filled ref; and a `(username, name)` no row matches is not found and leaves the
ref untouched. -/
theorem resolveRef_name_initID_agree (hi : e.initID ≠ "") (hp : e.profileID ≠ "") :
    let full : Ref := { username := u, name := e.prettyName, profileID := e.profileID,
                        initID := e.initID, path := e.headRef }
    d.resolveRef { username := u, name := e.prettyName } = (.ok "", full) ∧
    d.resolveRef { initID := e.initID } = (.ok "", full) ∧
    ∀ un nm : String,
      (¬ ∃ r ∈ root.refs, (⟨un, r.profileID⟩ : UserAssoc) ∈ root.users ∧ r.prettyName = nm) →
      d.resolveRef { username := un, name := nm }
        = (.error .refNotFound, { username := un, name := nm }) :=
  ⟨resolveRef_by_name hroot hus hns he hu hp, resolveRef_by_initID hroot hps his he hu hi,
    resolveRef_by_name_not_found hroot⟩

end Agree

/-- Two owners with a dataset of the same name, one of whom owns a second one:
`bob`'s `ds` is resolved alike by name and by `InitID`. -/
theorem resolveRef_name_initID_agree_example :
    let d : Dscache := { root := some ⟨[⟨"alice", "p1"⟩, ⟨"bob", "p2"⟩],
      [{ initID := "i1", profileID := "p1", prettyName := "ds", headRef := "/h1" },
       { initID := "i2", profileID := "p2", prettyName := "ds", headRef := "/h2" },
       { initID := "i3", profileID := "p1", prettyName := "other", headRef := "/h3" }]⟩ }
    let full : Ref := { username := "bob", name := "ds", profileID := "p2", initID := "i2",
                        path := "/h2" }
    d.resolveRef { username := "bob", name := "ds" } = (.ok "", full) ∧
      d.resolveRef { initID := "i2" } = (.ok "", full) := by
  intro d full
  have h := resolveRef_name_initID_agree (d := d) (u := "bob")
    (e := { initID := "i2", profileID := "p2", prettyName := "ds", headRef := "/h2" })
    rfl (by decide) (by decide) (by decide) (by decide) (by simp) (by simp) (by decide) (by decide)
  exact ⟨h.1, h.2.1⟩

/-- The agreement fails without the non-empty conditions: a row whose profile ID
is empty, in a cache that meets every uniqueness condition, is found by its
`InitID` but not by its owner's name, since `LookupByName` reads an empty
profile ID as an unknown user. -/
theorem resolveRef_empty_profileID_not_found_by_name :
    let e : RefEntryInfo := { initID := "i1", profileID := "", prettyName := "ds" }
    let d : Dscache := { root := some ⟨[⟨"alice", ""⟩], [e]⟩ }
    d.resolveRef { username := "alice", name := "ds" }
        = (.error .refNotFound, { username := "alice", name := "ds" }) ∧
      d.resolveRef { initID := "i1" }
        = (.ok "", { username := "alice", name := "ds", initID := "i1" }) := by
  decide

/-! ## A path the caller set -/

/-- The `InitID` branch does not keep a path the caller set, as the name branch
does: `completeRef` writes the row's head over a path the caller pinned, and
reports success. -/
theorem resolveRef_initID_replaces_path :
    let d : Dscache := { root := some ⟨[⟨"alice", "QmZePf5LeXow3RW5U1AgEiNbW46YnRGhZ7HPvm1UmPFPwt"⟩],
      [{ initID := "i1", profileID := "QmZePf5LeXow3RW5U1AgEiNbW46YnRGhZ7HPvm1UmPFPwt",
         prettyName := "ds", headRef := "/ipfs/QmHead" }]⟩ }
    d.resolveRef { initID := "i1", path := "/ipfs/QmPinned" }
      = (.ok "", { username := "alice", profileID := "QmZePf5LeXow3RW5U1AgEiNbW46YnRGhZ7HPvm1UmPFPwt",
                   name := "ds", initID := "i1", path := "/ipfs/QmHead" }) := by
  decide

/-! ## Owners as `ListRefs` reports them -/

/-- On a fresh map, the owner `ListRefs` names for a row is the last user with
the row's profile ID. -/
theorem listRefs_peername_fresh {d : Dscache} {root : Dscachefb.Dscache}
    (hroot : d.root = some root) (hmap : d.profileIDToUsername = none)
    (dec : String → String) :
    (d.listRefs dec).1 = .ok (root.refs.map fun r => { datasetRefOf dec [] r with
      peername := match root.users.reverse.find? (fun u => u.profileID == r.profileID) with
        | some u => u.username
        | none => "" }) := by
  simp only [listRefs_of_root dec hroot, ensureProToUserMap, hmap, Option.getD_some]
  congr 1
  refine List.map_congr_left fun r _ => ?_
  simp only [datasetRefOf, get_foldl_users]
  rfl

/-- **`ListRefs` and `completeRef` agree on a fresh map.** When the map is built
by this call and no two users share a profile ID, every row's `Peername` is the
username `completeRef` fills in for that row's `InitID` (rows keyed uniquely by
`InitID`). -/
theorem listRefs_peername_eq_completeRef {d : Dscache} {root : Dscachefb.Dscache}
    (hroot : d.root = some root) (hmap : d.profileIDToUsername = none)
    (hps : (root.users.map (·.profileID)).Nodup) (his : (root.refs.map (·.initID)).Nodup)
    (dec : String → String) :
    ∃ refs, (d.listRefs dec).1 = .ok refs ∧
      List.Forall₂ (fun r dr => dr.peername = (completeRef root { initID := r.initID }).2.username)
        root.refs refs := by
  refine ⟨_, listRefs_peername_fresh hroot hmap dec, ?_⟩
  rw [List.forall₂_map_right_iff]
  refine List.forall₂_same.2 fun r hr => ?_
  have hrev : (root.users.reverse.map (·.profileID)).Nodup := by
    rw [List.map_reverse]; exact List.nodup_reverse.2 hps
  simp only [completeRef, find_ref_by_initID his hr]
  cases hf : root.users.find? (fun u => u.profileID == r.profileID) with
  | none =>
    have : root.users.reverse.find? (fun u => u.profileID == r.profileID) = none := by
      simpa [List.find?_eq_none] using hf
    simp [this]
  | some x =>
    have hx := List.mem_of_find?_eq_some hf
    have hxp : x.profileID = r.profileID := by simpa using List.find?_some hf
    have : root.users.reverse.find? (fun u => u.profileID == r.profileID) = some x := by
      rw [← hxp]; exact find_user_by_profileID hrev (List.mem_reverse.2 hx)
    simp [this]

/-- Two owners and a row whose profile ID no user has: `ListRefs` names `alice`,
`bob` and no one, as `completeRef` does. -/
theorem listRefs_peername_eq_completeRef_example :
    let root : Dscachefb.Dscache := ⟨[⟨"alice", "p1"⟩, ⟨"bob", "p2"⟩],
      [{ initID := "i1", profileID := "p1" }, { initID := "i2", profileID := "p2" },
       { initID := "i3", profileID := "p3" }]⟩
    ∃ refs, (({ root := some root } : Dscache).listRefs id).1 = .ok refs ∧
      List.Forall₂ (fun (r : RefEntryInfo) (dr : DatasetRef) => dr.peername =
          (completeRef root { initID := r.initID }).2.username) root.refs refs := by
  intro root
  exact listRefs_peername_eq_completeRef rfl rfl (by decide) (by decide) id

/-- After `ListRefs` has filled the map, `Assign` brings in a new user and row;
the next `ListRefs` reports no owner for the new row, while `completeRef` on the
same buffer finds `bob`. -/
theorem listRefs_peername_stale_after_assign :
    let ra : RefEntryInfo :=
      { initID := "a", profileID := "QmZePf5LeXow3RW5U1AgEiNbW46YnRGhZ7HPvm1UmPFPwt", prettyName := "a" }
    let rb : RefEntryInfo :=
      { initID := "b", profileID := "QmWYgD49r9HnuXEppQEq1a7SUUryja4QNs9E6XCH2PayCD", prettyName := "b" }
    let pa := ra.profileID
    let pb := rb.profileID
    let d₀ : Dscache := { root := some ⟨[⟨"alice", pa⟩], [ra]⟩ }
    let other : Dscache := { root := some ⟨[⟨"alice", pa⟩, ⟨"bob", pb⟩], [ra, rb]⟩ }
    let d₁ := ((d₀.listRefs id).2).assign other
    ((d₁.listRefs id).1.toOption.map (·.map (·.peername))) = some ["alice", ""] ∧
      (completeRef ⟨[⟨"alice", pa⟩, ⟨"bob", pb⟩], [ra, rb]⟩ { initID := "b" }).2.username
        = "bob" := by
  decide

end Dscache

end Qri
