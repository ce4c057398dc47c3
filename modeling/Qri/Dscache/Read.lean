import Qri.Dscache.Update

/-!
The read side of the dscache: `ListRefs`, `ResolveRef` with its two branches
`completeRef` and `LookupByName`, and the map `ensureProToUserMap` builds for
`ListRefs` (`dscache.go`, lines 137-265 and 436-448).

The three readers find the owner of a row in three different ways, and most of
what is proved about them later comes down to that. `completeRef` takes the
first user with the row's profile ID; `LookupByName` goes the other way, from
the first user with the asked username to a profile ID; and `ListRefs` reads a
Go map that `ensureProToUserMap` filled once, where the last user with a
profile ID wins, and never refills.

Go passes the ref by pointer and both resolvers write into it, so they return
the ref after the call next to their result. `LookupByName`, `completeRef` and
`ensureProToUserMap` dereference `d.Root` without a check; they are only
reached once `IsEmpty` has said there is a root, so they take the root itself.
-/

set_option autoImplicit false

namespace Qri

open Dscachefb (UserAssoc RefEntryInfo)

/-- `reporef.DatasetRef` as `ListRefs` fills it. The `Dataset` it points to is
flattened: its `Meta.Title`, `Structure.ErrCount`, `Structure.Entries`,
`Structure.Length` and `NumVersions`; its empty `Commit` is left out. -/
structure DatasetRef where
  peername : String
  profileID : String
  name : String
  path : String
  fsiPath : String
  metaTitle : String
  errCount : GoInt
  entries : GoInt
  length : GoInt
  numVersions : GoInt
deriving Repr, DecidableEq

namespace Dscache

/-! ## `ListRefs` -/

/-- `ensureProToUserMap`: fill the map from `Users` unless it is already
there. Later rows overwrite earlier ones with the same profile ID. -/
def ensureProToUserMap (d : Dscache) (root : Dscachefb.Dscache) : Dscache :=
  match d.profileIDToUsername with
  | some _ => d
  | none =>
    let m := root.users.foldl (fun m u => (u.profileID, u.username) :: m) []
    { d with profileIDToUsername := some m }

section ListRefs

/- `profile.IDB58Decode`, which `ListRefs` applies to each row's profile ID.
The `profile` package is not among the sources, so it is a parameter; `ListRefs`
only logs its error and keeps the ID it returns, which is what the parameter
gives. -/
variable (idB58Decode : String → String)

/-- The `reporef.DatasetRef` `ListRefs` makes of one row, given the map. -/
def datasetRefOf (m : GoMap) (r : RefEntryInfo) : DatasetRef :=
  { peername := m.get r.profileID
    profileID := idB58Decode r.profileID
    name := r.prettyName
    path := r.headRef
    fsiPath := r.fsiPath
    metaTitle := r.metaTitle
    errCount := Go.int r.numErrors
    entries := Go.int r.bodyRows
    length := r.bodySize
    numVersions := Go.int r.topIndex }

/-- `ListRefs`: `ErrNoDscache` on an empty cache; otherwise one ref per row, in
order, after making sure the map exists. -/
def listRefs (d : Dscache) : Except DscacheError (List DatasetRef) × Dscache :=
  match d.root with
  | none => (.error .noDscache, d)
  | some root =>
    let d := d.ensureProToUserMap root
    (.ok (root.refs.map (datasetRefOf idB58Decode (d.profileIDToUsername.getD []))), d)

theorem listRefs_of_root {d : Dscache} {root : Dscachefb.Dscache} (h : d.root = some root) :
    d.listRefs idB58Decode =
      (.ok (root.refs.map (datasetRefOf idB58Decode
        ((d.ensureProToUserMap root).profileIDToUsername.getD []))),
       d.ensureProToUserMap root) := by
  simp [listRefs, h]

end ListRefs

/-- The map `ensureProToUserMap` builds reads, for each profile ID, the username
of the last user holding it. -/
theorem get_foldl_users (us : List UserAssoc) (m : GoMap) (p : String) :
    GoMap.get (us.foldl (fun m u => (u.profileID, u.username) :: m) m) p =
      match (us.reverse.find? (fun u => u.profileID == p)) with
      | some u => u.username
      | none => m.get p := by
  induction us generalizing m with
  | nil => rfl
  | cons u us ih =>
    rw [List.foldl_cons, ih, List.reverse_cons, List.find?_append]
    cases hf : us.reverse.find? (fun u => u.profileID == p) with
    | some w => rfl
    | none =>
      by_cases hp : u.profileID = p
      · simp [GoMap.get, List.lookup_cons, hp]
      · have hne : (p == u.profileID) = false := beq_false_of_ne (Ne.symm hp)
        simp [GoMap.get, List.lookup_cons, hp, hne]

/-! ## `ResolveRef` -/

/-- `completeRef`: the first row with the ref's `InitID` gives the path,
profile ID and name, and the first user with that profile ID the username. -/
def completeRef (root : Dscachefb.Dscache) (ref : Ref) : Except DscacheError String × Ref :=
  match root.refs.find? (fun r => r.initID == ref.initID) with
  | none => (.error .refNotFound, ref)
  | some r =>
    let ref := { ref with path := r.headRef, profileID := r.profileID, name := r.prettyName }
    let ref := match root.users.find? (fun u => u.profileID == ref.profileID) with
      | some u => { ref with username := u.username }
      | none => ref
    (.ok "", ref)

/-- `LookupByName`: the first user with the ref's username gives a profile ID
(the ref's own one is kept when none does), and the first row with that profile
ID and the ref's name is the answer. The ref is passed by value. -/
def lookupByName (root : Dscachefb.Dscache) (ref : Ref) : Except DscacheError VersionInfo :=
  let ref := match root.users.find? (fun u => ref.username == u.username) with
    | some u => { ref with profileID := u.profileID }
    | none => ref
  if ref.profileID == "" then .error (.unknownUsername ref.username)
  else
    match root.refs.find? (fun r => r.profileID == ref.profileID && r.prettyName == ref.name) with
    | some r => .ok (convertEntryToVersionInfo r)
    | none => .error (.datasetRefNotFound ref.username ref.name)

/-- `ResolveRef`: `ErrRefNotFound` on an empty cache; `completeRef` when the
`InitID` is set; otherwise `LookupByName`, whose errors all become
`ErrRefNotFound`, and on success the `InitID`, the profile ID and, only if the
ref had none, the path. -/
def resolveRef (d : Dscache) (ref : Ref) : Except DscacheError String × Ref :=
  match d.root with
  | none => (.error .refNotFound, ref)
  | some root =>
    if ref.initID != "" then completeRef root ref
    else
      match lookupByName root ref with
      | .error _ => (.error .refNotFound, ref)
      | .ok vi =>
        let path := if ref.path == "" then vi.path else ref.path
        (.ok "", { ref with initID := vi.initID, profileID := vi.profileID, path := path })

/-- What `LookupByName` returns is a row of the table, converted. -/
theorem lookupByName_ok {root : Dscachefb.Dscache} {ref : Ref} {vi : VersionInfo}
    (h : lookupByName root ref = .ok vi) :
    ∃ r ∈ root.refs, vi = convertEntryToVersionInfo r := by
  simp only [lookupByName] at h
  split at h
  · cases h
  · split at h
    · rename_i r hr
      exact ⟨r, List.mem_of_find?_eq_some hr, (Except.ok.inj h).symm⟩
    · cases h

end Dscache

/-- In a list where only `x` satisfies `p`, `find?` finds `x`. -/
theorem find?_eq_of_unique {α : Type} {p : α → Bool} {l : List α} {x : α}
    (hx : x ∈ l) (hp : p x = true) (huniq : ∀ y ∈ l, p y = true → y = x) :
    l.find? p = some x := by
  induction l with
  | nil => cases hx
  | cons y ys ih =>
    by_cases hy : p y = true
    · rw [List.find?_cons_of_pos _ hy, huniq y (List.mem_cons_self _ _) hy]
    · rw [List.find?_cons_of_neg _ hy]
      rcases List.mem_cons.1 hx with rfl | hx'
      · exact absurd hp hy
      · exact ih hx' fun z hz => huniq z (List.mem_cons_of_mem _ hz)

end Qri
