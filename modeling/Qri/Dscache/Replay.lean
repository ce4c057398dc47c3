import Qri.Dscache.Read

/-!
Replaying the logbook's event stream into an empty cache, against the index the
logbook itself defines.

The abstract side is `Index`: which `InitID`s have ever been initialised, and for
each live dataset its owner's profile ID, the name it was created with, its
current name and FSI path, and its latest commit. `Index.apply` is one event of
the stream; it fails on an event the logbook would not publish (an init that
reuses an `InitID` or carries a profile ID that is not 46 bytes, any other event
for a dataset that is not live), so `Index.replay` succeeding is what makes a
stream one the logbook can produce.

The cache does not keep all of that. The handler's rename case is a `TODO` and
it has no link case, so a row keeps the name it was created with and an empty
FSI path; the commit counters are stored at the schema's widths; and a counter a
commit has as 0 is not written, so the row keeps an earlier one. What a row does
show is `Latest.RowOf`: the row created at init, and once there is a commit, the
latest commit's path and title and each of its counters that is not 0. `Sound`
says the cache exists once a dataset has been initialised and every row shows a
distinct live dataset, `sound_step` that each event keeps it, and `sound_run`
the whole replay. It does not say that every live dataset has a row: the copy
loop of an init on a non-empty cache is bounded by the number of users, and
drops rows beyond it (as `i2` in `replay_rows_are_index_rows_example`).
-/

set_option autoImplicit false

namespace Qri

open Dscachefb (UserAssoc RefEntryInfo)

/-! ## The stream and the index it defines -/

/-- The events the logbook publishes, with what each carries. -/
inductive LogEvent
  | init (initID username profileID name : String)
  | commit (v : VersionInfo)
  | rename (initID newName : String)
  | link (initID dir : String)
  | deleteAll (initID : String)
deriving Repr, DecidableEq

namespace LogEvent

/-- The bus event the logbook publishes for a log event. -/
def toEvent : LogEvent → Event
  | .init i u p n =>
    ⟨.datasetNameInit, .versionInfo { initID := i, username := u, profileID := p, name := n }⟩
  | .commit v => ⟨.logbookWriteCommit, .versionInfo v⟩
  | .rename i n => ⟨.datasetRename, .dsChange i n ""⟩
  | .link i dir => ⟨.datasetCreateLink, .dsChange i "" dir⟩
  | .deleteAll i => ⟨.datasetDeleteAll, .string i⟩

end LogEvent

/-- What the logbook knows of a live dataset. -/
structure Latest where
  profileID : String
  createdName : String
  name : String
  fsiPath : String
  commit : Option VersionInfo

/-- The index the logbook defines: the `InitID`s initialised so far, and the
latest fields of every live dataset. -/
structure Index where
  seen : String → Bool
  datasets : String → Option Latest

namespace Index

def empty : Index := ⟨fun _ => false, fun _ => none⟩

/-- `datasets` with the entry for `i` replaced. -/
def set (idx : Index) (i : String) (v : Option Latest) : Index :=
  { idx with datasets := fun j => if j = i then v else idx.datasets j }

/-- One event of the stream; `none` for an event the logbook would not publish. -/
def apply (idx : Index) : LogEvent → Option Index
  | .init i _ p n =>
    if idx.seen i || !Dscache.validateProfileID p then none
    else some { idx.set i (some ⟨p, n, n, "", none⟩) with seen := fun j => j == i || idx.seen j }
  | .commit v => (idx.datasets v.initID).map fun lat =>
    idx.set v.initID (some { lat with commit := some v })
  | .rename i n => (idx.datasets i).map fun lat => idx.set i (some { lat with name := n })
  | .link i dir => (idx.datasets i).map fun lat => idx.set i (some { lat with fsiPath := dir })
  | .deleteAll i => (idx.datasets i).map fun _ => idx.set i none

def replay (idx : Index) (es : List LogEvent) : Option Index := es.foldlM apply idx

@[simp] theorem replay_nil (idx : Index) : idx.replay [] = some idx := rfl
@[simp] theorem replay_cons (idx : Index) (e : LogEvent) (es : List LogEvent) :
    idx.replay (e :: es) = (idx.apply e).bind (·.replay es) := rfl

@[simp] theorem set_datasets (idx : Index) (i j : String) (v : Option Latest) :
    (idx.set i v).datasets j = if j = i then v else idx.datasets j := rfl

@[simp] theorem set_seen (idx : Index) (i : String) (v : Option Latest) :
    (idx.set i v).seen = idx.seen := rfl

end Index

/-- The row an init creates for a live dataset: its profile ID and the name it
was created with, and zero commit fields. -/
def Latest.initRow (lat : Latest) (i : String) : RefEntryInfo :=
  Dscache.initEntry { initID := i, profileID := lat.profileID, name := lat.createdName }

/-- What the cache's row `r` for a live dataset shows: the row its init created,
and once there is a commit, that row changed only in the commit fields and
carrying the latest commit. A counter the latest commit has as 0 is left open:
flatbuffers-go does not write it. -/
def Latest.RowOf (lat : Latest) (i : String) (r : RefEntryInfo) : Prop :=
  match lat.commit with
  | none => r = lat.initRow i
  | some v => Dscache.ChangesOnlyCommitFields (lat.initRow i) r ∧ Dscache.CarriesCommit v r

theorem Latest.RowOf.changesOnlyCommitFields {lat : Latest} {i : String} {r : RefEntryInfo}
    (h : lat.RowOf i r) : Dscache.ChangesOnlyCommitFields (lat.initRow i) r := by
  unfold Latest.RowOf at h
  split at h
  · subst h; rfl
  · exact h.1

theorem Latest.RowOf.initID {lat : Latest} {i : String} {r : RefEntryInfo} (h : lat.RowOf i r) :
    r.initID = i :=
  h.changesOnlyCommitFields.initID

theorem Latest.RowOf.fsiPath {lat : Latest} {i : String} {r : RefEntryInfo} (h : lat.RowOf i r) :
    r.fsiPath = "" :=
  h.changesOnlyCommitFields.fsiPath

/-- A commit rewrites the row of the latest fields into the row of the new ones. -/
theorem Latest.RowOf.commit {lat : Latest} {i : String} {r : RefEntryInfo} (h : lat.RowOf i r)
    (v : VersionInfo) : { lat with commit := some v }.RowOf i (Dscache.commitMutation v r) :=
  ⟨h.changesOnlyCommitFields.commitMutation v, (Dscache.commitMutation_spec v r).2⟩

/-! ## The cache refines the index -/

namespace Dscache

/-- A list of rows of distinct live datasets of `idx`, each showing its dataset. -/
def RowsSound (idx : Index) (rs : List RefEntryInfo) : Prop :=
  (rs.map (·.initID)).Nodup ∧ ∀ r ∈ rs, ∃ lat, idx.datasets r.initID = some lat ∧ lat.RowOf r.initID r

/-- Every live dataset of the index has been initialised. -/
def SeenOfLive (idx : Index) : Prop := ∀ i lat, idx.datasets i = some lat → idx.seen i = true

/-- The cache refines the index: the switch is on, the cache exists once a
dataset has been initialised, and the rows are sound. -/
structure Sound (idx : Index) (d : Dscache) : Prop where
  createNew : d.createNewEnabled = true
  seenOfLive : SeenOfLive idx
  live : ∀ i, idx.seen i = true → d.root ≠ none
  rows : ∀ root, d.root = some root → RowsSound idx root.refs

section Rows

variable {idx : Index} {rs : List RefEntryInfo}

/-- A commit to a live dataset rewrites its rows into the rows of its new latest
fields. -/
theorem RowsSound.commit (h : RowsSound idx rs) {v : VersionInfo} {lat : Latest}
    (hl : idx.datasets v.initID = some lat) :
    RowsSound (idx.set v.initID (some { lat with commit := some v })) (rs.map (commitRow v)) := by
  refine ⟨by simpa [Function.comp_def] using h.1, fun r' hr' => ?_⟩
  obtain ⟨r, hr, rfl⟩ := List.mem_map.1 hr'
  obtain ⟨lat', hl', hrow⟩ := h.2 r hr
  by_cases hi : r.initID = v.initID
  · rw [hi, hl] at hl'
    cases hl'
    refine ⟨{ lat with commit := some v }, by simp [hi], ?_⟩
    simp only [commitRow, hi, if_true, commitRow_initID]
    exact hrow.commit v
  · exact ⟨lat', by simp [hi, hl'], by simpa [commitRow, hi] using hrow⟩

/-- A delete-all leaves the rows of the other datasets, which stay live. -/
theorem RowsSound.delete (h : RowsSound idx rs) (i : String) :
    RowsSound (idx.set i none) (rs.filter fun r => !(r.initID == i)) := by
  refine ⟨h.1.sublist ((List.filter_sublist _).map _), fun r hr => ?_⟩
  have hri : r.initID ≠ i := by simpa using (List.mem_filter.1 hr).2
  obtain ⟨lat, hl, hrow⟩ := h.2 r (List.mem_filter.1 hr).1
  exact ⟨lat, by simp [hri, hl], hrow⟩

/-- Changing latest fields the row does not show keeps the rows sound. -/
theorem RowsSound.set_same_row (h : RowsSound idx rs) {i : String} {lat lat' : Latest}
    (hl : idx.datasets i = some lat) (hrow : ∀ j r, lat.RowOf j r → lat'.RowOf j r) :
    RowsSound (idx.set i (some lat')) rs := by
  refine ⟨h.1, fun r hr => ?_⟩
  obtain ⟨lat₀, hl₀, hr₀⟩ := h.2 r hr
  by_cases hi : r.initID = i
  · rw [hi, hl] at hl₀
    cases hl₀
    exact ⟨lat', by simp [hi], hrow _ _ hr₀⟩
  · exact ⟨lat₀, by simp [hi, hl₀], hr₀⟩

theorem with_fsiPath_of_eq {r : RefEntryInfo} (h : r.fsiPath = "") :
    { r with fsiPath := "" } = r := by
  cases r; cases h; rfl

/-- An init of an unseen dataset on a non-empty cache: the rows the copy keeps,
then the new one. -/
theorem RowsSound.init (h : RowsSound idx rs) (hs : SeenOfLive idx) {i u p n : String}
    (hi : idx.seen i = false) (k : Nat) :
    RowsSound { idx.set i (some ⟨p, n, n, "", none⟩) with seen := fun j => j == i || idx.seen j }
      ((rs.take k).map (fun r => { r with fsiPath := "" }) ++
        [initEntry { initID := i, username := u, profileID := p, name := n }]) := by
  have hold : ∀ r ∈ rs, r.initID ≠ i := fun r hr hri => by
    obtain ⟨lat, hl, -⟩ := h.2 r hr
    simp [hri ▸ hs _ _ hl] at hi
  have hkeep : ∀ r ∈ rs.take k, { r with fsiPath := "" } = r := fun r hr => by
    obtain ⟨lat, -, hrow⟩ := h.2 r (List.mem_of_mem_take hr)
    exact with_fsiPath_of_eq hrow.fsiPath
  rw [List.map_congr_left hkeep, List.map_id']
  refine ⟨?_, fun r hr => ?_⟩
  · rw [List.map_append, List.nodup_append]
    refine ⟨h.1.sublist ((List.take_sublist _ _).map _), by simp, ?_⟩
    simp only [List.map_cons, List.map_nil, List.disjoint_singleton, List.mem_map, not_exists,
      not_and]
    exact fun r hr => hold r (List.mem_of_mem_take hr)
  · rcases List.mem_append.1 hr with hr | hr
    · obtain ⟨lat, hl, hrow⟩ := h.2 r (List.mem_of_mem_take hr)
      exact ⟨lat, by simp [hold r (List.mem_of_mem_take hr), hl], hrow⟩
    · rw [List.mem_singleton.1 hr]
      exact ⟨⟨p, n, n, "", none⟩, by simp [initEntry, Builder.entryOf, initInfo], rfl⟩

end Rows

/-! ## One event, then the whole stream -/

theorem SeenOfLive.set_some {idx : Index} (h : SeenOfLive idx) {i : String} {lat lat' : Latest}
    (hl : idx.datasets i = some lat) : SeenOfLive (idx.set i (some lat')) := fun j l hj => by
  by_cases hji : j = i
  · subst hji; exact h j lat hl
  · simp only [Index.set_datasets, hji, if_false] at hj; exact h j l hj

theorem SeenOfLive.set_none {idx : Index} (h : SeenOfLive idx) (i : String) :
    SeenOfLive (idx.set i none) := fun j l hj => by
  by_cases hji : j = i
  · simp [hji] at hj
  · simp only [Index.set_datasets, hji, if_false] at hj; exact h j l hj

theorem SeenOfLive.init {idx : Index} (h : SeenOfLive idx) (i : String) (lat : Latest) :
    SeenOfLive { idx.set i (some lat) with seen := fun j => j == i || idx.seen j } :=
  fun j l hj => by
    by_cases hji : j = i
    · simp [hji]
    · simp only [Index.set_datasets, hji, if_false] at hj
      simp [h j l hj]

/-- Commits and deletes keep the switch and the root, and rebuild only the rows. -/
theorem Sound.withRefs {idx idx' : Index} {d : Dscache} (hs : Sound idx d)
    (hseen : SeenOfLive idx') (hsame : idx'.seen = idx.seen)
    {f : List RefEntryInfo → List RefEntryInfo}
    (hf : ∀ rs, RowsSound idx rs → RowsSound idx' (f rs)) : Sound idx' (d.withRefs f) := by
  refine ⟨by simpa using hs.createNew, hseen, fun i hi => ?_, fun root' h' => ?_⟩
  · rw [Ne, withRefs_root_eq_none]
    exact hs.live i (hsame ▸ hi)
  · obtain ⟨root, hr, rfl⟩ := withRefs_root_eq_some.1 h'
    exact hf _ (hs.rows root hr)

/-- An init of an unseen dataset with a valid profile ID. On an empty cache it
builds the first row; on a non-empty one the rows the copy keeps stay sound. -/
theorem Sound.init {idx : Index} {d d' : Dscache} {i u p n : String} (hs : Sound idx d)
    (hi : idx.seen i = false) (hp : validateProfileID p = true)
    (hd : (d.updateInitDataset { initID := i, username := u, profileID := p, name := n }).map
      d.keepOnError = some d') :
    Sound { idx.set i (some ⟨p, n, n, "", none⟩) with seen := fun j => j == i || idx.seen j } d' := by
  have hseen := hs.seenOfLive.init i ⟨p, n, n, "", none⟩
  cases hr : d.root with
  | none =>
    rw [updateInitDataset_of_empty hr] at hd
    simp only [hs.createNew, hp, Bool.not_true, Bool.false_eq_true, if_false, Option.map_some',
      keepOnError_ok, Option.some.injEq] at hd
    subst hd
    have hnil : RowsSound idx [] := ⟨List.nodup_nil, by simp⟩
    exact ⟨rfl, hseen, fun _ _ => Option.some_ne_none _,
      fun _ h' => by cases h'; exact hnil.init hs.seenOfLive hi 0⟩
  | some root =>
    rw [updateInitDataset_of_root hr] at hd
    split_ifs at hd
    · simp only [Option.map_some', keepOnError_ok, Option.some.injEq] at hd
      subst hd
      exact ⟨hs.createNew, hseen, fun _ _ => Option.some_ne_none _, fun _ h' => by
        cases h'; exact (hs.rows root hr).init hs.seenOfLive hi root.users.length⟩
    · cases hd

/-- **One event keeps the cache sound.** -/
theorem sound_step {idx idx' : Index} {d d' : Dscache} {le : LogEvent} (hs : Sound idx d)
    (hi : idx.apply le = some idx') (hd : d.handler le.toEvent = some d') : Sound idx' d' := by
  cases le with
  | init i u p n =>
    simp only [Index.apply] at hi
    split at hi
    · cases hi
    · rename_i hg
      simp only [Bool.or_eq_true, Bool.not_eq_true', not_or, Bool.not_eq_true] at hg
      cases hi
      exact hs.init (u := u) hg.1 (by simpa using hg.2) hd
  | commit v =>
    obtain ⟨lat, hl, rfl⟩ := Option.map_eq_some'.1 hi
    simp only [LogEvent.toEvent, handler_commit, Option.some.injEq] at hd
    exact hd ▸ hs.withRefs (hs.seenOfLive.set_some hl) rfl fun rs h => h.commit hl
  | rename i _ | link i _ =>
    obtain ⟨lat, hl, rfl⟩ := Option.map_eq_some'.1 hi
    cases hd
    exact ⟨hs.createNew, hs.seenOfLive.set_some hl, hs.live,
      fun root hr => (hs.rows root hr).set_same_row hl fun _ _ => id⟩
  | deleteAll i =>
    obtain ⟨lat, hl, rfl⟩ := Option.map_eq_some'.1 hi
    simp only [LogEvent.toEvent, handler_delete, Option.some.injEq] at hd
    exact hd ▸ hs.withRefs (hs.seenOfLive.set_none i) rfl fun rs h => h.delete i

/-- **The whole replay keeps the cache sound.** -/
theorem sound_run {es : List LogEvent} {idx idx' : Index} {d d' : Dscache} (hs : Sound idx d)
    (hi : idx.replay es = some idx') (hd : d.run (es.map LogEvent.toEvent) = some d') :
    Sound idx' d' := by
  induction es generalizing idx d with
  | nil =>
    cases hi; cases hd; exact hs
  | cons le es ih =>
    obtain ⟨idx₁, hi₁, hi₂⟩ := Option.bind_eq_some.1 hi
    obtain ⟨d₁, hd₁, hd₂⟩ := Option.bind_eq_some.1 hd
    exact ih (sound_step hs hi₁ hd₁) hi₂ hd₂

end Dscache

end Qri
