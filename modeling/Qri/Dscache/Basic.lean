import Qri.Go.Basic

/-!
The data the dscache works on (`dscache/dscache.go`), as the Go code reads and
writes it.

Three packages meet here. `dsref` gives the two records resolvers pass around,
`Ref` and `VersionInfo`; `dscachefb` gives the flatbuffer tables the cache is
serialised as, `UserAssoc`, `RefEntryInfo` and the root table `Dscache`; and
`dscache` itself gives the in-memory wrapper, also called `Dscache`, that holds
the root table, the `CreateNewEnabled` switch and the lazily built
`ProfileIDToUsername` map. None of `dsref`, `dscachefb` or `event` is among the
sources, so their records are written down here with exactly the fields
`dscache.go` touches.

The flatbuffer's `int` columns are 32 bits, and the conversions `int32(x)` and
`int(y)` of `Qri.Go.Basic` are where a commit's counters can change on the way
into the cache. A flatbuffer field that was never written reads as its default,
which is why every field of a table has one.
-/

set_option autoImplicit false

namespace Qri

/-- A `time.Time`, by its instant: Unix seconds and the nanoseconds within that
second. The location is not modelled; nothing in the cache reads it. -/
structure Time where
  unix : BitVec 64
  nsec : Fin 1000000000
deriving Repr, DecidableEq

namespace Time

/-- Go's zero `time.Time`, January 1 of year 1, UTC. -/
def zero : Time := ⟨BitVec.ofInt 64 (-62135596800), 0⟩

/-- `time.Unix(sec, 0)`. -/
def ofUnix (sec : BitVec 64) : Time := ⟨sec, 0⟩

/-- `t.Truncate(time.Second)`: the zero time is a whole second, so truncation
only clears the nanoseconds. -/
def truncateSecond (t : Time) : Time := ⟨t.unix, 0⟩

end Time

/-! ## `dsref` -/

/-- `dsref.Ref`: any subset of the fields may be set; resolvers fill in the rest. -/
structure Ref where
  username : String := ""
  profileID : String := ""
  name : String := ""
  initID : String := ""
  path : String := ""
deriving Repr, DecidableEq

/-- `dsref.VersionInfo`, with the fields `dscache.go` and the builder read. -/
structure VersionInfo where
  initID : String := ""
  username : String := ""
  profileID : String := ""
  name : String := ""
  path : String := ""
  published : Bool := false
  foreign : Bool := false
  metaTitle : String := ""
  themeList : String := ""
  bodySize : GoInt := 0
  bodyRows : GoInt := 0
  bodyFormat : String := ""
  numErrors : GoInt := 0
  commitTime : Time := Time.zero
  commitCount : GoInt := 0
  fsiPath : String := ""
deriving Repr, DecidableEq

/-! ## `dscachefb` -/

namespace Dscachefb

/-- A row of the `Users` table. -/
structure UserAssoc where
  username : String := ""
  profileID : String := ""
deriving Repr, DecidableEq

/-- A row of the `Refs` table, at the widths the flatbuffer schema stores. -/
structure RefEntryInfo where
  initID : String := ""
  profileID : String := ""
  topIndex : BitVec 32 := 0
  cursorIndex : BitVec 32 := 0
  prettyName : String := ""
  published : Bool := false
  foreign : Bool := false
  metaTitle : String := ""
  themeList : String := ""
  bodySize : BitVec 64 := 0
  bodyRows : BitVec 32 := 0
  bodyFormat : String := ""
  numErrors : BitVec 32 := 0
  commitTime : BitVec 64 := 0
  commitCount : BitVec 32 := 0
  headRef : String := ""
  fsiPath : String := ""
deriving Repr, DecidableEq

/-- The root table. `Users(&u, i)` and `Refs(&r, i)` read row `i` of a vector. -/
structure Dscache where
  users : List UserAssoc
  refs : List RefEntryInfo
deriving Repr, DecidableEq

/-- `Refs(&r, i)`. The generated accessor does no bounds check: past
`RefsLength()` it decodes whatever bytes follow the vector, so an index out of
range is a fault, `none`, and not a row. -/
def Dscache.refsAt (root : Dscache) (i : Nat) : Option RefEntryInfo := root.refs[i]?

end Dscachefb

open Dscachefb (UserAssoc RefEntryInfo)

/-- `convertEntryToVersionInfo`. `FsiPath` and the two indexes are not carried. -/
def convertEntryToVersionInfo (r : RefEntryInfo) : VersionInfo :=
  { initID := r.initID
    profileID := r.profileID
    name := r.prettyName
    path := r.headRef
    published := r.published
    foreign := r.foreign
    metaTitle := r.metaTitle
    themeList := r.themeList
    bodySize := r.bodySize
    bodyRows := Go.int r.bodyRows
    bodyFormat := r.bodyFormat
    numErrors := Go.int r.numErrors
    commitTime := Time.ofUnix r.commitTime
    commitCount := Go.int r.commitCount }

/-! ## The cache and what reaches it -/

/-- A Go `map[string]string` as the assignments made to it, newest first, so the
first hit of `List.lookup` is the value a read sees. -/
abbrev GoMap := List (String × String)

/-- `m[k]`: the zero value `""` when the key is absent, also in a nil map. -/
def GoMap.get (m : GoMap) (k : String) : String := (m.lookup k).getD ""

/-- The `dscache.Dscache` wrapper. `Root == nil` is `root = none`. The `Buffer`
is the serialised `Root` and is not kept apart from it; `Filename` is only read
by `save`, which writes the buffer to disk and is not modelled. -/
structure Dscache where
  root : Option Dscachefb.Dscache := none
  createNewEnabled : Bool := false
  profileIDToUsername : Option GoMap := none
deriving Repr, DecidableEq

/-- The errors `dscache.go` returns. -/
inductive DscacheError
  /-- `ErrNoDscache`, "dscache: does not exist". -/
  | noDscache
  /-- `ErrInvalidProfileID`, "invalid profileID". -/
  | invalidProfileID
  /-- `dsref.ErrRefNotFound`. -/
  | refNotFound
  /-- `LookupByName`'s "unknown username %q". -/
  | unknownUsername (username : String)
  /-- `LookupByName`'s "dataset ref not found %s/%s". -/
  | datasetRefNotFound (username name : String)
deriving Repr, DecidableEq

/-- The event types `NewDscache` subscribes the handler to. -/
inductive EventType
  | datasetNameInit
  | logbookWriteCommit
  | datasetDeleteAll
  | datasetRename
  | datasetCreateLink
deriving Repr, DecidableEq

/-- The dynamic types a payload on those topics can have: the logbook publishes a
`dsref.VersionInfo` on init and commit, the `InitID` string on delete-all, and an
`event.DsChange` (the dataset, its new name, the linked directory) on rename and
link. -/
inductive Payload
  | versionInfo (v : VersionInfo)
  | string (s : String)
  | dsChange (initID prettyName dir : String)
deriving Repr, DecidableEq

/-- `event.Event`. -/
structure Event where
  type : EventType
  payload : Payload
deriving Repr, DecidableEq

/-- The dataset an event names, whichever payload carries it. -/
def Event.initID (e : Event) : String :=
  match e.payload with
  | .versionInfo v => v.initID
  | .string s => s
  | .dsChange initID _ _ => initID

end Qri
