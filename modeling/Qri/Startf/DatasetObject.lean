import Mathlib.Data.List.Sort
import Qri.Startf.Dataset

/-!
The Starlark `Dataset` value a transform script receives (the file the sources
keep as `transform/startf/ds/dataset.go`, lines 53-344): its `body` attribute,
read through `getBody` and assigned through `SetField` / `setBody`, the four
methods `set_meta`, `get_meta`, `set_structure` and `get_structure`, and
`Freeze`. The object is a state machine driven by the script's calls; the Go
side reads what the script did through `Changes()` and hands the object to
`AssignComponentsFromDataframe`, whose first step is
`assignStructureFromDataframeColumns`.

Every call outside the package (`util.Unmarshal`, `(*dataset.Meta).Set`,
`json`, `dataframe.NewDataFrame`, `ioutil.ReadAll`, `dsio.NewEntryReader`,
`base.ReadEntries`) is a field of `Lib`, by the function of its result, so that
each result below holds whatever those packages do.

What a run of calls keeps:
* a frozen object refuses every setter: its components and its change set stay
  as they are, and only the body cache may still fill (`run_frozen_keeps`);
* a component that differs at the end of a run is named in the change set, and
  the set names nothing but the three components; a body frame that differs and
  is not named is one a read of `ds.body` filled, there being none before
  (`run_changes_sound`);
* the body frame is only ever a DataFrame, so the type error of
  `assignStructureFromDataframeColumns` cannot happen
  (`run_assignStructureFromDataframeColumns_ne_error`);
* a body frame, once there, is what `ds.body` returns until the script assigns
  the body (`run_body_stable`).

The body file is a stream: `ioutil.ReadAll` consumes it, and a read that fails
leaves it consumed in part, so a later `ds.body` reads only what is left.
-/

set_option autoImplicit false

namespace Qri

namespace Startf

open Go

/-! ## 1. The object and the calls outside the package -/

/-- `d.ds.BodyFile()`: the file the caller gave the dataset, or the in-memory
copy of its bytes that `getBody` puts in its place (`qfs.NewMemfileBytes`),
by the bytes it has left to read. -/
inductive BodyFile (File : Type)
  | file (f : File)
  | memfile (name : GoString) (data : List UInt8)

/-- The calls the methods make outside the package, by the functions of their
results; a Go `error` result is `Except String Unit`. -/
structure Lib (Meta File SValue GValue Reader : Type) where
  /-- `util.Unmarshal`: a Starlark value as a Go value. -/
  unmarshal : SValue → Except String GValue
  /-- `&dataset.Meta{}`. -/
  emptyMeta : Meta
  /-- `(*dataset.Meta).Set`: the Meta it leaves, and its error. -/
  metaSet : Meta → GoString → GValue → Meta × Except String Unit
  /-- `json.Marshal` of a Meta, `json.Unmarshal` into a map, `util.Marshal`. -/
  metaValue : Meta → Except String SValue
  /-- `json.Marshal`. -/
  marshal : GValue → Except String (List UInt8)
  /-- `json.Unmarshal` into a `*dataset.Structure`: the Structure it leaves,
  and its error. -/
  unmarshalStructure : Structure → List UInt8 → Structure × Except String Unit
  /-- `json.Marshal` of a Structure, `json.Unmarshal` into a map,
  `util.Marshal`. -/
  structureValue : Structure → Except String SValue
  /-- `dataframe.NewDataFrame(val, nil, nil, d.outconf)`. -/
  frameOfValue : SValue → Except String DataFrame
  /-- `dataframe.NewDataFrame(nil, nil, nil, d.outconf)`, whose error `getBody`
  discards. -/
  emptyFrame : DataFrame
  /-- `dataframe.NewDataFrame(rows, columns, nil, d.outconf)`. -/
  frameOfRows : List (List GValue) → Option (List GoString) → Except String DataFrame
  /-- `ioutil.ReadAll` of a file the caller gave: the file as the read leaves
  it, which a failed read has consumed in part, and the bytes or the error. -/
  readFile : File → File × Except String (List UInt8)
  /-- `dsio.NewEntryReader` over the body's bytes. -/
  newEntryReader : Structure → List UInt8 → Except String Reader
  /-- `base.ReadEntries`. -/
  readEntries : Reader → Except String GValue
  /-- The type assertion `.([]interface{})`. -/
  asSlice : GValue → Option (List GValue)

/-- A `*ds.Dataset`, all of it: `bodyFrame` and `ds.Structure` as in `Dataset`,
and the `frozen` flag, `ds.Meta`, the body file of `ds` and the keys of the
`changes` map. `outconf` is only passed on to `dataframe.NewDataFrame`, whose
results are `Lib`'s. -/
structure DatasetObject (Meta File : Type) extends Dataset where
  frozen : Bool
  meta : Option Meta
  bodyFile : Option (BodyFile File)
  changes : List String

/-- What a call gives back to the script. -/
inductive Returned (SValue : Type)
  /-- `starlark.None`. -/
  | none
  /-- A nil `starlark.Value`: `Attr`'s "no such method". -/
  | nil
  /-- The body frame. -/
  | frame (bf : BodyFrame)
  /-- A builtin of `dsMethods` bound to the dataset. -/
  | method (name : String)
  /-- A component, through `util.Marshal`. -/
  | value (v : SValue)

/-- A call of the script on the dataset, or the Go side's `Freeze`. A method's
arguments are what `starlark.UnpackPositionalArgs` makes of them. -/
inductive Call (SValue : Type)
  /-- `ds.name = val`. -/
  | setField (name : String) (val : SValue)
  /-- `ds.name`. -/
  | attr (name : String)
  /-- `ds.set_meta(key, val)`. -/
  | setMeta (args : Except String (GoString × SValue))
  /-- `ds.get_meta()`. -/
  | getMeta
  /-- `ds.set_structure(val)`. -/
  | setStructure (args : Except String SValue)
  /-- `ds.get_structure()`. -/
  | getStructure
  /-- `Freeze`. -/
  | freeze

/-- The keys of `dsMethods`. -/
def dsMethods : List String := ["set_meta", "get_meta", "get_structure", "set_structure"]

/-- The components the change set can name. -/
def components : List String := ["meta", "structure", "body"]

/-- `builtinAttr`: the method of that name bound to the receiver, or nil. -/
def builtinAttr {SValue : Type} (name : String) (methods : List String) : Returned SValue :=
  if name ∈ methods then .method name else .nil

/-- `builtinAttrNames`: the method names, sorted as `sort.Strings` sorts, by
the order of core's `String` (code points, as Go's bytes for valid UTF-8). -/
def builtinAttrNames (methods : List String) : List String :=
  @List.insertionSort String (fun a b => @LE.le String String.instLE a b) String.decLE methods

/-- `AttrNames`. -/
def attrNames : List String := builtinAttrNames dsMethods ++ ["body"]

/-! ## 2. The methods -/

section Methods

variable {Meta File SValue GValue Reader : Type} (lib : Lib Meta File SValue GValue Reader)

/-- `ioutil.ReadAll` of a body file: the file as the read leaves it, and the
bytes or the error. An in-memory file is read to its end. -/
def BodyFile.readAll : BodyFile File → BodyFile File × Except String (List UInt8)
  | .file f => (.file (lib.readFile f).1, (lib.readFile f).2)
  | .memfile name data => (.memfile name [], .ok data)

/-- The loop over `base.ReadEntries`' result: `entries.([]interface{})`, then
each entry asserted to be a row; `none` is the panic of a failed assertion. -/
def Lib.rowsOf (entries : GValue) : Option (List (List GValue)) :=
  (lib.asSlice entries).bind (·.mapM lib.asSlice)

/-- `NewDataset(ds, outconf)`, by the components of `ds` the methods read. -/
def newDataset (st : Option Structure) (meta : Option Meta) (bodyFile : Option (BodyFile File)) :
    DatasetObject Meta File :=
  { dsStructure := st, bodyFrame := none, frozen := false, meta, bodyFile, changes := [] }

/-- `New`: a dataset with no components. -/
def new : DatasetObject Meta File := newDataset none none none

/-- `Freeze`. -/
def DatasetObject.freeze (d : DatasetObject Meta File) : DatasetObject Meta File :=
  { d with frozen := true }

/-- `getBody`; `none` is the panic of a failed type assertion. A failed read
leaves the body file as the read left it; a read that succeeds replaces it by an
in-memory copy of its bytes, which stays when a later step fails. -/
def DatasetObject.getBody (d : DatasetObject Meta File) :
    Option (DatasetObject Meta File × Except String BodyFrame) :=
  match d.bodyFrame with
  | some bodyFrame => some (d, .ok bodyFrame)
  | none =>
    match d.bodyFile with
    | none =>
      -- no body: an empty data frame
      some ({ d with bodyFrame := some (.dataFrame lib.emptyFrame) }, .ok (.dataFrame lib.emptyFrame))
    | some bodyfile =>
      match d.dsStructure with
      | none => some (d, .error "error: no structure for dataset")
      | some st =>
        match d.toDataset.createColumnsFromStructure with
        | none => none
        | some columns =>
          match (bodyfile.readAll lib).2 with
          | .error err => some ({ d with bodyFile := some (bodyfile.readAll lib).1 }, .error err)
          | .ok data =>
            let d := { d with bodyFile := some (.memfile (.ofString "body.json") data) }
            match lib.newEntryReader st data with
            | .error err => some (d, .error ("error allocating data reader: " ++ err))
            | .ok rr =>
              match lib.readEntries rr with
              | .error err => some (d, .error err)
              | .ok entries =>
                match lib.rowsOf entries with
                | none => none
                | some rows =>
                  match lib.frameOfRows rows columns with
                  | .error err => some (d, .error err)
                  | .ok df => some ({ d with bodyFrame := some (.dataFrame df) }, .ok (.dataFrame df))

/-- `setBody`. -/
def DatasetObject.setBody (d : DatasetObject Meta File) (val : SValue) :
    DatasetObject Meta File × Except String Unit :=
  match lib.frameOfValue val with
  | .error err => (d, .error err)
  | .ok df => ({ d with bodyFrame := some (.dataFrame df), changes := d.changes.insert "body" }, .ok ())

/-- `SetField`; the error of any other name is `starlark.NoSuchAttrError(name)`,
whose text is the name. -/
def DatasetObject.setField (d : DatasetObject Meta File) (name : String) (val : SValue) :
    DatasetObject Meta File × Except String Unit :=
  if d.frozen then (d, .error "cannot set, Dataset is frozen")
  else if name = "body" then d.setBody lib val
  else (d, .error name)

/-- `Attr`. -/
def DatasetObject.attr (d : DatasetObject Meta File) (name : String) :
    Option (DatasetObject Meta File × Except String (Returned SValue)) :=
  if name = "body" then (d.getBody lib).map fun r => (r.1, r.2.map .frame)
  else some (d, .ok (builtinAttr name dsMethods))

/-- `dsSetMeta`. The change is recorded before the value is unmarshalled, and
the Meta allocated after. -/
def DatasetObject.dsSetMeta (d : DatasetObject Meta File) (args : Except String (GoString × SValue)) :
    DatasetObject Meta File × Except String (Returned SValue) :=
  match args with
  | .error err => (d, .error err)
  | .ok (key, valx) =>
    if d.frozen then (d, .error "cannot call set_meta on frozen dataset")
    else
      let d := { d with changes := d.changes.insert "meta" }
      match lib.unmarshal valx with
      | .error err => (d, .error err)
      | .ok val =>
        let r := lib.metaSet (d.meta.getD lib.emptyMeta) key val
        ({ d with meta := some r.1 }, r.2.map fun _ => .none)

/-- `dsGetMeta`. -/
def DatasetObject.dsGetMeta (d : DatasetObject Meta File) : Except String (Returned SValue) :=
  match d.meta with
  | none => .ok .none
  | some meta => (lib.metaValue meta).map .value

/-- `dsSetStructure`. The change is recorded before the value is unmarshalled,
and the Structure allocated before it is marshalled. -/
def DatasetObject.dsSetStructure (d : DatasetObject Meta File) (args : Except String SValue) :
    DatasetObject Meta File × Except String (Returned SValue) :=
  match args with
  | .error err => (d, .error err)
  | .ok valx =>
    if d.frozen then (d, .error "cannot call set_structure on frozen dataset")
    else
      let d := { d with changes := d.changes.insert "structure" }
      match lib.unmarshal valx with
      | .error err => (d, .error err)
      | .ok val =>
        let st := d.dsStructure.getD { format := [], schema := [] }
        let d := { d with dsStructure := some st }
        match lib.marshal val with
        | .error err => (d, .error err)
        | .ok data =>
          let r := lib.unmarshalStructure st data
          ({ d with dsStructure := some r.1 }, r.2.map fun _ => .none)

/-- `dsGetStructure`. -/
def DatasetObject.dsGetStructure (d : DatasetObject Meta File) : Except String (Returned SValue) :=
  match d.dsStructure with
  | none => .ok .none
  | some st => (lib.structureValue st).map .value

/-- One call; `none` is a panic. -/
def DatasetObject.step (d : DatasetObject Meta File) :
    Call SValue → Option (DatasetObject Meta File × Except String (Returned SValue))
  | .setField name val =>
    let r := d.setField lib name val
    some (r.1, r.2.map fun _ => .none)
  | .attr name => d.attr lib name
  | .setMeta args => some (d.dsSetMeta lib args)
  | .getMeta => some (d, d.dsGetMeta lib)
  | .setStructure args => some (d.dsSetStructure lib args)
  | .getStructure => some (d, d.dsGetStructure lib)
  | .freeze => some (d.freeze, .ok .none)

/-- A run of calls, failed ones included; a panic ends it. -/
def DatasetObject.run (d : DatasetObject Meta File) : List (Call SValue) → Option (DatasetObject Meta File)
  | [] => some d
  | c :: cs => (d.step lib c).bind fun r => r.1.run cs

end Methods

/-! ## 3. What one call can do -/

section Steps

variable {Meta File SValue GValue Reader : Type} (lib : Lib Meta File SValue GValue Reader)

/-- The effect of one call on the object. Every call has one of these
(`step_moves`), and every invariant below is read off them. -/
inductive Moves : Call SValue → DatasetObject Meta File → DatasetObject Meta File → Prop
  /-- The object is as it was. -/
  | keep (c : Call SValue) (d : DatasetObject Meta File) : Moves c d d
  | freeze (d : DatasetObject Meta File) : Moves .freeze d d.freeze
  /-- `setBody` of an unfrozen dataset. -/
  | setBody (val : SValue) (d : DatasetObject Meta File) (df : DataFrame) : d.frozen = false →
      Moves (.setField "body" val) d
        { d with bodyFrame := some (.dataFrame df), changes := d.changes.insert "body" }
  /-- `set_meta` on an unfrozen dataset, whether or not it then fails. -/
  | setMeta (args : Except String (GoString × SValue)) (d : DatasetObject Meta File)
      (meta : Option Meta) : d.frozen = false →
      Moves (.setMeta args) d { d with changes := d.changes.insert "meta", meta }
  /-- `set_structure` on an unfrozen dataset, whether or not it then fails. -/
  | setStructure (args : Except String SValue) (d : DatasetObject Meta File)
      (st : Option Structure) : d.frozen = false →
      Moves (.setStructure args) d { d with changes := d.changes.insert "structure", dsStructure := st }
  /-- `getBody` with no frame yet: the frame a DataFrame or still none, and the
  body file as the read left it. -/
  | loadBody (d : DatasetObject Meta File) (bodyFrame : Option BodyFrame)
      (bodyFile : Option (BodyFile File)) : d.bodyFrame = none →
      (bodyFrame = d.bodyFrame ∨ ∃ df, bodyFrame = some (.dataFrame df)) →
      Moves (.attr "body") d { d with bodyFrame, bodyFile }

theorem getBody_moves {d d' : DatasetObject Meta File} {r : Except String BodyFrame}
    (h : d.getBody lib = some (d', r)) : Moves (.attr "body" : Call SValue) d d' := by
  unfold DatasetObject.getBody at h
  split at h
  · cases h; exact .keep _ _
  · rename_i hbf
    split at h
    · cases h; exact .loadBody _ _ _ hbf (.inr ⟨_, rfl⟩)
    · split at h
      · cases h; exact .keep _ _
      · split at h
        · cases h
        · split at h
          · -- a failed read: the file as it left it
            cases h; exact .loadBody d d.bodyFrame _ hbf (.inl rfl)
          · -- from here on the body file is the in-memory copy of its bytes
            split at h
            · cases h; exact .loadBody d d.bodyFrame _ hbf (.inl rfl)
            · split at h
              · cases h; exact .loadBody d d.bodyFrame _ hbf (.inl rfl)
              · split at h
                · cases h
                · split at h
                  · cases h; exact .loadBody d d.bodyFrame _ hbf (.inl rfl)
                  · cases h; exact .loadBody _ _ _ hbf (.inr ⟨_, rfl⟩)

theorem setField_moves (d : DatasetObject Meta File) (name : String) (val : SValue) :
    Moves (.setField name val) d (d.setField lib name val).1 := by
  unfold DatasetObject.setField
  split
  · exact .keep _ _
  · rename_i hfrozen
    split
    · subst name
      unfold DatasetObject.setBody
      split
      · exact .keep _ _
      · exact .setBody _ _ _ (Bool.eq_false_iff.2 hfrozen)
    · exact .keep _ _

theorem dsSetMeta_moves (d : DatasetObject Meta File) (args : Except String (GoString × SValue)) :
    Moves (.setMeta args) d (d.dsSetMeta lib args).1 := by
  unfold DatasetObject.dsSetMeta
  split
  · exact .keep _ _
  · split
    · exact .keep _ _
    · rename_i hfrozen
      split
      · exact .setMeta _ _ d.meta (Bool.eq_false_iff.2 hfrozen)
      · exact .setMeta _ _ _ (Bool.eq_false_iff.2 hfrozen)

theorem dsSetStructure_moves (d : DatasetObject Meta File) (args : Except String SValue) :
    Moves (.setStructure args) d (d.dsSetStructure lib args).1 := by
  unfold DatasetObject.dsSetStructure
  split
  · exact .keep _ _
  · split
    · exact .keep _ _
    · rename_i hfrozen
      split
      · exact .setStructure _ _ d.dsStructure (Bool.eq_false_iff.2 hfrozen)
      · split
        · exact .setStructure _ _ _ (Bool.eq_false_iff.2 hfrozen)
        · exact .setStructure _ _ _ (Bool.eq_false_iff.2 hfrozen)

/-- **Every call is one of the moves.** -/
theorem step_moves {d d' : DatasetObject Meta File} {c : Call SValue}
    {r : Except String (Returned SValue)} (h : d.step lib c = some (d', r)) : Moves c d d' := by
  cases c with
  | setField name val => cases h; exact setField_moves lib d name val
  | attr name =>
    change d.attr lib name = _ at h
    unfold DatasetObject.attr at h
    split at h
    · subst name
      obtain ⟨_, hb, hr⟩ := Option.map_eq_some'.1 h
      cases hr
      exact getBody_moves lib hb
    · cases h; exact .keep _ _
  | setMeta args =>
    obtain rfl : (d.dsSetMeta lib args).1 = d' := congrArg Prod.fst (Option.some_inj.1 h)
    exact dsSetMeta_moves lib d args
  | getMeta => cases h; exact .keep _ _
  | setStructure args =>
    obtain rfl : (d.dsSetStructure lib args).1 = d' := congrArg Prod.fst (Option.some_inj.1 h)
    exact dsSetStructure_moves lib d args
  | getStructure => cases h; exact .keep _ _
  | freeze => cases h; exact .freeze _

end Steps

/-! ## 4. Runs -/

/-- A library in which every call succeeds and every frame is empty, to run the
object on. -/
def okLib : Lib Unit Unit Unit Unit Unit where
  unmarshal _ := .ok ()
  emptyMeta := ()
  metaSet _ _ _ := ((), .ok ())
  metaValue _ := .ok ()
  marshal _ := .ok []
  unmarshalStructure st _ := (st, .ok ())
  structureValue _ := .ok ()
  frameOfValue _ := .ok ⟨none, none⟩
  emptyFrame := ⟨none, none⟩
  frameOfRows _ _ := .ok ⟨none, none⟩
  readFile f := (f, .ok [])
  newEntryReader _ _ := .ok ()
  readEntries _ := .ok ()
  asSlice _ := some []

section Runs

variable {Meta File SValue GValue Reader : Type} (lib : Lib Meta File SValue GValue Reader)

/-- A relation that each move of a run's calls satisfies, and that is reflexive
and transitive, holds between the run's first and last objects. -/
theorem run_of_moves (R : DatasetObject Meta File → DatasetObject Meta File → Prop)
    (hrefl : ∀ d, R d d) (htrans : ∀ d₁ d₂ d₃, R d₁ d₂ → R d₂ d₃ → R d₁ d₃)
    {cs : List (Call SValue)} (hmoves : ∀ c ∈ cs, ∀ d d', Moves c d d' → R d d')
    {d d' : DatasetObject Meta File} (h : d.run lib cs = some d') : R d d' := by
  induction cs generalizing d with
  | nil => cases h; exact hrefl _
  | cons c cs ih =>
    obtain ⟨⟨d₁, r⟩, hstep, hrun⟩ := Option.bind_eq_some.1 h
    exact htrans _ _ _ (hmoves c (.head _) _ _ (step_moves lib hstep))
      (ih (fun c' hc' => hmoves c' (.tail _ hc')) hrun)

/-! ### Freezing -/

/-- What a frozen object keeps across a call or a run. -/
def FrozenKeeps (d d' : DatasetObject Meta File) : Prop :=
  d.frozen → d'.frozen ∧ d'.changes = d.changes ∧ d'.meta = d.meta ∧
    d'.dsStructure = d.dsStructure ∧ (d.bodyFrame = none ∨ d'.bodyFrame = d.bodyFrame)

theorem Moves.frozenKeeps {c : Call SValue} {d d' : DatasetObject Meta File}
    (h : Moves c d d') : FrozenKeeps d d' := by
  intro hf
  cases h with
  | keep => exact ⟨hf, rfl, rfl, rfl, .inr rfl⟩
  | freeze => exact ⟨rfl, rfl, rfl, rfl, .inr rfl⟩
  | setBody _ _ _ h0 | setMeta _ _ _ h0 | setStructure _ _ _ h0 => simp [h0] at hf
  | loadBody _ _ _ hbf => exact ⟨hf, rfl, rfl, rfl, .inl hbf⟩

theorem FrozenKeeps.trans {d₁ d₂ d₃ : DatasetObject Meta File} (h₁ : FrozenKeeps d₁ d₂)
    (h₂ : FrozenKeeps d₂ d₃) : FrozenKeeps d₁ d₃ := by
  intro hf
  obtain ⟨hf₂, hc₂, hm₂, hs₂, hb₂⟩ := h₁ hf
  obtain ⟨hf₃, hc₃, hm₃, hs₃, hb₃⟩ := h₂ hf₂
  refine ⟨hf₃, hc₃.trans hc₂, hm₃.trans hm₂, hs₃.trans hs₂, ?_⟩
  rcases hb₂ with hb₂ | hb₂
  · exact .inl hb₂
  · rw [← hb₂]
    rcases hb₃ with hb₃ | hb₃
    · exact .inl hb₃
    · exact .inr hb₃

/-- **A frozen dataset keeps its components.** Over every run of calls from a
frozen object, the object stays frozen and its change set, Meta and Structure
stay as they were: every setter fails. A body frame it had stays too; only the
cache of `getBody` may still fill, `Freeze` notwithstanding. -/
theorem run_frozen_keeps (d d' : DatasetObject Meta File) (cs : List (Call SValue))
    (hfrozen : d.frozen) (h : d.run lib cs = some d') :
    d'.frozen ∧ d'.changes = d.changes ∧ d'.meta = d.meta ∧ d'.dsStructure = d.dsStructure ∧
      (d.bodyFrame = none ∨ d'.bodyFrame = d.bodyFrame) :=
  run_of_moves lib FrozenKeeps (fun _ hf => ⟨hf, rfl, rfl, rfl, .inr rfl⟩)
    (fun _ _ _ => FrozenKeeps.trans) (fun _ _ _ _ => Moves.frozenKeeps) h hfrozen

/-- A frozen new dataset: the body assignment and `set_meta` fail, and reading
the body fills the cache. -/
theorem run_frozen_keeps_new :
    let d : DatasetObject Unit Unit := new.freeze
    let cs : List (Call Unit) := [.setField "body" (), .setMeta (.ok ([], ())), .attr "body"]
    ∃ d', d.run okLib cs = some d' ∧
      (d'.frozen ∧ d'.changes = d.changes ∧ d'.meta = d.meta ∧ d'.dsStructure = d.dsStructure ∧
        (d.bodyFrame = none ∨ d'.bodyFrame = d.bodyFrame)) :=
  ⟨_, rfl, run_frozen_keeps okLib new.freeze _
    [.setField "body" (), .setMeta (.ok ([], ())), .attr "body"] rfl rfl⟩

/-! ### The change set -/

/-- The change set of `d'` against `d` over the calls `cs`: it keeps what `d`
named, adds only component names, and names each component that differs. A
body frame that differs is named too, unless there was none and `cs` reads
`ds.body`, whose `getBody` fills the frame without naming it. -/
structure ChangesSound (cs : List (Call SValue)) (d d' : DatasetObject Meta File) : Prop where
  subset : d.changes ⊆ d'.changes
  added : ∀ k ∈ d'.changes, k ∈ d.changes ∨ k ∈ components
  meta : d'.meta = d.meta ∨ "meta" ∈ d'.changes
  dsStructure : d'.dsStructure = d.dsStructure ∨ "structure" ∈ d'.changes
  bodyFrame : d'.bodyFrame = d.bodyFrame ∨ "body" ∈ d'.changes ∨
    d.bodyFrame = none ∧ .attr "body" ∈ cs

theorem ChangesSound.refl (cs : List (Call SValue)) (d : DatasetObject Meta File) :
    ChangesSound cs d d :=
  ⟨fun _ h => h, fun _ h => .inl h, .inl rfl, .inl rfl, .inl rfl⟩

/-- Recording a component: the set grows by its name. -/
theorem insert_component (l : List String) (k : String) (hk : k ∈ components) :
    l ⊆ l.insert k ∧ ∀ k' ∈ l.insert k, k' ∈ l ∨ k' ∈ components := by
  refine ⟨fun _ => List.mem_insert_of_mem, fun k' hk' => ?_⟩
  rcases List.mem_insert_iff.1 hk' with rfl | h
  · exact .inr hk
  · exact .inl h

/-- A move of one of the calls `cs`: a setter names its component, and only the
read of `ds.body` fills the frame. -/
theorem Moves.changesSound {cs : List (Call SValue)} {c : Call SValue}
    {d d' : DatasetObject Meta File} (h : Moves c d d') (hc : c ∈ cs) : ChangesSound cs d d' := by
  cases h with
  | keep => exact .refl _ _
  | freeze => exact ⟨fun _ h => h, fun _ h => .inl h, .inl rfl, .inl rfl, .inl rfl⟩
  | setBody _ d =>
    obtain ⟨hs, ha⟩ := insert_component d.changes "body" (by decide)
    exact ⟨hs, ha, .inl rfl, .inl rfl, .inr (.inl (List.mem_insert_self _ _))⟩
  | setMeta _ d =>
    obtain ⟨hs, ha⟩ := insert_component d.changes "meta" (by decide)
    exact ⟨hs, ha, .inr (List.mem_insert_self _ _), .inl rfl, .inl rfl⟩
  | setStructure _ d =>
    obtain ⟨hs, ha⟩ := insert_component d.changes "structure" (by decide)
    exact ⟨hs, ha, .inl rfl, .inr (List.mem_insert_self _ _), .inl rfl⟩
  | loadBody _ _ _ hbf =>
    exact ⟨fun _ h => h, fun _ h => .inl h, .inl rfl, .inl rfl, .inr (.inr ⟨hbf, hc⟩)⟩

theorem ChangesSound.trans {cs : List (Call SValue)} {d₁ d₂ d₃ : DatasetObject Meta File}
    (h₁ : ChangesSound cs d₁ d₂) (h₂ : ChangesSound cs d₂ d₃) : ChangesSound cs d₁ d₃ where
  subset := h₁.subset.trans h₂.subset
  added k hk := (h₂.added k hk).elim (fun h => h₁.added k h) .inr
  meta := h₂.meta.elim (fun h => h₁.meta.imp (h.trans ·) fun hm => h₂.subset hm) .inr
  dsStructure := h₂.dsStructure.elim (fun h => h₁.dsStructure.imp (h.trans ·) fun hs => h₂.subset hs) .inr
  bodyFrame := by
    rcases h₂.bodyFrame with h | h | ⟨h, hc⟩
    · exact h₁.bodyFrame.imp (h.trans ·) (Or.imp_left fun hb => h₂.subset hb)
    · exact .inr (.inl h)
    · rcases h₁.bodyFrame with h' | h' | h'
      · exact .inr (.inr ⟨h'.symm.trans h, hc⟩)
      · exact .inr (.inl (h₂.subset h'))
      · exact .inr (.inr h')

/-- The change set of a run is sound. -/
theorem ChangesSound.of_run {d d' : DatasetObject Meta File} {cs : List (Call SValue)}
    (h : d.run lib cs = some d') : ChangesSound cs d d' :=
  run_of_moves lib (ChangesSound cs) (ChangesSound.refl cs) (fun _ _ _ => ChangesSound.trans)
    (fun _ hc _ _ hm => hm.changesSound hc) h

/-- A move that changes the frame without naming `body` is the cache fill of a
read of `ds.body` with no frame. -/
theorem Moves.eq_attr_body {c : Call SValue} {d d' : DatasetObject Meta File} (h : Moves c d d')
    (hne : d'.bodyFrame ≠ d.bodyFrame) (hbody : "body" ∉ d'.changes) :
    c = .attr "body" ∧ d.bodyFrame = none := by
  cases h with
  | loadBody _ _ _ hbf => exact ⟨rfl, hbf⟩
  | setBody => exact absurd (List.mem_insert_self _ _) hbody
  | _ => exact absurd rfl hne

/-- Reading `ds.body` is `getBody`. -/
theorem step_attr_body {d d' : DatasetObject Meta File} {r : Except String (Returned SValue)}
    (h : d.step lib (.attr "body") = some (d', r)) : ∃ r', d.getBody lib = some (d', r') := by
  change (d.getBody lib).map _ = _ at h
  obtain ⟨⟨_, r'⟩, hget, hr⟩ := Option.map_eq_some'.1 h
  cases hr
  exact ⟨r', hget⟩

/-- The body frame of `d'` is one that a read of `ds.body` among `cs` filled:
the run reached, just before that read, an object with no frame, whose `getBody`
left this frame. -/
def FilledByRead (cs : List (Call SValue)) (d d' : DatasetObject Meta File) : Prop :=
  ∃ pre post d₁ d₂ r, cs = pre ++ .attr "body" :: post ∧ d.run lib pre = some d₁ ∧
    d₁.bodyFrame = none ∧ d₁.getBody lib = some (d₂, r) ∧ d₂.bodyFrame = d'.bodyFrame

/-- A frame a run changes without naming `body` is one a read filled: the last
call that changed it was a read of `ds.body`. -/
theorem filledByRead_of_run {d d' : DatasetObject Meta File} {cs : List (Call SValue)}
    (h : d.run lib cs = some d') (hbody : "body" ∉ d'.changes) (hne : d'.bodyFrame ≠ d.bodyFrame) :
    FilledByRead lib cs d d' := by
  induction cs generalizing d with
  | nil => cases h; exact absurd rfl hne
  | cons c cs ih =>
    obtain ⟨⟨d₁, r⟩, hstep, hrun⟩ := Option.bind_eq_some.1 h
    by_cases h₁ : d'.bodyFrame = d₁.bodyFrame
    · -- the first call changed the frame, so it read the body
      have hbody₁ : "body" ∉ d₁.changes := fun hb => hbody ((ChangesSound.of_run lib hrun).subset hb)
      obtain ⟨rfl, hnone⟩ := (step_moves lib hstep).eq_attr_body (h₁ ▸ hne) hbody₁
      obtain ⟨r', hget⟩ := step_attr_body lib hstep
      exact ⟨[], cs, d, d₁, r', rfl, rfl, hnone, hget, h₁.symm⟩
    · -- a later call did
      obtain ⟨pre, post, d₂, d₃, r', rfl, hpre, hnone, hget, hframe⟩ := ih hrun h₁
      exact ⟨c :: pre, post, d₂, d₃, r', rfl, by simp only [DatasetObject.run, hstep, Option.some_bind,
        hpre], hnone, hget, hframe⟩

/-- **The change set is sound.** Over every run of calls, the change set keeps
what it named and adds only `meta`, `structure` and `body`; a Meta or Structure
that differs at the end is named; and a body frame that differs is named, unless
there was none and the run read `ds.body`: the frame is then the one `getBody`
filled at such a read, on an object with no frame. -/
theorem run_changes_sound (d d' : DatasetObject Meta File) (cs : List (Call SValue))
    (h : d.run lib cs = some d') :
    ChangesSound cs d d' ∧
      ("body" ∉ d'.changes → d'.bodyFrame ≠ d.bodyFrame → FilledByRead lib cs d d') :=
  ⟨ChangesSound.of_run lib h, filledByRead_of_run lib h⟩

/-- A script that sets the meta of a new dataset and reads its body: the frame
is filled and `body` is not named. -/
theorem run_changes_sound_new :
    let cs : List (Call Unit) := [.setMeta (.ok ([], ())), .attr "body", .freeze]
    ∃ d', (new : DatasetObject Unit Unit).run okLib cs = some d' ∧
      (ChangesSound cs new d' ∧
        ("body" ∉ d'.changes → d'.bodyFrame ≠ (new : DatasetObject Unit Unit).bodyFrame →
          FilledByRead okLib cs new d')) :=
  ⟨_, rfl, run_changes_sound okLib new _ [.setMeta (.ok ([], ())), .attr "body", .freeze] rfl⟩

/-! ### The body -/

/-- The body frame holds no value of another type than a DataFrame. -/
def FramesOK (d : DatasetObject Meta File) : Prop := ∀ typeName, d.bodyFrame ≠ some (.other typeName)

theorem Moves.framesOK {c : Call SValue} {d d' : DatasetObject Meta File} (h : Moves c d d')
    (hok : FramesOK d) : FramesOK d' := by
  cases h with
  | setBody => intro _ h; cases h
  | loadBody _ _ _ _ hbf =>
    rcases hbf with rfl | ⟨_, rfl⟩
    · exact hok
    · intro _ h; cases h
  | _ => exact hok

/-- Only a frame of another type makes `assignStructureFromDataframeColumns` fail. -/
theorem assignStructureFromDataframeColumns_ne_error {d : Dataset}
    (hok : ∀ typeName, d.bodyFrame ≠ some (.other typeName)) (err : String) :
    d.assignStructureFromDataframeColumns ≠ some (.error err) := by
  unfold Dataset.assignStructureFromDataframeColumns
  split
  · simp
  · exact absurd ‹_› (hok _)
  · split
    · intro h
      obtain ⟨_, _, h⟩ := Option.bind_eq_some.1 h
      cases h
    · simp

/-- **The type error of `assignStructureFromDataframeColumns` never happens.**
Whatever components `NewDataset` is given and whatever calls the script makes,
the body frame is only ever one `dataframe.NewDataFrame` returned, so the
Go side's `assignStructureFromDataframeColumns` never returns
"bodyFrame has invalid type". -/
theorem run_assignStructureFromDataframeColumns_ne_error (st : Option Structure) (meta : Option Meta)
    (bodyFile : Option (BodyFile File)) (cs : List (Call SValue)) (d' : DatasetObject Meta File)
    (h : (newDataset st meta bodyFile).run lib cs = some d') (err : String) :
    d'.toDataset.assignStructureFromDataframeColumns ≠ some (.error err) :=
  assignStructureFromDataframeColumns_ne_error
    (run_of_moves lib (fun d d' => FramesOK d → FramesOK d') (fun _ => id)
      (fun _ _ _ h₁ h₂ => h₂ ∘ h₁) (fun _ _ _ _ hm => hm.framesOK) h (fun _ h => nomatch h)) err

/-- A new dataset whose body the script sets. -/
theorem run_assignStructureFromDataframeColumns_ne_error_new :
    ∃ d', (new : DatasetObject Unit Unit).run okLib [.setField "body" ()] = some d' ∧
      d'.toDataset.assignStructureFromDataframeColumns ≠ some (.error "") :=
  ⟨_, rfl, run_assignStructureFromDataframeColumns_ne_error okLib none none none
    [.setField "body" ()] _ rfl ""⟩

/-- **The body is stable.** Once a body frame is there, every run of calls that
does not assign `ds.body` leaves it, and `ds.body` then returns it and changes
nothing. -/
theorem run_body_stable (d d' : DatasetObject Meta File) (cs : List (Call SValue)) (bf : BodyFrame)
    (hbf : d.bodyFrame = some bf) (hcs : ∀ val, .setField "body" val ∉ cs)
    (h : d.run lib cs = some d') :
    d'.step lib (.attr "body") = some (d', .ok (.frame bf)) := by
  have hkeep : d'.bodyFrame = some bf := by
    refine run_of_moves lib (fun d d' => ∀ bf, d.bodyFrame = some bf → d'.bodyFrame = some bf)
      (fun _ _ => id) (fun _ _ _ h₁ h₂ bf => h₂ bf ∘ h₁ bf) (fun c hc _ _ hm bf hbf => ?_) h bf hbf
    cases hm with
    | setBody val => exact absurd hc (hcs val)
    | loadBody _ _ _ hnone => simp [hnone] at hbf
    | _ => exact hbf
  change (d'.getBody lib).map _ = _
  simp only [DatasetObject.getBody, hkeep, Option.map_some', Except.map]

/-- A body set by the script, then the Meta set and the dataset frozen. -/
theorem run_body_stable_set :
    let d := ((new : DatasetObject Unit Unit).setField okLib "body" ()).1
    ∃ d', d.run okLib [.setMeta (.ok ([], ())), .attr "body", .freeze] = some d' ∧
      d'.step okLib (.attr "body") = some (d', .ok (.frame (.dataFrame ⟨none, none⟩))) :=
  ⟨_, rfl, run_body_stable okLib ((new : DatasetObject Unit Unit).setField okLib "body" ()).1 _
    [.setMeta (.ok ([], ())), .attr "body", .freeze] _ rfl (by simp) rfl⟩

end Runs

end Startf

end Qri
