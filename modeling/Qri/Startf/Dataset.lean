import Qri.Go.Json

/-!
The Starlark dataset's schema from a DataFrame's columns and back (the file the
sources keep as `transform/startf/ds/dataset.go`, lines 505-611):
`assignStructureFromDataframeColumns` writes one `{title, type}` entry a column
into `ds.Structure.Schema`, and `createColumnsFromStructure` reads the titles
back.

The schema is built from `map[string]string` columns and then cloned through
JSON, the "Hack" of the source's comment: the reader asserts
`map[string]interface{}`, which only the clone makes of a column. The clone
also coerces each title to valid UTF-8, so what is read back is the titles
coerced, and the titles themselves exactly when each is valid UTF-8
(`createColumnsFromStructure_roundtrip`).

`dataframe.DataFrame` is outside the sources: a frame is what its
`ColumnNamesTypes` returns. Of `*dataset.Dataset` the model keeps the
`Structure` pointer, and of `dataset.Structure` the two fields written here.
-/

set_option autoImplicit false

namespace Qri

namespace Startf

open Go

/-! ## Model -/

/-- A `*dataframe.DataFrame`, by what `ColumnNamesTypes` returns; `none` is a nil
slice. -/
structure DataFrame where
  columnNames : Option (List GoString)
  columnTypes : Option (List GoString)

/-- The `starlark.Value` in `bodyFrame`: a DataFrame, or a value of another type,
by the name `%T` prints for it. -/
inductive BodyFrame
  | dataFrame (df : DataFrame)
  | other (typeName : String)

/-- `dataset.Structure`, by the fields written here. -/
structure Structure where
  format : GoString
  schema : List (String × Value)

/-- `ds.Dataset`, by the fields these methods read: `d.ds.Structure` (`d.ds` is
never nil where they are called) and `d.bodyFrame`. -/
structure Dataset where
  dsStructure : Option Structure
  bodyFrame : Option BodyFrame

/-- `dataframeTypeToQriType`; an unknown type is logged and becomes `object`. -/
def dataframeTypeToQriType (dfType : GoString) : GoString :=
  if dfType = .ofString "int64" then .ofString "integer"
  else if dfType = .ofString "float64" then .ofString "number"
  else if dfType = .ofString "object" then .ofString "string"
  else if dfType = .ofString "bool" then .ofString "boolean"
  else .ofString "object"

/-- One entry of `cols`. -/
def column (name type : GoString) : Value :=
  .stringMap [("title", name), ("type", dataframeTypeToQriType type)]

/-- The loop filling `cols`; `none` is the panic of `types[i]` past the end of
`types`. -/
def columnsOf : List GoString → List GoString → Option (List Value)
  | [], _ => some []
  | _ :: _, [] => none
  | name :: names, type :: types => (columnsOf names types).map (column name type :: ·)

/-- `newSchema`, as built, before the clone. -/
def newSchema (cols : List Value) : List (String × Value) :=
  [("type", .string (.ofString "array")),
   ("items", .map [("type", .string (.ofString "array")), ("items", .slice cols)])]

/-- `assignStructureFromDataframeColumns`; `none` is a panic. `json.Marshal`
cannot fail on these values, and `json.Unmarshal` reads back what it wrote into
the map `newSchema` already is, overwriting each of its keys. -/
def Dataset.assignStructureFromDataframeColumns (d : Dataset) :
    Option (Except String Dataset) :=
  match d.bodyFrame with
  | none => some (.ok d)
  | some (.other typeName) => some (.error ("bodyFrame has invalid type " ++ typeName))
  | some (.dataFrame df) =>
    match df.columnNames, df.columnTypes with
    | some names, some types => do
      let cols ← columnsOf names types
      let st := d.dsStructure.getD { format := .ofString "csv", schema := [] }
      return .ok { d with
        dsStructure := some { st with schema := Value.jsonCloneFields (newSchema cols) } }
    | _, _ => some (.ok d)

/-- One turn of the loop of `createColumnsFromStructure`: the column's title, or
`none` when an assertion fails and the method returns nil. -/
def columnTitle (colObj : Value) : Option GoString := do
  let colMap ← Value.asMap (some colObj)
  let colTitle ← Value.asString (colMap.lookup "title")
  let _ ← Value.asString (colMap.lookup "type")
  return colTitle

/-- `createColumnsFromStructure`. The outer `none` is the nil-pointer panic when
there is no Structure, `some none` the nil slice returned when the schema is not
of the expected shape. -/
def Dataset.createColumnsFromStructure (d : Dataset) : Option (Option (List GoString)) :=
  d.dsStructure.map fun st => do
    let itemsArray ← Value.asMap (st.schema.lookup "items")
    let columnArray ← Value.asSlice (itemsArray.lookup "items")
    columnArray.mapM columnTitle

/-! ## Writing the schema and reading it back -/

theorem columnsOf_eq {names types : List GoString} (hlen : names.length ≤ types.length) :
    columnsOf names types = some (List.zipWith column names types) := by
  induction names generalizing types with
  | nil => rfl
  | cons name names ih =>
    cases types with
    | nil => simp at hlen
    | cons type types =>
      simp only [columnsOf, ih (by simpa using hlen), Option.map_some', List.zipWith_cons_cons]

/-- A column after the clone reads back as its title coerced to valid UTF-8. -/
theorem columnTitle_jsonClone (name type : GoString) :
    columnTitle (column name type).jsonClone = some (coerceUTF8 name) := rfl

/-- The loop reads every cloned column's title, in order. -/
theorem mapM_columnTitle {names types : List GoString} (hlen : names.length ≤ types.length) :
    ((List.zipWith column names types).map Value.jsonClone).mapM columnTitle =
      some (names.map coerceUTF8) := by
  induction names generalizing types with
  | nil => rfl
  | cons name names ih =>
    cases types with
    | nil => simp at hlen
    | cons type types =>
      simp only [List.zipWith_cons_cons, List.map_cons, List.mapM_cons, columnTitle_jsonClone,
        ih (by simpa using hlen)]
      rfl

/-- **What a transform writes is read back, coerced to valid UTF-8.** For a
DataFrame with at least as many types as names, the method sets a schema,
whether or not there was a Structure, from which the reader returns every name
in order, each with its invalid bytes replaced. -/
theorem createColumnsFromStructure_assign (d : Dataset) (df : DataFrame)
    (names types : List GoString) (hframe : d.bodyFrame = some (.dataFrame df))
    (hnames : df.columnNames = some names) (htypes : df.columnTypes = some types)
    (hlen : names.length ≤ types.length) :
    ∃ d', d.assignStructureFromDataframeColumns = some (.ok d') ∧
      d'.createColumnsFromStructure = some (some (names.map coerceUTF8)) := by
  let st := d.dsStructure.getD { format := .ofString "csv", schema := [] }
  let cols := List.zipWith column names types
  refine ⟨{ d with dsStructure := some { st with schema := Value.jsonCloneFields (newSchema cols) } },
    ?_, ?_⟩
  · simp only [Dataset.assignStructureFromDataframeColumns, hframe, hnames, htypes,
      columnsOf_eq hlen]
    rfl
  · -- the two lookups of the reader find what the writer put there
    show some ((Value.jsonCloneList cols).mapM columnTitle) = _
    rw [Value.jsonCloneList_eq_map, mapM_columnTitle hlen]

/-- **The names come back coerced, so exactly when they are valid UTF-8.** For
a DataFrame whose names and types are non-nil and of one length, the method
sets a schema, whether or not there was a Structure, from which the reader
returns every name in order with its invalid bytes replaced by U+FFFD; so it
returns the list of names itself if and only if each name is valid UTF-8. -/
theorem createColumnsFromStructure_roundtrip (d : Dataset) (df : DataFrame)
    (names types : List GoString) (hframe : d.bodyFrame = some (.dataFrame df))
    (hnames : df.columnNames = some names) (htypes : df.columnTypes = some types)
    (hlen : names.length = types.length) :
    ∃ d', d.assignStructureFromDataframeColumns = some (.ok d') ∧
      d'.createColumnsFromStructure = some (some (names.map coerceUTF8)) ∧
      (d'.createColumnsFromStructure = some (some names) ↔ ∀ n ∈ names, ValidUTF8 n) := by
  obtain ⟨d', hassign, hread⟩ :=
    createColumnsFromStructure_assign d df names types hframe hnames htypes hlen.le
  refine ⟨d', hassign, hread, ?_⟩
  rw [hread, Option.some_inj, Option.some_inj]
  calc names.map coerceUTF8 = names ↔ names.map coerceUTF8 = names.map id := by rw [List.map_id]
    _ ↔ ∀ n ∈ names, coerceUTF8 n = n := List.map_eq_map_iff
    _ ↔ ∀ n ∈ names, ValidUTF8 n := forall₂_congr fun n _ => coerceUTF8_eq_self_iff n

/-- Two columns of a new dataset, one name ASCII and one with the byte 0xFF. -/
theorem createColumnsFromStructure_roundtrip_sample :
    let names := [GoString.ofString "city", [0xFF]]
    let df : DataFrame := ⟨some names, some [.ofString "object", .ofString "int64"]⟩
    ∃ d', (⟨none, some (.dataFrame df)⟩ : Dataset).assignStructureFromDataframeColumns =
        some (.ok d') ∧
      d'.createColumnsFromStructure = some (some (names.map coerceUTF8)) ∧
      (d'.createColumnsFromStructure = some (some names) ↔ ∀ n ∈ names, ValidUTF8 n) :=
  createColumnsFromStructure_roundtrip _ _ _ _ rfl rfl rfl rfl

/-- A name with the byte 0xFF, which no UTF-8 sequence holds, comes back as
U+FFFD. -/
theorem createColumnsFromStructure_invalid_utf8 :
    let d : Dataset := ⟨none, some (.dataFrame ⟨some [[0xFF]], some [.ofString "int64"]⟩)⟩
    ∃ d', d.assignStructureFromDataframeColumns = some (.ok d') ∧
      d'.createColumnsFromStructure = some (some [runeError]) ∧ [runeError] ≠ [[0xFF]] :=
  ⟨_, rfl, rfl, by decide⟩

end Startf

end Qri
