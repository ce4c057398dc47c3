import Qri.Startf.CallGraph
import Mathlib.Data.List.Basic

/-!
Where the names of `FuncResult.calls` come from: `analyzeFuncBody` and
`getFuncCallsInExpr` (the file the sources keep as `base/dsfs/package.go`,
lines 467-622), over Starlark's syntax tree.

`getFuncCallsInExpr` switches on the sixteen kinds of expression. A call gives
the name of its callee, or a marker naming the callee's Go type when the callee
is not an identifier, followed by the calls in its arguments; every other kind
collects the calls of its subexpressions, except `Comprehension` and `DotExpr`,
which panic. The callee of a call is only named, never searched: a call inside
it, as the inner call of `f(x)(y)`, is not collected
(`getFuncCallsInExpr_skips_callee`).

So what is collected is, in order, the calls of the tree outside callee
positions (`getFuncCallsInExpr_sublist`): all of them when no callee holds a
call, which is the case of every callee that is an identifier. A panic is
modelled as `none`.

The tree keeps the fields the walk reads. `BinaryExpr` and `UnaryExpr` lose
their operator, `Literal` its token and value, and the two kinds that panic
every field.
-/

set_option autoImplicit false

namespace Qri

namespace Startf

/-! ## Syntax -/

/-- Starlark's `syntax.Expr`, one constructor per expression type. An absent
`Lo`, `Hi`, `Step` or unary operand is a nil `Expr`. -/
inductive Expr
  | binaryExpr (x y : Expr)
  | callExpr (fn : Expr) (args : List Expr)
  | comprehension
  | condExpr (cond whenTrue whenFalse : Expr)
  | dictEntry (key value : Expr)
  | dictExpr (list : List Expr)
  | dotExpr
  | ident (name : String)
  | indexExpr (x y : Expr)
  | lambdaExpr (params : List Expr) (body : Expr)
  | listExpr (list : List Expr)
  | literal
  | parenExpr (x : Expr)
  | sliceExpr (x : Expr) (lo hi step : Option Expr)
  | tupleExpr (list : List Expr)
  | unaryExpr (x : Option Expr)
deriving Repr

/-- `reflect.TypeOf(expr)` as `%q` prints it, without the quotes. -/
def Expr.typeName : Expr → String
  | .binaryExpr .. => "*syntax.BinaryExpr"
  | .callExpr .. => "*syntax.CallExpr"
  | .comprehension => "*syntax.Comprehension"
  | .condExpr .. => "*syntax.CondExpr"
  | .dictEntry .. => "*syntax.DictEntry"
  | .dictExpr .. => "*syntax.DictExpr"
  | .dotExpr => "*syntax.DotExpr"
  | .ident .. => "*syntax.Ident"
  | .indexExpr .. => "*syntax.IndexExpr"
  | .lambdaExpr .. => "*syntax.LambdaExpr"
  | .listExpr .. => "*syntax.ListExpr"
  | .literal => "*syntax.Literal"
  | .parenExpr .. => "*syntax.ParenExpr"
  | .sliceExpr .. => "*syntax.SliceExpr"
  | .tupleExpr .. => "*syntax.TupleExpr"
  | .unaryExpr .. => "*syntax.UnaryExpr"

/-- `simpleExprToFuncName`: an identifier's name, or a marker with the type. -/
def simpleExprToFuncName : Expr → String
  | .ident name => name
  | e => "<Unknown Name, Type: \"" ++ e.typeName ++ "\">"

mutual

/-- `getFuncCallsInExpr`; `none` is the panic `not implemented`. -/
def getFuncCallsInExpr : Expr → Option (List String)
  | .binaryExpr x y => do return (← getFuncCallsInExpr x) ++ (← getFuncCallsInExpr y)
  | .callExpr fn args => do return simpleExprToFuncName fn :: (← getFuncCallsInList args)
  | .comprehension => none
  | .condExpr c t f => do
    return (← getFuncCallsInExpr c) ++ (← getFuncCallsInExpr t) ++ (← getFuncCallsInExpr f)
  | .dictEntry k v => do return (← getFuncCallsInExpr k) ++ (← getFuncCallsInExpr v)
  | .dictExpr list => getFuncCallsInList list
  | .dotExpr => none
  | .ident _ => some []
  | .indexExpr x y => do return (← getFuncCallsInExpr x) ++ (← getFuncCallsInExpr y)
  | .lambdaExpr params body => do
    return (← getFuncCallsInExpr body) ++ (← getFuncCallsInList params)
  | .listExpr list => getFuncCallsInList list
  | .literal => some []
  | .parenExpr x => getFuncCallsInExpr x
  | .sliceExpr x lo hi step => do
    return (← getFuncCallsInExpr x) ++ (← getFuncCallsInOpt lo) ++ (← getFuncCallsInOpt hi) ++
      (← getFuncCallsInOpt step)
  | .tupleExpr list => getFuncCallsInList list
  | .unaryExpr x => getFuncCallsInOpt x

/-- The loops `for _, elem := range list { result = append(result, ...) }`. -/
def getFuncCallsInList : List Expr → Option (List String)
  | [] => some []
  | e :: es => do return (← getFuncCallsInExpr e) ++ (← getFuncCallsInList es)

/-- A field that may hold a nil `Expr`: nil matches no case and gives `nil`. -/
def getFuncCallsInOpt : Option Expr → Option (List String)
  | none => some []
  | some e => getFuncCallsInExpr e

end

/-- Go's `syntax.Stmt`, with the expressions `analyzeFuncBody` reads. -/
inductive Stmt
  | assignStmt (rhs : Expr)
  | branchStmt
  | defStmt
  | exprStmt (x : Expr)
  | forStmt
  | whileStmt
  | ifStmt
  | loadStmt
  | returnStmt (result : Option Expr)
deriving Repr

/-- One turn of the loop of `analyzeFuncBody`: the calls of an assignment's
right-hand side, an expression statement or a returned value appended; the
other statements only print a `TODO`. -/
def analyzeStmt (calls : List String) : Stmt → Option (List String)
  | .assignStmt rhs => (calls ++ ·) <$> getFuncCallsInExpr rhs
  | .exprStmt x => (calls ++ ·) <$> getFuncCallsInExpr x
  | .returnStmt result => (calls ++ ·) <$> getFuncCallsInOpt result
  | _ => some calls

/-- `analyzeFuncBody`. The name and the parameters are filled in by its caller;
the error of `json.Marshal(stmt)`, whose text is never read, is left out. -/
def analyzeFuncBody (body : List Stmt) : Option FuncResult := do
  let calls ← body.foldlM analyzeStmt []
  return ⟨"", calls⟩

/-! ## One step of the walk -/

/-- The kinds that panic. -/
def Expr.Panics : Expr → Bool
  | .comprehension | .dotExpr => true
  | _ => false

/-- The name a node adds by itself: a call's. -/
def Expr.callName : Expr → Option String
  | .callExpr fn _ => some (simpleExprToFuncName fn)
  | _ => none

/-- A call's callee. -/
def Expr.callee : Expr → Option Expr
  | .callExpr fn _ => some fn
  | _ => none

/-- The subexpressions the walk goes into, in its order: all but a callee. -/
def Expr.visited : Expr → List Expr
  | .binaryExpr x y | .dictEntry x y | .indexExpr x y => [x, y]
  | .callExpr _ args => args
  | .condExpr c t f => [c, t, f]
  | .dictExpr list | .listExpr list | .tupleExpr list => list
  | .lambdaExpr params body => body :: params
  | .parenExpr x => [x]
  | .sliceExpr x lo hi step => x :: (lo.toList ++ hi.toList ++ step.toList)
  | .unaryExpr x => x.toList
  | .comprehension | .dotExpr | .ident _ | .literal => []

section Unfolding

@[simp] theorem getFuncCallsInList_nil : getFuncCallsInList [] = some [] := rfl

@[simp] theorem getFuncCallsInList_cons (e : Expr) (es : List Expr) :
    getFuncCallsInList (e :: es) =
      (getFuncCallsInExpr e).bind fun a => (getFuncCallsInList es).map (a ++ ·) := by
  simp only [getFuncCallsInList]
  cases getFuncCallsInExpr e <;> cases getFuncCallsInList es <;> rfl

theorem getFuncCallsInList_append (l₁ l₂ : List Expr) :
    getFuncCallsInList (l₁ ++ l₂) =
      (getFuncCallsInList l₁).bind fun a => (getFuncCallsInList l₂).map (a ++ ·) := by
  induction l₁ with
  | nil => simp
  | cons e l₁ ih =>
    simp only [List.cons_append, getFuncCallsInList_cons, ih]
    cases getFuncCallsInExpr e <;> cases getFuncCallsInList l₁ <;>
      cases getFuncCallsInList l₂ <;> simp

theorem getFuncCallsInOpt_eq (o : Option Expr) :
    getFuncCallsInOpt o = getFuncCallsInList o.toList := by
  cases o with
  | none => rfl
  | some e => simp [getFuncCallsInOpt]

/-- **One step of the walk.** A node panics, or adds its own name, if a call,
before the calls of the subexpressions it goes into. -/
theorem getFuncCallsInExpr_eq (e : Expr) :
    getFuncCallsInExpr e = if e.Panics then none
      else (getFuncCallsInList e.visited).map (e.callName.toList ++ ·) := by
  cases e <;>
    simp [getFuncCallsInExpr, Expr.Panics, Expr.visited, Expr.callName, getFuncCallsInOpt_eq,
      getFuncCallsInList_append, Option.map_eq_bind, Function.comp_def, Option.bind_assoc]

/-- The expressions a statement's calls are taken from. -/
def Stmt.exprs : Stmt → List Expr
  | .assignStmt rhs => [rhs]
  | .exprStmt x => [x]
  | .returnStmt result => result.toList
  | _ => []

theorem analyzeStmt_eq (calls : List String) (stmt : Stmt) :
    analyzeStmt calls stmt = (getFuncCallsInList stmt.exprs).map (calls ++ ·) := by
  cases stmt <;> simp [analyzeStmt, Stmt.exprs, getFuncCallsInOpt_eq, Option.map_eq_bind,
    Function.comp_def]

theorem foldlM_analyzeStmt (body : List Stmt) (calls : List String) :
    body.foldlM analyzeStmt calls =
      (getFuncCallsInList (body.flatMap Stmt.exprs)).map (calls ++ ·) := by
  induction body generalizing calls with
  | nil => simp
  | cons stmt body ih =>
    simp only [List.foldlM_cons, analyzeStmt_eq, List.flatMap_cons, getFuncCallsInList_append]
    cases getFuncCallsInList stmt.exprs <;> simp [ih, Function.comp_def]

/-- `analyzeFuncBody` collects the calls of its statements' expressions, in order. -/
theorem analyzeFuncBody_eq (body : List Stmt) :
    analyzeFuncBody body = (getFuncCallsInList (body.flatMap Stmt.exprs)).map (⟨"", ·⟩) := by
  simp only [analyzeFuncBody, foldlM_analyzeStmt, List.nil_append]
  cases getFuncCallsInList (body.flatMap Stmt.exprs) <;> rfl

end Unfolding

/-! ## Every call of the tree -/

/-- The direct subexpressions: the callee of a call, then those the walk goes into. -/
def Expr.children (e : Expr) : List Expr := e.callee.toList ++ e.visited

mutual

/-- Every node of the tree, in preorder, callees included. -/
def Expr.subterms : Expr → List Expr
  | e@(.binaryExpr x y) => e :: (x.subterms ++ y.subterms)
  | e@(.callExpr fn args) => e :: (fn.subterms ++ Expr.subtermsList args)
  | .comprehension => [.comprehension]
  | e@(.condExpr c t f) => e :: (c.subterms ++ t.subterms ++ f.subterms)
  | e@(.dictEntry k v) => e :: (k.subterms ++ v.subterms)
  | e@(.dictExpr list) => e :: Expr.subtermsList list
  | .dotExpr => [.dotExpr]
  | e@(.ident _) => [e]
  | e@(.indexExpr x y) => e :: (x.subterms ++ y.subterms)
  | e@(.lambdaExpr params body) => e :: (body.subterms ++ Expr.subtermsList params)
  | e@(.listExpr list) => e :: Expr.subtermsList list
  | .literal => [.literal]
  | e@(.parenExpr x) => e :: x.subterms
  | e@(.sliceExpr x lo hi step) =>
    e :: (x.subterms ++ Expr.subtermsOpt lo ++ Expr.subtermsOpt hi ++ Expr.subtermsOpt step)
  | e@(.tupleExpr list) => e :: Expr.subtermsList list
  | e@(.unaryExpr x) => e :: Expr.subtermsOpt x

/-- The nodes of a list of trees. -/
def Expr.subtermsList : List Expr → List Expr
  | [] => []
  | e :: es => e.subterms ++ Expr.subtermsList es

/-- The nodes of a tree that may be nil. -/
def Expr.subtermsOpt : Option Expr → List Expr
  | none => []
  | some e => e.subterms

end

/-- The names of every call of the tree, callee positions included: one per
call node, in preorder. -/
def allCallNames (e : Expr) : List String := e.subterms.filterMap Expr.callName

section Subterms

theorem Expr.subtermsList_eq (l : List Expr) : Expr.subtermsList l = l.flatMap Expr.subterms := by
  induction l with
  | nil => rfl
  | cons e l ih => simp [Expr.subtermsList, ih]

theorem Expr.subtermsOpt_eq (o : Option Expr) :
    Expr.subtermsOpt o = o.toList.flatMap Expr.subterms := by
  cases o <;> simp [Expr.subtermsOpt]

theorem Expr.subterms_eq (e : Expr) : e.subterms = e :: e.children.flatMap Expr.subterms := by
  cases e <;> simp [Expr.subterms, Expr.children, Expr.callee, Expr.visited, Expr.subtermsList_eq,
    Expr.subtermsOpt_eq]

theorem Expr.mem_subterms_self (e : Expr) : e ∈ e.subterms := by
  rw [Expr.subterms_eq]
  exact List.mem_cons_self _ _

theorem Expr.mem_subterms_of_child {e c s : Expr} (hc : c ∈ e.children) (hs : s ∈ c.subterms) :
    s ∈ e.subterms := by
  rw [Expr.subterms_eq]
  exact List.mem_cons_of_mem _ (List.mem_flatMap.2 ⟨c, hc, hs⟩)

theorem allCallNames_eq (e : Expr) :
    allCallNames e = e.callName.toList ++ e.children.flatMap allCallNames := by
  rw [allCallNames, Expr.subterms_eq, List.filterMap_cons, List.filterMap_flatMap]
  cases e.callName <;> rfl

/-- A child is a smaller tree: the induction over the tree goes through `children`. -/
theorem Expr.sizeOf_lt_of_mem_children (e : Expr) : ∀ c ∈ e.children, sizeOf c < sizeOf e := by
  have hl : ∀ {c : Expr} {l : List Expr}, c ∈ l → sizeOf c < sizeOf l := List.sizeOf_lt_of_mem
  have ho : ∀ {c : Expr} {o : Option Expr}, c ∈ o.toList → sizeOf c < sizeOf o := by
    rintro c (_ | o) h
    · simp at h
    · simp only [Option.toList, List.mem_singleton] at h
      subst h
      simp
  -- one size inequality per child field, closed by arithmetic
  cases e <;> simp only [Expr.children, Expr.callee, Expr.visited, List.forall_mem_cons,
      List.forall_mem_append, Option.toList_some, Option.toList_none, List.nil_append,
      List.singleton_append, Expr.binaryExpr.sizeOf_spec, Expr.callExpr.sizeOf_spec,
      Expr.condExpr.sizeOf_spec, Expr.dictEntry.sizeOf_spec, Expr.dictExpr.sizeOf_spec,
      Expr.indexExpr.sizeOf_spec, Expr.lambdaExpr.sizeOf_spec, Expr.listExpr.sizeOf_spec,
      Expr.parenExpr.sizeOf_spec, Expr.sliceExpr.sizeOf_spec, Expr.tupleExpr.sizeOf_spec,
      Expr.unaryExpr.sizeOf_spec, and_true] <;>
    and_intros <;>
    first
    | omega
    | exact fun c hc => absurd hc (List.not_mem_nil c)
    | exact fun c hc => by have := hl hc; omega
    | exact fun c hc => by have := ho hc; omega

end Subterms

/-! ## Which calls are collected -/

section Collect

/-- What the walk of one tree gives, when nothing in it panics: a list of names,
in order among the tree's calls, and all of them when no callee holds a call. -/
def Collects (e : Expr) (names : List String) : Prop :=
  names.Sublist (allCallNames e) ∧
    ((∀ s ∈ e.subterms, ∀ fn ∈ s.callee.toList, allCallNames fn = []) → names = allCallNames e)

theorem getFuncCallsInList_collects (cs : List Expr)
    (h : ∀ c ∈ cs, ∃ names, getFuncCallsInExpr c = some names ∧ Collects c names) :
    ∃ names, getFuncCallsInList cs = some names ∧ names.Sublist (cs.flatMap allCallNames) ∧
      ((∀ c ∈ cs, ∀ s ∈ c.subterms, ∀ fn ∈ s.callee.toList, allCallNames fn = []) →
        names = cs.flatMap allCallNames) := by
  induction cs with
  | nil => exact ⟨[], rfl, by simp, by simp⟩
  | cons c cs ih =>
    obtain ⟨n₁, h₁, hs₁, he₁⟩ := h c (List.mem_cons_self _ _)
    obtain ⟨n₂, h₂, hs₂, he₂⟩ := ih fun c' hc' => h c' (List.mem_cons_of_mem _ hc')
    refine ⟨n₁ ++ n₂, by simp [h₁, h₂], by simpa using hs₁.append hs₂, fun hcf => ?_⟩
    rw [List.flatMap_cons, he₁ (hcf c (List.mem_cons_self _ _)),
      he₂ fun c' hc' => hcf c' (List.mem_cons_of_mem _ hc')]

/-- **What `getFuncCallsInExpr` collects.** On a tree with no `Comprehension`
and no `DotExpr`, it returns, in order, a part of the names of the tree's
calls, and all of them when no callee holds a call. -/
theorem getFuncCallsInExpr_collects (e : Expr) (hpanic : ∀ s ∈ e.subterms, s.Panics = false) :
    ∃ names, getFuncCallsInExpr e = some names ∧ Collects e names := by
  generalize hn : sizeOf e = n
  induction n using Nat.strong_induction_on generalizing e with
  | _ n ih =>
    have hchild : ∀ c ∈ e.visited, ∃ names, getFuncCallsInExpr c = some names ∧ Collects c names :=
      fun c hc =>
        have hc' : c ∈ e.children := List.mem_append_right _ hc
        ih _ (hn ▸ e.sizeOf_lt_of_mem_children c hc') c
          (fun s hs => hpanic s (Expr.mem_subterms_of_child hc' hs)) rfl
    obtain ⟨names, hrun, hsub, heq⟩ := getFuncCallsInList_collects e.visited hchild
    refine ⟨e.callName.toList ++ names, ?_, ?_, fun hcf => ?_⟩
    · rw [getFuncCallsInExpr_eq, hpanic e e.mem_subterms_self, hrun]
      rfl
    · rw [allCallNames_eq, Expr.children, List.flatMap_append]
      exact (hsub.trans (List.sublist_append_right _ _)).append_left _
    · have hcallee : e.callee.toList.flatMap allCallNames = [] := by
        simpa using hcf e e.mem_subterms_self
      rw [allCallNames_eq, Expr.children, List.flatMap_append, hcallee, List.nil_append,
        heq fun c hc s hs => hcf s (Expr.mem_subterms_of_child (List.mem_append_right _ hc) hs)]

/-- The inner call of `f(x)(y)` is not collected: the callee of the outer call
is only named, by its type. -/
theorem getFuncCallsInExpr_skips_callee :
    allCallNames (.callExpr (.callExpr (.ident "f") [.ident "x"]) [.ident "y"]) =
      ["<Unknown Name, Type: \"*syntax.CallExpr\">", "f"] ∧
    getFuncCallsInExpr (.callExpr (.callExpr (.ident "f") [.ident "x"]) [.ident "y"]) =
      some ["<Unknown Name, Type: \"*syntax.CallExpr\">"] ∧
    ∀ s ∈ (Expr.callExpr (.callExpr (.ident "f") [.ident "x"]) [.ident "y"]).subterms,
      s.Panics = false := by
  decide

/-- **The calls of a function body.** For a body whose expressions hold no
`Comprehension` and no `DotExpr`, `analyzeFuncBody` returns, in order, a part of
the names of the calls in them, and all of them when no callee holds a call. -/
theorem analyzeFuncBody_calls (body : List Stmt)
    (hpanic : ∀ e ∈ body.flatMap Stmt.exprs, ∀ s ∈ e.subterms, s.Panics = false) :
    ∃ r, analyzeFuncBody body = some r ∧
      r.calls.Sublist ((body.flatMap Stmt.exprs).flatMap allCallNames) ∧
      ((∀ e ∈ body.flatMap Stmt.exprs, ∀ s ∈ e.subterms, ∀ fn ∈ s.callee.toList,
        allCallNames fn = []) → r.calls = (body.flatMap Stmt.exprs).flatMap allCallNames) := by
  obtain ⟨names, hrun, hsub, heq⟩ := getFuncCallsInList_collects _ fun e he =>
    getFuncCallsInExpr_collects e (hpanic e he)
  exact ⟨⟨"", names⟩, by rw [analyzeFuncBody_eq, hrun]; rfl, hsub, heq⟩

/-- The theorem on a body with a nested call, a call to `print` and a bare
`return`. -/
theorem analyzeFuncBody_calls_sample :
    let body := [Stmt.assignStmt (.callExpr (.ident "load") [.literal]),
      .exprStmt (.callExpr (.ident "print") [.callExpr (.ident "fmt") [.ident "x"]]),
      .returnStmt none]
    (∀ e ∈ body.flatMap Stmt.exprs, ∀ s ∈ e.subterms, s.Panics = false) ∧
    ∃ r, analyzeFuncBody body = some r ∧
      r.calls.Sublist ((body.flatMap Stmt.exprs).flatMap allCallNames) ∧
      ((∀ e ∈ body.flatMap Stmt.exprs, ∀ s ∈ e.subterms, ∀ fn ∈ s.callee.toList,
        allCallNames fn = []) → r.calls = (body.flatMap Stmt.exprs).flatMap allCallNames) :=
  have hpanic : ∀ e ∈ [Stmt.assignStmt (.callExpr (.ident "load") [.literal]),
      .exprStmt (.callExpr (.ident "print") [.callExpr (.ident "fmt") [.ident "x"]]),
      .returnStmt none].flatMap Stmt.exprs, ∀ s ∈ e.subterms, s.Panics = false := by decide
  ⟨hpanic, analyzeFuncBody_calls _ hpanic⟩

end Collect

end Startf

end Qri
