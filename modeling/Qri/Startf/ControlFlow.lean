import Qri.Startf.Analyze

/-!
The control flow of one function: `analyzeSingleFunction`, `buildControlFlow`
and `funcCallToText` (the file the sources keep as `base/dsfs/package.go`,
lines 767-916).

`analyzeSingleFunction` looks a function up in the call graph and builds a
`CodeBlock` for each statement of its body. A block holds lines of code and
`Outs`, the blocks control goes to next. Only a `for` statement adds an edge,
and it adds it to the block it then drops: `currBlock` moves to the new, empty
block, which is what is returned. So no block returned has an edge, and each
holds at most one line (`analyzeSingleFunction_blocks`).

It panics in two places (`analyzeSingleFunction_eq_none_iff`):
* on a name the graph did not register, through the nil `*FuncNode` that
  `graph.lookup` returns; `doAnalyze` asks for `first_func`, so this is every
  script without one;
* on an expression statement that calls anything but a name, such as
  `f(x)(y)`, whose callee `funcCallToText` asserts is an identifier, where
  `getFuncCallsInExpr` names it instead.

`FuncNode` does not keep its `fn` pointer, and `Stmt.assignStmt` keeps only its
right side. So the body behind a node and the text of an assignment are
parameters: `assignmentToText` reads the left side and a literal's token.
-/

set_option autoImplicit false

namespace Qri

namespace Startf

/-! ## Model -/

/-- `CodeBlock`: lines of code, and the blocks control goes to. -/
structure CodeBlock where
  code : List String
  outs : List CodeBlock

/-- `newCodeBlock`. -/
def newCodeBlock : CodeBlock := ⟨[], []⟩

/-- `funcCallToText`: the line of an expression statement. `none` is the panic
of the assertion `fn.(*syntax.Ident)` on a callee that is not an identifier. -/
def funcCallToText : Expr → Option String
  | .binaryExpr .. => some "binary()"
  | .callExpr (.ident name) _ => some (name ++ "()")
  | .callExpr .. => none
  | .comprehension => some "comp()"
  | .condExpr .. => some "cond()"
  | .dictEntry .. => some "dictEntry()"
  | .dictExpr .. => some "dict()"
  | .dotExpr => some "dot()"
  | .ident name => some (name ++ "()")
  | .indexExpr .. => some "index()"
  | .lambdaExpr .. => some "lambda()"
  | .listExpr .. => some "list()"
  | .literal => some "literal()"
  | .parenExpr .. => some "paren()"
  | .sliceExpr .. => some "slice()"
  | .tupleExpr .. => some "tuple()"
  | .unaryExpr .. => some "unary()"

section ControlFlow

variable (assignmentToText : Expr → String)

/-- `buildControlFlow`. A `for` statement links the first block to a new one
and goes on with the new one; the statements it does not handle yet only print
a `TODO`. -/
def buildControlFlow (stmt : Stmt) : Option CodeBlock :=
  let currBlock := newCodeBlock
  match stmt with
  | .assignStmt rhs => some { currBlock with code := currBlock.code ++ [assignmentToText rhs] }
  | .exprStmt x => (funcCallToText x).map fun funcCallLine =>
      { currBlock with code := currBlock.code ++ [funcCallLine] }
  | .forStmt =>
    let newBlock := newCodeBlock
    let _linked := { currBlock with outs := currBlock.outs ++ [newBlock] }
    some newBlock
  | _ => some currBlock

/-- The loop of `analyzeSingleFunction` over the body, appending each line's
block. -/
def controlFlowLoop (controlFlow : List CodeBlock) : List Stmt → Option (List CodeBlock)
  | [] => some controlFlow
  | line :: lines => (buildControlFlow assignmentToText line).bind fun block =>
      controlFlowLoop (controlFlow ++ [block]) lines

/-- `analyzeSingleFunction`, returning the blocks it prints; the body of node
`id` is `body id`. `none` is a panic. -/
def analyzeSingleFunction (body : Nat → List Stmt) (graph : CallGraph) (fname : String) :
    Option (List CodeBlock) :=
  match graph.lookup.lookup fname with
  | none => none
  | some f => controlFlowLoop assignmentToText [] (body f)

/-! ## One statement -/

/-- A call whose callee is not an identifier. -/
def CallsNonName (stmt : Stmt) : Prop :=
  ∃ fn args, stmt = .exprStmt (.callExpr fn args) ∧ ∀ name, fn ≠ .ident name

theorem funcCallToText_eq_none_iff (x : Expr) :
    funcCallToText x = none ↔ ∃ fn args, x = .callExpr fn args ∧ ∀ name, fn ≠ .ident name := by
  constructor
  · intro h
    cases x with
    | callExpr fn args => exact ⟨fn, args, rfl, fun name hfn => by subst hfn; cases h⟩
    | _ => cases h
  · rintro ⟨fn, args, rfl, hfn⟩
    cases fn with
    | ident name => exact absurd rfl (hfn name)
    | _ => rfl

/-- A statement panics exactly when it calls something other than a name. -/
theorem buildControlFlow_eq_none_iff (stmt : Stmt) :
    buildControlFlow assignmentToText stmt = none ↔ CallsNonName stmt := by
  constructor
  · intro h
    cases stmt with
    | exprStmt x =>
      obtain ⟨fn, args, rfl, hfn⟩ := (funcCallToText_eq_none_iff x).1 (Option.map_eq_none'.1 h)
      exact ⟨fn, args, rfl, hfn⟩
    | _ => cases h
  · rintro ⟨fn, args, rfl, hfn⟩
    exact Option.map_eq_none'.2 ((funcCallToText_eq_none_iff _).2 ⟨fn, args, rfl, hfn⟩)

/-- **A statement's block has no edge and at most one line.** -/
theorem buildControlFlow_shape (stmt : Stmt) (block : CodeBlock)
    (h : buildControlFlow assignmentToText stmt = some block) :
    block.outs = [] ∧ block.code.length ≤ 1 := by
  cases stmt with
  | exprStmt x =>
    obtain ⟨line, -, rfl⟩ := Option.map_eq_some'.1 h
    exact ⟨rfl, by simp [newCodeBlock]⟩
  | _ => cases h; exact ⟨rfl, by simp [newCodeBlock]⟩

/-! ## The body -/

/-- The loop panics exactly when a statement does; otherwise it appends one
block per statement, each with no edge and at most one line. -/
theorem controlFlowLoop_spec (lines : List Stmt) :
    ∀ controlFlow : List CodeBlock,
      (controlFlowLoop assignmentToText controlFlow lines = none ↔ ∃ s ∈ lines, CallsNonName s) ∧
      ∀ out, controlFlowLoop assignmentToText controlFlow lines = some out →
        out.length = controlFlow.length + lines.length ∧
        ∀ b ∈ out, b ∈ controlFlow ∨ b.outs = [] ∧ b.code.length ≤ 1 := by
  induction lines with
  | nil =>
    exact fun _ => ⟨by simp [controlFlowLoop], fun _ h => by
      cases h
      exact ⟨by simp, fun b hb => .inl hb⟩⟩
  | cons line lines ih =>
    intro controlFlow
    rcases hb : buildControlFlow assignmentToText line with _ | block
    · -- the statement panics
      have hline := (buildControlFlow_eq_none_iff assignmentToText line).1 hb
      simp only [controlFlowLoop, hb, Option.none_bind, reduceCtorEq, false_implies,
        implies_true, and_true, true_iff]
      exact ⟨line, List.mem_cons_self _ _, hline⟩
    · -- its block is appended
      have hline : ¬ CallsNonName line := fun h' =>
        absurd hb (by rw [(buildControlFlow_eq_none_iff assignmentToText line).2 h']; simp)
      obtain ⟨hnone, hsome⟩ := ih (controlFlow ++ [block])
      have hshape := buildControlFlow_shape assignmentToText line block hb
      simp only [controlFlowLoop, hb, Option.some_bind, hnone, List.mem_cons, exists_eq_or_imp,
        hline, false_or]
      refine ⟨trivial, fun out hout => ?_⟩
      obtain ⟨hlen, hmem⟩ := hsome out hout
      refine ⟨by simp only [hlen, List.length_append, List.length_cons, List.length_nil]; omega,
        fun b hb' => ?_⟩
      rcases hmem b hb' with h | h
      · rcases List.mem_append.1 h with h | h
        · exact .inl h
        · exact .inr (List.mem_singleton.1 h ▸ hshape)
      · exact .inr h

/-- **`analyzeSingleFunction` panics exactly when** the name is not in the
graph, or a statement of its body calls something other than a name. -/
theorem analyzeSingleFunction_eq_none_iff (body : Nat → List Stmt) (graph : CallGraph)
    (fname : String) :
    analyzeSingleFunction assignmentToText body graph fname = none ↔
      graph.lookup.lookup fname = none ∨
        ∃ f, graph.lookup.lookup fname = some f ∧ ∃ s ∈ body f, CallsNonName s := by
  unfold analyzeSingleFunction
  cases graph.lookup.lookup fname with
  | none => simp
  | some f => simp [(controlFlowLoop_spec assignmentToText (body f) []).1]

/-- **The control flow has no edges.** When `analyzeSingleFunction` returns,
the name is in the graph and there is one block per statement of its body, each
with no edge and at most one line. -/
theorem analyzeSingleFunction_blocks (body : Nat → List Stmt) (graph : CallGraph)
    (fname : String) (blocks : List CodeBlock)
    (h : analyzeSingleFunction assignmentToText body graph fname = some blocks) :
    ∃ f, graph.lookup.lookup fname = some f ∧ blocks.length = (body f).length ∧
      ∀ b ∈ blocks, b.outs = [] ∧ b.code.length ≤ 1 := by
  unfold analyzeSingleFunction at h
  cases hf : graph.lookup.lookup fname with
  | none => rw [hf] at h; cases h
  | some f =>
    rw [hf] at h
    obtain ⟨hlen, hmem⟩ := (controlFlowLoop_spec assignmentToText (body f) []).2 blocks h
    exact ⟨f, rfl, by simpa using hlen, fun b hb => (hmem b hb).resolve_left (List.not_mem_nil b)⟩

end ControlFlow

/-- A function `first_func` of an assignment, a call and a loop: three blocks,
none linked. -/
theorem analyzeSingleFunction_blocks_firstFunc :
    analyzeSingleFunction (fun _ => "set! x = 1") (fun _ => [.assignStmt .literal,
      .exprStmt (.callExpr (.ident "print") []), .forStmt]) ⟨none, [], [("first_func", 0)]⟩
      "first_func" = some [⟨["set! x = 1"], []⟩, ⟨["print()"], []⟩, ⟨[], []⟩] ∧
    ∃ f, ([("first_func", 0)] : List (String × Nat)).lookup "first_func" = some f ∧
      [(⟨["set! x = 1"], []⟩ : CodeBlock), ⟨["print()"], []⟩, ⟨[], []⟩].length =
        ([.assignStmt .literal, .exprStmt (.callExpr (.ident "print") []), .forStmt] : List Stmt).length ∧
      ∀ b ∈ [(⟨["set! x = 1"], []⟩ : CodeBlock), ⟨["print()"], []⟩, ⟨[], []⟩],
        b.outs = [] ∧ b.code.length ≤ 1 :=
  ⟨rfl, analyzeSingleFunction_blocks (fun _ => "set! x = 1") (fun _ => [.assignStmt .literal,
    .exprStmt (.callExpr (.ident "print") []), .forStmt]) ⟨none, [], [("first_func", 0)]⟩
    "first_func" _ rfl⟩

end Startf

end Qri
