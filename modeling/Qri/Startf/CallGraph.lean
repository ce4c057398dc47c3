import Qri.Go.Basic

/-!
The call graph of the transform-script analyser (`startf`, in the file the
sources keep as `base/dsfs/package.go`, lines 676-765).

`buildCallGraph` gets one `FuncResult` per top-level `def`: its name and the
names it calls. It puts them in a symbol table with the builtin `print`, adds a
node per function with `addToCallGraph` (a depth-first walk memoised by name in
`graph.lookup`), gives every node a height with `addCallHeight`, and marks what
`transform` reaches with `markReachable`; `displayFuncNode` then prints the
nodes no one reaches as `DEAD CODE`.

All three walks are plain Go recursion with nothing that bounds it, so each is
modelled with fuel: `fuel` is how deep the Go stack may grow, and
`Fault.outOfFuel` for every fuel is a recursion that never returns. The other
fault is `Fault.nilDereference`, the nil `*FuncNode` that `markReachable` is
handed when no function is named `transform`. Pointers to nodes are ids into
the list `graph.nodes`: a node is appended there exactly when its name is
registered in `graph.lookup`, so in a run that returns every node allocated is
in the list, at the position it was registered.

Both faults are reachable (`buildCallGraph_not_total`): `addToCallGraph`
registers a name only after it has walked the name's callees, so a function
that calls itself, directly or through others, sends the walk round the cycle
for ever.
-/

set_option autoImplicit false

namespace Qri

namespace Startf

/-! ## Data -/

/-- `FuncResult`, with the fields the call graph reads: the function's name and
the names its body calls, in order (`analyzeFuncBody`). -/
structure FuncResult where
  name : String
  calls : List String
deriving Repr, DecidableEq

/-- A Go `map[string]*FuncResult`, newest assignment first. -/
abbrev SymTable := List (String × FuncResult)

/-- The builtin `buildCallGraph` adds: `&FuncResult{name: "print"}`. -/
def printFunc : FuncResult := ⟨"print", []⟩

/-- `symtable` as `buildCallGraph` fills it: every function under its name, a
later one replacing an earlier one of the same name, then `print`. -/
def symtableOf (functions : List FuncResult) : SymTable :=
  ("print", printFunc) :: functions.foldl (fun st f => (f.name, f) :: st) []

/-- `FuncNode`. `outs` holds the ids of the callees' nodes; the `fn` pointer
back to the `FuncResult` is only read by `analyzeSingleFunction` and is left
out. -/
structure FuncNode where
  name : String
  outs : List Nat
  reach : Bool
  height : Int
deriving Repr, DecidableEq, Inhabited

/-- `CallGraph`: the root's id, the nodes in the order they were registered,
and `lookup`, a Go map from name to id, newest assignment first. -/
structure CallGraph where
  root : Option Nat
  nodes : List FuncNode
  lookup : List (String × Nat)
deriving Repr, DecidableEq

/-- How the analyser can fail to return. -/
inductive Fault
  /-- The recursion went deeper than the fuel: for every fuel, it does not return. -/
  | outOfFuel
  /-- A field of the nil `*FuncNode` was written. -/
  | nilDereference
deriving Repr, DecidableEq

/-! ## `addToCallGraph` -/

/-- The loop of `addToCallGraph` over `f.calls`. A name the symbol table lacks
is printed as not found and skipped; any other is added, by the recursive call
`add`, and its node appended to `me.outs`. -/
def addCallees (symtable : SymTable) (add : FuncResult → CallGraph → Except Fault (Nat × CallGraph)) :
    List String → List Nat → CallGraph → Except Fault (List Nat × CallGraph)
  | [], outs, graph => .ok (outs, graph)
  | call :: calls, outs, graph =>
    match symtable.lookup call with
    | none => addCallees symtable add calls outs graph
    | some child => do
      let (n, graph) ← add child graph
      addCallees symtable add calls (outs ++ [n]) graph

/-- `addToCallGraph`: the node of a name already in `lookup`; otherwise the
callees first, and only then the new node, appended to `nodes` and registered
in `lookup`. -/
def addToCallGraph (symtable : SymTable) :
    Nat → FuncResult → CallGraph → Except Fault (Nat × CallGraph)
  | 0, _, _ => .error .outOfFuel
  | fuel + 1, f, graph =>
    match graph.lookup.lookup f.name with
    | some me => .ok (me, graph)
    | none => do
      let (outs, graph) ← addCallees symtable (addToCallGraph symtable fuel) f.calls [] graph
      let me := graph.nodes.length
      .ok (me, { graph with nodes := graph.nodes ++ [⟨f.name, outs, false, 0⟩],
                            lookup := (f.name, me) :: graph.lookup })

/-! ## `addCallHeight` and `markReachable` -/

/-- The loop of `addCallHeight` over `node.outs`: each callee's height is
computed, by `visit`, and then read, and `maxChild` keeps the largest. -/
def maxChildHeight (visit : List FuncNode → Nat → Except Fault (List FuncNode)) :
    List Nat → Int → List FuncNode → Except Fault (Int × List FuncNode)
  | [], maxChild, heap => .ok (maxChild, heap)
  | fn :: fns, maxChild, heap => do
    let heap ← visit heap fn
    let h := (heap.getD fn default).height
    maxChildHeight visit fns (if h > maxChild then h else maxChild) heap

/-- `addCallHeight`: one more than the largest height of a callee, each
callee's height computed first; `-1 + 1 = 0` for a node with no callees. -/
def addCallHeight : Nat → List FuncNode → Nat → Except Fault (List FuncNode)
  | 0, _, _ => .error .outOfFuel
  | fuel + 1, heap, node => do
    let (maxChild, heap) ←
      maxChildHeight (addCallHeight fuel) (heap.getD node default).outs (-1) heap
    .ok (heap.set node { heap.getD node default with height := maxChild + 1 })

/-- `markReachable`: mark the node, then everything it calls. -/
def markReachable : Nat → List FuncNode → Nat → Except Fault (List FuncNode)
  | 0, _, _ => .error .outOfFuel
  | fuel + 1, heap, node =>
    let heap := heap.set node { heap.getD node default with reach := true }
    (heap.getD node default).outs.foldlM (markReachable fuel) heap

/-! ## `buildCallGraph` -/

/-- One turn of the loop over `functions`: `addToCallGraph(f, graph, symtable)`,
its result dropped. -/
def addFunction (symtable : SymTable) (fuel : Nat) (graph : CallGraph) (f : FuncResult) :
    Except Fault CallGraph := do
  let (_, graph) ← addToCallGraph symtable fuel f graph
  .ok graph

/-- `buildCallGraph`. `fuel` bounds each of the three recursions. -/
def buildCallGraph (fuel : Nat) (functions : List FuncResult) : Except Fault CallGraph := do
  let symtable := symtableOf functions
  let graph ← functions.foldlM (addFunction symtable fuel) ⟨none, [], []⟩
  let heap ← (List.range graph.nodes.length).foldlM (addCallHeight fuel) graph.nodes
  match graph.lookup.lookup "transform" with
  | none => .error .nilDereference
  | some root => do
    let heap ← markReachable fuel heap root
    .ok { graph with root := some root, nodes := heap }

/-- The suffix `displayFuncNode` prints after a node's height. -/
def deadCodeMark (node : FuncNode) : String := if !node.reach then " *** DEAD CODE" else ""

theorem deadCodeMark_eq_iff (node : FuncNode) :
    deadCodeMark node = " *** DEAD CODE" ↔ node.reach = false := by
  cases h : node.reach <;> simp [deadCodeMark, h]

/-- The line `displayFuncNode` prints for a node at a depth. -/
def displayLine (node : FuncNode) (depth : Nat) : String :=
  "".pushn ' ' (2 * depth) ++ node.name ++ " @ " ++ toString node.height ++ deadCodeMark node

/-- `displayFuncNode`: the node's line, then its callees one level deeper. -/
def displayFuncNode : Nat → List FuncNode → Nat → Nat → Except Fault (List String)
  | 0, _, _, _ => .error .outOfFuel
  | fuel + 1, heap, node, depth =>
    (heap.getD node default).outs.foldlM (fun lines call => do
      let more ← displayFuncNode fuel heap call (depth + 1)
      .ok (lines ++ more)) [displayLine (heap.getD node default) depth]

/-! ## Unfolding -/

section Unfolding

variable {symtable : SymTable} {fuel : Nat} {f : FuncResult} {graph : CallGraph}

@[simp] theorem addCallees_nil (add : FuncResult → CallGraph → Except Fault (Nat × CallGraph))
    (outs : List Nat) : addCallees symtable add [] outs graph = .ok (outs, graph) := rfl

theorem addToCallGraph_found {me : Nat} (h : graph.lookup.lookup f.name = some me) :
    addToCallGraph symtable (fuel + 1) f graph = .ok (me, graph) := by
  simp [addToCallGraph, h]

theorem addToCallGraph_fresh (h : graph.lookup.lookup f.name = none) :
    addToCallGraph symtable (fuel + 1) f graph =
      (addCallees symtable (addToCallGraph symtable fuel) f.calls [] graph) >>= fun r =>
        .ok (r.2.nodes.length, { r.2 with nodes := r.2.nodes ++ [⟨f.name, r.1, false, 0⟩],
                                          lookup := (f.name, r.2.nodes.length) :: r.2.lookup }) := by
  simp only [addToCallGraph, h]

end Unfolding

/-! ## Where it does not return -/

/-- A function that calls only itself, added to a graph where its name is not
registered yet: no fuel is enough. -/
theorem addToCallGraph_self_call {symtable : SymTable} {n : String} {graph : CallGraph}
    (hst : symtable.lookup n = some ⟨n, [n]⟩) (hn : graph.lookup.lookup n = none) (fuel : Nat) :
    addToCallGraph symtable fuel ⟨n, [n]⟩ graph = .error .outOfFuel := by
  induction fuel with
  | zero => rfl
  | succ fuel ih =>
    rw [addToCallGraph_fresh hn]
    simp [addCallees, hst, ih]

/-- **`buildCallGraph` is not total.** A `transform` that calls itself sends
`addToCallGraph` round for ever, whatever the fuel; and a script without a
`transform` reaches `markReachable(nil)`. -/
theorem buildCallGraph_not_total :
    (∀ fuel, buildCallGraph fuel [⟨"transform", ["transform"]⟩] = .error .outOfFuel) ∧
    (∀ fuel, buildCallGraph (fuel + 1) [⟨"main", []⟩] = .error .nilDereference) := by
  refine ⟨fun fuel => ?_, fun fuel => ?_⟩
  · have hst : (symtableOf [⟨"transform", ["transform"]⟩]).lookup "transform"
        = some ⟨"transform", ["transform"]⟩ := rfl
    have hg : (⟨none, [], []⟩ : CallGraph).lookup.lookup "transform" = none := rfl
    simp [buildCallGraph, addFunction, addToCallGraph_self_call hst hg]
  · rfl

end Startf

end Qri
