import Qri.Startf.CallGraphBuild
import Qri.Startf.CallGraphPasses

/-!
`buildCallGraph` on the scripts it was written for: functions with distinct
names, none of them named `print`, one of them `transform`, and no call cycle.
There it returns, from some fuel on and always with the same graph, in which
every function, and `print` when something calls it, has exactly one node, a
callee comes before its callers, a node's height is the longest call chain
from it, and its mark says whether `transform` reaches it
(`buildCallGraph_correct`).

The walk and the two passes are proved over node ids (`CallGraphBuild`,
`CallGraphPasses`). Here the edges between ids are read back as calls between
names (`GraphOK.simulates`), which distinct names make exact.

An input function named `print` breaks it. The symbol table files the builtin
`print` over it, but the loop over `functions` still walks the input one, so
what the graph holds for `print` depends on whether the loop meets that
function or a call to `print` first (`buildCallGraph_print_shadowed`).
-/

set_option autoImplicit false

namespace Qri

namespace Startf

open Relation

/-! ## One relation read through another -/

section Simulation

variable {α β : Type} {r : α → α → Prop} {s : β → β → Prop} {P : α → Prop} {φ : α → β}

/-- From the elements where `P` holds, `r` has the steps of `s` read through
`φ`, and only those. -/
structure Simulates (r : α → α → Prop) (s : β → β → Prop) (P : α → Prop) (φ : α → β) :
    Prop where
  step : ∀ a b, P a → r a b → P b ∧ s (φ a) (φ b)
  back : ∀ a c, P a → s (φ a) c → ∃ b, r a b ∧ φ b = c

theorem Simulates.chain_iff (h : Simulates r s P φ) (k : Nat) :
    ∀ a, P a → (Chain r a k ↔ Chain s (φ a) k) := by
  induction k with
  | zero => exact fun a _ => ⟨fun _ => .nil _, fun _ => .nil _⟩
  | succ k ih =>
    intro a ha
    constructor
    · rintro (_ | ⟨hab, hb⟩)
      obtain ⟨hPb, hs⟩ := h.step a _ ha hab
      exact .cons hs ((ih _ hPb).1 hb)
    · rintro (_ | ⟨hac, hc⟩)
      obtain ⟨b, hab, rfl⟩ := h.back a _ ha hac
      exact .cons hab ((ih b (h.step a b ha hab).1).2 hc)

theorem Simulates.longest_iff (h : Simulates r s P φ) {a : α} (ha : P a) (x : Int) :
    Longest r a x ↔ Longest s (φ a) x := by
  have hc : ∀ k, Chain r a k ↔ Chain s (φ a) k := fun k => h.chain_iff k a ha
  simp only [Longest, hc]

theorem Simulates.reflTransGen_of (h : Simulates r s P φ) {a b : α} (ha : P a)
    (hab : ReflTransGen r a b) : P b ∧ ReflTransGen s (φ a) (φ b) := by
  induction hab with
  | refl => exact ⟨ha, .refl⟩
  | tail _ hbc ih =>
    obtain ⟨hPc, hs⟩ := h.step _ _ ih.1 hbc
    exact ⟨hPc, ih.2.tail hs⟩

theorem Simulates.exists_of_reflTransGen (h : Simulates r s P φ) {a : α} {c : β} (ha : P a)
    (hac : ReflTransGen s (φ a) c) : ∃ b, P b ∧ φ b = c ∧ ReflTransGen r a b := by
  induction hac with
  | refl => exact ⟨a, ha, rfl, .refl⟩
  | tail _ hcd ih =>
    obtain ⟨b, hPb, rfl, hab⟩ := ih
    obtain ⟨b', hbb', rfl⟩ := h.back b _ hPb hcd
    exact ⟨b', (h.step b b' hPb hbb').1, rfl, hab.tail hbb'⟩

/-- With `φ` one to one on `P`, reachability is the same on both sides. -/
theorem Simulates.reflTransGen_iff (h : Simulates r s P φ)
    (hinj : ∀ a b, P a → P b → φ a = φ b → a = b) {a b : α} (ha : P a) (hb : P b) :
    ReflTransGen r a b ↔ ReflTransGen s (φ a) (φ b) := by
  refine ⟨fun hab => (h.reflTransGen_of ha hab).2, fun hab => ?_⟩
  obtain ⟨b', hb', heq, hab'⟩ := h.exists_of_reflTransGen ha hab
  rwa [hinj b' b hb' hb heq] at hab'

end Simulation

theorem forall₂_exists_left {α β : Type} {R : α → β → Prop} {l₁ : List α} {l₂ : List β}
    (h : List.Forall₂ R l₁ l₂) {b : β} (hb : b ∈ l₂) : ∃ a ∈ l₁, R a b := by
  induction h with
  | nil => simp at hb
  | cons hr _ ih =>
    rcases List.mem_cons.1 hb with rfl | hb
    · exact ⟨_, List.mem_cons_self _ _, hr⟩
    · obtain ⟨a, ha, hab⟩ := ih hb
      exact ⟨a, List.mem_cons_of_mem _ ha, hab⟩

theorem forall₂_exists_right {α β : Type} {R : α → β → Prop} {l₁ : List α} {l₂ : List β}
    (h : List.Forall₂ R l₁ l₂) {a : α} (ha : a ∈ l₁) : ∃ b ∈ l₂, R a b := by
  induction h with
  | nil => simp at ha
  | cons hr _ ih =>
    rcases List.mem_cons.1 ha with rfl | ha
    · exact ⟨_, List.mem_cons_self _ _, hr⟩
    · obtain ⟨b, hb, hab⟩ := ih ha
      exact ⟨b, List.mem_cons_of_mem _ hb, hab⟩

/-! ## The symbol table of `buildCallGraph` -/

section SymtableOf

variable {functions : List FuncResult}

theorem foldl_symtable (functions : List FuncResult) (acc : SymTable) :
    functions.foldl (fun st f => (f.name, f) :: st) acc =
      (functions.map fun f => (f.name, f)).reverse ++ acc := by
  induction functions generalizing acc with
  | nil => rfl
  | cons f fs ih => simp [ih]

theorem lookup_of_mem {α β : Type} [BEq α] [LawfulBEq α] {l : List (α × β)} {a : α} {b : β}
    (hnodup : (l.map Prod.fst).Nodup) (h : (a, b) ∈ l) : l.lookup a = some b := by
  induction l with
  | nil => simp at h
  | cons p l ih =>
    obtain ⟨k, v⟩ := p
    rw [List.map_cons, List.nodup_cons] at hnodup
    rw [List.lookup_cons]
    rcases List.mem_cons.1 h with hp | hp
    · obtain ⟨rfl, rfl⟩ := Prod.mk.inj hp
      simp
    · have hak : (a == k) = false := by
        rw [beq_eq_false_iff_ne]
        rintro rfl
        exact hnodup.1 (List.mem_map.2 ⟨_, hp, rfl⟩)
      rw [hak]
      exact ih hnodup.2 hp

theorem symtableOf_keys (functions : List FuncResult) :
    (symtableOf functions).map Prod.fst = "print" :: (functions.map (·.name)).reverse := by
  simp [symtableOf, foldl_symtable, List.map_reverse, Function.comp_def]

/-- Under distinct names, none of them `print`, the table files every function
under its own name. -/
theorem symtableOf_lookup (hnodup : (functions.map (·.name)).Nodup)
    (hprint : "print" ∉ functions.map (·.name)) {f : FuncResult} (hf : f ∈ functions) :
    (symtableOf functions).lookup f.name = some f := by
  refine lookup_of_mem ?_ ?_
  · rw [symtableOf_keys, List.nodup_cons, List.mem_reverse, List.nodup_reverse]
    exact ⟨hprint, hnodup⟩
  · simp only [symtableOf, foldl_symtable, List.append_nil, List.mem_cons, List.mem_reverse,
      List.mem_map]
    exact .inr ⟨f, hf, rfl⟩

/-- A call goes to an input function or to `print`. -/
theorem calls_target {a b : String} (h : Calls (symtableOf functions) a b) :
    b = "print" ∨ b ∈ functions.map (·.name) := by
  have := calls_key h
  rw [symtableOf_keys, List.mem_cons, List.mem_reverse] at this
  exact this

/-- Only an input function calls `print`: the builtin calls nothing. -/
theorem any_calls_print {a : String} (h : Calls (symtableOf functions) a "print") :
    functions.any (fun f => f.calls.contains "print") = true := by
  obtain ⟨f, hf, hc⟩ := h
  have hmem := mem_of_lookup_eq_some hf
  simp only [symtableOf, foldl_symtable, List.append_nil, List.mem_cons, List.mem_reverse,
    List.mem_map, Prod.mk.injEq] at hmem
  rcases hmem with ⟨-, rfl⟩ | ⟨f', hf', -, rfl⟩
  · simp [knownCallees, printFunc] at hc
  · simp only [List.any_eq_true, List.elem_eq_mem, List.contains, decide_eq_true_eq]
    exact ⟨f', hf', (List.mem_filter.1 hc).1⟩

theorem calls_print_of_any (hnodup : (functions.map (·.name)).Nodup)
    (hprint : "print" ∉ functions.map (·.name))
    (h : functions.any (fun f => f.calls.contains "print") = true) :
    ∃ f ∈ functions, Calls (symtableOf functions) f.name "print" := by
  simp only [List.any_eq_true, List.elem_eq_mem, List.contains, decide_eq_true_eq] at h
  obtain ⟨f, hf, hc⟩ := h
  exact ⟨f, hf, f, symtableOf_lookup hnodup hprint hf, List.mem_filter.2 ⟨hc, rfl⟩⟩

end SymtableOf

/-- A table in which every entry's known callees rank below it has no call
cycle. -/
theorem acyclic_of_rank {symtable : SymTable} (rank : String → Nat)
    (h : ∀ p ∈ symtable, ∀ b ∈ knownCallees symtable p.2, rank b < rank p.1) :
    ∀ n, ¬ TransGen (Calls symtable) n n := by
  have hdrop : ∀ a b, TransGen (Calls symtable) a b → rank b < rank a := by
    intro a b hab
    induction hab with
    | single hab =>
      obtain ⟨f, hf, hb⟩ := hab
      exact h _ (mem_of_lookup_eq_some hf) _ hb
    | tail _ hbc ih =>
      obtain ⟨f, hf, hc⟩ := hbc
      exact (h _ (mem_of_lookup_eq_some hf) _ hc).trans ih
  exact fun n hn => lt_irrefl _ (hdrop n n hn)

/-! ## The loop over the functions -/

section Functions

variable {symtable : SymTable}

theorem addFunction_eq_ok {fuel : Nat} {graph graph' : CallGraph} {f : FuncResult} {me : Nat}
    (h : addToCallGraph symtable fuel f graph = .ok (me, graph')) :
    addFunction symtable fuel graph f = .ok graph' := by
  simp [addFunction, h]

/-- **The loop of `buildCallGraph` over `functions`.** Each function filed
under its name is walked; from some fuel on the loop returns, with one graph
for all more fuel, holding every function's name and only names they reach. -/
theorem addFunctions_spec (hnamed : symtable.Named)
    (hacyclic : ∀ n, ¬ TransGen (Calls symtable) n n) (fs : List FuncResult)
    (hfs : ∀ f ∈ fs, symtable.lookup f.name = some f) (graph : CallGraph)
    (hg : GraphOK symtable graph) :
    ∃ N graph', (∀ fuel, N ≤ fuel → fs.foldlM (addFunction symtable fuel) graph = .ok graph') ∧
      GraphOK symtable graph' ∧ graph.nodes <+: graph'.nodes ∧ (∀ f ∈ fs, f.name ∈ graph'.names) ∧
      ∀ m ∈ graph'.names.drop graph.names.length, ∃ f ∈ fs, ReflTransGen (Calls symtable) f.name m := by
  induction fs generalizing graph with
  | nil => exact ⟨0, graph, fun _ _ => rfl, hg, List.prefix_refl _, by simp, by simp⟩
  | cons f fs ih =>
    obtain ⟨N₁, hwalk⟩ := addToCallGraph_walks hnamed hacyclic f.name f (hfs f (List.mem_cons_self _ _))
    obtain ⟨me, g₁, hrun₁, hadded⟩ := hwalk graph hg
    obtain ⟨N₂, g', hrun, hok, hgrow, hnames, hnew⟩ :=
      ih (fun f' hf' => hfs f' (List.mem_cons_of_mem _ hf')) g₁ hadded.ok
    refine ⟨max N₁ N₂, g', fun fuel hf => ?_, hok, hadded.grows.trans hgrow, fun f' hf' => ?_,
      fun m hm => ?_⟩
    · rw [List.foldlM_cons, addFunction_eq_ok (hrun₁ fuel (le_of_max_le_left hf)), Except.ok_bind,
        hrun fuel (le_of_max_le_right hf)]
    · rcases List.mem_cons.1 hf' with rfl | hf'
      · exact (CallGraph.names_grow hgrow).subset
          (List.mem_iff_getElem?.2 ⟨me, hadded.name⟩)
      · exact hnames f' hf'
    · rcases drop_names_split hadded.grows hgrow hm with hm | hm
      · exact ⟨f, List.mem_cons_self _ _, hadded.new m hm⟩
      · obtain ⟨f', hf', hr⟩ := hnew m hm
        exact ⟨f', List.mem_cons_of_mem _ hf', hr⟩

end Functions

/-! ## Edges between ids are calls between names -/

section Edges

variable {symtable : SymTable} {graph : CallGraph}

theorem CallGraph.names_getElem?_eq_some {j : Nat} {c : String} :
    graph.names[j]? = some c ↔ j < graph.nodes.length ∧ (graph.nodes.getD j default).name = c := by
  simp only [CallGraph.names, List.getElem?_map, List.getD_eq_getElem?_getD]
  cases h : graph.nodes[j]? with
  | none => simp [List.getElem?_eq_none_iff.1 h]
  | some n => simp [(List.getElem?_eq_some_iff.1 h).1]

theorem getElem?_eq_some_getD {α : Type} {l : List α} {i : Nat} (d : α) (hi : i < l.length) :
    l[i]? = some (l.getD i d) := by
  simp [List.getElem?_eq_getElem hi]

theorem GraphOK.index_unique (h : GraphOK symtable graph) {i j : Nat} {a : String}
    (hi : graph.names[i]? = some a) (hj : graph.names[j]? = some a) : i = j :=
  Option.some_injective _ (((h.lookup a i).2 hi).symm.trans ((h.lookup a j).2 hj))

/-- Every edge goes to a callee registered before. -/
theorem GraphOK.dag (h : GraphOK symtable graph) : Dag graph.nodes := by
  intro i j hij
  have hi : i < graph.nodes.length := by
    by_contra hi
    simp [Edge, outsOf_of_length_le (not_lt.1 hi)] at hij
  obtain ⟨f, -, hfa⟩ := h.outs i _ (getElem?_eq_some_getD default hi)
  obtain ⟨c, -, hji, -⟩ := forall₂_exists_left hfa hij
  exact hji

/-- The edges of the nodes, read through their names, are the known calls. -/
theorem GraphOK.simulates (h : GraphOK symtable graph) :
    Simulates (Edge graph.nodes) (Calls symtable) (· < graph.nodes.length)
      (fun i => (graph.nodes.getD i default).name) where
  step i j hi hij := by
    obtain ⟨f, hf, hfa⟩ := h.outs i _ (getElem?_eq_some_getD default hi)
    obtain ⟨c, hc, -, hj⟩ := forall₂_exists_left hfa hij
    obtain ⟨hjlen, rfl⟩ := CallGraph.names_getElem?_eq_some.1 hj
    exact ⟨hjlen, f, hf, hc⟩
  back i c hi hic := by
    obtain ⟨f, hf, hfa⟩ := h.outs i _ (getElem?_eq_some_getD default hi)
    obtain ⟨f', hf', hc⟩ := hic
    rw [hf] at hf'
    cases hf'
    obtain ⟨j, hj, -, hjc⟩ := forall₂_exists_right hfa hc
    exact ⟨j, hj, (CallGraph.names_getElem?_eq_some.1 hjc).2⟩

theorem GraphOK.name_injective (h : GraphOK symtable graph) (i j : Nat)
    (hi : i < graph.nodes.length) (hj : j < graph.nodes.length)
    (hij : (graph.nodes.getD i default).name = (graph.nodes.getD j default).name) : i = j :=
  h.index_unique (CallGraph.names_getElem?_eq_some.2 ⟨hi, hij⟩)
    (CallGraph.names_getElem?_eq_some.2 ⟨hj, rfl⟩)

/-- A name the graph holds has every known callee in the graph too. -/
theorem GraphOK.mem_of_calls (h : GraphOK symtable graph) {a b : String} (ha : a ∈ graph.names)
    (hab : Calls symtable a b) : b ∈ graph.names := by
  obtain ⟨i, hi⟩ := List.mem_iff_getElem?.1 ha
  obtain ⟨hilen, rfl⟩ := CallGraph.names_getElem?_eq_some.1 hi
  obtain ⟨j, hij, rfl⟩ := h.simulates.back i b hilen hab
  exact List.mem_iff_getElem?.2
    ⟨j, CallGraph.names_getElem?_eq_some.2 ⟨(h.simulates.step i j hilen hij).1, rfl⟩⟩

end Edges

/-! ## `buildCallGraph` -/

/-- The names of the graph the walk leaves: the functions, and `print` when one
of them calls it. -/
theorem mem_walk_names {functions : List FuncResult} {g : CallGraph}
    (hnodup : (functions.map (·.name)).Nodup) (hprint : "print" ∉ functions.map (·.name))
    (hok : GraphOK (symtableOf functions) g) (hnames : ∀ f ∈ functions, f.name ∈ g.names)
    (hfrom : ∀ m ∈ g.names, ∃ f ∈ functions, ReflTransGen (Calls (symtableOf functions)) f.name m)
    (m : String) :
    m ∈ g.names ↔ m ∈ functions.map (·.name) ∨
      (m = "print" ∧ functions.any (fun f => f.calls.contains "print") = true) := by
  constructor
  · intro hm
    obtain ⟨f, hf, hr⟩ := hfrom m hm
    rcases (ReflTransGen.cases_tail_iff _ _ _).1 hr with rfl | ⟨x, -, hxm⟩
    · exact .inl (List.mem_map_of_mem _ hf)
    · rcases calls_target hxm with rfl | hm'
      · exact .inr ⟨rfl, any_calls_print hxm⟩
      · exact .inl hm'
  · rintro (hm | ⟨rfl, hany⟩)
    · obtain ⟨f, hf, rfl⟩ := List.mem_map.1 hm
      exact hnames f hf
    · obtain ⟨f, hf, hcall⟩ := calls_print_of_any hnodup hprint hany
      exact hok.mem_of_calls (hnames f hf) hcall

/-- A node of a heap with another's names sits at an id of the other, under the
name the other has there. -/
theorem exists_index_of_map_name_eq {heap heap' : List FuncNode}
    (h : heap'.map (·.name) = heap.map (·.name)) {node : FuncNode} (hn : node ∈ heap') :
    ∃ i, i < heap.length ∧ node = heap'.getD i default ∧
      node.name = (heap.getD i default).name := by
  obtain ⟨i, hi⟩ := List.mem_iff_getElem?.1 hn
  obtain ⟨hilen, rfl⟩ := List.getElem?_eq_some_iff.1 hi
  have hlen : heap'.length = heap.length := by simpa using congrArg List.length h
  refine ⟨i, hlen ▸ hilen, by simp [List.getElem?_eq_getElem hilen], ?_⟩
  simpa [List.getElem?_eq_getElem hilen] using getD_of_map_eq h i

/-- **The call graph is right on acyclic scripts.** For functions with distinct
names, none of them `print`, one of them `transform`, whose calls through the
symbol table have no cycle, `buildCallGraph` returns one graph for all fuel
from some bound on. Its nodes are the functions, and `print` when one of them
calls it, each once; a callee's node comes before its callers'; a node's
height is the longest chain of calls from it; and it is marked, and printed
without `DEAD CODE`, exactly when `transform` reaches it. -/
theorem buildCallGraph_correct (functions : List FuncResult)
    (hnodup : (functions.map (·.name)).Nodup) (hprint : "print" ∉ functions.map (·.name))
    (htransform : "transform" ∈ functions.map (·.name))
    (hacyclic : ∀ n, ¬ TransGen (Calls (symtableOf functions)) n n) :
    ∃ graph, (∃ N, ∀ fuel, N ≤ fuel → buildCallGraph fuel functions = .ok graph) ∧
      graph.names.Perm (functions.map (·.name) ++
        if functions.any (fun f => f.calls.contains "print") then ["print"] else []) ∧
      (∀ (i j : Nat) (a b : String), graph.names[i]? = some a → graph.names[j]? = some b →
        Calls (symtableOf functions) a b → j < i) ∧
      (∀ node ∈ graph.nodes, Longest (Calls (symtableOf functions)) node.name node.height) ∧
      (∀ node ∈ graph.nodes,
        node.reach = true ↔ ReflTransGen (Calls (symtableOf functions)) "transform" node.name) ∧
      (∀ node ∈ graph.nodes, deadCodeMark node = " *** DEAD CODE" ↔
        ¬ ReflTransGen (Calls (symtableOf functions)) "transform" node.name) := by
  obtain ⟨N, g, hrun, hok, -, hnames, hfrom⟩ := addFunctions_spec (symtableOf_named functions)
    hacyclic functions (fun f hf => symtableOf_lookup hnodup hprint hf) _ graphOK_empty
  have hfrom' : ∀ m ∈ g.names, ∃ f ∈ functions,
      ReflTransGen (Calls (symtableOf functions)) f.name m := fun m hm => hfrom m (by simpa using hm)
  have hmem := mem_walk_names hnodup hprint hok hnames hfrom'
  obtain ⟨root, hroot⟩ : ∃ root, g.lookup.lookup "transform" = some root := by
    obtain ⟨root, hr⟩ := List.mem_iff_getElem?.1 ((hmem "transform").2 (.inl htransform))
    exact ⟨root, (hok.lookup _ _).2 hr⟩
  obtain ⟨hrootlen, hrootname⟩ := CallGraph.names_getElem?_eq_some.1 ((hok.lookup _ _).1 hroot)
  obtain ⟨heap₁, heap₂, hrun₁, hrun₂, hname₂, hedge₂, hheight, hreach⟩ :=
    passes_spec hok.dag hok.fresh root
  have hnames₂ : (CallGraph.mk (some root) heap₂ g.lookup).names = g.names := hname₂
  have hsim := hok.simulates
  -- a node of the result, at id `i`, is `g`'s node `i` with new height and mark
  have hnode := fun node (hn : node ∈ heap₂) => exists_index_of_map_name_eq hname₂ hn
  refine ⟨⟨some root, heap₂, g.lookup⟩, ⟨N + g.nodes.length + root + 1, fun fuel hf => ?_⟩,
    ?_, fun i j a b hi hj hab => ?_, fun node hn => ?_, fun node hn => ?_, fun node hn => ?_⟩
  · simp only [buildCallGraph, hrun fuel (by omega), Except.ok_bind, hrun₁ fuel (by omega), hroot,
      hrun₂ fuel (by omega)]
  · rw [hnames₂]
    refine (List.perm_ext_iff_of_nodup hok.nodup ?_).2 fun m => ?_
    · split_ifs <;> simp [List.nodup_append, hnodup, hprint]
    · rw [hmem m]
      split_ifs with hany
      · simp only [hany, and_true, List.mem_append, List.mem_singleton]
      · simp only [hany, Bool.false_eq_true, and_false, or_false, List.append_nil]
  · rw [hnames₂] at hi hj
    obtain ⟨hilen, rfl⟩ := CallGraph.names_getElem?_eq_some.1 hi
    obtain ⟨j', hij', rfl⟩ := hsim.back i b hilen hab
    have hj' := CallGraph.names_getElem?_eq_some.2 ⟨(hsim.step i j' hilen hij').1, rfl⟩
    rw [← hok.index_unique hj' hj]
    exact hok.dag.edge_lt hij'
  · obtain ⟨i, hi, rfl, hname⟩ := hnode node hn
    have := hheight i
    rw [HeightOK, hedge₂, hsim.longest_iff hi] at this
    rwa [hname]
  · obtain ⟨i, hi, rfl, hname⟩ := hnode node hn
    rw [hreach i hi, hsim.reflTransGen_iff hok.name_injective hrootlen hi, hrootname, hname]
  · obtain ⟨i, hi, rfl, hname⟩ := hnode node hn
    rw [deadCodeMark_eq_iff, ← Bool.not_eq_true, hreach i hi,
      hsim.reflTransGen_iff hok.name_injective hrootlen hi, hrootname, hname]

/-- The theorem on a script with a shared callee, a call to `print`, a call
to a name no one defines, and a function nothing calls. -/
theorem buildCallGraph_correct_sample :
    let functions : List FuncResult :=
      [⟨"transform", ["helper", "print", "missing"]⟩, ⟨"helper", []⟩, ⟨"unused", ["helper"]⟩]
    (functions.map (·.name)).Nodup ∧ "print" ∉ functions.map (·.name) ∧
    "transform" ∈ functions.map (·.name) ∧
    (∀ n, ¬ TransGen (Calls (symtableOf functions)) n n) ∧
    ∃ graph, (∃ N, ∀ fuel, N ≤ fuel → buildCallGraph fuel functions = .ok graph) ∧
      graph.names.Perm (functions.map (·.name) ++
        if functions.any (fun f => f.calls.contains "print") then ["print"] else []) ∧
      (∀ (i j : Nat) (a b : String), graph.names[i]? = some a → graph.names[j]? = some b →
        Calls (symtableOf functions) a b → j < i) ∧
      (∀ node ∈ graph.nodes, Longest (Calls (symtableOf functions)) node.name node.height) ∧
      (∀ node ∈ graph.nodes,
        node.reach = true ↔ ReflTransGen (Calls (symtableOf functions)) "transform" node.name) ∧
      (∀ node ∈ graph.nodes, deadCodeMark node = " *** DEAD CODE" ↔
        ¬ ReflTransGen (Calls (symtableOf functions)) "transform" node.name) :=
  have hacyclic := acyclic_of_rank (fun n => if n = "transform" then 2 else if n = "unused" then 1
    else 0) (by decide)
  ⟨by decide, by decide, by decide, hacyclic,
    buildCallGraph_correct _ (by decide) (by decide) (by decide) hacyclic⟩

/-- **An input function named `print` breaks it.** Here the loop meets it before
any call to `print`, so the node `print` is built from the input function and
calls `g`; the symbol table holds the builtin, which calls nothing. So `g` is
marked reached, though through the table `transform` reaches only `print`. -/
theorem buildCallGraph_print_shadowed :
    let functions : List FuncResult := [⟨"print", ["g"]⟩, ⟨"g", []⟩, ⟨"transform", ["print"]⟩]
    (functions.map (·.name)).Nodup ∧ "transform" ∈ functions.map (·.name) ∧
    (∀ n, ¬ TransGen (Calls (symtableOf functions)) n n) ∧
    ∀ fuel, 3 < fuel → ∃ graph, buildCallGraph fuel functions = .ok graph ∧
      ∃ node ∈ graph.nodes, node.name = "g" ∧ node.reach = true ∧
        ¬ ReflTransGen (Calls (symtableOf functions)) "transform" node.name := by
  refine ⟨by decide, by decide, acyclic_of_rank (fun n => if n = "transform" then 2
    else if n = "print" then 1 else 0) (by decide), fun fuel hfuel => ?_⟩
  obtain ⟨k, rfl⟩ : ∃ k, fuel = k + 4 := ⟨fuel - 4, by omega⟩
  refine ⟨⟨some 2, [⟨"g", [], true, 0⟩, ⟨"print", [0], true, 1⟩, ⟨"transform", [1], true, 2⟩],
    [("transform", 2), ("print", 1), ("g", 0)]⟩, rfl, ⟨"g", [], true, 0⟩, by decide, rfl, rfl, ?_⟩
  -- through the table, only "transform" and "print" are reached
  have hclosed : ∀ b, ReflTransGen (Calls (symtableOf [⟨"print", ["g"]⟩, ⟨"g", []⟩,
      ⟨"transform", ["print"]⟩])) "transform" b → b = "transform" ∨ b = "print" := by
    intro b hb
    induction hb with
    | refl => exact .inl rfl
    | tail _ hcd ih =>
      obtain ⟨f, hf, hd⟩ := hcd
      rcases ih with rfl | rfl
      · cases hf
        change _ ∈ ["print"] at hd
        exact .inr (List.mem_singleton.1 hd)
      · cases hf
        change _ ∈ ([] : List String) at hd
        simp at hd
  intro h
  simpa using hclosed _ h

end Startf

end Qri
