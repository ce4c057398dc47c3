import Qri.Startf.CallGraph
import Mathlib.Data.Fintype.Card
import Mathlib.Logic.Relation

/-!
The first phase of `buildCallGraph`: the walk of `addToCallGraph`, on a call
relation with no cycle.

The relation is the one the symbol table gives, `Calls symtable a b`: `a` is
filed under its name and calls `b`, which the table knows too. The walk keeps
`GraphOK`: names are unique, `lookup` maps each to its id, a node's `outs` are
the ids of its known callees in call order, each below the node's own id, and
no node is marked reachable yet. `addToCallGraph_added` is the induction over
the relation, well founded because the table is finite and the relation has no
cycle: for every name there is one fuel from which the walk returns, with the
same graph whatever more fuel it is given, and that graph holds the name and
only names it reaches.
-/

set_option autoImplicit false

namespace Qri

namespace Startf

open Relation

/-! ## The call relation -/

/-- The names `f` calls that the symbol table knows, in call order: the
callees `addToCallGraph` gives a node. -/
def knownCallees (symtable : SymTable) (f : FuncResult) : List String :=
  f.calls.filter fun c => (symtable.lookup c).isSome

/-- `a` is in the symbol table and calls `b`, which is in it too. -/
def Calls (symtable : SymTable) (a b : String) : Prop :=
  ∃ f, symtable.lookup a = some f ∧ b ∈ knownCallees symtable f

/-- A table whose every entry is filed under its own name. -/
def SymTable.Named (symtable : SymTable) : Prop :=
  ∀ n f, symtable.lookup n = some f → f.name = n

theorem mem_of_lookup_eq_some {α β : Type} [BEq α] [LawfulBEq α] {l : List (α × β)} {a : α}
    {b : β} (h : l.lookup a = some b) : (a, b) ∈ l := by
  obtain ⟨l₁, l₂, rfl, -⟩ := List.lookup_eq_some_iff.1 h
  simp

theorem symtableOf_named (functions : List FuncResult) : (symtableOf functions).Named := by
  have hfold : ∀ (acc : SymTable), (∀ p ∈ acc, p.2.name = p.1) →
      ∀ p ∈ functions.foldl (fun st f => (f.name, f) :: st) acc, p.2.name = p.1 := by
    induction functions with
    | nil => exact fun acc h => h
    | cons f fs ih =>
      intro acc h
      exact ih _ (fun p hp => by
        rcases List.mem_cons.1 hp with rfl | hp
        · rfl
        · exact h p hp)
  intro n f h
  have hmem := mem_of_lookup_eq_some h
  rcases List.mem_cons.1 hmem with hp | hp
  · simp only [Prod.mk.injEq] at hp
    rw [hp.1, hp.2]
    rfl
  · exact hfold [] (by simp) _ hp

/-! ## No cycle: the relation is well founded -/

section WellFounded

variable {symtable : SymTable}

theorem calls_key {a b : String} (h : Calls symtable a b) : b ∈ symtable.map Prod.fst := by
  obtain ⟨f, -, hb⟩ := h
  obtain ⟨-, hb⟩ := List.mem_filter.1 hb
  obtain ⟨p, hp, hbp⟩ := List.lookup_isSome_iff.1 hb
  rw [beq_iff_eq.1 hbp]
  exact List.mem_map_of_mem _ hp

/-- Callee-first induction: with no cycle, "`b` reaches `a` in one call or
more" is well founded, since only the table's finitely many names take part. -/
theorem calls_wellFounded (hacyclic : ∀ n, ¬ TransGen (Calls symtable) n n) :
    WellFounded (fun a b => TransGen (Calls symtable) b a) := by
  let K := {x // x ∈ symtable.map Prod.fst}
  let r : K → K → Prop := fun a b => TransGen (Calls symtable) b.1 a.1
  haveI : IsTrans K r := ⟨fun _ _ _ h₁ h₂ => h₂.trans h₁⟩
  haveI : IsIrrefl K r := ⟨fun a h => hacyclic a.1 h⟩
  have hwf : WellFounded r := Finite.wellFounded_of_trans_of_irrefl r
  have hacc : ∀ k : K, Acc (fun a b => TransGen (Calls symtable) b a) k.1 := fun k =>
    hwf.induction k fun k ih => Acc.intro _ fun b hb => by
      have hk : b ∈ symtable.map Prod.fst := by
        obtain ⟨c, -, hc⟩ := TransGen.tail'_iff.1 hb
        exact calls_key hc
      exact ih ⟨b, hk⟩ hb
  refine ⟨fun a => Acc.intro _ fun b hb => ?_⟩
  obtain ⟨c, -, hc⟩ := TransGen.tail'_iff.1 hb
  exact hacc ⟨b, calls_key hc⟩

end WellFounded

/-! ## What the walk keeps -/

/-- The names of the nodes, in id order. -/
def CallGraph.names (graph : CallGraph) : List String := graph.nodes.map (·.name)

/-- A graph as the walk leaves it. -/
structure GraphOK (symtable : SymTable) (graph : CallGraph) : Prop where
  nodup : graph.names.Nodup
  lookup : ∀ n i, graph.lookup.lookup n = some i ↔ graph.names[i]? = some n
  outs : ∀ (i : Nat) (node : FuncNode), graph.nodes[i]? = some node →
    ∃ f, symtable.lookup node.name = some f ∧
    List.Forall₂ (fun c j => j < i ∧ graph.names[j]? = some c) (knownCallees symtable f) node.outs
  fresh : ∀ node ∈ graph.nodes, node.reach = false

/-- The end of `addToCallGraph`: the new node appended, its name registered. -/
def CallGraph.register (graph : CallGraph) (n : String) (outs : List Nat) : CallGraph :=
  { graph with nodes := graph.nodes ++ [⟨n, outs, false, 0⟩],
               lookup := (n, graph.nodes.length) :: graph.lookup }

section Register

variable {symtable : SymTable} {graph : CallGraph}

@[simp] theorem CallGraph.names_register (n : String) (outs : List Nat) :
    (graph.register n outs).names = graph.names ++ [n] := by
  simp [CallGraph.register, CallGraph.names]

theorem CallGraph.length_names : graph.names.length = graph.nodes.length := by
  simp [CallGraph.names]

theorem graphOK_empty : GraphOK symtable ⟨none, [], []⟩ :=
  ⟨List.nodup_nil, by simp [CallGraph.names], by simp, by simp⟩

theorem getElem?_of_extends {α : Type} {l₁ l₂ : List α} (h : l₁ <+: l₂) {i : Nat} {x : α}
    (hi : l₁[i]? = some x) : l₂[i]? = some x := by
  obtain ⟨t, rfl⟩ := h
  rw [List.getElem?_append_left (List.getElem?_eq_some_iff.1 hi).1, hi]

theorem getElem?_append_singleton_eq_some {α : Type} {l : List α} {x y : α} {i : Nat} :
    (l ++ [x])[i]? = some y ↔ l[i]? = some y ∨ (i = l.length ∧ x = y) := by
  rcases Nat.lt_trichotomy i l.length with h | rfl | h
  · simp [List.getElem?_append_left h, h.ne]
  · simp
  · have h₁ : (l ++ [x])[i]? = none := List.getElem?_eq_none (by simp; omega)
    have h₂ : l[i]? = none := List.getElem?_eq_none (le_of_lt h)
    simp [h₁, h₂, h.ne']

theorem CallGraph.names_grow {g g' : CallGraph} (h : g.nodes <+: g'.nodes) :
    g.names <+: g'.names := by
  obtain ⟨t, ht⟩ := h
  exact ⟨t.map (·.name), by simp [CallGraph.names, ← ht]⟩

/-- Registering a name the graph lacks, with the ids of its known callees,
keeps the graph as the walk leaves it. -/
theorem GraphOK.register (h : GraphOK symtable graph) {n : String}
    (hn : graph.lookup.lookup n = none) {f : FuncResult} (hf : symtable.lookup n = some f)
    {outs : List Nat}
    (houts : List.Forall₂ (fun c j => graph.names[j]? = some c) (knownCallees symtable f) outs) :
    GraphOK symtable (graph.register n outs) := by
  have hnot : ∀ i : Nat, graph.names[i]? ≠ some n := fun i hi => by
    simp [(h.lookup n i).2 hi] at hn
  constructor
  · rw [CallGraph.names_register, List.nodup_append]
    exact ⟨h.nodup, List.nodup_singleton n,
      by simpa using fun hmem => (List.getElem?_of_mem hmem).elim fun i hi => hnot i hi⟩
  · intro m i
    rw [CallGraph.names_register, getElem?_append_singleton_eq_some]
    simp only [CallGraph.register, List.lookup_cons, CallGraph.length_names]
    by_cases hm : m = n
    · subst hm
      simp [hnot i, eq_comm]
    · simp [beq_false_of_ne hm, h.lookup, Ne.symm hm]
  · intro i node hnode
    simp only [CallGraph.register] at hnode
    rcases getElem?_append_singleton_eq_some.1 hnode with hnode | ⟨rfl, rfl⟩
    · obtain ⟨g, hg, hfa⟩ := h.outs i node hnode
      refine ⟨g, hg, hfa.imp fun c j ⟨hji, hj⟩ => ⟨hji, ?_⟩⟩
      rw [CallGraph.names_register, List.getElem?_append_left (by
        rw [CallGraph.length_names]; exact hji.trans (List.getElem?_eq_some_iff.1 hnode).1), hj]
    · refine ⟨f, hf, houts.imp fun c j hj => ?_⟩
      have hlt : j < graph.names.length := (List.getElem?_eq_some_iff.1 hj).1
      refine ⟨by rwa [CallGraph.length_names] at hlt, ?_⟩
      rw [CallGraph.names_register, List.getElem?_append_left hlt, hj]
  · intro node hnode
    simp only [CallGraph.register, List.mem_append, List.mem_singleton] at hnode
    rcases hnode with hnode | rfl
    · exact h.fresh node hnode
    · rfl

end Register

/-! ## One walk -/

/-- What `addToCallGraph` of the name `n` leaves: a graph as the walk leaves
it, extending the old one, holding `n` at id `me`, and with new nodes only for
names `n` reaches. -/
structure Added (symtable : SymTable) (graph graph' : CallGraph) (n : String) (me : Nat) :
    Prop where
  ok : GraphOK symtable graph'
  grows : graph.nodes <+: graph'.nodes
  name : graph'.names[me]? = some n
  new : ∀ m ∈ graph'.names.drop graph.names.length, ReflTransGen (Calls symtable) n m

/-- From some fuel on, the walk of a known name returns, from every graph as the
walk leaves it, the same result whatever more fuel it is given. -/
def Walks (symtable : SymTable) (n : String) : Prop :=
  ∀ f, symtable.lookup n = some f → ∃ N, ∀ graph, GraphOK symtable graph →
    ∃ me graph', (∀ fuel, N ≤ fuel → addToCallGraph symtable fuel f graph = .ok (me, graph')) ∧
      Added symtable graph graph' n me

section Walk

variable {symtable : SymTable}

theorem drop_names_split {g₁ g₂ g₃ : CallGraph} (h₁ : g₁.nodes <+: g₂.nodes)
    (h₂ : g₂.nodes <+: g₃.nodes) {m : String} (hm : m ∈ g₃.names.drop g₁.names.length) :
    m ∈ g₂.names.drop g₁.names.length ∨ m ∈ g₃.names.drop g₂.names.length := by
  obtain ⟨t₁, ht₁⟩ := CallGraph.names_grow h₁
  obtain ⟨t₂, ht₂⟩ := CallGraph.names_grow h₂
  rw [← ht₂, ← ht₁, List.append_assoc, List.drop_left, List.mem_append] at hm
  rwa [← ht₂, List.drop_left, ← ht₁, List.drop_left]

/-- The loop over a function's calls, when every known callee can be walked. -/
theorem addCallees_spec {add : Nat → FuncResult → CallGraph → Except Fault (Nat × CallGraph)}
    {N : Nat} (l : List String)
    (hadd : ∀ c ∈ l, ∀ child, symtable.lookup c = some child → ∀ g, GraphOK symtable g →
      ∃ me g', (∀ fuel, N ≤ fuel → add fuel child g = .ok (me, g')) ∧ Added symtable g g' c me)
    (outs : List Nat) (g : CallGraph) (hg : GraphOK symtable g) :
    ∃ new g', (∀ fuel, N ≤ fuel → addCallees symtable (add fuel) l outs g = .ok (outs ++ new, g')) ∧
      GraphOK symtable g' ∧ g.nodes <+: g'.nodes ∧
      List.Forall₂ (fun c j => g'.names[j]? = some c)
        (l.filter fun c => (symtable.lookup c).isSome) new ∧
      ∀ m ∈ g'.names.drop g.names.length,
        ∃ c ∈ l, (symtable.lookup c).isSome ∧ ReflTransGen (Calls symtable) c m := by
  induction l generalizing outs g with
  | nil => exact ⟨[], g, fun _ _ => by simp, hg, List.prefix_refl _, .nil, by simp⟩
  | cons c l ih =>
    have ih' := ih fun c' hc' => hadd c' (List.mem_cons_of_mem _ hc')
    cases hc : symtable.lookup c with
    | none =>
      obtain ⟨new, g', hrun, hok, hgrow, hfa, hnew⟩ := ih' outs g hg
      refine ⟨new, g', fun fuel hf => ?_, hok, hgrow, ?_, fun m hm => ?_⟩
      · simp [addCallees, hc, hrun fuel hf]
      · simpa [List.filter_cons, hc] using hfa
      · obtain ⟨c', hc', hk, hr⟩ := hnew m hm
        exact ⟨c', List.mem_cons_of_mem _ hc', hk, hr⟩
    | some child =>
      obtain ⟨me, g₁, hrun₁, hadded⟩ := hadd c (List.mem_cons_self _ _) child hc g hg
      obtain ⟨new, g₂, hrun₂, hok, hgrow, hfa, hnew⟩ := ih' (outs ++ [me]) g₁ hadded.ok
      refine ⟨me :: new, g₂, fun fuel hf => ?_, hok, hadded.grows.trans hgrow, ?_,
        fun m hm => ?_⟩
      · simp [addCallees, hc, hrun₁ fuel hf, hrun₂ fuel hf]
      · simp only [List.filter_cons, hc, Option.isSome_some, if_true]
        exact .cons (getElem?_of_extends (CallGraph.names_grow hgrow) hadded.name) hfa
      · rcases drop_names_split hadded.grows hgrow hm with hm | hm
        · exact ⟨c, List.mem_cons_self _ _, by rw [hc]; rfl, hadded.new m hm⟩
        · obtain ⟨c', hc', hk, hr⟩ := hnew m hm
          exact ⟨c', List.mem_cons_of_mem _ hc', hk, hr⟩

/-- A bound for each element of a list gives one bound for all of them. -/
theorem exists_uniform_bound {α : Type} {Q : α → Nat → Prop}
    (hmono : ∀ a N M, N ≤ M → Q a N → Q a M) :
    ∀ l : List α, (∀ a ∈ l, ∃ N, Q a N) → ∃ N, ∀ a ∈ l, Q a N
  | [], _ => ⟨0, by simp⟩
  | a :: l, h => by
    obtain ⟨N₁, h₁⟩ := h a (List.mem_cons_self _ _)
    obtain ⟨N₂, h₂⟩ := exists_uniform_bound hmono l fun b hb => h b (List.mem_cons_of_mem _ hb)
    refine ⟨max N₁ N₂, fun b hb => ?_⟩
    rcases List.mem_cons.1 hb with rfl | hb
    · exact hmono _ _ _ (le_max_left _ _) h₁
    · exact hmono _ _ _ (le_max_right _ _) (h₂ b hb)

/-- **The walk returns on an acyclic call relation.** For every name of a
table filed by name, with no call cycle, `addToCallGraph` returns from some
fuel on, with the same graph for all more fuel, and that graph is the old one
extended by the name and only names it reaches. -/
theorem addToCallGraph_walks (hnamed : symtable.Named)
    (hacyclic : ∀ n, ¬ TransGen (Calls symtable) n n) (n : String) : Walks symtable n := by
  refine (calls_wellFounded hacyclic).induction n fun n ih f hf => ?_
  have hname : f.name = n := hnamed n f hf
  obtain ⟨N₀, hN₀⟩ := @exists_uniform_bound String
    (fun c N => ∀ child, symtable.lookup c = some child → ∀ g, GraphOK symtable g →
      ∃ me g', (∀ fuel, N ≤ fuel → addToCallGraph symtable fuel child g = .ok (me, g')) ∧
        Added symtable g g' c me)
    (fun c N M hNM hN child hchild g hg => by
      obtain ⟨me, g', hrun, hadded⟩ := hN child hchild g hg
      exact ⟨me, g', fun fuel hf => hrun fuel (hNM.trans hf), hadded⟩)
    (knownCallees symtable f) (fun c hc => by
      cases hchild : symtable.lookup c with
      | none => exact ⟨0, fun child h => by rw [hchild] at h; cases h⟩
      | some child =>
        obtain ⟨N, hN⟩ := ih c (TransGen.single ⟨f, hf, hc⟩) child hchild
        exact ⟨N, fun child' h => by rw [hchild] at h; cases h; exact hN⟩)
  refine ⟨N₀ + 1, fun g hg => ?_⟩
  cases hl : g.lookup.lookup n with
  | some me =>
    refine ⟨me, g, fun fuel hfuel => ?_, hg, List.prefix_refl _, (hg.lookup n me).1 hl, by simp⟩
    obtain ⟨k, rfl⟩ : ∃ k, fuel = k + 1 := ⟨fuel - 1, by omega⟩
    exact addToCallGraph_found (hname ▸ hl)
  | none =>
    obtain ⟨new, g₁, hrun, hok, hgrow, hfa, hnew⟩ := addCallees_spec f.calls
      (fun c hc child hchild => hN₀ c (List.mem_filter.2 ⟨hc, by simp [hchild]⟩) child hchild)
      [] g hg
    have hfresh : g₁.lookup.lookup n = none := by
      cases h₁ : g₁.lookup.lookup n with
      | none => rfl
      | some i =>
        have hi := (hok.lookup n i).1 h₁
        rcases Nat.lt_or_ge i g.names.length with hlt | hge
        · obtain ⟨t, ht⟩ := CallGraph.names_grow hgrow
          rw [← ht, List.getElem?_append_left hlt, ← hg.lookup, hl] at hi
          cases hi
        · obtain ⟨c, hc, hk, hr⟩ := hnew n (List.mem_iff_getElem?.2 ⟨i - g.names.length,
            by rw [List.getElem?_drop, Nat.add_sub_cancel' hge]; exact hi⟩)
          exact absurd (TransGen.head' ⟨f, hf, List.mem_filter.2 ⟨hc, hk⟩⟩ hr) (hacyclic n)
    refine ⟨g₁.nodes.length, g₁.register n new, fun fuel hfuel => ?_,
      ⟨hok.register hfresh hf hfa, hgrow.trans (List.prefix_append _ _),
        by rw [CallGraph.names_register, ← CallGraph.length_names]; simp, fun m hm => ?_⟩⟩
    · obtain ⟨k, rfl⟩ : ∃ k, fuel = k + 1 := ⟨fuel - 1, by omega⟩
      rw [addToCallGraph_fresh (hname ▸ hl), hrun k (by omega)]
      simp [CallGraph.register, hname]
    · rw [CallGraph.names_register] at hm
      obtain ⟨t, ht⟩ := CallGraph.names_grow hgrow
      rw [← ht, List.append_assoc, List.drop_left, List.mem_append, List.mem_singleton] at hm
      rcases hm with hm | rfl
      · obtain ⟨c, hc, hk, hr⟩ := hnew m (by rw [← ht, List.drop_left]; exact hm)
        exact ReflTransGen.head ⟨f, hf, List.mem_filter.2 ⟨hc, hk⟩⟩ hr
      · exact ReflTransGen.refl

end Walk

end Startf

end Qri
