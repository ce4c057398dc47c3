import Qri.Startf.CallGraph
import Mathlib.Logic.Relation

/-!
The two passes of `buildCallGraph` after the walk, over the list of nodes with
the edges `outs` gives them.

The walk leaves every edge going to a smaller id (`Dag`), so both recursions
end, each after at most as many calls deep as the node's id. `addCallHeight`
writes into a node the length of the longest chain of edges from it
(`Longest`): it is called on every node, and recomputes the heights below a
node each time, but since it only ever writes that one value into a node, a
height once right stays right (`addCallHeight_spec`). `markReachable` sets
`reach` on exactly the nodes a chain of edges leads to (`markReachable_spec`).
Neither changes anything else in a node.
-/

set_option autoImplicit false

namespace Qri

namespace Startf

open Relation

/-! ## Longest chains -/

/-- A chain of `k` steps of `r` from `a`. -/
inductive Chain {α : Type} (r : α → α → Prop) : α → Nat → Prop
  | nil (a : α) : Chain r a 0
  | cons {a b : α} {k : Nat} : r a b → Chain r b k → Chain r a (k + 1)

/-- `h` is the length of the longest chain of `r` from `a`. -/
def Longest {α : Type} (r : α → α → Prop) (a : α) (h : Int) : Prop :=
  ∃ k : Nat, h = k ∧ Chain r a k ∧ ∀ m, Chain r a m → m ≤ k

theorem Longest.unique {α : Type} {r : α → α → Prop} {a : α} {h₁ h₂ : Int}
    (h₁ok : Longest r a h₁) (h₂ok : Longest r a h₂) : h₁ = h₂ := by
  obtain ⟨k₁, rfl, hc₁, hm₁⟩ := h₁ok
  obtain ⟨k₂, rfl, hc₂, hm₂⟩ := h₂ok
  have := hm₁ k₂ hc₂
  have := hm₂ k₁ hc₁
  omega

/-- Go's running maximum, `if fn.height > maxChild { maxChild = fn.height }`. -/
def runningMax (m : Int) (hs : List Int) : Int := hs.foldl (fun m h => if h > m then h else m) m

@[simp] theorem runningMax_nil (m : Int) : runningMax m [] = m := rfl

@[simp] theorem runningMax_cons (m h : Int) (hs : List Int) :
    runningMax m (h :: hs) = runningMax (if h > m then h else m) hs := rfl

theorem le_runningMax (m : Int) (hs : List Int) :
    m ≤ runningMax m hs ∧ ∀ h ∈ hs, h ≤ runningMax m hs := by
  induction hs generalizing m with
  | nil => simp
  | cons h hs ih =>
    obtain ⟨ih₁, ih₂⟩ := ih (if h > m then h else m)
    refine ⟨by rw [runningMax_cons]; split_ifs at ih₁ ⊢ <;> omega, fun x hx => ?_⟩
    rw [runningMax_cons]
    rcases List.mem_cons.1 hx with rfl | hx
    · split_ifs at ih₁ ⊢ <;> omega
    · exact ih₂ x hx

theorem runningMax_eq_or_mem (m : Int) (hs : List Int) :
    runningMax m hs = m ∨ runningMax m hs ∈ hs := by
  induction hs generalizing m with
  | nil => simp
  | cons h hs ih =>
    rw [runningMax_cons]
    rcases ih (if h > m then h else m) with hr | hr
    · split_ifs at hr ⊢ <;> simp [hr]
    · exact .inr (List.mem_cons_of_mem _ hr)

/-- A node whose successors are `L`, each with its longest chain known, has
longest chain one more than the largest of theirs, or `0` with none: the value
`addCallHeight` writes. -/
theorem longest_of_children {α : Type} {r : α → α → Prop} {a : α} {L : List α}
    (hL : ∀ b, r a b ↔ b ∈ L) {H : α → Int} (hH : ∀ b ∈ L, Longest r b (H b)) :
    Longest r a (runningMax (-1) (L.map H) + 1) := by
  obtain ⟨hlow, hup⟩ := le_runningMax (-1) (L.map H)
  have hbound : ∀ b ∈ L, ∀ m, Chain r b m → (m : Int) ≤ runningMax (-1) (L.map H) := by
    intro b hb m hm
    obtain ⟨k, hk, -, hmax⟩ := hH b hb
    have := hup (H b) (List.mem_map_of_mem _ hb)
    have := hmax m hm
    omega
  have hchains : ∀ m, Chain r a m → (m : Int) ≤ runningMax (-1) (L.map H) + 1 := by
    intro m hm
    cases hm with
    | nil => omega
    | cons hab hb => have := hbound _ ((hL _).1 hab) _ hb; push_cast; omega
  rcases runningMax_eq_or_mem (-1) (L.map H) with heq | hmem
  · exact ⟨0, by omega, .nil a, fun m hm => by have := hchains m hm; omega⟩
  · obtain ⟨b, hb, hHb⟩ := List.mem_map.1 hmem
    obtain ⟨k, hk, hc, -⟩ := hH b hb
    refine ⟨k + 1, by push_cast; omega, .cons ((hL b).2 hb) hc, fun m hm => ?_⟩
    have := hchains m hm
    omega

/-! ## Nodes as a heap -/

/-- The ids of a node's callees; none past the end of the list. -/
def outsOf (heap : List FuncNode) (i : Nat) : List Nat := (heap.getD i default).outs

/-- An edge of the graph. -/
def Edge (heap : List FuncNode) (i j : Nat) : Prop := j ∈ outsOf heap i

/-- Every edge goes to a smaller id. -/
def Dag (heap : List FuncNode) : Prop := ∀ i j, Edge heap i j → j < i

/-- The node's height is its longest chain of edges. -/
def HeightOK (heap : List FuncNode) (x : Nat) : Prop :=
  Longest (Edge heap) x (heap.getD x default).height

/-- A node with its height forgotten. -/
def FuncNode.noHeight (n : FuncNode) : FuncNode := { n with height := 0 }

/-- A node with its mark forgotten. -/
def FuncNode.noReach (n : FuncNode) : FuncNode := { n with reach := false }

/-- `heap'` is `heap` with only what `f` forgets changed: each pass changes one
field of the nodes and keeps the rest. -/
def SameBut (f : FuncNode → FuncNode) (heap heap' : List FuncNode) : Prop :=
  heap'.map f = heap.map f

section Heap

variable {heap heap' : List FuncNode}

theorem outsOf_eq (heap : List FuncNode) (i : Nat) :
    outsOf heap i = (heap.map (·.outs)).getD i [] := by
  simp only [outsOf, List.getD_eq_getElem?_getD, List.getElem?_map]
  cases heap[i]? <;> rfl

theorem outsOf_of_length_le {x : Nat} (h : heap.length ≤ x) : outsOf heap x = [] := by
  simp [outsOf_eq, List.getD_eq_getElem?_getD, List.getElem?_eq_none h]

theorem SameBut.map_eq {γ : Type} {f : FuncNode → FuncNode} (h : SameBut f heap heap')
    {g : FuncNode → γ} (hg : ∀ n, g (f n) = g n) : heap'.map g = heap.map g := by
  simpa [Function.comp_def, hg] using congrArg (List.map g) h

/-- Two lists of nodes that `g` cannot tell apart give the same `g` at every id. -/
theorem getD_of_map_eq {γ : Type} {g : FuncNode → γ} (h : heap'.map g = heap.map g) (i : Nat) :
    g (heap'.getD i default) = g (heap.getD i default) := by
  have hi := congrArg (·[i]?) h
  simp only [List.getElem?_map] at hi
  simp only [List.getD_eq_getElem?_getD]
  cases h₁ : heap'[i]? <;> cases h₂ : heap[i]? <;> simp_all

theorem SameBut.getD {f : FuncNode → FuncNode} (h : SameBut f heap heap') (i : Nat) :
    f (heap'.getD i default) = f (heap.getD i default) :=
  getD_of_map_eq h i

theorem SameBut.length_eq {f : FuncNode → FuncNode} (h : SameBut f heap heap') :
    heap'.length = heap.length := by
  simpa using congrArg List.length h

theorem outsOf_eq_of_map {f : FuncNode → FuncNode} (hf : ∀ n, (f n).outs = n.outs)
    (h : SameBut f heap heap') : outsOf heap' = outsOf heap := by
  funext i
  rw [outsOf_eq, outsOf_eq, h.map_eq hf]

theorem edge_eq_of_map {f : FuncNode → FuncNode} (hf : ∀ n, (f n).outs = n.outs)
    (h : SameBut f heap heap') : Edge heap' = Edge heap := by
  funext i j
  simp [Edge, outsOf_eq_of_map hf h]

/-- Writing into node `i` a copy of it that `f` cannot tell apart. -/
theorem map_set_getD {f : FuncNode → FuncNode} {g : FuncNode → FuncNode}
    (hg : ∀ n, f (g n) = f n) (i : Nat) :
    (heap.set i (g (heap.getD i default))).map f = heap.map f := by
  rw [List.map_set]
  apply List.ext_getElem?
  intro j
  rw [List.getElem?_set]
  split_ifs with hij hlt
  · subst hij
    simp [List.getElem?_eq_getElem (by simpa using hlt), hg]
  · subst hij
    simp only [List.length_map, not_lt] at hlt
    simp [List.getElem?_eq_none hlt]
  · rfl

theorem getD_set_self (i : Nat) (n : FuncNode) (hi : i < heap.length) :
    (heap.set i n).getD i default = n := by
  simp [List.getElem?_set, hi]

theorem getD_set_ne {i x : Nat} (n : FuncNode) (hx : x ≠ i) :
    (heap.set i n).getD x default = heap.getD x default := by
  simp [List.getElem?_set, Ne.symm hx]

theorem Dag.edge_lt (hdag : Dag heap) {i j : Nat} (h : Edge heap i j) : j < i := hdag i j h

/-- Past the end of the list there is no node, no edge and height `0`. -/
theorem heightOK_of_length_le {x : Nat} (h : heap.length ≤ x) : HeightOK heap x := by
  refine ⟨0, ?_, .nil x, fun m hm => ?_⟩
  · simp [List.getD_eq_getElem?_getD, List.getElem?_eq_none h]
    rfl
  · cases hm with
    | nil => rfl
    | cons hab _ => simp [Edge, outsOf_of_length_le h] at hab

end Heap

/-! ## `addCallHeight` -/

section Height

/-- What one visit of `addCallHeight` does to a list of nodes with the edges
of `heap₀`: heights only, right ones kept, and `j` right at the end. -/
def HeightVisit (heap heap' : List FuncNode) (j : Nat) : Prop :=
  SameBut FuncNode.noHeight heap heap' ∧ (∀ x, HeightOK heap x → HeightOK heap' x) ∧
    HeightOK heap' j

theorem noHeight_outs (n : FuncNode) : n.noHeight.outs = n.outs := rfl

theorem HeightVisit.edge {heap heap' : List FuncNode} {j : Nat} (h : HeightVisit heap heap' j) :
    Edge heap' = Edge heap := edge_eq_of_map noHeight_outs h.1

theorem HeightVisit.dag {heap heap' : List FuncNode} {j : Nat} (h : HeightVisit heap heap' j)
    (hdag : Dag heap) : Dag heap' := by
  rw [Dag, h.edge]
  exact hdag

/-- The loop of `addCallHeight` over a node's callees. -/
theorem maxChildHeight_spec {visit : Nat → List FuncNode → Nat → Except Fault (List FuncNode)}
    {N : Nat} (L : List Nat)
    (hvisit : ∀ j ∈ L, ∀ heap, Dag heap →
      ∃ heap', (∀ fuel, N ≤ fuel → visit fuel heap j = .ok heap') ∧ HeightVisit heap heap' j) :
    ∀ (m : Int) (heap : List FuncNode), Dag heap → ∃ heap',
      (∀ fuel, N ≤ fuel → maxChildHeight (visit fuel) L m heap =
        .ok (runningMax m (L.map fun j => (heap'.getD j default).height), heap')) ∧
      SameBut FuncNode.noHeight heap heap' ∧ (∀ x, HeightOK heap x → HeightOK heap' x) ∧
      ∀ j ∈ L, HeightOK heap' j := by
  induction L with
  | nil => exact fun m heap _ => ⟨heap, fun _ _ => rfl, rfl, fun _ h => h, by simp⟩
  | cons j L ih =>
    intro m heap hdag
    obtain ⟨heap₁, hrun₁, hv⟩ := hvisit j (List.mem_cons_self _ _) heap hdag
    obtain ⟨heap', hrun, hsame, hpres, hall⟩ :=
      ih (fun j' hj' => hvisit j' (List.mem_cons_of_mem _ hj'))
        (if (heap₁.getD j default).height > m then (heap₁.getD j default).height else m)
        heap₁ (hv.dag hdag)
    have hj : (heap'.getD j default).height = (heap₁.getD j default).height := by
      have h₁ := hv.2.2
      have h₂ := hpres j h₁
      unfold HeightOK at h₁ h₂
      rw [edge_eq_of_map noHeight_outs hsame] at h₂
      exact h₂.unique h₁
    refine ⟨heap', fun fuel hf => ?_, hsame.trans hv.1, fun x hx => hpres x (hv.2.1 x hx),
      fun j' hj' => ?_⟩
    · simp only [maxChildHeight, hrun₁ fuel hf, Except.ok_bind, hrun fuel hf, List.map_cons,
        runningMax, List.foldl_cons, hj]
    · rcases List.mem_cons.1 hj' with rfl | hj'
      · exact hpres _ hv.2.2
      · exact hall j' hj'

/-- **`addCallHeight` writes the longest chain.** On a list of nodes whose
edges all go to smaller ids, the visit of node `i` returns from fuel `i + 1`
on, changes only heights, keeps every right height, and leaves `i`'s right. -/
theorem addCallHeight_spec (i : Nat) : ∀ heap, Dag heap →
    ∃ heap', (∀ fuel, i < fuel → addCallHeight fuel heap i = .ok heap') ∧
      HeightVisit heap heap' i := by
  induction i using Nat.strong_induction_on with
  | _ i ih =>
    intro heap hdag
    obtain ⟨heap₁, hrun, hsame, hpres, hall⟩ := maxChildHeight_spec (N := i) (outsOf heap i)
      (fun j hj heap' hdag' => by
        obtain ⟨heap'', hrun', hv⟩ := ih j (hdag.edge_lt hj) heap' hdag'
        exact ⟨heap'', fun fuel hf => hrun' fuel (by have := hdag.edge_lt hj; omega), hv⟩)
      (-1) heap hdag
    have hedge : Edge heap₁ = Edge heap := edge_eq_of_map noHeight_outs hsame
    let M := runningMax (-1) ((outsOf heap i).map fun j => (heap₁.getD j default).height)
    have hlong : Longest (Edge heap) i (M + 1) :=
      longest_of_children (fun b => Iff.rfl) fun b hb => by
        have := hall b hb
        unfold HeightOK at this
        rwa [hedge] at this
    let heap' := heap₁.set i { heap₁.getD i default with height := M + 1 }
    have hframe : SameBut FuncNode.noHeight heap heap' :=
      (map_set_getD (f := FuncNode.noHeight) (g := fun n => { n with height := M + 1 })
        (fun _ => rfl) i).trans hsame
    have hedge' : Edge heap' = Edge heap := edge_eq_of_map noHeight_outs hframe
    have hi : HeightOK heap' i := by
      by_cases hlen : i < heap₁.length
      · unfold HeightOK
        rw [hedge', getD_set_self _ _ hlen]
        exact hlong
      · exact heightOK_of_length_le (by simpa [heap'] using hlen)
    refine ⟨heap', fun fuel hf => ?_, hframe, fun x hx => ?_, hi⟩
    · obtain ⟨k, rfl⟩ : ∃ k, fuel = k + 1 := ⟨fuel - 1, by omega⟩
      simp only [addCallHeight]
      rw [show (heap.getD i default).outs = outsOf heap i from rfl, hrun k (by omega)]
      rfl
    · by_cases hxi : x = i
      · exact hxi ▸ hi
      · have hx₁ := hpres x hx
        unfold HeightOK at hx₁ ⊢
        rwa [hedge', getD_set_ne _ hxi, ← hedge]

/-- The loop of `buildCallGraph` over the ids: every height it visits right. -/
theorem addCallHeight_loop {N : Nat} (L : List Nat) (hL : ∀ i ∈ L, i < N) :
    ∀ heap, Dag heap → ∃ heap', (∀ fuel, N ≤ fuel → L.foldlM (addCallHeight fuel) heap = .ok heap') ∧
      SameBut FuncNode.noHeight heap heap' ∧ (∀ x, HeightOK heap x → HeightOK heap' x) ∧
      ∀ x ∈ L, HeightOK heap' x := by
  induction L with
  | nil => exact fun heap _ => ⟨heap, fun _ _ => rfl, rfl, fun _ h => h, by simp⟩
  | cons i L ih =>
    intro heap hdag
    obtain ⟨heap₁, hrun₁, hv⟩ := addCallHeight_spec i heap hdag
    obtain ⟨heap', hrun, hsame, hpres, hall⟩ :=
      ih (fun j hj => hL j (List.mem_cons_of_mem _ hj)) heap₁ (hv.dag hdag)
    have hi := hL i (List.mem_cons_self _ _)
    refine ⟨heap', fun fuel hf => ?_, hsame.trans hv.1, fun x hx => hpres x (hv.2.1 x hx),
      fun x hx => ?_⟩
    · rw [List.foldlM_cons, hrun₁ fuel (by omega), Except.ok_bind, hrun fuel hf]
    · rcases List.mem_cons.1 hx with rfl | hx
      · exact hpres _ hv.2.2
      · exact hall x hx

end Height

/-! ## `markReachable` -/

section Reach

/-- What one visit of `markReachable` does to a list of nodes: marks only, and
on top of the marks already there, exactly the nodes a chain of edges from
`j` leads to. -/
def ReachVisit (heap heap' : List FuncNode) (j : Nat) : Prop :=
  SameBut FuncNode.noReach heap heap' ∧ ∀ x, x < heap.length →
    ((heap'.getD x default).reach = true ↔
      (heap.getD x default).reach = true ∨ ReflTransGen (Edge heap) j x)

theorem noReach_outs (n : FuncNode) : n.noReach.outs = n.outs := rfl

/-- The loop of `markReachable` over a node's callees. -/
theorem markCallees_spec {N : Nat} (L : List Nat)
    (hvisit : ∀ j ∈ L, ∀ heap, Dag heap →
      ∃ heap', (∀ fuel, N ≤ fuel → markReachable fuel heap j = .ok heap') ∧ ReachVisit heap heap' j) :
    ∀ heap, Dag heap → ∃ heap',
      (∀ fuel, N ≤ fuel → L.foldlM (markReachable fuel) heap = .ok heap') ∧
      SameBut FuncNode.noReach heap heap' ∧ ∀ x, x < heap.length →
        ((heap'.getD x default).reach = true ↔
          (heap.getD x default).reach = true ∨ ∃ j ∈ L, ReflTransGen (Edge heap) j x) := by
  induction L with
  | nil => exact fun heap _ => ⟨heap, fun _ _ => rfl, rfl, by simp⟩
  | cons j L ih =>
    intro heap hdag
    obtain ⟨heap₁, hrun₁, hsame₁, hreach₁⟩ := hvisit j (List.mem_cons_self _ _) heap hdag
    have hedge : Edge heap₁ = Edge heap := edge_eq_of_map noReach_outs hsame₁
    obtain ⟨heap', hrun, hsame, hreach⟩ := ih (fun j' hj' => hvisit j' (List.mem_cons_of_mem _ hj'))
      heap₁ (by rw [Dag, hedge]; exact hdag)
    refine ⟨heap', fun fuel hf => ?_, hsame.trans hsame₁, fun x hx => ?_⟩
    · rw [List.foldlM_cons, hrun₁ fuel hf, Except.ok_bind, hrun fuel hf]
    · rw [hreach x (by rw [hsame₁.length_eq]; exact hx), hreach₁ x hx, hedge]
      simp only [List.mem_cons, exists_eq_or_imp, or_assoc]

/-- **`markReachable` marks what the node reaches.** On a list of nodes whose
edges all go to smaller ids, the visit of node `i` returns from fuel `i + 1`
on, changes only marks, and adds exactly the marks of the nodes reachable
from `i`. -/
theorem markReachable_spec (i : Nat) : ∀ heap, Dag heap →
    ∃ heap', (∀ fuel, i < fuel → markReachable fuel heap i = .ok heap') ∧
      ReachVisit heap heap' i := by
  induction i using Nat.strong_induction_on with
  | _ i ih =>
    intro heap hdag
    let heap₁ := heap.set i { heap.getD i default with reach := true }
    have hsame₁ : SameBut FuncNode.noReach heap heap₁ :=
      map_set_getD (f := FuncNode.noReach) (g := fun n => { n with reach := true })
        (fun _ => rfl) i
    have houts : outsOf heap₁ = outsOf heap := outsOf_eq_of_map noReach_outs hsame₁
    have hedge : Edge heap₁ = Edge heap := edge_eq_of_map noReach_outs hsame₁
    have hreach₁ : ∀ x, x < heap.length →
        ((heap₁.getD x default).reach = true ↔ (heap.getD x default).reach = true ∨ i = x) := by
      intro x hx
      by_cases hxi : x = i
      · subst hxi
        simp only [heap₁, getD_set_self _ _ hx, or_true]
      · simp only [heap₁, getD_set_ne _ hxi, Ne.symm hxi, or_false]
    obtain ⟨heap', hrun, hsame, hreach⟩ := markCallees_spec (N := i) (outsOf heap i)
      (fun j hj heap' hdag' => by
        obtain ⟨heap'', hrun', hv⟩ := ih j (hdag.edge_lt hj) heap' hdag'
        exact ⟨heap'', fun fuel hf => hrun' fuel (by have := hdag.edge_lt hj; omega), hv⟩)
      heap₁ (by rw [Dag, hedge]; exact hdag)
    refine ⟨heap', fun fuel hf => ?_, hsame.trans hsame₁, fun x hx => ?_⟩
    · obtain ⟨k, rfl⟩ : ∃ k, fuel = k + 1 := ⟨fuel - 1, by omega⟩
      have hrun := hrun k (by omega)
      rw [← congrFun houts i] at hrun
      exact hrun
    · rw [hreach x (by rw [hsame₁.length_eq]; exact hx), hreach₁ x hx, hedge,
        ReflTransGen.cases_head_iff]
      simp only [Edge, or_assoc]

end Reach

/-! ## Both passes -/

section Passes

variable {heap : List FuncNode}

theorem noReach_height (n : FuncNode) : n.noReach.height = n.height := rfl

theorem noHeight_reach (n : FuncNode) : n.noHeight.reach = n.reach := rfl

/-- A pass over the marks keeps every right height. -/
theorem SameBut.heightOK {heap' : List FuncNode} (h : SameBut FuncNode.noReach heap heap')
    {x : Nat} (hx : HeightOK heap x) : HeightOK heap' x := by
  unfold HeightOK at hx ⊢
  rwa [edge_eq_of_map noReach_outs h, ← noReach_height, h.getD x, noReach_height]

/-- **Both passes.** On the nodes the walk leaves (edges to smaller ids, no
marks), the loop of `addCallHeight` over every id and then `markReachable`
from `root` return from fuel `heap.length` and `root + 1` on, and leave every
node's name and callees, give every node the longest chain of edges from it as
its height, and mark exactly the nodes `root` reaches. -/
theorem passes_spec (hdag : Dag heap) (hfresh : ∀ n ∈ heap, n.reach = false) (root : Nat) :
    ∃ heap₁ heap₂,
      (∀ fuel, heap.length ≤ fuel →
        (List.range heap.length).foldlM (addCallHeight fuel) heap = .ok heap₁) ∧
      (∀ fuel, root < fuel → markReachable fuel heap₁ root = .ok heap₂) ∧
      heap₂.map (·.name) = heap.map (·.name) ∧ Edge heap₂ = Edge heap ∧
      (∀ x, HeightOK heap₂ x) ∧
      ∀ x, x < heap.length →
        ((heap₂.getD x default).reach = true ↔ ReflTransGen (Edge heap) root x) := by
  obtain ⟨heap₁, hrun₁, hsame₁, -, hall⟩ :=
    addCallHeight_loop (N := heap.length) (List.range heap.length) (fun i => List.mem_range.1)
      heap hdag
  have hedge₁ : Edge heap₁ = Edge heap := edge_eq_of_map noHeight_outs hsame₁
  obtain ⟨heap₂, hrun₂, hsame₂, hreach⟩ :=
    markReachable_spec root heap₁ (by rw [Dag, hedge₁]; exact hdag)
  have hlen₁ : heap₁.length = heap.length := hsame₁.length_eq
  refine ⟨heap₁, heap₂, hrun₁, hrun₂, ?_, ?_, fun x => ?_, fun x hx => ?_⟩
  · rw [hsame₂.map_eq (g := (·.name)) fun _ => rfl, hsame₁.map_eq (g := (·.name)) fun _ => rfl]
  · rw [edge_eq_of_map noReach_outs hsame₂, hedge₁]
  · by_cases hx : x < heap.length
    · exact hsame₂.heightOK (hall x (List.mem_range.2 hx))
    · exact heightOK_of_length_le (by rw [hsame₂.length_eq, hlen₁]; omega)
  · have hfresh₁ : (heap₁.getD x default).reach = false := by
      rw [← noHeight_reach, hsame₁.getD x, noHeight_reach, List.getD_eq_getElem?_getD,
        List.getElem?_eq_getElem hx]
      exact hfresh _ (List.getElem_mem _)
    rw [hreach x (by rw [hlen₁]; exact hx), hfresh₁, hedge₁]
    simp

end Passes

end Startf

end Qri
