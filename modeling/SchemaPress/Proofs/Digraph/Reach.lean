import Mathlib.Algebra.BigOperators.Group.Finset.Basic
import Mathlib.Algebra.Order.BigOperators.Group.Finset
import Mathlib.Data.Finset.Card
import Mathlib.Logic.Relation
import SchemaPress.Digraph

set_option autoImplicit false

/-! # What the search of a graph finds

`explore` walks a stack of pending nodes and stops after a number of steps that is fixed
beforehand. It finds nothing but nodes behind the start, and the number of steps is large enough
for all of them: a step uses up one pending node, and pending nodes are added only when a node is
seen for the first time, one for each of its arrows. So `reach` is exactly the transitive closure
of the arrows (`mem_reach_iff`), and so is the table of all reaches (`reachesIn_reaches`). -/

namespace SchemaPress.Digraph

open Relation

variable (graph : Digraph)

/-! ## Arrows -/

/-- One node points to another. -/
def Arrow (a b : Nat) : Prop :=
  b ∈ graph.next a

/-- A node without a place in the graph points nowhere. -/
theorem next_of_size_le {node : Nat} (h : graph.size ≤ node) : graph.next node = [] := by
  unfold next
  rw [List.getElem?_eq_none h]
  rfl

variable {graph}

theorem Arrow.lt_size {a b : Nat} (h : graph.Arrow a b) : a < graph.size := by
  by_contra hge
  unfold Arrow at h
  rw [graph.next_of_size_le (Nat.le_of_not_lt hge)] at h
  simp at h

/-- Only nodes of the graph reach anything. -/
theorem lt_size_of_transGen {a b : Nat} (h : TransGen graph.Arrow a b) : a < graph.size := by
  obtain ⟨c, hac, -⟩ := TransGen.head'_iff.1 h
  exact hac.lt_size

variable (graph)

/-! ## Soundness of the search -/

/-- The search finds what was seen, what is pending and what lies behind pending nodes. -/
theorem explore_sound (steps : Nat) (pending seen : List Nat) :
    ∀ x ∈ graph.explore steps pending seen,
      x ∈ seen ∨ ∃ p ∈ pending, ReflTransGen graph.Arrow p x := by
  induction steps generalizing pending seen with
  | zero => exact fun x hx => Or.inl hx
  | succ steps ih =>
    cases pending with
    | nil => exact fun x hx => Or.inl hx
    | cons node pending =>
      intro x hx
      rw [explore] at hx
      split at hx
      · rcases ih _ _ x hx with h | ⟨p, hp, hpx⟩
        · exact Or.inl h
        · exact Or.inr ⟨p, List.mem_cons_of_mem _ hp, hpx⟩
      · rcases ih _ _ x hx with h | ⟨p, hp, hpx⟩
        · rcases List.mem_cons.1 h with rfl | h
          · exact Or.inr ⟨x, List.mem_cons_self, ReflTransGen.refl⟩
          · exact Or.inl h
        · rcases List.mem_append.1 hp with hp | hp
          · exact Or.inr ⟨node, List.mem_cons_self, ReflTransGen.head hp hpx⟩
          · exact Or.inr ⟨p, List.mem_cons_of_mem _ hp, hpx⟩

/-! ## Enough steps -/

/-- The number of arrows of the nodes that have not been seen. -/
def unseenArrows (seen : List Nat) : Nat :=
  ∑ node ∈ (Finset.range graph.size).filter (· ∉ seen), (graph.next node).length

/-- Seeing a node for the first time takes its arrows away from those that are left. -/
theorem unseenArrows_cons {node : Nat} {seen : List Nat} (h : node ∉ seen) :
    (graph.next node).length + graph.unseenArrows (node :: seen) = graph.unseenArrows seen := by
  have herase : (Finset.range graph.size).filter (· ∉ node :: seen) =
      ((Finset.range graph.size).filter (· ∉ seen)).erase node := by
    ext x
    simp only [Finset.mem_filter, Finset.mem_erase, List.mem_cons, not_or]
    tauto
  unfold unseenArrows
  rw [herase]
  by_cases hsize : node < graph.size
  · exact Finset.add_sum_erase _ (fun x => (graph.next x).length)
      (Finset.mem_filter.2 ⟨Finset.mem_range.2 hsize, h⟩)
  · rw [graph.next_of_size_le (Nat.le_of_not_lt hsize), List.length_nil, Nat.zero_add,
      Finset.erase_eq_of_notMem]
    simp only [Finset.mem_filter, Finset.mem_range]
    exact fun hmem => hsize hmem.1

/-- At the start all arrows are left. -/
theorem unseenArrows_nil : graph.unseenArrows [] = graph.arrowCount := by
  have hfilter : (Finset.range graph.size).filter (· ∉ ([] : List Nat)) =
      Finset.range graph.size := by
    simp
  unfold unseenArrows arrowCount size next
  rw [show (Finset.range graph.successors.length).filter (· ∉ ([] : List Nat)) =
    Finset.range graph.successors.length from hfilter]
  induction graph.successors with
  | nil => rfl
  | cons first rest ih =>
    rw [List.length_cons, Finset.sum_range_succ', List.foldr_cons, Nat.add_comm]
    simp only [List.getElem?_cons_succ, List.getElem?_cons_zero, Option.getD_some]
    rw [ih]

/-! ## Completeness of the search -/

/-- What is found holds what was seen and what was pending, and no arrow leads out of it. -/
structure Covers (pending seen found : List Nat) : Prop where
  of_seen : ∀ x ∈ seen, x ∈ found
  of_pending : ∀ x ∈ pending, x ∈ found
  closed : ∀ x ∈ found, ∀ y, graph.Arrow x y → y ∈ found

/-- The search is over when nothing is pending. -/
theorem explore_nil (steps : Nat) (seen : List Nat) : graph.explore steps [] seen = seen := by
  cases steps <;> rfl

theorem covers_explore_nil (steps : Nat) {seen : List Nat}
    (hseen : ∀ x ∈ seen, ∀ y, graph.Arrow x y → y ∈ seen ∨ y ∈ []) :
    graph.Covers [] seen (graph.explore steps [] seen) := by
  rw [explore_nil]
  exact ⟨fun _ hx => hx, fun _ hx => absurd hx List.not_mem_nil,
    fun x hx y hxy => (hseen x hx y hxy).resolve_right List.not_mem_nil⟩

/-- With enough steps, the search covers what lies behind the seen and the pending nodes. The steps
    are enough if they cover the pending nodes and the arrows left. -/
theorem covers_explore (steps : Nat) (pending seen : List Nat)
    (hsteps : pending.length + graph.unseenArrows seen ≤ steps)
    (hseen : ∀ x ∈ seen, ∀ y, graph.Arrow x y → y ∈ seen ∨ y ∈ pending) :
    graph.Covers pending seen (graph.explore steps pending seen) := by
  induction steps generalizing pending seen with
  | zero =>
    have hnil : pending = [] := List.eq_nil_of_length_eq_zero (by omega)
    subst hnil
    exact graph.covers_explore_nil 0 hseen
  | succ steps ih =>
    cases pending with
    | nil => exact graph.covers_explore_nil (steps + 1) hseen
    | cons node pending =>
      rw [List.length_cons] at hsteps
      rw [explore]
      split
      · -- a node that was seen before is dropped
        rename_i hnode
        have hnode : node ∈ seen := by simpa using hnode
        have hcovers := ih pending seen (by omega) (fun x hx y hxy => by
          rcases hseen x hx y hxy with h | h
          · exact Or.inl h
          · rcases List.mem_cons.1 h with rfl | h
            · exact Or.inl hnode
            · exact Or.inr h)
        refine ⟨hcovers.of_seen, fun x hx => ?_, hcovers.closed⟩
        rcases List.mem_cons.1 hx with rfl | hx
        · exact hcovers.of_seen x hnode
        · exact hcovers.of_pending x hx
      · -- a new node leaves its arrows pending
        rename_i hnode
        have hnode : node ∉ seen := by simpa using hnode
        have hleft := graph.unseenArrows_cons hnode
        have hcovers := ih (graph.next node ++ pending) (node :: seen)
          (by rw [List.length_append]; omega) (fun x hx y hxy => by
            rcases List.mem_cons.1 hx with rfl | hx
            · exact Or.inr (List.mem_append_left _ hxy)
            · rcases hseen x hx y hxy with h | h
              · exact Or.inl (List.mem_cons_of_mem _ h)
              · rcases List.mem_cons.1 h with rfl | h
                · exact Or.inl List.mem_cons_self
                · exact Or.inr (List.mem_append_right _ h))
        refine ⟨fun x hx => hcovers.of_seen x (List.mem_cons_of_mem _ hx), fun x hx => ?_,
          hcovers.closed⟩
        rcases List.mem_cons.1 hx with rfl | hx
        · exact hcovers.of_seen x List.mem_cons_self
        · exact hcovers.of_pending x (List.mem_append_right _ hx)

/-! ## Reach -/

/-- The reach of a node is what one or more arrows lead to. -/
theorem mem_reach_iff (node x : Nat) : x ∈ graph.reach node ↔ TransGen graph.Arrow node x := by
  unfold reach
  constructor
  · intro hx
    rcases graph.explore_sound _ _ _ x hx with h | ⟨p, hp, hpx⟩
    · exact absurd h List.not_mem_nil
    · exact TransGen.head' hp hpx
  · intro hx
    have hcovers := graph.covers_explore ((graph.next node).length + graph.arrowCount)
      (graph.next node) [] (by rw [unseenArrows_nil]) (fun y hy => absurd hy List.not_mem_nil)
    induction hx with
    | single h => exact hcovers.of_pending _ h
    | tail _ h ih => exact hcovers.closed _ ih _ h

/-- The table of reaches tells which nodes are joined by one or more arrows. -/
theorem reachesIn_reaches (a b : Nat) :
    reachesIn graph.reaches a b = true ↔ TransGen graph.Arrow a b := by
  unfold reachesIn reaches
  by_cases ha : a < graph.size
  · rw [List.getElem?_map, List.getElem?_range ha, Option.map_some, Option.getD_some,
      List.contains_iff_mem, mem_reach_iff]
  · rw [List.getElem?_map, List.getElem?_eq_none (by simpa using ha)]
    simp only [Option.map_none, Option.getD_none, List.contains_nil, Bool.false_eq_true, false_iff]
    exact fun h => ha (lt_size_of_transGen h)

end SchemaPress.Digraph
