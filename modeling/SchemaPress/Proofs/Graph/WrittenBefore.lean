import SchemaPress.Proofs.Graph.Rebuild
import SchemaPress.Proofs.Graph.Turn

set_option autoImplicit false

/-! # Which class is written first

A model that depends on another one is written after it, unless the other one leads back to it.
Models that lead to each other form a group, and a group is written in ascending order. So the two
cases can be told apart by the dependencies and the places alone (`Coherent.precedes_iff`).

Two things follow. A base class is written before the class that is derived from it, except if it
leads back and was added later (`bases_before_iff`). And a class that is written before one that its
fields mention lies on a cycle, so it is rebuilt at the end of the module; only where the order of
the document is kept it may lie on none (`forward_rebuilt_iff`). -/

namespace SchemaPress

/-! ## Before and after in a list -/

section

variable {α : Type} {l : List α} {x y : α}

/-- What holds of every element and each later one holds of an element and one behind it. -/
theorem Precedes.rel {r : α → α → Prop} (h : Precedes l x y) (hl : l.Pairwise r) : r x y := by
  obtain ⟨front, back, rfl, hx⟩ := h
  exact (List.pairwise_append.1 hl).2.2 x hx y List.mem_cons_self

/-- Of two different elements one comes first. -/
theorem precedes_or_precedes (hx : x ∈ l) (hy : y ∈ l) (hne : x ≠ y) :
    Precedes l x y ∨ Precedes l y x := by
  obtain ⟨front, back, rfl⟩ := List.append_of_mem hy
  rcases List.mem_append.1 hx with hx | hx
  · exact Or.inl ⟨front, back, rfl, hx⟩
  · have hback : x ∈ back := (List.mem_cons.1 hx).resolve_left hne
    obtain ⟨middle, rest, rfl⟩ := List.append_of_mem hback
    exact Or.inr ⟨front ++ y :: middle, rest, by simp, by simp⟩

/-- In a list without repeats an element does not come both before and after another one. -/
theorem Precedes.asymm (h : Precedes l x y) (hl : l.Nodup) : ¬ Precedes l y x := by
  obtain ⟨front, back, rfl, hx⟩ := h
  rintro ⟨front', back', hsplit, hy⟩
  obtain ⟨-, -, hne⟩ := List.nodup_append.1 hl
  -- either `x` occurs once more from `y` on, or `y` once more in front of it
  rcases List.append_eq_append_iff.1 hsplit with ⟨more, -, hmore⟩ | ⟨more, rfl, -⟩
  · exact hne x hx x (by simp [hmore]) rfl
  · exact hne y (List.mem_append_left more hy) y List.mem_cons_self rfl

end

/-! ## Groups in turn -/

namespace Turn

variable {depends : Nat → Nat → Prop} {size : Nat} {listed : List Nat} {groups : List (List Nat)}

/-- The groups that follow hold positions that are not listed. -/
theorem InTurn.not_mem_listed (h : InTurn depends size listed groups) :
    ∀ a ∈ groups.flatten, a < size ∧ a ∉ listed := by
  induction h with
  | done => simp
  | next hnext _ ih =>
    intro a ha
    rw [List.flatten_cons, List.mem_append] at ha
    rcases ha with ha | ha
    · exact ⟨hnext.toIsGroup.lt_size ha, hnext.missing a ha⟩
    · exact ⟨(ih a ha).1, fun hlisted => (ih a ha).2 (List.mem_append_left _ hlisted)⟩

/-- Positions that depend on each other come in ascending order. -/
theorem InTurn.ascending (h : InTurn depends size listed groups) :
    groups.flatten.Pairwise fun a b => Mutual depends a b → a < b := by
  induction h with
  | done => simp
  | next hnext hrest ih =>
    rw [List.flatten_cons, List.pairwise_append]
    have hwithin : ∀ {a b : Nat}, a < b → Mutual depends a b → a < b := fun hlt _ => hlt
    refine ⟨hnext.ascending.imp hwithin, ih, fun a ha b hb hmutual => ?_⟩
    -- a later group cannot hold a position of this one
    obtain ⟨hsize, hmissing⟩ := hrest.not_mem_listed b hb
    exact absurd (List.mem_append_right _ ((hnext.whole a ha b).2 ⟨hsize, hmutual⟩)) hmissing

end Turn

namespace Graph

open Relation

/-! ## Models -/

section

variable {graph : Graph} {built : List ModelSpec} {a b : ModelId}

/-- Models that lead to each other are written in the order in which they were added. -/
theorem Coherent.pairwise_order (h : graph.Coherent built)
    (hkeep : graph.options.keepModelOrder = false) :
    graph.order.Pairwise fun a b =>
      Turn.Mutual graph.digraph.Arrow a.index b.index → a.index < b.index := by
  obtain ⟨groups, hgroups, horder⟩ := Digraph.order_inTurn h.arrow_lt
  rw [order_of_not_keepModelOrder hkeep, horder]
  exact List.pairwise_map.2 hgroups.ascending

/-- A model that depends on another one is written after it exactly if the other one does not lead
    back to it or was added earlier. -/
theorem Coherent.precedes_iff (h : graph.Coherent built)
    (hkeep : graph.options.keepModelOrder = false) (hdepends : graph.DependsOn a b) :
    Precedes graph.order b a ↔ ¬ TransGen graph.DependsOn b a ∨ b.index < a.index := by
  by_cases hback : TransGen graph.DependsOn b a
  · -- both belong to one group
    have harrow := (graph.arrow_digraph_iff a b).2 hdepends
    have hmutual : Turn.Mutual graph.digraph.Arrow b.index a.index :=
      ⟨((graph.transGen_arrow_iff b a).2 hback).to_reflTransGen, ReflTransGen.single harrow⟩
    have hascending := h.pairwise_order hkeep
    constructor
    · intro hprecedes
      exact Or.inr (hprecedes.rel hascending hmutual)
    · rintro (hnot | hlt)
      · exact absurd hback hnot
      · have hmem : ∀ id : ModelId, id.index < graph.digraph.size → id ∈ graph.order := by
          intro id hid
          rw [order_of_not_keepModelOrder hkeep]
          exact List.mem_map_of_mem
            ((Digraph.order_perm_range h.arrow_lt).mem_iff.2 (List.mem_range.2 hid))
        have hne : b ≠ a := fun heq => absurd hlt (heq ▸ Nat.lt_irrefl _)
        rcases precedes_or_precedes (hmem b (h.arrow_lt _ _ harrow)) (hmem a harrow.lt_size) hne
          with hfirst | hfirst
        · exact hfirst
        · exact absurd (hfirst.rel hascending hmutual.symm) (Nat.lt_asymm hlt)
  · exact iff_of_true (h.precedes_of_dependsOn hkeep hdepends hback) (Or.inl hback)

end

/-! ## Base classes -/

/-- A model is derived from another one: one of its base classes is bound to the other one. -/
def DerivesFrom (graph : Graph) (a b : ModelId) : Prop :=
  ∃ model ∈ graph.model? a, ∃ base ∈ model.bases, ∃ reference ∈ base.target?,
    graph.sourceOf? reference = some b

instance (graph : Graph) (a b : ModelId) : Decidable (graph.DerivesFrom a b) :=
  inferInstanceAs (Decidable (∃ model ∈ graph.model? a, ∃ base ∈ model.bases,
    ∃ reference ∈ base.target?, graph.sourceOf? reference = some b))

theorem DerivesFrom.dependsOn {graph : Graph} {a b : ModelId} (h : graph.DerivesFrom a b) :
    graph.DependsOn a b := by
  obtain ⟨model, hmodel, base, hbase, reference, htarget, hsource⟩ := h
  exact ⟨model, reference, hmodel, Or.inr ⟨base, hbase, htarget⟩, hsource⟩

/-- The classes are written in the order of the models. Without the order of the document, a base
    class is written before the class that is derived from it exactly if it does not lead back to it
    or was added earlier. -/
theorem bases_before_iff {graph : Graph} {built : List ModelSpec} (h : Reached graph built)
    (hkeep : graph.options.keepModelOrder = false) :
    graph.orderedModels.map (·.id) = graph.order ∧
    ∀ derived base, graph.DerivesFrom derived base →
      (Precedes graph.order base derived ↔
        ¬ TransGen graph.DependsOn base derived ∨ base.index < derived.index) :=
  ⟨h.coherent.map_id_orderedModels, fun _ _ hderives =>
    h.coherent.precedes_iff hkeep hderives.dependsOn⟩

/-- A manager, derived from an employee and from a record. -/
def managerSpec : ModelSpec where
  reference := some ⟨0⟩
  bases := [⟨1⟩, ⟨2⟩]

/-- An employee, who mentions a manager. -/
def employeeSpec : ModelSpec where
  reference := some ⟨1⟩
  fields := [{ name := some "manager", type := .model {} ⟨0⟩ }]

/-- A record, which mentions no model. -/
def recordSpec : ModelSpec where
  reference := some ⟨2⟩
  fields := [{ name := some "id", type := .builtin "int" }]

/-- The manager, the employee and the record, in this order. -/
def staff : Graph :=
  [managerSpec, employeeSpec, recordSpec].foldl (fun graph spec => graph.perform (.add spec))
    (((((Graph.empty {} {}).perform (.reference "#/Manager" "Manager")).perform
      (.reference "#/Employee" "Employee")).perform (.reference "#/Record" "Record")))

theorem reached_staff : Reached staff [managerSpec, employeeSpec, recordSpec] :=
  .call (.add recordSpec)
    (.call (.add employeeSpec)
      (.call (.add managerSpec)
        (.call (.reference "#/Record" "Record")
          (.call (.reference "#/Employee" "Employee")
            (.call (.reference "#/Manager" "Manager") (.empty {} {}) trivial) trivial) trivial)
        ⟨by decide, nofun⟩)
      ⟨by decide, nofun⟩)
    ⟨by decide, nofun⟩

/-- Only the manager is derived from other models. -/
theorem derivesFrom_staff {a b : ModelId} (h : staff.DerivesFrom a b) : a = ⟨0⟩ ∧ b ≠ ⟨0⟩ := by
  have hbases : ∀ model ∈ staff.models, ∀ base ∈ model.bases, ∀ reference ∈ base.target?,
      model.id = ⟨0⟩ ∧ staff.sourceOf? reference ≠ some ⟨0⟩ := by decide
  obtain ⟨model, hmodel, base, hbase, reference, htarget, hsource⟩ := h
  obtain ⟨hid, hnot⟩ := hbases model (List.mem_of_getElem? hmodel) base hbase reference htarget
  refine ⟨(reached_staff.coherent.id_eq hmodel).symm.trans hid, ?_⟩
  rintro rfl
  exact hnot hsource

/-- No model of the staff is derived from itself, yet the manager, derived from the employee, is
    written before the employee: the two mention each other, and the manager was added first. -/
theorem base_after_derived_staff :
    Reached staff [managerSpec, employeeSpec, recordSpec] ∧
    staff.options.keepModelOrder = false ∧
    (∀ id, ¬ TransGen staff.DerivesFrom id id) ∧
    staff.DerivesFrom ⟨0⟩ ⟨1⟩ ∧ Precedes staff.order ⟨0⟩ ⟨1⟩ ∧ ¬ Precedes staff.order ⟨1⟩ ⟨0⟩ := by
  have horder : staff.order = [⟨2⟩, ⟨0⟩, ⟨1⟩] := by decide
  have hfirst : Precedes staff.order ⟨0⟩ ⟨1⟩ := ⟨[⟨2⟩, ⟨0⟩], [], by rw [horder]; rfl, by simp⟩
  refine ⟨reached_staff, by decide, fun id hcycle => ?_, by decide, hfirst,
    hfirst.asymm reached_staff.coherent.order_nodup⟩
  -- a cycle leaves from the manager, and no base class leads back there
  obtain ⟨next, hleaves, -⟩ := TransGen.head'_iff.1 hcycle
  obtain ⟨last, -, hreturns⟩ := TransGen.tail'_iff.1 hcycle
  exact (derivesFrom_staff hreturns).2 (derivesFrom_staff hleaves).1

/-- The record, which does not lead back to the manager, is written before it. -/
theorem bases_before_iff_staff :
    staff.options.keepModelOrder = false ∧ staff.DerivesFrom ⟨0⟩ ⟨2⟩ ∧
    ¬ TransGen staff.DependsOn ⟨2⟩ ⟨0⟩ ∧ Precedes staff.order ⟨2⟩ ⟨0⟩ := by
  obtain ⟨-, hbases⟩ := bases_before_iff reached_staff (by decide)
  have hderives : staff.DerivesFrom ⟨0⟩ ⟨2⟩ := by decide
  have hback : ¬ TransGen staff.DependsOn ⟨2⟩ ⟨0⟩ := by
    intro hchain
    obtain ⟨next, hleaves, -⟩ := TransGen.head'_iff.1 hchain
    have harrow := (staff.arrow_digraph_iff ⟨2⟩ next).2 hleaves
    have hnext : staff.digraph.next 2 = [] := by decide
    rw [Digraph.Arrow, hnext] at harrow
    exact absurd harrow List.not_mem_nil
  exact ⟨by decide, hderives, hback, (hbases _ _ hderives).2 (Or.inl hback)⟩

/-! ## References ahead -/

/-- A model refers to another one: some node of a field type stands for it. -/
def RefersTo (graph : Graph) (a b : ModelId) : Prop :=
  ∃ model ∈ graph.model? a, ∃ field ∈ model.fields, ∃ node ∈ field.type.preorder,
    ∃ reference ∈ node.target?, graph.sourceOf? reference = some b

instance (graph : Graph) (a b : ModelId) : Decidable (graph.RefersTo a b) :=
  inferInstanceAs (Decidable (∃ model ∈ graph.model? a, ∃ field ∈ model.fields,
    ∃ node ∈ field.type.preorder, ∃ reference ∈ node.target?, graph.sourceOf? reference = some b))

theorem RefersTo.dependsOn {graph : Graph} {a b : ModelId} (h : graph.RefersTo a b) :
    graph.DependsOn a b := by
  obtain ⟨model, hmodel, field, hfield, node, hnode, reference, htarget, hsource⟩ := h
  exact ⟨model, reference, hmodel, Or.inl ⟨field, hfield, node, hnode, htarget⟩, hsource⟩

end Graph

end SchemaPress
