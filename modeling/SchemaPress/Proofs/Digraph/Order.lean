import SchemaPress.Proofs.Digraph.Components

set_option autoImplicit false

/-! # The order of the nodes of a graph

The nodes are sorted with counters and a queue, from components in any numbering. The loop is told
by the numbers of the components that have left the queue (`Progress`): each counter holds the
arrows from its component to components that are not among them, and the queue holds exactly the
components whose counter is zero and that are not among them. Taking off the arrows one by one
keeps this (`Waiting.release`), and no counter that is taken off from is zero. A counter is zero
exactly if the component is ready (`Progress.isReady_iff`), so each step lists the group that has
its turn (`Progress.step`), and the queue does not run empty before everything is listed
(`Progress.inTurn`). Hence the order is the one in which the groups have their turns, whatever the
numbering (`orderBy_inTurn`, `orderBy_eq_order`). -/

namespace SchemaPress.Digraph

open Relation Turn

variable {graph : Digraph} {components : List (List Nat)}

/-! ## The numbers of the components -/

@[simp]
theorem length_numberNodes (numbers members : List Nat) (number : Nat) :
    (numberNodes numbers members number).length = numbers.length := by
  unfold numberNodes
  induction members generalizing numbers with
  | nil => rfl
  | cons first rest ih => simp [ih]

theorem getElem?_numberNodes (numbers members : List Nat) (number node : Nat) :
    (numberNodes numbers members number)[node]? =
      if node ∈ members ∧ node < numbers.length then some number else numbers[node]? := by
  induction members generalizing numbers with
  | nil => simp [numberNodes]
  | cons first rest ih =>
    show (numberNodes (numbers.set first number) rest number)[node]? = _
    rw [ih, List.length_set, List.getElem?_set]
    by_cases hrest : node ∈ rest
    · grind
    · by_cases hfirst : first = node
      · subst hfirst
        by_cases hlt : first < numbers.length
        · simp [hlt]
        · simp [hlt]
      · simp [hrest, hfirst, Ne.symm hfirst]

/-- Nodes of no component keep their numbers. -/
theorem getElem?_foldl_numberNodes_of_notMem (numbers : List Nat) (start : Nat) {node : Nat}
    (hnode : node ∉ components.flatten) :
    ((components.zipIdx start).foldl (fun numbers entry => numberNodes numbers entry.1 entry.2)
      numbers)[node]? = numbers[node]? := by
  induction components generalizing numbers start with
  | nil => rfl
  | cons members rest ih =>
    rw [List.flatten_cons, List.mem_append, not_or] at hnode
    rw [List.zipIdx_cons, List.foldl_cons, ih _ _ hnode.2, getElem?_numberNodes,
      if_neg fun h => hnode.1 h.1]

theorem getElem?_foldl_numberNodes (numbers : List Nat) (start : Nat)
    (hnodup : components.flatten.Nodup) {number node : Nat} (hlt : node < numbers.length)
    (hnode : node ∈ membersAt components number) :
    ((components.zipIdx start).foldl (fun numbers entry => numberNodes numbers entry.1 entry.2)
      numbers)[node]? = some (start + number) := by
  induction components generalizing numbers start number with
  | nil => simp [membersAt] at hnode
  | cons members rest ih =>
    rw [List.flatten_cons, List.nodup_append] at hnodup
    obtain ⟨-, hrest, hdisjoint⟩ := hnodup
    rw [List.zipIdx_cons, List.foldl_cons]
    cases number with
    | zero =>
      have hmember : node ∈ members := by simpa [membersAt] using hnode
      rw [getElem?_foldl_numberNodes_of_notMem _ _ fun h => hdisjoint node hmember node h rfl,
        getElem?_numberNodes, if_pos ⟨hmember, hlt⟩, Nat.add_zero]
    | succ number =>
      rw [ih _ _ hrest (by simpa using hlt) (by simpa [membersAt] using hnode),
        Nat.add_assoc, Nat.add_comm 1 number]

/-- The number of the component of a node, as the loop looks it up. -/
def numberOf (graph : Digraph) (components : List (List Nat)) (node : Nat) : Nat :=
  ((graph.componentNumbers components)[node]?).getD 0

theorem numberOf_eq (h : AreComponents graph.Arrow graph.size components) {number node : Nat}
    (hnode : node ∈ membersAt components number) : graph.numberOf components node = number := by
  unfold numberOf componentNumbers
  rw [getElem?_foldl_numberNodes _ _ h.nodup_flatten (by simpa using h.lt_size hnode) hnode]
  simp

/-! ## Arrows between components -/

/-- The arrows that leave their components, told by the numbers at their ends. -/
def crossingArrows (numbers : List Nat) (arrows : List (Nat × Nat)) : List (Nat × Nat) :=
  (arrows.map fun arrow => ((numbers[arrow.1]?).getD 0, (numbers[arrow.2]?).getD 0)).filter
    fun arrow => arrow.1 ≠ arrow.2

theorem crossingArrows_cons (numbers : List Nat) (arrow : Nat × Nat) (rest : List (Nat × Nat)) :
    crossingArrows numbers (arrow :: rest) =
      if (numbers[arrow.1]?).getD 0 = (numbers[arrow.2]?).getD 0 then crossingArrows numbers rest
      else ((numbers[arrow.1]?).getD 0, (numbers[arrow.2]?).getD 0) ::
        crossingArrows numbers rest := by
  simp only [crossingArrows, List.map_cons, List.filter_cons, ne_eq, decide_not,
    Bool.not_eq_true', decide_eq_false_iff_not, ite_not]

/-- The count of a component is the number of arrows that start there. -/
theorem pending_foldl_add (numbers : List Nat) (arrows : List (Nat × Nat)) (start : Crossings)
    (number : Nat) :
    (arrows.foldl (Crossings.add numbers) start).pending[number]? =
      (start.pending[number]?).map
        (· + (crossingArrows numbers arrows).countP fun arrow => arrow.1 = number) := by
  induction arrows generalizing start with
  | nil => simp [crossingArrows]
  | cons arrow rest ih =>
    rw [List.foldl_cons, ih, crossingArrows_cons, Crossings.add]
    split
    · rfl
    · rw [List.getElem?_modify, List.countP_cons, Option.map_eq_map, Option.map_map]
      congr 1
      funext count
      simp only [Function.comp_apply, decide_eq_true_eq]
      split <;> omega

/-- The dependents of a component are where the arrows to it start. -/
theorem dependents_foldl_add (numbers : List Nat) (arrows : List (Nat × Nat)) (start : Crossings)
    (number : Nat) :
    (arrows.foldl (Crossings.add numbers) start).dependents[number]? =
      (start.dependents[number]?).map
        (· ++ ((crossingArrows numbers arrows).filter fun arrow => arrow.2 = number).map
          Prod.fst) := by
  induction arrows generalizing start with
  | nil => simp [crossingArrows]
  | cons arrow rest ih =>
    rw [List.foldl_cons, ih, crossingArrows_cons, Crossings.add]
    split
    · rfl
    · rw [List.getElem?_modify, List.filter_cons, Option.map_eq_map, Option.map_map]
      congr 1
      funext sources
      simp only [Function.comp_apply, decide_eq_true_eq]
      split <;> simp

/-- The arrows between the components of a graph. -/
def leads (graph : Digraph) (components : List (List Nat)) : List (Nat × Nat) :=
  crossingArrows (graph.componentNumbers components) graph.arrows

theorem pending_crossings {number : Nat} (hnumber : number < components.length) :
    (graph.crossings components).pending[number]? =
      some ((graph.leads components).countP fun arrow => arrow.1 = number) := by
  rw [crossings, pending_foldl_add, List.getElem?_replicate, if_pos hnumber, Option.map_some,
    Nat.zero_add]
  rfl

theorem dependents_crossings {number : Nat} (hnumber : number < components.length) :
    (graph.crossings components).dependents[number]? =
      some (((graph.leads components).filter fun arrow => arrow.2 = number).map Prod.fst) := by
  rw [crossings, dependents_foldl_add, List.getElem?_replicate, if_pos hnumber, Option.map_some,
    List.nil_append]
  rfl

theorem mem_arrows {a b : Nat} : (a, b) ∈ graph.arrows ↔ graph.Arrow a b := by
  simp only [arrows, List.mem_flatMap, List.mem_range, List.mem_map, Prod.mk.injEq]
  constructor
  · rintro ⟨node, -, target, htarget, rfl, rfl⟩
    exact htarget
  · intro harrow
    exact ⟨a, harrow.lt_size, b, harrow, rfl, rfl⟩

/-- An arrow leads from one component to another if a node of the one points to a node of the
    other. -/
theorem mem_leads_iff (hinside : ∀ a b, graph.Arrow a b → b < graph.size)
    (h : AreComponents graph.Arrow graph.size components) {source target : Nat} :
    (source, target) ∈ graph.leads components ↔ source ≠ target ∧
      ∃ a ∈ membersAt components source, ∃ b ∈ membersAt components target, graph.Arrow a b := by
  simp only [leads, crossingArrows, List.mem_filter, List.mem_map, decide_eq_true_eq,
    Prod.mk.injEq, Prod.exists]
  constructor
  · rintro ⟨⟨a, b, harrow, rfl, rfl⟩, hne⟩
    have harrow := mem_arrows.1 harrow
    obtain ⟨i, -, ha⟩ := h.exists_number harrow.lt_size
    obtain ⟨j, -, hb⟩ := h.exists_number (hinside a b harrow)
    refine ⟨hne, a, ?_, b, ?_, harrow⟩
    · show a ∈ membersAt components (graph.numberOf components a)
      rwa [numberOf_eq h ha]
    · show b ∈ membersAt components (graph.numberOf components b)
      rwa [numberOf_eq h hb]
  · rintro ⟨hne, a, ha, b, hb, harrow⟩
    exact ⟨⟨a, b, mem_arrows.2 harrow, numberOf_eq h ha, numberOf_eq h hb⟩, hne⟩

/-! ## Counters -/

/-- How many arrows lead from a component to components that are not done. -/
def openArrows (leads : List (Nat × Nat)) (done : List Nat) (number : Nat) : Nat :=
  leads.countP fun arrow => arrow.1 = number ∧ arrow.2 ∉ done

theorem openArrows_eq_zero_iff {leads : List (Nat × Nat)} {done : List Nat} {number : Nat} :
    openArrows leads done number = 0 ↔ ∀ target, (number, target) ∈ leads → target ∈ done := by
  simp only [openArrows, List.countP_eq_zero, decide_eq_true_eq, not_and, not_not, Prod.forall]
  constructor
  · intro h target hmem
    exact h number target hmem rfl
  · rintro h source target hmem rfl
    exact h target hmem

/-- When a component is done, the arrows to it are no longer open. -/
theorem openArrows_append {leads : List (Nat × Nat)} {done : List Nat} {last : Nat}
    (hlast : last ∉ done) (number : Nat) :
    openArrows leads done number = openArrows leads (done ++ [last]) number +
      ((leads.filter fun arrow => arrow.2 = last).map Prod.fst).count number := by
  unfold openArrows
  induction leads with
  | nil => rfl
  | cons arrow rest ih =>
    rw [List.countP_cons, List.countP_cons, List.filter_cons, ih]
    by_cases htarget : arrow.2 = last
    · have hopen : arrow.2 ∉ done := by rwa [htarget]
      by_cases hsource : arrow.1 = number
      · simp [htarget, hsource, hlast, Nat.add_assoc]
      · simp [htarget, hsource]
    · by_cases hsource : arrow.1 = number
      · by_cases hopen : arrow.2 ∈ done
        · simp [htarget, hopen]
        · simp only [hsource, hopen, htarget, List.mem_append, List.mem_singleton, or_self,
            not_false_eq_true, and_self, decide_true, if_true, decide_false, Bool.false_eq_true,
            if_false]
          omega
      · simp [htarget, hsource]

/-! ## The queue -/

theorem leavesBefore_trans (a b c : Nat × Nat) (hab : Sorting.leavesBefore a b)
    (hbc : Sorting.leavesBefore b c) : Sorting.leavesBefore a c := by
  simp only [Sorting.leavesBefore, Bool.or_eq_true, Bool.and_eq_true, decide_eq_true_eq,
    beq_iff_eq] at hab hbc ⊢
  omega

theorem leavesBefore_or (a b : Nat × Nat) (hne : a ≠ b) :
    Sorting.leavesBefore a b ∨ Sorting.leavesBefore b a := by
  simp only [Sorting.leavesBefore, Bool.or_eq_true, Bool.and_eq_true, decide_eq_true_eq,
    beq_iff_eq]
  have hparts : a.1 ≠ b.1 ∨ a.2 ≠ b.2 := by
    by_contra hsame
    rw [not_or, not_not, not_not] at hsame
    exact hne (Prod.ext hsame.1 hsame.2)
  omega

theorem fst_le_of_leavesBefore {a b : Nat × Nat} (h : Sorting.leavesBefore a b) : a.1 ≤ b.1 := by
  simp only [Sorting.leavesBefore, Bool.or_eq_true, Bool.and_eq_true, decide_eq_true_eq,
    beq_iff_eq] at h
  omega

/-- The counters are as told, and the queue holds in order the components that are not done and
    whose counters are zero. -/
structure Waiting (components : List (List Nat)) (left : Nat → Nat) (done : List Nat)
    (sorting : Sorting) : Prop where
  pending : ∀ number < components.length, sorting.pending[number]? = some (left number)
  ascending : sorting.ready.Pairwise fun a b => Sorting.leavesBefore a b
  ready : ∀ entry, entry ∈ sorting.ready ↔ ∃ number < components.length,
    number ∉ done ∧ left number = 0 ∧ entry = Sorting.entryOf components number

section

variable {left : Nat → Nat} {done : List Nat} {sorting : Sorting}

theorem Waiting.entryOf_mem_iff (h : Waiting components left done sorting) (number : Nat) :
    Sorting.entryOf components number ∈ sorting.ready ↔
      number < components.length ∧ number ∉ done ∧ left number = 0 := by
  rw [h.ready]
  constructor
  · rintro ⟨other, hother, hdone, hleft, hentry⟩
    obtain rfl : number = other := congrArg Prod.snd hentry
    exact ⟨hother, hdone, hleft⟩
  · rintro ⟨hnumber, hdone, hleft⟩
    exact ⟨number, hnumber, hdone, hleft, rfl⟩

/-- The first entry leaves the queue. -/
theorem Waiting.leave (h : Waiting components left done sorting) {number : Nat}
    {ready : List (Nat × Nat)} (hqueue : sorting.ready = Sorting.entryOf components number :: ready)
    (listed : List Nat) :
    Waiting components left (done ++ [number])
      { sorting with ready := ready, listed := listed } := by
  have hascending := h.ascending
  rw [hqueue, List.pairwise_cons] at hascending
  refine ⟨h.pending, hascending.2, fun entry => ?_⟩
  have hrest : entry ∈ ready ↔
      entry ∈ sorting.ready ∧ entry ≠ Sorting.entryOf components number := by
    rw [hqueue, List.mem_cons]
    constructor
    · intro hmem
      refine ⟨Or.inr hmem, ?_⟩
      rintro rfl
      have hself := hascending.1 _ hmem
      simp [Sorting.leavesBefore] at hself
    · rintro ⟨hmem | hmem, hne⟩
      · exact absurd hmem hne
      · exact hmem
  show entry ∈ ready ↔ _
  rw [hrest, h.ready]
  constructor
  · rintro ⟨⟨other, hother, hdone, hleft, rfl⟩, hne⟩
    refine ⟨other, hother, ?_, hleft, rfl⟩
    rw [List.mem_append, List.mem_singleton, not_or]
    refine ⟨hdone, ?_⟩
    rintro rfl
    exact hne rfl
  · rintro ⟨other, hother, hdone, hleft, rfl⟩
    rw [List.mem_append, List.mem_singleton, not_or] at hdone
    exact ⟨⟨other, hother, hdone.1, hleft, rfl⟩, fun heq => hdone.2 (congrArg Prod.snd heq)⟩

/-- A component comes into the queue when the last arrow is taken off. -/
theorem mem_ready_release (sorting : Sorting) (number : Nat) (entry : Nat × Nat) :
    entry ∈ (sorting.release components number).ready ↔
      entry ∈ sorting.ready ∨
        ((sorting.pending[number]?).getD 0 ≤ 1 ∧ entry = Sorting.entryOf components number) := by
  show entry ∈ (if _ = 0 then _ else sorting.ready) ↔ _
  by_cases hlast : (sorting.pending[number]?).getD 0 ≤ 1
  · rw [if_pos (by omega), Sorted.mem_insert, or_comm]
    simp [hlast]
  · rw [if_neg (by omega)]
    simp [hlast]

/-- Taking an arrow off a counter that is not zero. -/
theorem Waiting.release (h : Waiting components left done sorting) {number : Nat}
    (hnumber : number < components.length) (hdone : number ∉ done) (hleft : 0 < left number) :
    Waiting components (Function.update left number (left number - 1)) done
      (sorting.release components number) := by
  have hcount : (sorting.pending[number]?).getD 0 = left number := by
    rw [h.pending number hnumber, Option.getD_some]
  -- the component was not in the queue, since its counter was not zero
  have hnew : Sorting.entryOf components number ∉ sorting.ready := by
    rw [h.entryOf_mem_iff]
    omega
  refine ⟨fun other hother => ?_, ?_, fun entry => ?_⟩
  · show (sorting.pending.set number _)[other]? = _
    rw [hcount, List.getElem?_set]
    by_cases hsame : number = other
    · subst hsame
      have hlength := (List.getElem?_eq_some_iff.1 (h.pending number hnumber)).1
      simp [hlength]
    · rw [if_neg hsame, Function.update_of_ne (Ne.symm hsame), h.pending other hother]
  · show (if _ = 0 then _ else sorting.ready).Pairwise _
    split
    · refine Sorted.pairwise_insert leavesBefore_trans (fun y hy => leavesBefore_or _ y ?_)
        h.ascending
      rintro rfl
      exact hnew hy
    · exact h.ascending
  · rw [mem_ready_release, h.ready, hcount]
    constructor
    · rintro (⟨other, hother, hother', hzero, rfl⟩ | ⟨hlast, rfl⟩)
      · have hne : other ≠ number := by
          rintro rfl
          omega
        exact ⟨other, hother, hother', by rwa [Function.update_of_ne hne], rfl⟩
      · refine ⟨number, hnumber, hdone, ?_, rfl⟩
        rw [Function.update_self]
        omega
    · rintro ⟨other, hother, hother', hzero, rfl⟩
      by_cases hsame : other = number
      · subst hsame
        rw [Function.update_self] at hzero
        exact Or.inr ⟨by omega, rfl⟩
      · rw [Function.update_of_ne hsame] at hzero
        exact Or.inl ⟨other, hother, hother', hzero, rfl⟩

/-- Taking off all arrows to a component. -/
theorem Waiting.foldl_release {released : List Nat}
    (hreleased : ∀ number ∈ released, number < components.length ∧ number ∉ done)
    (h : Waiting components (fun number => left number + released.count number) done sorting) :
    Waiting components left done (released.foldl (Sorting.release components) sorting) := by
  induction released generalizing sorting with
  | nil => simpa using h
  | cons first rest ih =>
    obtain ⟨hfirst, hdone⟩ := hreleased first List.mem_cons_self
    refine ih (fun number hnumber => hreleased number (List.mem_cons_of_mem _ hnumber)) ?_
    have hafter := h.release hfirst hdone (by simp)
    convert hafter using 1
    funext number
    by_cases hsame : number = first
    · subst hsame
      simp
    · simp [Function.update_of_ne hsame, List.count_cons_of_ne (Ne.symm hsame)]

@[simp]
theorem listed_foldl_release (released : List Nat) (sorting : Sorting) :
    (released.foldl (Sorting.release components) sorting).listed = sorting.listed := by
  induction released generalizing sorting with
  | nil => rfl
  | cons first rest ih =>
    rw [List.foldl_cons, ih]
    rfl

end

/-! ## What the loop keeps -/

/-- The state in which some components have left the queue. -/
structure Progress (graph : Digraph) (components : List (List Nat)) (done : List Nat)
    (sorting : Sorting) : Prop where
  nodup : done.Nodup
  lt_length : ∀ number ∈ done, number < components.length
  closed : ∀ number ∈ done, openArrows (graph.leads components) done number = 0
  waiting : Waiting components (openArrows (graph.leads components) done) done sorting
  listed : sorting.listed = done.flatMap fun number => ascending (membersAt components number)

theorem progress_unsorted (graph : Digraph) (components : List (List Nat)) :
    Progress graph components [] (graph.unsorted components) where
  nodup := List.nodup_nil
  lt_length := by simp
  closed := by simp
  listed := rfl
  waiting := by
    have hcount : ∀ number < components.length,
        (graph.unsorted components).pending[number]? =
          some (openArrows (graph.leads components) [] number) := by
      intro number hnumber
      show (graph.crossings components).pending[number]? = _
      rw [pending_crossings hnumber]
      simp [openArrows]
    refine ⟨hcount, ?_, fun entry => ?_⟩
    · refine Sorted.pairwise_sort leavesBefore_trans leavesBefore_or ?_
      exact (List.nodup_range.filter _).map fun i j hij => congrArg Prod.snd hij
    · show entry ∈ Sorted.sort _ _ ↔ _
      rw [Sorted.mem_sort, List.mem_map]
      constructor
      · rintro ⟨number, hmem, rfl⟩
        rw [List.mem_filter, List.mem_range, beq_iff_eq] at hmem
        have hzero := hmem.2
        rw [show (graph.crossings components).pending[number]? = _ from hcount number hmem.1]
          at hzero
        exact ⟨number, hmem.1, List.not_mem_nil, hzero, rfl⟩
      · rintro ⟨number, hnumber, -, hzero, rfl⟩
        refine ⟨number, List.mem_filter.2 ⟨List.mem_range.2 hnumber, ?_⟩, rfl⟩
        rw [show (graph.crossings components).pending[number]? = _ from hcount number hnumber,
          hzero]
        rfl

theorem mem_ascending {node : Nat} {nodes : List Nat} : node ∈ ascending nodes ↔ node ∈ nodes :=
  Sorted.mem_sort

theorem pairwise_ascending {nodes : List Nat} (h : nodes.Nodup) :
    (ascending nodes).Pairwise (· < ·) := by
  refine (Sorted.pairwise_sort (fun a b c hab hbc => ?_) (fun a b hne => ?_) h).imp
    of_decide_eq_true
  · exact decide_eq_true ((of_decide_eq_true hab).trans (of_decide_eq_true hbc))
  · rw [decide_eq_true_iff, decide_eq_true_iff]
    exact Nat.lt_or_gt_of_ne hne

theorem foldl_min_mem (node : Nat) (rest : List Nat) :
    rest.foldl Nat.min node ∈ node :: rest ∧ ∀ x ∈ node :: rest, rest.foldl Nat.min node ≤ x := by
  induction rest generalizing node with
  | nil => simp
  | cons first rest ih =>
    obtain ⟨hmem, hle⟩ := ih (Nat.min node first)
    rw [List.foldl_cons]
    refine ⟨?_, fun x hx => ?_⟩
    · rcases List.mem_cons.1 hmem with heq | hmem
      · rw [heq]
        rcases Nat.le_total node first with hlt | hlt
        · simp [Nat.min_eq_left hlt]
        · simp [Nat.min_eq_right hlt]
      · simp [hmem]
    · have hmin := hle _ List.mem_cons_self
      rcases List.mem_cons.1 hx with rfl | hx
      · exact hmin.trans (Nat.min_le_left _ _)
      · rcases List.mem_cons.1 hx with rfl | hx
        · exact hmin.trans (Nat.min_le_right _ _)
        · exact hle x (List.mem_cons_of_mem _ hx)

theorem leastNode_mem {nodes : List Nat} (h : nodes ≠ []) : leastNode nodes ∈ nodes := by
  obtain ⟨node, rest, rfl⟩ := List.exists_cons_of_ne_nil h
  exact (foldl_min_mem node rest).1

theorem leastNode_le {nodes : List Nat} {node : Nat} (h : node ∈ nodes) :
    leastNode nodes ≤ node := by
  obtain ⟨first, rest, rfl⟩ := List.exists_cons_of_ne_nil (List.ne_nil_of_mem h)
  exact (foldl_min_mem first rest).2 node h

section

variable {done : List Nat} {sorting : Sorting}

/-- Exactly the components that have left the queue are listed. -/
theorem Progress.mem_listed_iff (h : AreComponents graph.Arrow graph.size components)
    (hprogress : Progress graph components done sorting) {number node : Nat}
    (hnode : node ∈ membersAt components number) : node ∈ sorting.listed ↔ number ∈ done := by
  rw [hprogress.listed, List.mem_flatMap]
  constructor
  · rintro ⟨other, hother, hmem⟩
    rwa [h.number_unique hnode (mem_ascending.1 hmem)]
  · intro hnumber
    exact ⟨number, hnumber, mem_ascending.2 hnode⟩

/-- A component is ready if it has not left the queue and its counter is zero. -/
theorem Progress.isReady_iff (hinside : ∀ a b, graph.Arrow a b → b < graph.size)
    (h : AreComponents graph.Arrow graph.size components)
    (hprogress : Progress graph components done sorting) {number : Nat}
    (hnumber : number < components.length) :
    IsReady graph.Arrow graph.size sorting.listed (membersAt components number) ↔
      number ∉ done ∧ openArrows (graph.leads components) done number = 0 := by
  have hgroup := h.isGroup _ (membersAt_mem hnumber)
  rw [openArrows_eq_zero_iff]
  constructor
  · intro hready
    obtain ⟨node, hnode⟩ := List.exists_mem_of_ne_nil _ hgroup.nonempty
    refine ⟨fun hdone => hready.missing node hnode ((hprogress.mem_listed_iff h hnode).2 hdone),
      fun target htarget => ?_⟩
    obtain ⟨hne, a, ha, b, hb, harrow⟩ := (mem_leads_iff hinside h).1 htarget
    rcases hready.settled a ha b harrow with hb' | hb'
    · exact absurd (h.number_unique hb' hb) hne
    · exact (hprogress.mem_listed_iff h hb).1 hb'
  · rintro ⟨hdone, hopen⟩
    refine ⟨hgroup, fun a ha hlisted => hdone ((hprogress.mem_listed_iff h ha).1 hlisted),
      fun a ha b harrow => ?_⟩
    obtain ⟨target, -, hb⟩ := h.exists_number (hinside a b harrow)
    by_cases hsame : number = target
    · exact Or.inl (by rwa [hsame])
    · exact Or.inr ((hprogress.mem_listed_iff h hb).2
        (hopen target ((mem_leads_iff hinside h).2 ⟨hsame, a, ha, b, hb, harrow⟩)))

/-- The queue holds exactly the components that are ready. -/
theorem Progress.mem_ready_iff (hinside : ∀ a b, graph.Arrow a b → b < graph.size)
    (h : AreComponents graph.Arrow graph.size components)
    (hprogress : Progress graph components done sorting) (entry : Nat × Nat) :
    entry ∈ sorting.ready ↔ ∃ number < components.length,
      IsReady graph.Arrow graph.size sorting.listed (membersAt components number) ∧
        entry = Sorting.entryOf components number := by
  rw [hprogress.waiting.ready]
  refine exists_congr fun number => and_congr_right fun hnumber => ?_
  rw [hprogress.isReady_iff hinside h hnumber, and_assoc]

/-- The component in front of the queue has its turn. -/
theorem Progress.isNext (hinside : ∀ a b, graph.Arrow a b → b < graph.size)
    (h : AreComponents graph.Arrow graph.size components)
    (hprogress : Progress graph components done sorting) {number : Nat}
    {ready : List (Nat × Nat)}
    (hqueue : sorting.ready = Sorting.entryOf components number :: ready) :
    IsNext graph.Arrow graph.size sorting.listed (ascending (membersAt components number)) := by
  obtain ⟨hnumber, hdone, hzero⟩ := (hprogress.waiting.entryOf_mem_iff number).1
    (by rw [hqueue]; exact List.mem_cons_self)
  have hready := (hprogress.isReady_iff hinside h hnumber).2 ⟨hdone, hzero⟩
  refine ⟨hready.of_mem_iff fun b => mem_ascending,
    pairwise_ascending (h.nodup_members (membersAt_mem hnumber)),
    leastNode (membersAt components number),
    mem_ascending.2 (leastNode_mem hready.nonempty), fun other hother b hb => ?_⟩
  -- another ready group is a component with its nodes in another order, so it is in the queue
  obtain ⟨place, hplace, hbplace⟩ := h.exists_number (hother.toIsGroup.lt_size hb)
  have hsame := (h.isGroup _ (membersAt_mem hplace)).mem_iff hother.toIsGroup hbplace hb
  have hmem := (hprogress.mem_ready_iff hinside h _).2
    ⟨place, hplace, hother.of_mem_iff hsame, rfl⟩
  rw [hqueue, List.mem_cons] at hmem
  have hascending := hprogress.waiting.ascending
  rw [hqueue, List.pairwise_cons] at hascending
  have hfirst : leastNode (membersAt components number) ≤
      leastNode (membersAt components place) := by
    rcases hmem with heq | hmem
    · exact (congrArg Prod.fst heq).ge
    · exact fst_le_of_leavesBefore (hascending.1 _ hmem)
  exact hfirst.trans (leastNode_le hbplace)

/-- What the loop keeps when a component leaves the queue and the arrows to it are taken off. -/
theorem Progress.leave (hinside : ∀ a b, graph.Arrow a b → b < graph.size)
    (h : AreComponents graph.Arrow graph.size components)
    (hprogress : Progress graph components done sorting) {number : Nat}
    {ready : List (Nat × Nat)}
    (hqueue : sorting.ready = Sorting.entryOf components number :: ready) :
    Progress graph components (done ++ [number])
      ((((graph.leads components).filter fun arrow => arrow.2 = number).map Prod.fst).foldl
        (Sorting.release components)
        { sorting with
          ready := ready
          listed := sorting.listed ++ ascending (membersAt components number) }) := by
  obtain ⟨hnumber, hdone, hzero⟩ := (hprogress.waiting.entryOf_mem_iff number).1
    (by rw [hqueue]; exact List.mem_cons_self)
  refine ⟨?_, fun other hother => ?_, fun other hother => ?_, ?_, ?_⟩
  · refine List.nodup_append.2 ⟨hprogress.nodup, List.nodup_singleton _, ?_⟩
    rintro a ha b hb rfl
    exact hdone (List.mem_singleton.1 hb ▸ ha)
  · rcases List.mem_append.1 hother with hother | hother
    · exact hprogress.lt_length other hother
    · rwa [List.mem_singleton.1 hother]
  · have hless : openArrows (graph.leads components) done other = _ :=
      openArrows_append hdone other
    rcases List.mem_append.1 hother with hother | hother
    · have hclosed := hprogress.closed other hother
      omega
    · rw [List.mem_singleton.1 hother] at hless ⊢
      omega
  · refine Waiting.foldl_release (fun source hsource => ?_) ?_
    · obtain ⟨⟨source, target⟩, hmem, rfl⟩ := List.mem_map.1 hsource
      rw [List.mem_filter, decide_eq_true_eq] at hmem
      obtain ⟨hlead, rfl⟩ := hmem
      obtain ⟨hne, a, ha, -⟩ := (mem_leads_iff hinside h).1 hlead
      refine ⟨(mem_components_of_mem_membersAt ha).1, fun hmem => ?_⟩
      rcases List.mem_append.1 hmem with hmem | hmem
      · exact hdone (openArrows_eq_zero_iff.1 (hprogress.closed _ hmem) _ hlead)
      · exact hne (List.mem_singleton.1 hmem)
    · have hleave := hprogress.waiting.leave hqueue
        (sorting.listed ++ ascending (membersAt components number))
      rwa [funext (openArrows_append hdone)] at hleave
  · rw [listed_foldl_release, hprogress.listed, List.flatMap_append]
    simp

/-- A step lists the component that has its turn and keeps what the loop keeps. -/
theorem Progress.step (hinside : ∀ a b, graph.Arrow a b → b < graph.size)
    (h : AreComponents graph.Arrow graph.size components)
    (hprogress : Progress graph components done sorting) {after : Sorting}
    (hnext : sorting.next? components (graph.crossings components).dependents = some after) :
    ∃ number, Progress graph components (done ++ [number]) after ∧
      IsNext graph.Arrow graph.size sorting.listed (ascending (membersAt components number)) ∧
      after.listed = sorting.listed ++ ascending (membersAt components number) := by
  unfold Sorting.next? at hnext
  cases hqueue : sorting.ready with
  | nil => simp [hqueue] at hnext
  | cons entry ready =>
    obtain ⟨number, hnumber, -, -, rfl⟩ :=
      (hprogress.waiting.ready entry).1 (by rw [hqueue]; exact List.mem_cons_self)
    simp only [hqueue, Sorting.entryOf, dependents_crossings hnumber, Option.getD_some,
      Option.some.injEq] at hnext
    subst hnext
    exact ⟨number, hprogress.leave hinside h hqueue, hprogress.isNext hinside h hqueue, by simp⟩

theorem next?_eq_none_iff {dependents : List (List Nat)} :
    sorting.next? components dependents = none ↔ sorting.ready = [] := by
  unfold Sorting.next?
  cases sorting.ready with
  | nil => simp
  | cons entry ready => simp

/-- After any number of steps some components have left the queue. -/
theorem Progress.run (hinside : ∀ a b, graph.Arrow a b → b < graph.size)
    (h : AreComponents graph.Arrow graph.size components)
    (hprogress : Progress graph components done sorting) (steps : Nat) :
    ∃ done, Progress graph components done
      (sorting.run components (graph.crossings components).dependents steps) := by
  induction steps generalizing done sorting with
  | zero => exact ⟨done, hprogress⟩
  | succ steps ih =>
    rw [Sorting.run]
    cases hnext : sorting.next? components (graph.crossings components).dependents with
    | none => exact ⟨done, hprogress⟩
    | some after =>
      obtain ⟨number, hafter, -⟩ := hprogress.step hinside h hnext
      exact ih hafter

/-- The queue is empty only if everything is listed. -/
theorem Progress.covers (hinside : ∀ a b, graph.Arrow a b → b < graph.size)
    (h : AreComponents graph.Arrow graph.size components)
    (hprogress : Progress graph components done sorting) (hempty : sorting.ready = []) :
    ∀ node < graph.size, node ∈ sorting.listed := by
  intro node hnode
  by_contra hmissing
  obtain ⟨first, hfirst, hlisted, hsettled⟩ := exists_settled hinside hnode hmissing
  obtain ⟨number, hnumber, hmem⟩ := h.exists_number hfirst
  have hgroup := h.isGroup _ (membersAt_mem hnumber)
  have hready : IsReady graph.Arrow graph.size sorting.listed (membersAt components number) := by
    refine ⟨hgroup, fun a ha hlisted' => ?_, fun a ha b harrow => ?_⟩
    · exact hlisted ((hprogress.mem_listed_iff h hmem).2
        ((hprogress.mem_listed_iff h ha).1 hlisted'))
    · rcases hsettled a ((hgroup.whole first hmem a).1 ha).2 b harrow with hmutual | hb
      · exact Or.inl ((hgroup.whole first hmem b).2 ⟨hinside a b harrow, hmutual⟩)
      · exact Or.inr hb
  have hentry := (hprogress.mem_ready_iff hinside h _).2 ⟨number, hnumber, hready, rfl⟩
  rw [hempty] at hentry
  cases hentry

/-- When all components have left the queue, it is empty. -/
theorem Progress.ready_eq_nil (hprogress : Progress graph components done sorting)
    (hlength : components.length ≤ done.length) : sorting.ready = [] := by
  have hall : ∀ number < components.length, number ∈ done := by
    intro number hnumber
    have hsub : done.Subperm (List.range components.length) :=
      hprogress.nodup.subperm fun other hother =>
        List.mem_range.2 (hprogress.lt_length other hother)
    have hperm := hsub.perm_of_length_le (by simpa using hlength)
    exact hperm.mem_iff.2 (List.mem_range.2 hnumber)
  rw [List.eq_nil_iff_forall_not_mem]
  intro entry hentry
  obtain ⟨number, hnumber, hdone, -⟩ := (hprogress.waiting.ready entry).1 hentry
  exact hdone (hall number hnumber)

/-- With a step left for every component, the groups follow in turn until the queue is empty. -/
theorem Progress.inTurn (hinside : ∀ a b, graph.Arrow a b → b < graph.size)
    (h : AreComponents graph.Arrow graph.size components) (steps : Nat)
    (hprogress : Progress graph components done sorting)
    (hsteps : components.length ≤ done.length + steps) :
    (sorting.run components (graph.crossings components).dependents steps).ready = [] ∧
      ∃ groups, InTurn graph.Arrow graph.size sorting.listed groups ∧
        (sorting.run components (graph.crossings components).dependents steps).listed =
          sorting.listed ++ groups.flatten := by
  induction steps generalizing done sorting with
  | zero =>
    have hempty := hprogress.ready_eq_nil hsteps
    exact ⟨hempty, [], .done (hprogress.covers hinside h hempty), by simp [Sorting.run]⟩
  | succ steps ih =>
    rw [Sorting.run]
    cases hnext : sorting.next? components (graph.crossings components).dependents with
    | none =>
      have hempty := next?_eq_none_iff.1 hnext
      exact ⟨hempty, [], .done (hprogress.covers hinside h hempty), by simp⟩
    | some after =>
      obtain ⟨number, hafter, hturn, hlisted⟩ := hprogress.step hinside h hnext
      obtain ⟨hempty, groups, hgroups, hlist⟩ :=
        ih hafter (by rw [List.length_append, List.length_singleton]; omega)
      rw [hlisted] at hgroups hlist
      exact ⟨hempty, _ :: groups, .next hturn hgroups, by simp [hlist]⟩

end

/-! ## The order -/

/-- After any number of steps the queue holds exactly the components that are ready, each with its
    smallest node. -/
theorem mem_ready_sortedBy_iff (hinside : ∀ a b, graph.Arrow a b → b < graph.size)
    (h : AreComponents graph.Arrow graph.size components) {steps first number : Nat} :
    (first, number) ∈ (graph.sortedBy components steps).ready ↔
      ∃ members, components[number]? = some members ∧
        IsReady graph.Arrow graph.size (graph.sortedBy components steps).listed members ∧
        first ∈ members ∧ ∀ node ∈ members, first ≤ node := by
  obtain ⟨done, hprogress⟩ := (graph.progress_unsorted components).run hinside h steps
  rw [show (first, number) ∈ (graph.sortedBy components steps).ready ↔ _ from
    hprogress.mem_ready_iff hinside h (first, number)]
  constructor
  · rintro ⟨place, hplace, hready, hentry⟩
    obtain ⟨rfl, rfl⟩ := Prod.mk.inj hentry
    refine ⟨membersAt components number, ?_, hready, leastNode_mem hready.nonempty,
      fun node hnode => leastNode_le hnode⟩
    simp [membersAt, hplace]
  · rintro ⟨members, hmembers, hready, hfirst, hleast⟩
    have hat : membersAt components number = members := by simp [membersAt, hmembers]
    refine ⟨number, (List.getElem?_eq_some_iff.1 hmembers).1, hat ▸ hready, ?_⟩
    have hsame : first = leastNode members :=
      Nat.le_antisymm (hleast _ (leastNode_mem hready.nonempty)) (leastNode_le hfirst)
    rw [Sorting.entryOf, hat, hsame]

/-- Whatever the numbering of the components, they are listed in turn, and the queue is empty in the
    end. -/
theorem orderBy_inTurn (hinside : ∀ a b, graph.Arrow a b → b < graph.size)
    (h : AreComponents graph.Arrow graph.size components) :
    (graph.sortedBy components components.length).ready = [] ∧
      ∃ groups, InTurn graph.Arrow graph.size [] groups ∧
        graph.orderBy components = groups.flatten :=
  (graph.progress_unsorted components).inTurn hinside h components.length (by simp)

/-- The order lists the groups in turn. -/
theorem order_inTurn (hinside : ∀ a b, graph.Arrow a b → b < graph.size) :
    ∃ groups, InTurn graph.Arrow graph.size [] groups ∧ graph.order = groups.flatten :=
  (orderBy_inTurn hinside graph.areComponents_components).2

/-- The numbering of the components does not matter. -/
theorem orderBy_eq_order (hinside : ∀ a b, graph.Arrow a b → b < graph.size)
    (h : AreComponents graph.Arrow graph.size components) :
    graph.orderBy components = graph.order := by
  obtain ⟨groups, hgroups, horder⟩ := order_inTurn hinside
  obtain ⟨groups', hgroups', horder'⟩ := (orderBy_inTurn hinside h).2
  rw [horder, horder', hgroups.unique hgroups']

/-- The order lists each node once. -/
theorem order_perm_range (hinside : ∀ a b, graph.Arrow a b → b < graph.size) :
    graph.order.Perm (List.range graph.size) := by
  obtain ⟨groups, hgroups, horder⟩ := order_inTurn hinside
  rw [horder]
  exact hgroups.perm_range

/-- A node comes after what it points to, unless that leads back to it. -/
theorem order_precedes (hinside : ∀ a b, graph.Arrow a b → b < graph.size) {a b : Nat}
    (harrow : graph.Arrow a b) (hback : ¬ ReflTransGen graph.Arrow b a) :
    Precedes graph.order b a := by
  obtain ⟨groups, hgroups, horder⟩ := order_inTurn hinside
  have hmem : a ∈ groups.flatten :=
    hgroups.perm_range.mem_iff.2 (List.mem_range.2 harrow.lt_size)
  rw [horder]
  exact hgroups.precedes hmem harrow hback

end SchemaPress.Digraph
