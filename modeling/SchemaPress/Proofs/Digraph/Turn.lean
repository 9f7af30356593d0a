import Mathlib.Data.Finset.Max
import Mathlib.Data.List.Sort
import Mathlib.Logic.Relation

set_option autoImplicit false

/-! # Groups in turn

Which order is meant is said here on a relation among positions alone. A group is a class of
positions that depend on each other. It is ready when everything else that it depends on is
listed, and of the ready groups the one with the earliest position has its turn. At most one list
of groups obeys this rule from beginning to end (`InTurn.unique`), since two ready groups never
share a position. Such a list has every position once (`InTurn.perm_range`), and each after
everything that it depends on outside its group (`InTurn.precedes`). As long as a position is
missing, some group is ready: take a missing position that leads to the fewest missing ones; what
its group depends on outside would lead to fewer (`exists_settled`). -/

namespace SchemaPress

/-- In a list, the first element stands somewhere before the second. -/
def Precedes {α : Type} (l : List α) (x y : α) : Prop :=
  ∃ front back, l = front ++ y :: back ∧ x ∈ front

theorem Precedes.map {α β : Type} {l : List α} {x y : α} (f : α → β) (h : Precedes l x y) :
    Precedes (l.map f) (f x) (f y) := by
  obtain ⟨front, back, rfl, hx⟩ := h
  exact ⟨front.map f, back.map f, by simp, List.mem_map_of_mem hx⟩

namespace Turn

open Relation

section

variable (depends : Nat → Nat → Prop) (size : Nat)

/-- Two positions depend on each other, directly or through others, or are the same. -/
def Mutual (a b : Nat) : Prop :=
  ReflTransGen depends a b ∧ ReflTransGen depends b a

/-- A whole class of positions that depend on each other. -/
structure IsGroup (members : List Nat) : Prop where
  nonempty : members ≠ []
  whole : ∀ a ∈ members, ∀ b, b ∈ members ↔ b < size ∧ Mutual depends a b

/-- A group that is not listed and depends, outside itself, on listed positions only. -/
structure IsReady (listed members : List Nat) : Prop extends IsGroup depends size members where
  missing : ∀ a ∈ members, a ∉ listed
  settled : ∀ a ∈ members, ∀ b, depends a b → b ∈ members ∨ b ∈ listed

/-- The group that has its turn, in ascending order: one of its positions comes before all positions
    of all ready groups. -/
structure IsNext (listed members : List Nat) : Prop
    extends IsReady depends size listed members where
  ascending : members.Pairwise (· < ·)
  earliest : ∃ first ∈ members, ∀ other, IsReady depends size listed other →
    ∀ b ∈ other, first ≤ b

/-- Groups that follow, each in its turn, on what is listed, until all positions are. -/
inductive InTurn : List Nat → List (List Nat) → Prop
  | done {listed : List Nat} : (∀ a < size, a ∈ listed) → InTurn listed []
  | next {listed members : List Nat} {rest : List (List Nat)} :
      IsNext depends size listed members → InTurn (listed ++ members) rest →
      InTurn listed (members :: rest)

/-- The classes of positions that depend on each other, in any numbering and each in any order. -/
structure AreComponents (components : List (List Nat)) : Prop where
  isGroup : ∀ members ∈ components, IsGroup depends size members
  partition : components.flatten.Perm (List.range size)

end

variable {depends : Nat → Nat → Prop} {size : Nat} {listed members : List Nat}

theorem Mutual.symm {a b : Nat} (h : Mutual depends a b) : Mutual depends b a :=
  ⟨h.2, h.1⟩

theorem Mutual.trans {a b c : Nat} (h : Mutual depends a b) (h' : Mutual depends b c) :
    Mutual depends a c :=
  ⟨h.1.trans h'.1, h'.2.trans h.2⟩

/-! ## Groups -/

theorem IsGroup.lt_size (h : IsGroup depends size members) {a : Nat} (ha : a ∈ members) :
    a < size :=
  ((h.whole a ha a).1 ha).1

/-- Groups that share a position hold the same positions. -/
theorem IsGroup.mem_iff (h : IsGroup depends size members) {other : List Nat}
    (hother : IsGroup depends size other) {a : Nat} (ha : a ∈ members) (ha' : a ∈ other) (b : Nat) :
    b ∈ members ↔ b ∈ other :=
  (h.whole a ha b).trans (hother.whole a ha' b).symm

/-- What a group is does not depend on the order of its positions. -/
theorem IsGroup.of_mem_iff (h : IsGroup depends size members) {other : List Nat}
    (hmem : ∀ b, b ∈ other ↔ b ∈ members) : IsGroup depends size other where
  nonempty := by
    obtain ⟨a, ha⟩ := List.exists_mem_of_ne_nil _ h.nonempty
    exact List.ne_nil_of_mem ((hmem a).2 ha)
  whole := fun a ha b => (hmem b).trans (h.whole a ((hmem a).1 ha) b)

theorem IsReady.of_mem_iff (h : IsReady depends size listed members) {other : List Nat}
    (hmem : ∀ b, b ∈ other ↔ b ∈ members) : IsReady depends size listed other where
  toIsGroup := h.toIsGroup.of_mem_iff hmem
  missing := fun a ha => h.missing a ((hmem a).1 ha)
  settled := fun a ha b hdepends =>
    (h.settled a ((hmem a).1 ha) b hdepends).imp_left (hmem b).2

/-- As long as a position is missing, there is one whose group depends, outside itself, on listed
    positions only. -/
theorem exists_settled (hinside : ∀ a b, depends a b → b < size) {node : Nat} (hsize : node < size)
    (hnode : node ∉ listed) :
    ∃ first, first < size ∧ first ∉ listed ∧ ∀ member, Mutual depends first member →
      ∀ target, depends member target → Mutual depends first target ∨ target ∈ listed := by
  classical
  let missing := (Finset.range size).filter (· ∉ listed)
  have hmissing : ∀ x, x ∈ missing ↔ x < size ∧ x ∉ listed := by simp [missing]
  let behind (x : Nat) := missing.filter (ReflTransGen depends x)
  obtain ⟨first, hfirst, hleast⟩ := missing.exists_min_image (fun x => (behind x).card)
    ⟨node, (hmissing node).2 ⟨hsize, hnode⟩⟩
  obtain ⟨hfirstSize, hfirstListed⟩ := (hmissing first).1 hfirst
  refine ⟨first, hfirstSize, hfirstListed, fun member hmember target hdepends => ?_⟩
  by_contra hout
  rw [not_or] at hout
  have htarget : ReflTransGen depends first target := hmember.1.tail hdepends
  have hback : ¬ ReflTransGen depends target first := fun hback => hout.1 ⟨htarget, hback⟩
  have hmem : target ∈ missing := (hmissing target).2 ⟨hinside _ _ hdepends, hout.2⟩
  -- everything behind the target is behind `first`, and `first` itself is not behind the target
  have hfewer : (behind target).card < (behind first).card := by
    apply Finset.card_lt_card
    rw [Finset.ssubset_iff_of_subset (fun x hx => by
      obtain ⟨hx, hreach⟩ := Finset.mem_filter.1 hx
      exact Finset.mem_filter.2 ⟨hx, htarget.trans hreach⟩)]
    exact ⟨first, Finset.mem_filter.2 ⟨hfirst, ReflTransGen.refl⟩,
      fun h => hback (Finset.mem_filter.1 h).2⟩
  exact absurd (hleast target hmem) (by omega)

/-! ## Only one list of groups -/

/-- Lists of the same elements, both in ascending order, are the same. -/
theorem eq_of_ascending {l l' : List Nat} (h : l.Pairwise (· < ·)) (h' : l'.Pairwise (· < ·))
    (hmem : ∀ b, b ∈ l ↔ b ∈ l') : l = l' := by
  have hperm : l.Perm l' :=
    (List.perm_ext_iff_of_nodup (h.imp fun hlt => hlt.ne) (h'.imp fun hlt => hlt.ne)).2 hmem
  exact hperm.eq_of_pairwise (fun a b _ _ hab hba => absurd (hab.trans hba) (lt_irrefl a)) h h'

/-- Only one group has its turn. -/
theorem IsNext.unique (h : IsNext depends size listed members) {other : List Nat}
    (hother : IsNext depends size listed other) : members = other := by
  obtain ⟨first, hfirst, hearliest⟩ := h.earliest
  obtain ⟨first', hfirst', hearliest'⟩ := hother.earliest
  have hsame : first = first' := le_antisymm (hearliest other hother.toIsReady first' hfirst')
    (hearliest' members h.toIsReady first hfirst)
  exact eq_of_ascending h.ascending hother.ascending
    (h.toIsGroup.mem_iff hother.toIsGroup hfirst (hsame ▸ hfirst'))

/-- What is listed decides which groups follow. -/
theorem InTurn.unique {groups groups' : List (List Nat)} (h : InTurn depends size listed groups)
    (h' : InTurn depends size listed groups') : groups = groups' := by
  -- no group is next when all positions are listed
  have hover : ∀ {listed members : List Nat}, (∀ a < size, a ∈ listed) →
      ¬ IsNext depends size listed members := by
    intro listed members hall hnext
    obtain ⟨a, ha⟩ := List.exists_mem_of_ne_nil _ hnext.nonempty
    exact hnext.missing a ha (hall a (hnext.toIsGroup.lt_size ha))
  induction h generalizing groups' with
  | done hall =>
    cases h' with
    | done => rfl
    | next hnext _ => exact absurd hnext (hover hall)
  | next hnext _ ih =>
    cases h' with
    | done hall => exact absurd hnext (hover hall)
    | next hnext' hrest' =>
      obtain rfl := hnext.unique hnext'
      rw [ih hrest']

/-! ## What such a list holds -/

/-- Groups that follow in turn repeat nothing. -/
theorem InTurn.nodup {groups : List (List Nat)} (h : InTurn depends size listed groups)
    (hlisted : listed.Nodup) : (listed ++ groups.flatten).Nodup := by
  induction h with
  | done => simpa using hlisted
  | next hnext _ ih =>
    rw [List.flatten_cons, ← List.append_assoc]
    refine ih (List.nodup_append.2 ⟨hlisted, hnext.ascending.imp fun hlt => hlt.ne, ?_⟩)
    rintro a ha b hb rfl
    exact hnext.missing a hb ha

theorem InTurn.covers {groups : List (List Nat)} (h : InTurn depends size listed groups) :
    ∀ a < size, a ∈ listed ++ groups.flatten := by
  induction h with
  | done hall => simpa using hall
  | next _ _ ih =>
    rw [List.flatten_cons, ← List.append_assoc]
    exact ih

theorem InTurn.lt_size {groups : List (List Nat)} (h : InTurn depends size listed groups) {a : Nat}
    (ha : a ∈ groups.flatten) : a < size := by
  induction h with
  | done => cases ha
  | next hnext _ ih =>
    rw [List.flatten_cons, List.mem_append] at ha
    rcases ha with ha | ha
    · exact hnext.toIsGroup.lt_size ha
    · exact ih ha

/-- From nothing on, every position is listed once. -/
theorem InTurn.perm_range {groups : List (List Nat)} (h : InTurn depends size [] groups) :
    groups.flatten.Perm (List.range size) := by
  rw [List.perm_ext_iff_of_nodup (by simpa using h.nodup List.nodup_nil) List.nodup_range]
  intro a
  rw [List.mem_range]
  exact ⟨h.lt_size, fun ha => by simpa using h.covers a ha⟩

/-- A position comes after what it depends on, unless that leads back to it. -/
theorem InTurn.precedes {groups : List (List Nat)} (h : InTurn depends size listed groups)
    {a b : Nat} (ha : a ∈ groups.flatten) (hdepends : depends a b)
    (hback : ¬ ReflTransGen depends b a) : Precedes (listed ++ groups.flatten) b a := by
  induction h with
  | done => cases ha
  | @next listed members rest hnext _ ih =>
    rw [List.flatten_cons, List.mem_append] at ha
    rw [List.flatten_cons, ← List.append_assoc]
    rcases ha with ha | ha
    · -- the group was ready, so what it depends on outside itself is listed
      rcases hnext.settled a ha b hdepends with hb | hb
      · exact absurd ((hnext.whole a ha b).1 hb).2.2 hback
      · obtain ⟨front, back, rfl⟩ := List.append_of_mem ha
        exact ⟨listed ++ front, back ++ rest.flatten, by simp, List.mem_append_left _ hb⟩
    · exact ih ha

end Turn

end SchemaPress
