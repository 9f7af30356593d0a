import Mathlib.Data.List.Induction
import SchemaPress.Proofs.Arena
import SchemaPress.Proofs.Arena.FreshName

set_option autoImplicit false

/-! # Fresh names beside names that change

A new reference gets a name that is not taken. Whether that is a name that no other reference has
depends on what happened to the taken names before. A call gives a name to the reference that it
allocates or renames, and a rename takes the old name away; the taken names are those that were
given last and not taken away since (`mem_taken_step`). But several references can be renamed to one
name. When the name is taken from one of them it has lapsed for the others: they still have it, and
it is not among the taken names (`lapsed_iff`). So a new reference shares its name exactly if that
name has lapsed, and a name that has lapsed is given to whoever asks for it
(`shared_name_iff_lapsed`). -/

namespace SchemaPress

theorem freshName_eq_self {taken : List String} {name : String} (h : name ∉ taken) :
    freshName taken name = name := by
  simp [freshName, nameCandidates, h]

namespace Arena

/-! ## Calls that change names -/

/-- What can change the display names of an arena. -/
inductive Naming
  /-- Find or allocate a reference. -/
  | allocate (path name : String)
  /-- Replace the last segment of the name of a reference. -/
  | rename (id : RefId) (className : String)
  deriving DecidableEq, Repr

/-- The arena after one of these calls. -/
def applyNaming (arena : Arena) : Naming → Arena
  | .allocate path name => (arena.allocate path name).2
  | .rename id className => arena.rename id className

/-- The arena after several of these calls, the first of which finds it empty. -/
def named (calls : List Naming) : Arena :=
  calls.foldl applyNaming {}

theorem named_concat (calls : List Naming) (call : Naming) :
    named (calls ++ [call]) = (named calls).applyNaming call := by
  simp [named]

/-- A reference has a display name. -/
def Holds (arena : Arena) (id : RefId) (name : String) : Prop :=
  (arena.get? id).map Reference.name = some name

/-- A call gives a name: the reference that it allocates or renames has the name behind it. -/
def Gives (arena : Arena) (name : String) : Naming → Prop
  | .allocate path asked => arena.find? path = none ∧
      (arena.allocate path asked).2.Holds (arena.allocate path asked).1 name
  | .rename id className => (arena.rename id className).Holds id name

/-- A call takes a name away: it renames a reference that has the name, which has another one behind
    it. -/
def Takes (arena : Arena) (name : String) : Naming → Prop
  | .allocate _ _ => False
  | .rename id className => arena.Holds id name ∧ ¬ (arena.rename id className).Holds id name

/-- A name has lapsed for a reference that has it: it was taken from another reference, and has not
    been given since. -/
inductive Lapsed (kept : RefId) (name : String) : List Naming → Prop
  | taken {calls : List Naming} {call : Naming} : (named calls).Takes name call →
      (named (calls ++ [call])).Holds kept name → Lapsed kept name (calls ++ [call])
  | later {calls : List Naming} {call : Naming} : Lapsed kept name calls →
      ¬ (named calls).Gives name call → (named (calls ++ [call])).Holds kept name →
      Lapsed kept name (calls ++ [call])

/-! ## One call -/

variable {arena : Arena}

theorem Holds.lt_length {id : RefId} {name : String} (h : arena.Holds id name) :
    id.index < arena.refs.length := by
  obtain ⟨reference, hreference, -⟩ := Option.map_eq_some_iff.1 h
  exact (List.getElem?_eq_some_iff.1 hreference).1

theorem Holds.unique {id : RefId} {name other : String} (h : arena.Holds id name)
    (hother : arena.Holds id other) : name = other :=
  Option.some.inj (h.symm.trans hother)

/-- An allocation adds a reference with a fresh name behind all others. -/
theorem holds_allocate {path : String} (hnew : arena.find? path = none) (asked : String)
    (id : RefId) (name : String) :
    (arena.allocate path asked).2.Holds id name ↔
      arena.Holds id name ∨
        (id = (arena.allocate path asked).1 ∧ freshName arena.taken asked = name) := by
  obtain ⟨place⟩ := id
  simp only [Holds, get?, allocate, hnew, RefId.mk.injEq]
  rcases Nat.lt_trichotomy place arena.refs.length with hlt | rfl | hgt
  · simp [List.getElem?_append_left hlt, Nat.ne_of_lt hlt]
  · simp
  · have hnone : arena.refs[place]? = none := List.getElem?_eq_none (Nat.le_of_lt hgt)
    have hbeyond : place - arena.refs.length ≠ 0 := by omega
    simp [List.getElem?_append_right (Nat.le_of_lt hgt), hnone, hbeyond, Nat.ne_of_gt hgt]

/-- A rename changes the name of one reference. -/
theorem get?_rename (arena : Arena) (id : RefId) (className : String) (place : RefId) :
    (arena.rename id className).get? place =
      if place = id then (arena.get? place).map fun reference =>
        { reference with name := Text.withLastSegment reference.name className }
      else arena.get? place := by
  unfold rename
  cases hget : arena.get? id with
  | none =>
    by_cases hplace : place = id
    · simp [hplace, hget]
    · simp [hplace]
  | some reference =>
    refine (arena.get?_modify id _ place).trans ?_
    by_cases hplace : place = id
    · simp [hplace, hget]
    · simp [hplace]

theorem holds_rename_self (arena : Arena) (id : RefId) (className name : String) :
    (arena.rename id className).Holds id name ↔
      ∃ old, arena.Holds id old ∧ Text.withLastSegment old className = name := by
  unfold Holds
  rw [get?_rename, if_pos rfl]
  cases arena.get? id with
  | none => simp
  | some reference => simp

theorem holds_rename_of_ne (arena : Arena) {id place : RefId} (h : place ≠ id)
    (className name : String) :
    (arena.rename id className).Holds place name ↔ arena.Holds place name := by
  unfold Holds
  rw [get?_rename, if_neg h]

theorem taken_rename {id : RefId} {old : String} (h : arena.Holds id old) (className : String) :
    (arena.rename id className).taken =
      Text.withLastSegment old className :: arena.taken.filter (· != old) := by
  obtain ⟨reference, hget, rfl⟩ := Option.map_eq_some_iff.1 h
  simp [rename, hget]

/-- The taken names behind a call: the one that it gives, and those that it does not take away. -/
theorem mem_taken_step (arena : Arena) (call : Naming) (name : String) :
    name ∈ (arena.applyNaming call).taken ↔
      arena.Gives name call ∨ (name ∈ arena.taken ∧ ¬ arena.Takes name call) := by
  cases call with
  | allocate path asked =>
    cases hfind : arena.find? path with
    | some id => simp [applyNaming, Gives, Takes, allocate, hfind]
    | none =>
      have hgives : arena.Gives name (.allocate path asked) ↔
          freshName arena.taken asked = name := by
        rw [Gives, holds_allocate hfind]
        have hlast : ¬ arena.Holds (arena.allocate path asked).1 name := by
          intro hholds
          have hlt := hholds.lt_length
          simp [allocate, hfind] at hlt
        simp [hfind, hlast]
      rw [hgives]
      simp [applyNaming, Takes, allocate, hfind, eq_comm]
  | rename id className =>
    simp only [applyNaming, Gives, Takes, holds_rename_self]
    by_cases hold : ∃ old, arena.Holds id old
    · obtain ⟨old, hold⟩ := hold
      have hname : ∀ other, arena.Holds id other ↔ other = old := by
        intro other
        exact ⟨fun hother => hother.unique hold, fun heq => heq ▸ hold⟩
      simp only [taken_rename hold, hname, List.mem_cons, List.mem_filter, bne_iff_ne,
        exists_eq_left]
      by_cases hgiven : name = Text.withLastSegment old className
      · simp [hgiven]
      · simp [hgiven, Ne.symm hgiven]
    · have hmissing : arena.get? id = none := by
        cases hget : arena.get? id with
        | none => rfl
        | some reference => exact absurd ⟨reference.name, by simp [Holds, hget]⟩ hold
      have hnobody : ∀ other, ¬ arena.Holds id other := fun other hother => hold ⟨other, hother⟩
      simp [rename, hmissing, hnobody]

theorem Takes.not_gives {call : Naming} {name : String} (h : arena.Takes name call) :
    ¬ arena.Gives name call := by
  cases call with
  | allocate => exact h.elim
  | rename => exact h.2

/-- A reference that has a name behind a call had it before, unless the call gave the name. -/
theorem Holds.of_step {call : Naming} {id : RefId} {name : String}
    (h : (arena.applyNaming call).Holds id name) (hgives : ¬ arena.Gives name call) :
    arena.Holds id name := by
  cases call with
  | allocate path asked =>
    cases hfind : arena.find? path with
    | some found =>
      rw [applyNaming, allocate, hfind] at h
      exact h
    | none =>
      rcases (holds_allocate hfind asked id name).1 h with hold | ⟨rfl, -⟩
      · exact hold
      · exact absurd ⟨hfind, h⟩ hgives
  | rename place className =>
    by_cases hplace : id = place
    · subst hplace
      exact absurd h hgives
    · exact (arena.holds_rename_of_ne hplace className name).1 h

/-! ## All calls -/

/-- A name has lapsed for a reference exactly if the reference has it and it is not taken. -/
theorem lapsed_iff (calls : List Naming) (kept : RefId) (name : String) :
    Lapsed kept name calls ↔ (named calls).Holds kept name ∧ name ∉ (named calls).taken := by
  constructor
  · intro h
    induction h with
    | @taken calls call htakes hkept =>
      refine ⟨hkept, ?_⟩
      rw [named_concat, mem_taken_step]
      rintro (hgiven | ⟨-, hleft⟩)
      · exact htakes.not_gives hgiven
      · exact hleft htakes
    | @later calls call _ hgives hkept ih =>
      refine ⟨hkept, ?_⟩
      rw [named_concat, mem_taken_step]
      rintro (hgiven | ⟨htaken, -⟩)
      · exact hgives hgiven
      · exact ih.2 htaken
  · induction calls using List.reverseRecOn with
    | nil =>
      rintro ⟨hkept, -⟩
      exact absurd hkept.lt_length (by simp [named])
    | append_singleton calls call ih =>
      rintro ⟨hkept, hfree⟩
      have hstep := hfree
      rw [named_concat, mem_taken_step, not_or, not_and, Classical.not_not] at hstep
      obtain ⟨hgives, htakes⟩ := hstep
      by_cases htaken : name ∈ (named calls).taken
      · exact .taken (htakes htaken) hkept
      · have hbefore : (named calls).Holds kept name :=
          (named_concat calls call ▸ hkept).of_step hgives
        exact .later (ih ⟨hbefore, htaken⟩) hgives hkept

/-- After any calls, a new reference shares its name with exactly those references for which that
    name has lapsed. And if the name that is asked for has lapsed, it is the one that is given. -/
theorem shared_name_iff_lapsed (calls : List Naming) {path : String}
    (hnew : (named calls).find? path = none) (asked : String) :
    let made := (named calls).allocate path asked
    ∃ name, made.2.Holds made.1 name ∧
      (∀ other, other ≠ made.1 → (made.2.Holds other name ↔ Lapsed other name calls)) ∧
      ∀ other, Lapsed other asked calls → name = asked := by
  have hfresh : freshName (named calls).taken asked ∉ (named calls).taken :=
    (freshName_spec _ asked).1
  refine ⟨freshName (named calls).taken asked, ?_, fun other hother => ?_, fun other hlapsed => ?_⟩
  · exact (holds_allocate hnew asked _ _).2 (.inr ⟨rfl, rfl⟩)
  · rw [holds_allocate hnew, lapsed_iff]
    simp [hother, hfresh]
  · exact freshName_eq_self ((lapsed_iff calls other asked).1 hlapsed).2

/-- Two references that are renamed to one name, the second of which then gets another one. -/
def beastCalls : List Naming :=
  [.allocate "a#/Pet" "Pet", .allocate "b#/Cat" "Cat", .rename ⟨0⟩ "Beast", .rename ⟨1⟩ "Beast",
    .rename ⟨1⟩ "Lion"]

/-- The first of them still has the name, and a third reference gets it, too. -/
theorem shared_name_iff_lapsed_beasts :
    (named beastCalls).find? "c#/Beast" = none ∧ Lapsed ⟨0⟩ "Beast" beastCalls ∧
      ((named beastCalls).allocate "c#/Beast" "Beast").2.Holds ⟨2⟩ "Beast" ∧
      ((named beastCalls).allocate "c#/Beast" "Beast").2.Holds ⟨0⟩ "Beast" := by
  have hlapsed : Lapsed ⟨0⟩ "Beast" beastCalls :=
    (lapsed_iff _ _ _).2 ⟨by unfold Holds; decide +kernel, by decide +kernel⟩
  have hnew : (named beastCalls).find? "c#/Beast" = none := by decide +kernel
  obtain ⟨name, hname, hshared, hasked⟩ := shared_name_iff_lapsed beastCalls hnew "Beast"
  obtain rfl := hasked ⟨0⟩ hlapsed
  exact ⟨hnew, hlapsed, hname, (hshared ⟨0⟩ (by decide +kernel)).2 hlapsed⟩

end Arena

end SchemaPress
