import Mathlib.Data.List.Induction
import SchemaPress.Template.Render

set_option autoImplicit false

/-! # Texts between three quotes

A literal that is opened by three quotes is read character by character: a backslash takes the next
character with it, and three quotes in a row close the literal (`behind?`). A text can be written
there as it is unless it holds three quotes in a row with an even number of backslashes before them
(`HoldsTripleQuote`, `closes_iff`): with such a text the literal ends early, and what follows is
read as code (`behind?_of_closes`). To indent the lines of a text makes no difference
(`closes_indentText`). -/

namespace SchemaPress.Python

/-! ## Reading a literal -/

/-- How far a literal has been read: it is still open, with no quote, one or two quotes in a row
    just before, or with a backslash just before, or it is closed. -/
inductive Lexing
  | text | quote | quotes | escape | closed
  deriving DecidableEq, Repr

namespace Lexing

/-- One more character of an open literal; `next` is reached by a quote. -/
def read (next : Lexing) (c : Char) : Lexing :=
  if c = '"' then next else if c = '\\' then escape else text

/-- One more character. -/
def step : Lexing → Char → Lexing
  | text, c => read quote c
  | quote, c => read quotes c
  | quotes, c => read closed c
  | escape, _ => text
  | closed, _ => closed

/-- A character that neither closes a literal nor takes another one with it. -/
def isPlain (c : Char) : Bool :=
  c != '"' && c != '\\'

theorem step_plain {c : Char} (hc : isPlain c = true) {state : Lexing} (h : state ≠ closed) :
    state.step c = text := by
  simp only [isPlain, Bool.and_eq_true, bne_iff_ne] at hc
  cases state with
  | closed => exact absurd rfl h
  | escape => rfl
  | _ => simp [step, read, hc.1, hc.2]

theorem step_eq_quote_iff {state : Lexing} {c : Char} :
    state.step c = quote ↔ state = text ∧ c = '"' := by
  cases state <;> simp only [step, read] <;> grind

theorem step_eq_quotes_iff {state : Lexing} {c : Char} :
    state.step c = quotes ↔ state = quote ∧ c = '"' := by
  cases state <;> simp only [step, read] <;> grind

theorem step_eq_closed_iff {state : Lexing} {c : Char} :
    state.step c = closed ↔ state = closed ∨ state = quotes ∧ c = '"' := by
  cases state <;> simp only [step, read] <;> grind

theorem step_eq_escape_iff {state : Lexing} {c : Char} :
    state.step c = escape ↔ state ≠ closed ∧ state ≠ escape ∧ c = '\\' := by
  cases state <;> simp only [step, read] <;> grind

/-- What a literal has come to after some characters. -/
def run (state : Lexing) (cs : List Char) : Lexing :=
  cs.foldl step state

theorem run_append (state : Lexing) (front back : List Char) :
    state.run (front ++ back) = (state.run front).run back :=
  List.foldl_append

theorem run_closed (cs : List Char) : closed.run cs = closed := by
  induction cs with
  | nil => rfl
  | cons c rest ih => exact ih

theorem run_snoc (state : Lexing) (cs : List Char) (c : Char) :
    state.run (cs ++ [c]) = (state.run cs).step c :=
  run_append state cs [c]

end Lexing

open Lexing

/-- What stands behind the quotes that close a literal, if it is closed. -/
def behind? (state : Lexing) : List Char → Option (List Char)
  | [] => none
  | c :: rest => if state.step c = closed then some rest else behind? (state.step c) rest

/-- The three quotes that open and close a literal. -/
def tripleQuote : List Char :=
  ['"', '"', '"']

/-- A text in which a literal is closed. -/
def Closes (cs : List Char) : Prop :=
  text.run cs = closed

instance (cs : List Char) : Decidable (Closes cs) :=
  inferInstanceAs (Decidable (_ = _))

/-- Reading goes on behind characters that leave the literal open. -/
theorem behind?_append {state : Lexing} {front : List Char} (h : state.run front ≠ closed)
    (back : List Char) : behind? state (front ++ back) = behind? (state.run front) back := by
  induction front generalizing state with
  | nil => rfl
  | cons c rest ih =>
    have hstep : state.step c ≠ closed := by
      intro hclosed
      rw [run, List.foldl_cons, hclosed] at h
      exact h (run_closed rest)
    rw [List.cons_append, behind?, if_neg hstep]
    exact ih h

/-- Three quotes close a literal behind ordinary text. -/
theorem behind?_tripleQuote {front : List Char} (h : text.run front = text) (rest : List Char) :
    behind? text (front ++ tripleQuote ++ rest) = some rest := by
  rw [List.append_assoc, behind?_append (by rw [h]; decide), h]
  rfl

/-! ## Where a literal is closed -/

theorem eq_of_run_eq_quote {cs : List Char} (h : text.run cs = quote) :
    ∃ front, cs = front ++ ['"'] ∧ text.run front = text := by
  rcases List.eq_nil_or_concat cs with rfl | ⟨front, c, rfl⟩
  · cases h
  · rw [List.concat_eq_append, run_snoc, step_eq_quote_iff] at h
    exact ⟨front, by rw [List.concat_eq_append, h.2], h.1⟩

theorem eq_of_run_eq_quotes {cs : List Char} (h : text.run cs = quotes) :
    ∃ front, cs = front ++ ['"', '"'] ∧ text.run front = text := by
  rcases List.eq_nil_or_concat cs with rfl | ⟨before, c, rfl⟩
  · cases h
  · rw [List.concat_eq_append, run_snoc, step_eq_quotes_iff] at h
    obtain ⟨front, rfl, hfront⟩ := eq_of_run_eq_quote h.1
    exact ⟨front, by rw [h.2, List.concat_eq_append, List.append_assoc]; rfl, hfront⟩

/-- A literal is closed by three quotes in a row, the first of which comes behind ordinary text. -/
theorem exists_tripleQuote_of_closes {cs : List Char} (h : Closes cs) :
    ∃ front back, cs = front ++ tripleQuote ++ back ∧ text.run front = text := by
  induction cs using List.reverseRecOn with
  | nil => cases h
  | append_singleton before c ih =>
    rw [Closes, run_snoc, step_eq_closed_iff] at h
    rcases h with hbefore | ⟨hquotes, rfl⟩
    · obtain ⟨front, back, rfl, hfront⟩ := ih hbefore
      exact ⟨front, back ++ [c], by rw [List.append_assoc _ back], hfront⟩
    · obtain ⟨front, rfl, hfront⟩ := eq_of_run_eq_quotes hquotes
      exact ⟨front, [], by rw [List.append_assoc, List.append_nil]; rfl, hfront⟩

/-- A literal that is closed in a text ends there, whatever follows. -/
theorem behind?_of_closes {cs : List Char} (h : Closes cs) :
    ∃ front back, cs = front ++ tripleQuote ++ back ∧
      ∀ rest, behind? text (cs ++ rest) = some (back ++ rest) := by
  obtain ⟨front, back, rfl, hfront⟩ := exists_tripleQuote_of_closes h
  refine ⟨front, back, rfl, fun rest => ?_⟩
  rw [List.append_assoc _ back]
  exact behind?_tripleQuote hfront _

/-- The number of backslashes at the end of a text. -/
def backslashesBehind (cs : List Char) : Nat :=
  (cs.reverse.takeWhile (· = '\\')).length

theorem backslashesBehind_snoc (cs : List Char) (c : Char) :
    backslashesBehind (cs ++ [c]) = if c = '\\' then backslashesBehind cs + 1 else 0 := by
  unfold backslashesBehind
  rw [List.reverse_concat, List.takeWhile_cons]
  by_cases hc : c = '\\'
  · simp [hc]
  · simp [hc]

/-- Backslashes take each other with them, so the next character is taken if their number is odd. -/
theorem run_eq_escape_iff {cs : List Char} (h : ¬ Closes cs) :
    text.run cs = escape ↔ backslashesBehind cs % 2 = 1 := by
  induction cs using List.reverseRecOn with
  | nil => decide
  | append_singleton before c ih =>
    have hbefore : ¬ Closes before := fun hclosed => h (by
      rw [Closes, run_snoc, step_eq_closed_iff]
      exact .inl hclosed)
    rw [run_snoc, step_eq_escape_iff, backslashesBehind_snoc]
    by_cases hc : c = '\\'
    · have hnot : text.run before ≠ closed := hbefore
      rw [if_pos hc]
      simp only [hnot, hc, ne_eq, not_false_eq_true, true_and, and_true, ih hbefore]
      omega
    · simp [hc]

/-- Three quotes in a row, behind an even number of backslashes. -/
def HoldsTripleQuote (cs : List Char) : Prop :=
  ∃ front back, cs = front ++ tripleQuote ++ back ∧ backslashesBehind front % 2 = 0

/-- A text closes a literal exactly if it holds three quotes that do. -/
theorem closes_iff {cs : List Char} : Closes cs ↔ HoldsTripleQuote cs := by
  constructor
  · intro h
    obtain ⟨front, back, rfl, hfront⟩ := exists_tripleQuote_of_closes h
    have hopen : ¬ Closes front := by
      rw [Closes, hfront]
      decide
    have heven := (run_eq_escape_iff hopen).not.1 (by rw [hfront]; decide)
    exact ⟨front, back, rfl, by omega⟩
  · rintro ⟨front, back, rfl, heven⟩
    have htriple : (text.run front).run tripleQuote = closed := by
      by_cases hclosed : Closes front
      · rw [hclosed]
        exact run_closed _
      · have hescape := (run_eq_escape_iff hclosed).not.2 (by omega)
        cases hstate : text.run front with
        | escape => exact absurd hstate hescape
        | _ => rfl
    rw [Closes, run_append, run_append, htriple]
    exact run_closed _

/-- Quotes and backslashes at the end of a text, and three quotes behind a backslash. -/
example : ¬ Closes ['a', '"', '"'] ∧ ¬ Closes ['a', '\\'] ∧ ¬ Closes ('\\' :: tripleQuote) ∧
    Closes ('\\' :: '\\' :: tripleQuote) := by
  decide

/-! ## Plain characters -/

theorem run_append_plain (cs : List Char) {c : Char} (hc : isPlain c = true) :
    text.run (cs ++ [c]) = if Closes cs then closed else text := by
  rw [run_snoc]
  split
  · rename_i h
    rw [h]
    rfl
  · rename_i h
    exact step_plain hc h

/-- A literal that is open behind a plain character is at ordinary text. -/
theorem run_eq_text {cs : List Char} {c : Char} (hc : isPlain c = true) (h : ¬ Closes (cs ++ [c])) :
    text.run (cs ++ [c]) = text := by
  rw [Closes, run_append_plain cs hc] at h
  rw [run_append_plain cs hc]
  exact if_neg fun hclosed => h (if_pos hclosed)

/-- A plain character keeps apart what stands before it and what stands behind it. -/
theorem closes_append_cons {front back : List Char} {c : Char} (hc : isPlain c = true) :
    Closes (front ++ c :: back) ↔ Closes front ∨ Closes back := by
  rw [Closes, List.append_cons, run_append, run_append_plain front hc]
  split
  · rename_i h
    simp [h, run_closed]
  · rename_i h
    exact (or_iff_right h).symm

theorem closes_cons {c : Char} (hc : isPlain c = true) {back : List Char} :
    Closes (c :: back) ↔ Closes back := by
  have hnil : ¬ Closes [] := nofun
  exact (@closes_append_cons [] back c hc).trans (or_iff_right hnil)

/-- Plain characters around a text do not close a literal. -/
theorem closes_append_plain {front back : List Char} (h : back.all isPlain = true) :
    Closes (front ++ back) ↔ Closes front := by
  induction back generalizing front with
  | nil => rw [List.append_nil]
  | cons c rest ih =>
    rw [List.all_cons, Bool.and_eq_true] at h
    rw [List.append_cons, ih h.2, Closes, run_append_plain front h.1]
    split <;> simp_all

theorem closes_plain_append {front back : List Char} (h : front.all isPlain = true) :
    Closes (front ++ back) ↔ Closes back := by
  induction front with
  | nil => rfl
  | cons c rest ih =>
    rw [List.all_cons, Bool.and_eq_true] at h
    rw [List.cons_append, closes_cons h.1]
    exact ih h.2

/-! ## Indented texts -/

/-- Lines keep apart what stands in them. -/
theorem closes_lines {lines : List (List Char)} :
    Closes (lines.flatMap fun line => line ++ ['\n']) ↔ ∃ line ∈ lines, Closes line := by
  induction lines with
  | nil => simp [Closes, run]
  | cons line rest ih =>
    rw [List.flatMap_cons, List.append_assoc, List.singleton_append,
      closes_append_cons rfl, ih]
    simp

theorem lines_splitAll (cs : List Char) :
    ((Text.splitAll '\n' cs).flatMap fun line => line ++ ['\n']) = cs ++ ['\n'] := by
  induction cs with
  | nil => rfl
  | cons c rest ih =>
    unfold Text.splitAll
    by_cases hc : c = '\n'
    · simp [hc, ih]
    · rw [if_neg hc]
      cases hsplit : Text.splitAll '\n' rest with
      | nil =>
        rw [hsplit] at ih
        simp at ih
      | cons piece pieces =>
        rw [hsplit, List.flatMap_cons] at ih
        simp [← ih]

/-- What is dropped behind a text is a line end. -/
theorem dropLineEnd_append (cs : List Char) :
    ∃ ending, cs = Text.dropLineEnd cs ++ ending ∧ ∀ c ∈ ending, c = '\n' ∨ c = '\r' := by
  obtain ⟨backwards, rfl⟩ : ∃ backwards, cs = List.reverse backwards :=
    ⟨cs.reverse, cs.reverse_reverse.symm⟩
  unfold Text.dropLineEnd
  rw [List.reverse_reverse]
  split
  · dsimp only
    split
    · exact ⟨['\r', '\n'], by simp, by simp⟩
    · exact ⟨['\n'], by simp, by simp⟩
  · dsimp only
    split
    · exact ⟨['\r'], by simp, by simp⟩
    · exact ⟨[], by simp, by simp⟩

theorem closes_dropLineEnd {cs : List Char} : Closes (Text.dropLineEnd cs) ↔ Closes cs := by
  obtain ⟨ending, hcs, hending⟩ := dropLineEnd_append cs
  have hplain : ending.all isPlain = true := List.all_eq_true.2 fun c hc => by
    rcases hending c hc with rfl | rfl <;> rfl
  exact (closes_append_plain hplain).symm.trans (by rw [← hcs])

/-- Indented lines close a literal exactly if the lines do. -/
theorem closes_indentLines {width : Nat} {lines : List (List Char)} :
    (∃ line ∈ Template.indentLines width lines, Closes line) ↔ ∃ line ∈ lines, Closes line := by
  have hspaces : ∀ line : List Char,
      Closes (if line.isEmpty then line else List.replicate width ' ' ++ line) ↔ Closes line := by
    intro line
    split
    · rfl
    · exact closes_plain_append (List.all_eq_true.2 fun c hc => by
        rw [List.eq_of_mem_replicate hc]
        rfl)
  cases lines with
  | nil => rfl
  | cons first rest =>
    simp only [Template.indentLines, List.mem_cons, List.mem_map, exists_eq_or_imp,
      exists_exists_and_eq_and, hspaces]

/-- Indenting a text changes nothing about the quotes in it. -/
theorem closes_indentText {width : Nat} {s : String} :
    Closes (Template.indentText width s).toList ↔ Closes s.toList := by
  unfold Template.indentText
  rw [String.toList_ofList, closes_dropLineEnd, closes_lines, closes_indentLines, ← closes_lines,
    lines_splitAll, closes_append_plain rfl, closes_dropLineEnd]

end SchemaPress.Python
