import Mathlib.Data.Finset.Card
import SchemaPress.Proofs.Config
import SchemaPress.Template.Resolver

set_option autoImplicit false

/-! # Templates while files change

A resolver is asked for templates over and over, and the files of the user may change in between.
Each time a template is looked for, its identifier is found anew, but what was compiled under this
identifier once is used from then on. `Session` runs any sequence of such events and writes down
every attempt to find a template. What an attempt finds then depends on the attempts before it only
(`Attempt.Follows`): it is what the first successful attempt with its identifier read. And the
number of times that sources were asked for can be told from the attempts as well
(`templates_of_session`). -/

namespace SchemaPress

/-! ## Where templates come from -/

/-- Where a template comes from: a file of the user, or the built-in ones. -/
inductive Template.Origin
  | file (path : String)
  | builtin (id : String)
  deriving DecidableEq, Repr

namespace Template.Origin

/-- Where a template should come from: the file below the directory of the user if there is one,
    else the built-in template. -/
def intended (directory : Option String) (files : FileTree) (id : String) : Origin :=
  match directory with
  | some directory =>
    if files.isFile (Path.join directory id) then .file (Path.join directory id) else .builtin id
  | none => .builtin id

/-- The identifier under which a template is kept. -/
def identifier : Origin → String
  | file path => path
  | builtin id => Resolver.builtinMark ++ id

/-- What an identifier is taken for when its template is loaded. -/
def ofIdentifier (identifier : String) : Origin :=
  match Resolver.behind? Resolver.builtinMark identifier with
  | some id => builtin id
  | none => file identifier

/-- The template that is there, if there is one and it can be read. -/
def template? (files : FileTree) : Origin → Except Failure (Option Template)
  | file path =>
    if files.isFile path then
      match (files.read path).toOption.bind Template.read? with
      | some template => .ok (some template)
      | none => .error .invalidTemplate
    else .ok none
  | builtin id => .ok (Entries.get? Template.Builtin.all id)

/-- The identifier of a built-in template is taken for what it is, and so is that of a file unless
    it begins with the mark of built-in templates. -/
theorem ofIdentifier_identifier_iff (origin : Origin) :
    ofIdentifier origin.identifier = origin ↔
      ∀ path, origin = .file path → ¬ Resolver.builtinMark.toList <+: path.toList := by
  cases origin with
  | builtin id =>
    have hbehind :
        Resolver.behind? Resolver.builtinMark (Resolver.builtinMark ++ id) = some id := by
      have hdrop : (Resolver.builtinMark.toList ++ id.toList).drop Resolver.builtinMark.length =
          id.toList := List.drop_left
      simp [Resolver.behind?, String.toList_append, hdrop]
    simp [ofIdentifier, identifier, hbehind]
  | file path =>
    unfold ofIdentifier identifier Resolver.behind?
    by_cases hmark : Resolver.builtinMark.toList <+: path.toList
    · simp [hmark]
    · simp [hmark]

end Template.Origin

open Template (Origin)

/-! ## Single computations -/

namespace FileTree

variable {α : Type}

theorem run_isFile_bind (files : FileTree) (path : String) (f : Bool → StateM FileTree α) :
    (access.isFile path >>= f).run files = (f (files.isFile path)).run files :=
  rfl

theorem run_read_bind (files : FileTree) (path : String)
    (f : Except FileFault String → StateM FileTree α) :
    (access.read path >>= f).run files = (f (files.read path)).run files :=
  rfl

end FileTree

namespace Resolver

/-- What a computation makes of a resolver and of the files, with its result. -/
def runOn {α : Type} (resolver : Resolver) (files : FileTree)
    (computation : Rendering (StateM FileTree) α) : (Except Failure α × Resolver) × FileTree :=
  (computation.run.run resolver).run files

section

variable {α β : Type} {resolver after : Resolver} {files left : FileTree}
  {x : Rendering (StateM FileTree) α} {f : α → Rendering (StateM FileTree) β}

theorem runOn_bind (resolver : Resolver) (files : FileTree) (x : Rendering (StateM FileTree) α)
    (f : α → Rendering (StateM FileTree) β) :
    resolver.runOn files (x >>= f) =
      ((ExceptT.bindCont f (resolver.runOn files x).1.1).run (resolver.runOn files x).1.2).run
        (resolver.runOn files x).2 := by
  change StateT.run (StateT.run (x.run >>= ExceptT.bindCont f) resolver) files = _
  rw [StateT.run_bind, StateT.run_bind]
  rfl

theorem runOn_bind_of_ok {a : α} (h : resolver.runOn files x = ((.ok a, after), left)) :
    resolver.runOn files (x >>= f) = after.runOn left (f a) := by
  rw [runOn_bind, h]
  rfl

theorem runOn_bind_of_error {failure : Failure}
    (h : resolver.runOn files x = ((.error failure, after), left)) :
    resolver.runOn files (x >>= f) = ((.error failure, after), left) := by
  rw [runOn_bind, h]
  rfl

theorem runOn_liftM {x : StateM FileTree α} {a : α} (h : x.run files = (a, left)) :
    resolver.runOn files (liftM x) = ((.ok a, resolver), left) :=
  congrArg (fun result => ((Except.ok result.1, resolver), result.2)) h

end

/-- The template that is loaded for an identifier, or what is said if there is none. -/
def fetch (directory : Option String) (files : FileTree) (id identifier : String) :
    Except Failure Template :=
  match (Origin.ofIdentifier identifier).template? files with
  | .ok (some template) => .ok template
  | .ok none => .error (.templateNotFound (Path.join (directory.getD "templates") id))
  | .error failure => .error failure

/-- The compiled templates after a template was asked for. -/
def keep (compiled : Entries Template) (identifier : String) :
    Except Failure Template → Entries Template
  | .ok template => Entries.put compiled identifier template
  | .error _ => compiled

theorem run_identify (resolver : Resolver) (files : FileTree) (id : String) :
    (resolver.identify FileTree.access id).run files =
      ((Origin.intended resolver.directory files id).identifier, files) := by
  unfold identify Origin.intended
  cases resolver.directory with
  | none => rfl
  | some directory =>
    simp only [FileTree.run_isFile_bind]
    cases files.isFile (Path.join directory id) with
    | true => rfl
    | false => rfl

theorem run_load (files : FileTree) (identifier : String) :
    (load FileTree.access identifier).run files =
      ((Origin.ofIdentifier identifier).template? files, files) := by
  unfold load Origin.ofIdentifier
  cases behind? builtinMark identifier with
  | some id => rfl
  | none =>
    simp only [FileTree.run_isFile_bind, Origin.template?]
    cases files.isFile identifier with
    | false => rfl
    | true =>
      simp only [if_true, FileTree.run_read_bind]
      cases files.read identifier with
      | error fault => rfl
      | ok source =>
        simp only [Except.toOption, Option.bind_some]
        cases Template.read? source with
        | none => rfl
        | some template => rfl

section

variable {resolver : Resolver} {files : FileTree} {id identifier : String} {template : Template}
  (hidentifier : (Origin.intended resolver.directory files id).identifier = identifier)

include hidentifier

/-- A template that was compiled is used again. -/
theorem runOn_resolve_of_some (h : Entries.get? resolver.compiled identifier = some template) :
    resolver.runOn files (resolve FileTree.access id) = ((.ok template, resolver), files) := by
  have hrun := resolver.run_identify files id
  rw [hidentifier] at hrun
  unfold resolve
  rw [runOn_bind_of_ok rfl, runOn_bind_of_ok (runOn_liftM hrun)]
  simp only [h]
  rfl

/-- A template that was not compiled is loaded, and kept if there is one. -/
theorem runOn_resolve_of_none (h : Entries.get? resolver.compiled identifier = none) :
    resolver.runOn files (resolve FileTree.access id) =
      ((fetch resolver.directory files id identifier,
        { resolver with
          compiled := keep resolver.compiled identifier
            (fetch resolver.directory files id identifier)
          loads := resolver.loads + 1 }), files) := by
  have hrun := resolver.run_identify files id
  rw [hidentifier] at hrun
  have hload := run_load files identifier
  unfold resolve
  rw [runOn_bind_of_ok rfl, runOn_bind_of_ok (runOn_liftM hrun)]
  simp only [h]
  rw [runOn_bind_of_ok rfl, runOn_bind_of_ok (runOn_liftM hload)]
  unfold fetch
  rcases (Origin.ofIdentifier identifier).template? files with failure | _ | template
  · rfl
  · rfl
  · rfl

end

/-- Rendering is resolving, and then rendering what was found. -/
theorem runOn_render (resolver : Resolver) (files : FileTree) (id : String)
    (values : Entries Value) :
    resolver.runOn files (render FileTree.access id values) =
      (((resolver.runOn files (resolve FileTree.access id)).1.1 >>=
          fun template => template.render values,
        (resolver.runOn files (resolve FileTree.access id)).1.2),
        (resolver.runOn files (resolve FileTree.access id)).2) := by
  rcases hfound : resolver.runOn files (resolve FileTree.access id) with ⟨⟨result, after⟩, left⟩
  unfold render
  cases result with
  | error failure => exact runOn_bind_of_error hfound
  | ok template =>
    rw [runOn_bind_of_ok hfound]
    change after.runOn left _ = ((template.render values, after), left)
    cases template.render values with
    | error failure => rfl
    | ok text => rfl

/-! ## Built-in templates -/

/-- A resolver that knows no directory and has compiled built-in templates only. -/
structure IsBuiltin (resolver : Resolver) : Prop where
  directory : resolver.directory = none
  compiled : ∀ id template, Entries.get? resolver.compiled (builtinMark ++ id) = some template →
    Entries.get? Template.Builtin.all id = some template

theorem isBuiltin_empty : IsBuiltin {} where
  directory := rfl
  compiled := by
    intro id template h
    cases h

/-- Such a resolver renders the built-in template and stays such a resolver. -/
theorem IsBuiltin.runOn_render {resolver : Resolver} (h : resolver.IsBuiltin) {id : String}
    {template : Template} (htemplate : Entries.get? Template.Builtin.all id = some template)
    (files : FileTree) (values : Entries Value) :
    ∃ after : Resolver, after.IsBuiltin ∧
      resolver.runOn files (render FileTree.access id values) =
        ((template.render values, after), files) := by
  have hidentifier : (Origin.intended resolver.directory files id).identifier =
      builtinMark ++ id := by
    rw [h.directory]
    rfl
  cases hcompiled : Entries.get? resolver.compiled (builtinMark ++ id) with
  | some found =>
    obtain rfl : found = template :=
      Option.some.inj ((h.compiled id found hcompiled).symm.trans htemplate)
    refine ⟨resolver, h, ?_⟩
    rw [Resolver.runOn_render, runOn_resolve_of_some hidentifier hcompiled]
    rfl
  | none =>
    have horigin : Origin.ofIdentifier (builtinMark ++ id) = .builtin id :=
      (Origin.ofIdentifier_identifier_iff (.builtin id)).2 (by simp)
    have hfetch : fetch resolver.directory files id (builtinMark ++ id) = .ok template := by
      rw [fetch, horigin, Origin.template?, htemplate]
    rw [Resolver.runOn_render, runOn_resolve_of_none hidentifier hcompiled, hfetch]
    refine ⟨{ resolver with compiled := Entries.put resolver.compiled (builtinMark ++ id) template
                            loads := resolver.loads + 1 },
      ⟨h.directory, fun other found hfound => ?_⟩, rfl⟩
    -- what was compiled before is kept, and the new template is the built-in one
    rw [Entries.get?_put] at hfound
    split at hfound
    · rename_i hsame
      rw [String.append_right_inj] at hsame
      rw [hsame, htemplate, hfound]
    · exact h.compiled other found hfound

/-- What happens to a resolver and to the files around it. -/
inductive Event
  /-- The files become others. -/
  | change (files : FileTree)
  /-- A template is looked for. -/
  | resolve (id : String)
  /-- A template is looked for and rendered. -/
  | render (id : String) (values : Entries Value)

/-- An attempt to find a template. -/
structure Attempt where
  /-- The files at that time. -/
  files : FileTree
  id : String
  /-- What the template resolved to. -/
  identifier : String
  found : Except Failure Template
  /-- The values that the template was rendered with, if it was, and what came of it. -/
  rendered : Option (Entries Value × Except Failure String) := none

/-- A resolver and the files around it, with all attempts so far. -/
structure Session where
  resolver : Resolver
  files : FileTree
  attempts : List Attempt := []

/-- What an attempt to find a template gives. -/
def Session.attempt (session : Session) (id : String) : Attempt where
  files := session.files
  id := id
  identifier := ((session.resolver.identify FileTree.access id).run session.files).1
  found := (session.resolver.runOn session.files (resolve FileTree.access id)).1.1

/-- The session after an event. -/
def Session.perform (session : Session) : Event → Session
  | .change files => { session with files := files }
  | .resolve id =>
    let outcome := session.resolver.runOn session.files (Resolver.resolve FileTree.access id)
    { resolver := outcome.1.2
      files := outcome.2
      attempts := session.attempts ++ [session.attempt id] }
  | .render id values =>
    let outcome := session.resolver.runOn session.files (Resolver.render FileTree.access id values)
    { resolver := outcome.1.2
      files := outcome.2
      attempts := session.attempts ++
        [{ session.attempt id with rendered := some (values, outcome.1.1) }] }

/-- The session of a new resolver after several events. -/
def Session.run (directory : Option String) (files : FileTree) (events : List Event) : Session :=
  events.foldl Session.perform { resolver := { directory := directory }, files := files }

/-- The first attempt that found a template with the given identifier. -/
def firstFound? (attempts : List Attempt) (identifier : String) : Option Attempt :=
  attempts.find? fun attempt => attempt.identifier == identifier && attempt.found.isOk

/-- The identifiers of the templates that were found. -/
def foundIdentifiers (attempts : List Attempt) : Finset String :=
  ((attempts.filter fun attempt => attempt.found.isOk).map Attempt.identifier).toFinset

/-- How many attempts found nothing. -/
def failures (attempts : List Attempt) : Nat :=
  attempts.countP fun attempt => !attempt.found.isOk

/-- What an attempt reads if nothing was compiled before. -/
def Attempt.fetched (directory : Option String) (attempt : Attempt) : Except Failure Template :=
  fetch directory attempt.files attempt.id attempt.identifier

/-- An attempt resolves its template by the files at that time. It finds what the first of the
    attempts before it that found a template with its identifier has read, or else what it reads
    itself, and that is what is rendered. -/
structure Attempt.Follows (directory : Option String) (before : List Attempt) (attempt : Attempt) :
    Prop where
  identifier : attempt.identifier =
    (Origin.intended directory attempt.files attempt.id).identifier
  found : attempt.found =
    ((firstFound? before attempt.identifier).getD attempt).fetched directory
  rendered : ∀ values text, attempt.rendered = some (values, text) →
    text = attempt.found >>= fun template => template.render values

/-- A resolver that agrees with the attempts so far. -/
structure Session.Agrees (directory : Option String) (session : Session) : Prop where
  given : session.resolver.directory = directory
  compiled : ∀ identifier, Entries.get? session.resolver.compiled identifier =
    (firstFound? session.attempts identifier).bind fun attempt => attempt.found.toOption
  loads : session.resolver.loads =
    (foundIdentifiers session.attempts).card + failures session.attempts
  follows : ∀ (place : Nat) (attempt : Attempt), session.attempts[place]? = some attempt →
    attempt.Follows directory (session.attempts.take place)

/-! ### One attempt more -/

section

variable {attempts : List Attempt} {attempt : Attempt} {identifier : String}

theorem isOk_of_firstFound? (h : firstFound? attempts identifier = some attempt) :
    attempt.identifier = identifier ∧ ∃ template, attempt.found = .ok template := by
  have hfound := List.find?_some h
  rw [Bool.and_eq_true, beq_iff_eq] at hfound
  refine ⟨hfound.1, ?_⟩
  cases hresult : attempt.found with
  | error failure =>
    rw [hresult] at hfound
    exact absurd hfound.2 (by simp [Except.isOk, Except.toBool])
  | ok template => exact ⟨template, rfl⟩

theorem mem_foundIdentifiers :
    identifier ∈ foundIdentifiers attempts ↔ (firstFound? attempts identifier).isSome := by
  rw [firstFound?, List.find?_isSome]
  simp [foundIdentifiers, and_comm, and_assoc]

theorem firstFound?_append (attempts : List Attempt) (attempt : Attempt) (identifier : String) :
    firstFound? (attempts ++ [attempt]) identifier =
      (firstFound? attempts identifier).or
        (if attempt.identifier = identifier ∧ attempt.found.isOk = true then some attempt
          else none) := by
  rw [firstFound?, List.find?_append]
  congr 1
  by_cases h : attempt.identifier = identifier ∧ attempt.found.isOk = true
  · simp [h]
  · rw [if_neg h]
    simpa using h

theorem foundIdentifiers_append (attempts : List Attempt) (attempt : Attempt) :
    foundIdentifiers (attempts ++ [attempt]) =
      if attempt.found.isOk then insert attempt.identifier (foundIdentifiers attempts)
      else foundIdentifiers attempts := by
  unfold foundIdentifiers
  cases hok : attempt.found.isOk with
  | true =>
    ext identifier
    simp [hok]
  | false => simp [hok]

theorem failures_append (attempts : List Attempt) (attempt : Attempt) :
    failures (attempts ++ [attempt]) =
      failures attempts + if attempt.found.isOk then 0 else 1 := by
  unfold failures
  cases hok : attempt.found.isOk with
  | true => simp [hok]
  | false => simp [hok]

/-- One attempt more leaves those before it as they are. -/
theorem follows_append {directory : Option String}
    (h : ∀ (place : Nat) (attempt : Attempt), attempts[place]? = some attempt →
      attempt.Follows directory (attempts.take place))
    (hnew : attempt.Follows directory attempts) (place : Nat) (other : Attempt)
    (hother : (attempts ++ [attempt])[place]? = some other) :
    other.Follows directory ((attempts ++ [attempt]).take place) := by
  rcases Nat.lt_trichotomy place attempts.length with hlt | heq | hgt
  · rw [List.getElem?_append_left hlt] at hother
    rw [List.take_append_of_le_length (Nat.le_of_lt hlt)]
    exact h place other hother
  · subst heq
    rw [List.getElem?_concat_length, Option.some.injEq] at hother
    rw [List.take_left, ← hother]
    exact hnew
  · rw [List.getElem?_eq_none (by simp; omega)] at hother
    cases hother

end

variable {directory : Option String} {session : Session}

/-- The first attempt that found a template has read it. -/
theorem Session.Agrees.fetched_eq (h : session.Agrees directory) {identifier : String}
    {first : Attempt} (hfirst : firstFound? session.attempts identifier = some first) :
    first.fetched directory = first.found := by
  obtain ⟨hidentifier, -⟩ := isOk_of_firstFound? hfirst
  obtain ⟨-, before, after, hattempts, hbefore⟩ := List.find?_eq_some_iff_append.1 hfirst
  have hplace : session.attempts[before.length]? = some first := by
    rw [hattempts]
    simp
  have hnone : firstFound? (session.attempts.take before.length) first.identifier = none := by
    rw [hattempts, List.take_left, hidentifier]
    refine List.find?_eq_none.2 fun attempt hattempt => ?_
    simpa only [Bool.not_eq_true', Bool.not_eq_true] using hbefore attempt hattempt
  have hfound := (h.follows before.length first hplace).found
  rw [hnone] at hfound
  exact hfound.symm

/-- Nothing is compiled under an identifier that was never found. -/
theorem Session.Agrees.firstFound?_eq_none (h : session.Agrees directory) {identifier : String}
    (hnone : Entries.get? session.resolver.compiled identifier = none) :
    firstFound? session.attempts identifier = none := by
  cases hfirst : firstFound? session.attempts identifier with
  | none => rfl
  | some first =>
    obtain ⟨-, template, hfound⟩ := isOk_of_firstFound? hfirst
    rw [h.compiled, hfirst, Option.bind_some, hfound] at hnone
    cases hnone

section

variable {attempt : Attempt} {template : Template} (h : session.Agrees directory)
  (hfollows : attempt.Follows directory session.attempts)

include h hfollows

/-- A template that was found before is found again. -/
theorem Session.Agrees.reuse (hfound : attempt.found = .ok template)
    (hseen : (firstFound? session.attempts attempt.identifier).isSome) (files : FileTree) :
    Session.Agrees directory
      { resolver := session.resolver, files := files
        attempts := session.attempts ++ [attempt] } where
  given := h.given
  compiled := by
    intro identifier
    rw [h.compiled, firstFound?_append]
    by_cases hsame : attempt.identifier = identifier
    · obtain ⟨first, hfirst⟩ := Option.isSome_iff_exists.1 hseen
      rw [← hsame, hfirst, Option.some_or]
    · rw [if_neg fun hnew => hsame hnew.1, Option.or_none]
  loads := by
    have hok : attempt.found.isOk = true := by rw [hfound]; rfl
    rw [h.loads, foundIdentifiers_append, failures_append, if_pos hok, if_pos hok,
      Finset.insert_eq_of_mem (mem_foundIdentifiers.2 hseen), Nat.add_zero]
  follows := follows_append h.follows hfollows

/-- A template that is found for the first time is kept. -/
theorem Session.Agrees.compile (hfound : attempt.found = .ok template)
    (hnew : firstFound? session.attempts attempt.identifier = none) (files : FileTree) :
    Session.Agrees directory
      { resolver :=
          { session.resolver with
            compiled := Entries.put session.resolver.compiled attempt.identifier template
            loads := session.resolver.loads + 1 }
        files := files
        attempts := session.attempts ++ [attempt] } where
  given := h.given
  compiled := by
    intro identifier
    rw [Entries.get?_put, h.compiled, firstFound?_append]
    by_cases hsame : identifier = attempt.identifier
    · rw [if_pos hsame, hsame, hnew, Option.none_or, if_pos ⟨rfl, by rw [hfound]; rfl⟩,
        Option.bind_some, hfound]
      rfl
    · rw [if_neg hsame, if_neg fun hother => hsame hother.1.symm, Option.or_none]
  loads := by
    have hok : attempt.found.isOk = true := by rw [hfound]; rfl
    have hnot : attempt.identifier ∉ foundIdentifiers session.attempts := by
      rw [mem_foundIdentifiers, hnew]
      exact Bool.false_ne_true
    change session.resolver.loads + 1 = _
    rw [h.loads, foundIdentifiers_append, failures_append, if_pos hok, if_pos hok,
      Finset.card_insert_of_notMem hnot]
    omega
  follows := follows_append h.follows hfollows

/-- An attempt that finds nothing changes nothing but the number of loads. -/
theorem Session.Agrees.fail {failure : Failure} (hfound : attempt.found = .error failure)
    (files : FileTree) :
    Session.Agrees directory
      { resolver := { session.resolver with loads := session.resolver.loads + 1 }
        files := files
        attempts := session.attempts ++ [attempt] } where
  given := h.given
  compiled := by
    intro identifier
    have hnot : ¬ (attempt.identifier = identifier ∧ attempt.found.isOk = true) := by
      rw [hfound]
      exact fun hfalse => Bool.false_ne_true hfalse.2
    rw [h.compiled, firstFound?_append, if_neg hnot, Option.or_none]
  loads := by
    have hnot : ¬ attempt.found.isOk = true := by
      rw [hfound]
      exact Bool.false_ne_true
    change session.resolver.loads + 1 = _
    rw [h.loads, foundIdentifiers_append, failures_append, if_neg hnot, if_neg hnot]
    omega
  follows := follows_append h.follows hfollows

end

/-- A resolver agrees with the attempts after one more. -/
theorem Session.Agrees.record (h : session.Agrees directory) {attempt : Attempt} {after : Resolver}
    {left : FileTree}
    (hidentifier : attempt.identifier =
      (Origin.intended directory attempt.files attempt.id).identifier)
    (hrun : session.resolver.runOn attempt.files (resolve FileTree.access attempt.id) =
      ((attempt.found, after), left))
    (hrendered : ∀ values text, attempt.rendered = some (values, text) →
      text = attempt.found >>= fun template => template.render values) :
    Session.Agrees directory
      { resolver := after, files := left, attempts := session.attempts ++ [attempt] } := by
  have hgiven : (Origin.intended session.resolver.directory attempt.files attempt.id).identifier =
      attempt.identifier := by
    rw [h.given, hidentifier]
  cases hcompiled : Entries.get? session.resolver.compiled attempt.identifier with
  | some template =>
    rw [runOn_resolve_of_some hgiven hcompiled, Prod.mk.injEq, Prod.mk.injEq] at hrun
    obtain ⟨⟨hfound, rfl⟩, -⟩ := hrun
    rw [h.compiled] at hcompiled
    obtain ⟨first, hfirst, htemplate⟩ := Option.bind_eq_some_iff.1 hcompiled
    have hfollows : attempt.Follows directory session.attempts := by
      refine ⟨hidentifier, ?_, hrendered⟩
      obtain ⟨-, found, hfirstFound⟩ := isOk_of_firstFound? hfirst
      rw [hfirstFound] at htemplate
      rw [hfirst, Option.getD_some, h.fetched_eq hfirst, ← hfound, hfirstFound]
      exact congrArg Except.ok (Option.some.inj htemplate).symm
    exact h.reuse hfollows hfound.symm (by rw [hfirst]; rfl) left
  | none =>
    have hnew := h.firstFound?_eq_none hcompiled
    rw [runOn_resolve_of_none hgiven hcompiled, Prod.mk.injEq, Prod.mk.injEq] at hrun
    obtain ⟨⟨hfound, rfl⟩, -⟩ := hrun
    have hfollows : attempt.Follows directory session.attempts := by
      refine ⟨hidentifier, ?_, hrendered⟩
      rw [hnew, Option.getD_none, ← hfound, h.given]
      rfl
    rw [hfound]
    cases hresult : attempt.found with
    | ok template => exact h.compile hfollows hresult hnew left
    | error failure => exact h.fail hfollows hresult left

/-- Every event keeps a resolver in agreement with the attempts. -/
theorem Session.Agrees.perform (h : session.Agrees directory) (event : Event) :
    (session.perform event).Agrees directory := by
  have hidentifier : ∀ id, (session.attempt id).identifier =
      (Origin.intended directory session.files id).identifier := by
    intro id
    rw [Session.attempt, run_identify, h.given]
  cases event with
  | change files => exact { h with }
  | resolve id => exact h.record (hidentifier id) rfl fun _ _ hnone => by cases hnone
  | render id values =>
    have hrender := session.resolver.runOn_render session.files id values
    refine h.record (hidentifier id) ?_ fun _ _ hsome => ?_
    · rw [hrender]
      rfl
    · cases hsome
      rw [hrender]
      rfl

theorem Session.agrees_run (directory : Option String) (files : FileTree) (events : List Event) :
    (Session.run directory files events).Agrees directory := by
  have hfold : ∀ (events : List Event) (session : Session), session.Agrees directory →
      (events.foldl Session.perform session).Agrees directory := by
    intro events
    induction events with
    | nil => exact fun _ h => h
    | cons event rest ih => exact fun session h => ih _ (h.perform event)
  refine hfold events _ ⟨rfl, fun _ => rfl, rfl, fun place attempt hattempt => ?_⟩
  cases hattempt

/-- Whatever happens to the files while a resolver is asked for templates: each attempt resolves its
    template to the path of the file of the user if this file is there at that time, and else to the
    mark with the name of the built-in template. What is loaded under this identifier is the
    template that is meant, unless the path of the file begins with the mark of built-in templates.
    Once an attempt has found a template, all later attempts with its identifier find what this one
    has read, and render it; until then each attempt reads anew. And the sources that were asked for
    are as many as the identifiers that were found and the attempts that found nothing. -/
theorem templates_of_session (directory : Option String) (files : FileTree) (events : List Event) :
    (∀ (place : Nat) (attempt : Attempt),
      (Session.run directory files events).attempts[place]? = some attempt →
      attempt.identifier = (Origin.intended directory attempt.files attempt.id).identifier ∧
      (Origin.ofIdentifier attempt.identifier =
          Origin.intended directory attempt.files attempt.id ↔
        ∀ path, Origin.intended directory attempt.files attempt.id = .file path →
          ¬ builtinMark.toList <+: path.toList) ∧
      attempt.found =
        ((firstFound? ((Session.run directory files events).attempts.take place)
          attempt.identifier).getD attempt).fetched directory ∧
      ∀ values text, attempt.rendered = some (values, text) →
        text = attempt.found >>= fun template => template.render values) ∧
    (Session.run directory files events).resolver.loads =
      (foundIdentifiers (Session.run directory files events).attempts).card +
        failures (Session.run directory files events).attempts := by
  have h := Session.agrees_run directory files events
  refine ⟨fun place attempt hattempt => ?_, h.loads⟩
  have hfollows := h.follows place attempt hattempt
  refine ⟨hfollows.identifier, ?_, hfollows.found, hfollows.rendered⟩
  rw [hfollows.identifier]
  exact Origin.ofIdentifier_identifier_iff _

/-- A template for dataclasses in the directory of the user. -/
def ownTemplate (text : String) : FileTree :=
  ⟨[(["dataclass.jinja2"], .text text)]⟩

/-- The values of a class without fields. -/
def emptyClass : Entries Value :=
  [("class_name", .str "A"), ("base_class", .str ""), ("fields", .arr []), ("decorators", .arr []),
    ("methods", .arr [])]

/-- A template of the user appears, is changed and is removed, and one that is not there is looked
    for. -/
def shadowing : List Event :=
  [.render "dataclass.jinja2" emptyClass, .change (ownTemplate "# first"),
    .render "dataclass.jinja2" emptyClass, .change (ownTemplate "# second"),
    .render "dataclass.jinja2" emptyClass, .change {}, .resolve "missing.jinja2",
    .render "dataclass.jinja2" emptyClass]

/-- A directory whose name is that of the mark of built-in templates, with a template in it. -/
def markedFiles : FileTree :=
  ⟨[(["builtin:"], .directory), (["builtin:", "dataclass.jinja2"], .text "# own")]⟩

/-- The template of the user is used while it is there, as it was at first, and three sources are
    asked for. Below a directory that is called like the mark, the template of the user is taken for
    the built-in one. -/
theorem templates_of_session_shadowing :
    (Session.run (some "") {} shadowing).attempts.map (fun attempt =>
      (attempt.identifier, attempt.rendered.bind fun result => result.2.toOption)) =
      [("builtin://dataclass.jinja2", some "class A:\n    pass"),
        ("dataclass.jinja2", some "# first"), ("dataclass.jinja2", some "# first"),
        ("builtin://missing.jinja2", none),
        ("builtin://dataclass.jinja2", some "class A:\n    pass")] ∧
    (Session.run (some "") {} shadowing).resolver.loads = 3 ∧
    (∃ attempt, (Session.run (some "") {} shadowing).attempts[2]? = some attempt ∧
      attempt.files = ownTemplate "# second" ∧
      attempt.found =
        fetch (some "") (ownTemplate "# first") "dataclass.jinja2" "dataclass.jinja2") ∧
    ∃ attempt, (Session.run (some "builtin://") markedFiles
        [.resolve "dataclass.jinja2"]).attempts[0]? = some attempt ∧
      Origin.intended (some "builtin://") markedFiles "dataclass.jinja2" =
        .file "builtin://dataclass.jinja2" ∧
      Origin.ofIdentifier attempt.identifier ≠ .file "builtin://dataclass.jinja2" := by
  obtain ⟨hattempts, hloads⟩ := templates_of_session (some "") {} shadowing
  refine ⟨by decide +kernel, ?_, ?_, ?_⟩
  · rw [hloads]
    decide +kernel
  · have hthird : ((Session.run (some "") {} shadowing).attempts[2]?).map (fun attempt =>
        (attempt.files, attempt.identifier)) =
        some (ownTemplate "# second", "dataclass.jinja2") := by decide +kernel
    have hfirst : (firstFound? ((Session.run (some "") {} shadowing).attempts.take 2)
        "dataclass.jinja2").map (fun attempt => (attempt.files, attempt.id, attempt.identifier)) =
        some (ownTemplate "# first", "dataclass.jinja2", "dataclass.jinja2") := by decide +kernel
    obtain ⟨attempt, hattempt, hshown⟩ := Option.map_eq_some_iff.1 hthird
    obtain ⟨first, hfirst, hread⟩ := Option.map_eq_some_iff.1 hfirst
    obtain ⟨hfiles, hidentifier⟩ := Prod.mk.inj hshown
    obtain ⟨-, -, hfound, -⟩ := hattempts 2 attempt hattempt
    rw [hidentifier, hfirst, Option.getD_some] at hfound
    simp only [Prod.mk.injEq] at hread
    obtain ⟨hfirstFiles, hfirstId, hfirstIdentifier⟩ := hread
    refine ⟨attempt, hattempt, hfiles, ?_⟩
    rw [hfound, Attempt.fetched, hfirstFiles, hfirstId, hfirstIdentifier]
  · have hslash : "builtin://".endsWith "/" = true := by
      rw [String.endsWith, String.Slice.endsWith_string_iff]
      exact ⟨"builtin:/".toList, by simp⟩
    have hjoin : Path.join "builtin://" "dataclass.jinja2" = "builtin://dataclass.jinja2" := by
      rw [Path.join, if_neg (by decide), if_pos hslash]
      rfl
    have hintended : Origin.intended (some "builtin://") markedFiles "dataclass.jinja2" =
        .file "builtin://dataclass.jinja2" := by
      simp only [Origin.intended, hjoin]
      exact if_pos (by decide +kernel)
    obtain ⟨hmarked, -⟩ := templates_of_session (some "builtin://") markedFiles
      [.resolve "dataclass.jinja2"]
    obtain ⟨-, htaken, -⟩ := hmarked 0 _ rfl
    refine ⟨_, rfl, hintended, fun hsame => ?_⟩
    exact htaken.1 (hsame.trans hintended.symm) _ hintended (by decide)

end Resolver

end SchemaPress
