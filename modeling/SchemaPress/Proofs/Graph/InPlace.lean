import SchemaPress.Proofs.Field.Lookup
import SchemaPress.Proofs.Graph.Calls

set_option autoImplicit false

/-! # Adding a model in place

`Graph.add` returns a new graph or a failure, so a failure cannot leave a trace. Here a model is
added to a graph in place, one write after the other, and what was written before a failure stays:
`Graph.addInPlace` binds the reference, notes every field name that is there twice, puts the fields
in order while it looks up the models in their types, makes the model a child of its base classes,
and stores it last. Each step has one lemma that says what it returns and what it leaves behind.

All failures that are reported come before the first write, so they leave nothing behind, and a
model that is added changes only what it has to (`add_all_or_nothing`). A lookup that fails is
different: it breaks off after the reference was bound (`runOn_addInPlace_of_free`). -/

namespace SchemaPress.Graph

/-! ## Looking up models -/

section

variable (graph : Graph)

/-- Whether the model that a reference stands for admits `None`. The lookup fails if the reference
    is bound to a model that is not there. -/
def nullable? (reference : RefId) : Option Bool :=
  match graph.sourceOf? reference with
  | some id => (graph.model? id).map (·.nullable)
  | none => some false

/-- The scope in which types are written while models are looked up. -/
def lookups : LookupScope where
  className := graph.arena.shortName
  nullable? := graph.nullable?
  spelling := graph.options.spelling

theorem getD_nullable? (reference : RefId) :
    (graph.nullable? reference).getD false = graph.isNullable reference := by
  unfold nullable? isNullable
  cases graph.sourceOf? reference with
  | none => rfl
  | some id => cases hmodel : graph.model? id <;> simp [hmodel]

theorem total_lookups : graph.lookups.total = graph.scope := by
  have hnullable : (fun target => (graph.nullable? target).getD false) = graph.isNullable :=
    funext graph.getD_nullable?
  simp only [LookupScope.total, lookups, scope, hnullable]

/-- The models of a type can be looked up exactly if they are finished. -/
theorem covers_lookups (tree : TypeTree) : graph.lookups.covers tree = graph.isFinished tree := by
  unfold LookupScope.covers isFinished
  congr 1
  funext target
  simp only [lookups, nullable?]
  cases graph.sourceOf? target with
  | none => rfl
  | some id =>
    rw [Bool.eq_iff_iff]
    simp [model?]

theorem orderFields?_lookups (fields : List Field) :
    orderFields? graph.options.flavor graph.lookups fields =
      if graph.canOrder fields then some (orderFields graph.options.flavor graph.scope fields)
      else none := by
  rw [orderFields?_eq, total_lookups]
  simp only [covers_lookups]
  rfl

end

/-! ## Changes -/

/-- Steps that change a graph; a failure leaves what was written before. -/
abbrev Change := ExceptT Failure (StateM Graph)

namespace Change

variable {α β : Type} {graph after : Graph}

/-- What a change returns and what it leaves behind. -/
def runOn (graph : Graph) (change : Change α) : Except Failure α × Graph :=
  change.run.run graph

theorem runOn_bind (graph : Graph) (change : Change α) (next : α → Change β) :
    (change >>= next).runOn graph =
      (ExceptT.bindCont next (change.runOn graph).1).run (change.runOn graph).2 :=
  rfl

theorem runOn_bind_of_ok {change : Change α} {a : α} (h : change.runOn graph = (.ok a, after))
    (next : α → Change β) : (change >>= next).runOn graph = (next a).runOn after := by
  rw [runOn_bind, h]
  rfl

theorem runOn_bind_of_error {change : Change α} {failure : Failure}
    (h : change.runOn graph = (.error failure, after)) (next : α → Change β) :
    (change >>= next).runOn graph = (.error failure, after) := by
  rw [runOn_bind, h]
  rfl

theorem runOn_get (graph : Graph) : (get : Change Graph).runOn graph = (.ok graph, graph) :=
  rfl

theorem runOn_modify (graph : Graph) (f : Graph → Graph) :
    (modify f : Change Unit).runOn graph = (.ok (), f graph) :=
  rfl

/-- Binds a reference that is free to the model that is added next. -/
def occupy (reference : RefId) : Change Unit := do
  let graph ← get
  match graph.arena.bind reference graph.nextId with
  | .error failure => throw failure
  | .ok arena => set { graph with arena := arena }

/-- Notes that a field was left out. -/
def note (diagnostic : Diagnostic) : Change Unit :=
  modify fun graph => { graph with diagnostics := graph.diagnostics ++ [diagnostic] }

/-- Builds a field of a model. -/
def build (owner : Owner) (spec : FieldSpec) : Change Field := do
  return { Field.build (← get).options spec with owner := some owner }

/-- Builds the fields of a model one by one; a name that was there before is noted and its field
    left out. -/
def takeFields (modelName : String) (owner : Owner) :
    List String → List FieldSpec → Change (List Field)
  | _, [] => return []
  | seen, spec :: rest =>
    match spec.name with
    | none => do
      let field ← build owner spec
      return field :: (← takeFields modelName owner seen rest)
    | some name =>
      if seen.contains name then do
        note (.duplicateField modelName name)
        takeFields modelName owner seen rest
      else do
        let field ← build owner spec
        return field :: (← takeFields modelName owner (name :: seen) rest)

/-- Puts fields in order. -/
def putInOrder (fields : List Field) : Change (List Field) := do
  let graph ← get
  match orderFields? graph.options.flavor graph.lookups fields with
  | some ordered => return ordered
  | none => throw .unfinishedModel

/-- Makes a model a child of its base classes, one after the other. -/
def adopt (child : ModelId) : List RefId → Change Unit
  | [] => return ()
  | base :: rest => do
    modify fun graph => { graph with arena := graph.arena.addChild base child }
    adopt child rest

/-- Stores a model behind the others. -/
def store (model : Model) : Change Unit :=
  modify fun graph => { graph with models := graph.models ++ [model] }

/-! ## What each step does -/

theorem runOn_occupy_of_some {reference : RefId} {bound : ModelId}
    (h : graph.sourceOf? reference = some bound) :
    (occupy reference).runOn graph = (.error (.alreadyBound
      (((graph.arena.get? reference).map (·.path)).getD "") bound.index), graph) := by
  rw [occupy, runOn_bind_of_ok (runOn_get graph), Arena.bind_of_bound h]
  rfl

theorem runOn_occupy_of_none {reference : RefId} (h : graph.sourceOf? reference = none) :
    (occupy reference).runOn graph = (.ok (), graph.bindNext reference) := by
  rw [occupy, runOn_bind_of_ok (runOn_get graph), Arena.bind_of_free h]
  rfl

theorem runOn_build (graph : Graph) (owner : Owner) (spec : FieldSpec) :
    (build owner spec).runOn graph =
      (.ok { Field.build graph.options spec with owner := some owner }, graph) :=
  rfl

/-- The fields that are taken are those with first names, and the other names are noted. -/
theorem runOn_takeFields (graph : Graph) (modelName : String) (owner : Owner) (seen : List String)
    (specs : List FieldSpec) :
    (takeFields modelName owner seen specs).runOn graph =
      (.ok (buildFields graph.options owner (keepFirstNames seen specs).1),
        { graph with diagnostics := graph.diagnostics ++
            (keepFirstNames seen specs).2.map (.duplicateField modelName) }) := by
  induction specs generalizing graph seen with
  | nil =>
    rw [keepFirstNames, List.map_nil, List.append_nil]
    rfl
  | cons spec rest ih =>
    rw [takeFields, keepFirstNames]
    cases spec.name with
    | none =>
      simp only
      rw [runOn_bind_of_ok (runOn_build graph owner spec), runOn_bind_of_ok (ih graph seen)]
      rfl
    | some name =>
      simp only
      split
      · rw [note, runOn_bind_of_ok (runOn_modify graph _), ih]
        simp
      · rw [runOn_bind_of_ok (runOn_build graph owner spec),
          runOn_bind_of_ok (ih graph (name :: seen))]
        rfl

theorem runOn_putInOrder (graph : Graph) (fields : List Field) :
    (putInOrder fields).runOn graph =
      (if graph.canOrder fields then .ok (orderFields graph.options.flavor graph.scope fields)
        else .error .unfinishedModel, graph) := by
  rw [putInOrder, runOn_bind_of_ok (runOn_get graph), orderFields?_lookups]
  cases graph.canOrder fields <;> rfl

theorem runOn_adopt (graph : Graph) (child : ModelId) (bases : List RefId) :
    (adopt child bases).runOn graph = (.ok (), { graph with
      arena := bases.foldl (fun arena base => arena.addChild base child) graph.arena }) := by
  induction bases generalizing graph with
  | nil => rfl
  | cons base rest ih => rw [adopt, runOn_bind_of_ok (runOn_modify graph _), ih, List.foldl_cons]

end Change

open Change in
/-- Adds a model for its reference. -/
def addInPlace (spec : ModelSpec) : Change ModelId :=
  match spec.reference with
  | none => throw .unboundModel
  | some reference => do
    let graph ← get
    let name := graph.arena.displayName reference
    if (graph.templateOf spec).isEmpty then throw (.noTemplate name)
    else
      let id := graph.nextId
      -- the first write, unless it fails; from here on only the order of the fields can fail
      occupy reference
      let fields ← takeFields name ⟨id, reference⟩ [] spec.fields
      let ordered ← putInOrder fields
      adopt id spec.bases
      store ((← get).modelOf reference spec ordered)
      return id

/-! ## What adding a model does -/

/-- A model is refused: it has no reference, its own template has no name, or its reference is
    bound. -/
def Refuses (graph : Graph) (spec : ModelSpec) : Prop :=
  spec.reference = none ∨ spec.template = some "" ∨
    ∃ reference, spec.reference = some reference ∧ graph.sourceOf? reference ≠ none

theorem not_refuses_iff {graph : Graph} {spec : ModelSpec} :
    ¬ graph.Refuses spec ↔ ∃ reference, spec.reference = some reference ∧
      spec.template ≠ some "" ∧ graph.sourceOf? reference = none := by
  unfold Refuses
  cases spec.reference with
  | none => simp
  | some reference => simp

/-- The templates of the flavors have names, so only a template of its own can lack one. -/
theorem isEmpty_templateOf (graph : Graph) (spec : ModelSpec) :
    (graph.templateOf spec).isEmpty = true ↔ spec.template = some "" := by
  have hflavor : graph.options.flavor.templateId spec.kind ≠ "" := by
    cases graph.options.flavor <;> cases spec.kind <;> decide
  unfold templateOf
  cases spec.template with
  | none => simpa using hflavor
  | some template => simp

section

variable {graph : Graph} {spec : ModelSpec} {reference : RefId}

/-- The graph before the fields of a new model are put in order: its reference is bound, and names
    that are there twice are noted. -/
def prepared (graph : Graph) (reference : RefId) (spec : ModelSpec) : Graph :=
  { graph.bindNext reference with diagnostics := (graph.grow reference spec).diagnostics }

/-- The graph before a new model is stored: its base classes know it already. -/
def adopted (graph : Graph) (reference : RefId) (spec : ModelSpec) : Graph :=
  { graph.prepared reference spec with arena := (graph.grow reference spec).arena }

/-- What was written for a model until it is stored changes nothing about it. -/
theorem modelOf_adopted (graph : Graph) (reference : RefId) (spec : ModelSpec)
    (fields : List Field) : (graph.adopted reference spec).modelOf reference spec fields =
      graph.modelOf reference spec fields := by
  have hname : (graph.adopted reference spec).arena.displayName reference =
      graph.arena.displayName reference :=
    congrArg (·.getD "") (graph.name_grow reference spec reference)
  unfold modelOf
  rw [hname]
  rfl

open Change

theorem runOn_addInPlace_of_isEmpty (hgiven : spec.reference = some reference)
    (htemplate : (graph.templateOf spec).isEmpty = true) :
    (addInPlace spec).runOn graph =
      (.error (.noTemplate (graph.arena.displayName reference)), graph) := by
  simp only [addInPlace, hgiven]
  rw [runOn_bind_of_ok (runOn_get graph), if_pos htemplate]
  rfl

theorem runOn_addInPlace_of_bound (hgiven : spec.reference = some reference)
    (htemplate : (graph.templateOf spec).isEmpty = false) {bound : ModelId}
    (hbound : graph.sourceOf? reference = some bound) :
    (addInPlace spec).runOn graph = (.error (.alreadyBound
      (((graph.arena.get? reference).map (·.path)).getD "") bound.index), graph) := by
  simp only [addInPlace, hgiven]
  rw [runOn_bind_of_ok (runOn_get graph), htemplate,
    if_neg Bool.false_ne_true, runOn_bind_of_error (runOn_occupy_of_some hbound)]

/-- A model for a free reference is added if its fields can be put in order. If they cannot, its
    reference stays bound, though there is no model. -/
theorem runOn_addInPlace_of_free (hgiven : spec.reference = some reference)
    (htemplate : (graph.templateOf spec).isEmpty = false)
    (hfree : graph.sourceOf? reference = none) :
    (addInPlace spec).runOn graph =
      if (graph.bindNext reference).canOrder (graph.nextFields reference spec) then
        (.ok graph.nextId, graph.grow reference spec)
      else (.error .unfinishedModel, graph.prepared reference spec) := by
  let fields := graph.nextFields reference spec
  let ordered := orderFields graph.options.flavor (graph.bindNext reference).scope fields
  have hfields : (takeFields (graph.arena.displayName reference) ⟨graph.nextId, reference⟩ []
      spec.fields).runOn (graph.bindNext reference) =
        (.ok fields, graph.prepared reference spec) :=
    runOn_takeFields _ _ _ _ _
  have horder : (putInOrder fields).runOn (graph.prepared reference spec) =
      (if (graph.bindNext reference).canOrder fields then .ok ordered
        else .error .unfinishedModel, graph.prepared reference spec) :=
    runOn_putInOrder _ _
  have hadopt : (adopt graph.nextId spec.bases).runOn (graph.prepared reference spec) =
      (.ok (), graph.adopted reference spec) :=
    runOn_adopt _ _ _
  have hstore : (store ((graph.adopted reference spec).modelOf reference spec ordered)).runOn
      (graph.adopted reference spec) = (.ok (), graph.grow reference spec) := by
    rw [modelOf_adopted]
    rfl
  simp only [addInPlace, hgiven]
  rw [runOn_bind_of_ok (runOn_get graph), htemplate, if_neg Bool.false_ne_true,
    runOn_bind_of_ok (runOn_occupy_of_none hfree), runOn_bind_of_ok hfields]
  cases hcan : (graph.bindNext reference).canOrder fields with
  | false =>
    rw [hcan, if_neg Bool.false_ne_true] at horder
    rw [runOn_bind_of_error horder, if_neg Bool.false_ne_true]
  | true =>
    rw [hcan, if_pos rfl] at horder
    rw [runOn_bind_of_ok horder, runOn_bind_of_ok hadopt, runOn_bind_of_ok (runOn_get _),
      runOn_bind_of_ok hstore, if_pos rfl]
    rfl

/-- A model is refused, and the graph stays as it is, or its reference is free, and it depends on
    the order of its fields whether it is added. -/
theorem runOn_addInPlace_cases (graph : Graph) (spec : ModelSpec) :
    (graph.Refuses spec ∧ ∃ failure, failure ≠ .unfinishedModel ∧
      (addInPlace spec).runOn graph = (.error failure, graph)) ∨
    (¬ graph.Refuses spec ∧ ∃ reference, spec.reference = some reference ∧
      (addInPlace spec).runOn graph =
        if (graph.bindNext reference).canOrder (graph.nextFields reference spec) then
          (.ok graph.nextId, graph.grow reference spec)
        else (.error .unfinishedModel, graph.prepared reference spec)) := by
  cases hgiven : spec.reference with
  | none =>
    refine .inl ⟨.inl hgiven, .unboundModel, nofun, ?_⟩
    simp only [addInPlace, hgiven]
    rfl
  | some reference =>
    cases htemplate : (graph.templateOf spec).isEmpty with
    | true =>
      exact .inl ⟨.inr (.inl ((graph.isEmpty_templateOf spec).1 htemplate)), .noTemplate _, nofun,
        runOn_addInPlace_of_isEmpty hgiven htemplate⟩
    | false =>
      cases hsource : graph.sourceOf? reference with
      | some bound =>
        refine .inl ⟨.inr (.inr ⟨reference, hgiven, ?_⟩), .alreadyBound _ _, nofun,
          runOn_addInPlace_of_bound hgiven htemplate hsource⟩
        rw [hsource]
        exact Option.some_ne_none bound
      | none =>
        have htemplate' : spec.template ≠ some "" := fun hempty => by
          rw [(graph.isEmpty_templateOf spec).2 hempty] at htemplate
          cases htemplate
        exact .inr ⟨not_refuses_iff.2 ⟨reference, hgiven, htemplate', hsource⟩, reference, rfl,
          runOn_addInPlace_of_free hgiven htemplate hsource⟩

/-- Adding a model in place gives what adding it gives. -/
theorem add_eq_runOn (graph : Graph) (spec : ModelSpec) :
    graph.add spec = ((addInPlace spec).runOn graph).1.map fun id =>
      (id, ((addInPlace spec).runOn graph).2) := by
  cases hgiven : spec.reference with
  | none =>
    simp only [add, addInPlace, hgiven]
    rfl
  | some reference =>
    cases htemplate : (graph.templateOf spec).isEmpty with
    | true =>
      rw [runOn_addInPlace_of_isEmpty hgiven htemplate]
      simp only [add, hgiven, htemplate]
      rfl
    | false =>
      cases hsource : graph.sourceOf? reference with
      | some bound =>
        rw [runOn_addInPlace_of_bound hgiven htemplate hsource,
          add_of_bound hgiven htemplate hsource]
        rfl
      | none =>
        rw [runOn_addInPlace_of_free hgiven htemplate hsource,
          add_of_free hgiven htemplate hsource]
        cases (graph.bindNext reference).canOrder (graph.nextFields reference spec) <;> rfl

end

/-! ## All or nothing -/

/-- What a new model changes: it is stored behind the others, its reference is bound to it, its base
    classes have it as a further child, and names of fields that are there twice are noted. -/
structure GrownBy (graph : Graph) (reference : RefId) (spec : ModelSpec) (after : Graph) :
    Prop where
  models : after.models = graph.models ++ [graph.nextModel reference spec]
  references : ∀ place, after.arena.get? place = (graph.arena.get? place).map fun old =>
    { old with
      source := if place = reference then some graph.nextId else old.source
      children := if place ∈ spec.bases then old.children ++ [graph.nextId] else old.children }
  byPath : after.arena.byPath = graph.arena.byPath
  taken : after.arena.taken = graph.arena.taken
  diagnostics : after.diagnostics = graph.diagnostics ++ (keepFirstNames [] spec.fields).2.map
    (.duplicateField (graph.arena.displayName reference))
  options : after.options = graph.options
  extras : after.extras = graph.extras

section

variable {graph : Graph} {built : List ModelSpec}

/-- The model that is added next is nobody's child. -/
theorem Coherent.nextId_not_mem (h : graph.Coherent built) {place : RefId} {reference : Reference}
    (hplace : graph.arena.get? place = some reference) : graph.nextId ∉ reference.children := by
  rw [h.children place reference hplace, mem_childrenAmong]
  rintro ⟨spec, hspec, -⟩
  have hlt := (List.getElem?_eq_some_iff.1 hspec).1
  rw [h.length] at hlt
  exact Nat.lt_irrefl _ hlt

theorem Coherent.get?_grow (h : graph.Coherent built) (reference : RefId) (spec : ModelSpec)
    (place : RefId) :
    (graph.grow reference spec).arena.get? place = (graph.arena.get? place).map fun old =>
      { old with
        source := if place = reference then some graph.nextId else old.source
        children :=
          if place ∈ spec.bases then old.children ++ [graph.nextId] else old.children } := by
  have hchildren : (graph.grow reference spec).arena.get? place = _ :=
    (graph.arena.fill reference graph.nextId).get?_addChildren spec.bases graph.nextId place
  rw [hchildren, Arena.get?_fill]
  cases hplace : graph.arena.get? place with
  | none => simp
  | some old =>
    have hnew := h.nextId_not_mem hplace
    by_cases hreference : place = reference
    · subst hreference
      by_cases hbase : place ∈ spec.bases
      · simp [hbase, hnew]
      · simp [hbase]
    · by_cases hbase : place ∈ spec.bases
      · simp [hreference, hbase, hnew]
      · simp [hreference, hbase]

theorem Coherent.grownBy_grow (h : graph.Coherent built) (reference : RefId) (spec : ModelSpec) :
    graph.GrownBy reference spec (graph.grow reference spec) where
  models := rfl
  references := h.get?_grow reference spec
  byPath := Arena.byPath_addChildren _ _ _
  taken := Arena.taken_addChildren _ _ _
  diagnostics := rfl
  options := rfl
  extras := rfl

end

/-- A model is added as a whole or not at all. Whatever calls a graph was reached by, if a model
    that is added to it in place does not break off while its fields are put in order, then it fails
    exactly if the model has no reference, or a template of its own without a name, or a reference
    that is bound. After a failure the whole graph is as before. Otherwise the place of the model is
    the number of models before, the model is stored behind them, and nothing else changes but the
    source of its reference, the children of its base classes, and the notes about its fields. -/
theorem add_all_or_nothing {graph : Graph} {built : List ModelSpec} (hreached : Reached graph built)
    {spec : ModelSpec} {result : Except Failure ModelId} {after : Graph}
    (hrun : (addInPlace spec).runOn graph = (result, after))
    (hreturns : result ≠ .error .unfinishedModel) :
    graph.add spec = result.map (fun id => (id, after)) ∧
    ((∃ failure, result = .error failure) ↔ spec.reference = none ∨ spec.template = some "" ∨
      ∃ reference, spec.reference = some reference ∧ graph.sourceOf? reference ≠ none) ∧
    (∀ failure, result = .error failure → after = graph) ∧
    ∀ id, result = .ok id → id.index = graph.models.length ∧
      ∃ reference, spec.reference = some reference ∧ graph.GrownBy reference spec after := by
  have hadd := graph.add_eq_runOn spec
  rw [hrun] at hadd
  refine ⟨hadd, ?_⟩
  rcases graph.runOn_addInPlace_cases spec with
    ⟨hrefuses, failure, -, hcase⟩ | ⟨haccepts, reference, hgiven, hcase⟩
  · cases hrun.symm.trans hcase
    exact ⟨⟨fun _ => hrefuses, fun _ => ⟨failure, rfl⟩⟩, fun _ _ => rfl, nofun⟩
  · split at hcase
    · cases hrun.symm.trans hcase
      exact ⟨⟨nofun, fun hrefuses => absurd hrefuses haccepts⟩, nofun, fun id hid => by
        cases hid
        exact ⟨rfl, reference, hgiven, hreached.coherent.grownBy_grow reference spec⟩⟩
    · cases hrun.symm.trans hcase
      exact absurd rfl hreturns

/-- The pet is added to a graph in which its reference is free, and refused when it is added again.
    -/
theorem add_all_or_nothing_heir :
    (((addInPlace heirSpec).runOn beforeHeir).1 = .ok ⟨0⟩ ∧
      beforeHeir.GrownBy ⟨1⟩ heirSpec ((addInPlace heirSpec).runOn beforeHeir).2) ∧
    (∃ failure, ((addInPlace heirSpec).runOn renamedHeir).1 = .error failure) ∧
      ((addInPlace heirSpec).runOn renamedHeir).2 = renamedHeir := by
  have hbefore : Reached beforeHeir [] :=
    .call (.reference "#/Pet" "Pet")
      (.call (.reference "#/Animal" "Animal") (.empty {} {}) trivial) trivial
  have hadded : (addInPlace heirSpec).runOn beforeHeir =
    (.ok ⟨0⟩, ((addInPlace heirSpec).runOn beforeHeir).2) := rfl
  obtain ⟨-, -, -, hok⟩ := add_all_or_nothing hbefore hadded nofun
  obtain ⟨-, reference, hgiven, hgrown⟩ := hok ⟨0⟩ rfl
  cases hgiven
  have hrefused : (addInPlace heirSpec).runOn renamedHeir =
    (.error (.alreadyBound "#/Pet" 0), ((addInPlace heirSpec).runOn renamedHeir).2) := rfl
  obtain ⟨-, -, herror, -⟩ := add_all_or_nothing reached_renamedHeir hrefused nofun
  exact ⟨⟨congrArg Prod.fst hadded, hgrown⟩, ⟨_, congrArg Prod.fst hrefused⟩, herror _ rfl⟩

end SchemaPress.Graph
