import SchemaPress.Proofs.Arena.Calls
import SchemaPress.Proofs.Graph.Defined
import SchemaPress.Proofs.Python.ClassName
import SchemaPress.Proofs.Schema.Models
import SchemaPress.Proofs.Text.Cut

set_option autoImplicit false

/-! # The names of classes

A reference is given a display name that no other reference has: the name that was asked for, or
that name with a number behind it. The class of a model is called by the last segment of the display
name, so two models have the same class name only if their display names differ before the last dot.
Of the names that a document makes up none has a dot. Classes of the same name therefore come from
dotted names that were written for classes: the names of the definitions, or the class name among
the options (`class_names_apart`). -/

namespace SchemaPress

/-! ## Names in an arena -/

namespace Arena

/-- The parts of an arena agree, and the names that were asked for have some property. -/
structure Named (asked : String → Prop) (arena : Arena) : Prop extends arena.Consistent where
  asked : ∀ identity ∈ arena.identities, asked identity.declaredName

variable {asked : String → Prop} {arena : Arena}

theorem named_empty (asked : String → Prop) : ({} : Arena).Named asked where
  toConsistent := consistent_empty
  asked := by simp [identities]

theorem Named.allocate (h : arena.Named asked) (path : String) {name : String}
    (hname : asked name) : (arena.allocate path name).2.Named asked where
  toConsistent := h.toConsistent.allocate path name
  asked := by
    cases hfind : arena.find? path with
    | some id =>
      rw [allocate_of_find? hfind]
      exact h.asked
    | none =>
      rw [identities_allocate_of_find?_eq_none hfind, List.forall_mem_append]
      exact ⟨h.asked, by simpa using hname⟩

theorem Named.grownUnder {names : String → Prop} {later : Arena} (h : arena.Named asked)
    (hgrown : arena.GrownUnder names later) (hnames : ∀ name, names name → asked name) :
    later.Named asked := by
  induction hgrown with
  | refl => exact h
  | allocate path hname _ ih => exact ih.allocate path (hnames _ hname)

theorem Named.congr (h : arena.Named asked) {other : Arena} (hsame : arena.SameNames other) :
    other.Named asked where
  toConsistent := h.toConsistent.congr hsame
  asked := hsame.identities ▸ h.asked

/-- References with different display names and the same class name have different packages, and at
    least one of them was asked for under a dotted name. -/
theorem Named.dotted_of_shortName_eq (h : arena.Named asked) {id id' : RefId}
    {reference reference' : Reference} (hid : arena.get? id = some reference)
    (hid' : arena.get? id' = some reference') (hne : id ≠ id')
    (hshort : reference.shortName = reference'.shortName) :
    Text.package? reference.name ≠ Text.package? reference'.name ∧
      ('.' ∈ reference.declaredName.toList ∨ '.' ∈ reference'.declaredName.toList) := by
  have hname : reference.name ≠ reference'.name := fun hname =>
    hne (h.toConsistent.eq_of_name_eq hid hid' hname)
  refine ⟨fun hpackage => hname (Text.eq_of_lastSegment_eq hpackage hshort), ?_⟩
  have hdeclared : ∀ {id : RefId} {reference : Reference}, arena.get? id = some reference →
      '.' ∈ reference.name.toList → '.' ∈ reference.declaredName.toList := by
    intro id reference hid hdot
    obtain ⟨count, hcandidate⟩ := h.numbered _ (identity_mem_identities hid)
    exact dot_mem_of_mem_nameCandidates hcandidate hdot
  -- two names without dots are their own last segments
  by_cases hdot : '.' ∈ reference.name.toList
  · exact Or.inl (hdeclared hid hdot)
  · by_cases hdot' : '.' ∈ reference'.name.toList
    · exact Or.inr (hdeclared hid' hdot')
    · have hsame : reference.name = reference'.name := by
        rw [← Text.lastSegment_eq_self hdot, ← Text.lastSegment_eq_self hdot']
        exact hshort
      exact absurd hsame hname

end Arena

/-! ## Names that documents ask for -/

namespace Document

/-- The names that are written for classes and taken as they are: those of the definitions, or the
    class name among the options. -/
def givenNames (options : Options) : Document → List String
  | ofSchema _ => options.className.toList
  | ofModels document => document.models.map (·.name)

/-- A name is only dotted if it was written that way. -/
def Asks (document : Document) (options : Options) (name : String) : Prop :=
  '.' ∈ name.toList → name ∈ document.givenNames options

end Document

/-- Names that lowering makes have no dots. -/
theorem Schema.MadeName.dot_not_mem {name : String} (h : MadeName name) : '.' ∉ name.toList := by
  induction h with
  | short arena reference =>
    unfold Arena.shortName
    cases arena.get? reference with
    | none => decide
    | some found => exact Text.dot_not_mem_lastSegment found.name
  | item _ ih => simpa using ih
  | property name _ ih => simpa using ⟨ih, Python.dot_not_mem_className name⟩

/-- The name of the root is only dotted if the options name it. -/
theorem Schema.rootName_mem_of_dot {schema : Schema} {options : Options}
    (h : '.' ∈ (rootName options schema).toList) :
    rootName options schema ∈ options.className.toList := by
  unfold rootName at h ⊢
  cases hname : options.className with
  | some name => simp
  | none =>
    rw [hname, Option.getD_none] at h
    cases htitle : schema.title with
    | none =>
      rw [htitle] at h
      exact absurd h (by decide)
    | some title =>
      rw [htitle] at h
      exact absurd h (Python.dot_not_mem_className title)

/-- The entries of a schema ask for class names, and for the name among the options. -/
theorem Schema.asks_of_mem_entries {schema : Schema} {options : Options} {entry : Schema.Entry}
    (h : entry ∈ schema.entries options) :
    (Document.ofSchema schema).Asks options entry.name := by
  simp only [entries, List.mem_append, List.mem_map] at h
  rcases h with (h | ⟨definition, -, rfl⟩) | ⟨definition, -, rfl⟩
  · split at h
    · exact absurd h List.not_mem_nil
    · rw [List.mem_singleton.1 h]
      exact rootName_mem_of_dot
  · exact fun hdot => absurd hdot (Python.dot_not_mem_className definition.1)
  · exact fun hdot => absurd hdot (Python.dot_not_mem_className definition.1)

theorem ModelsDocument.named_of_allocateAll {asked : String → Prop} {definitions : List ModelDef}
    {graph lowered : Graph} {known all : Entries RefId}
    (hasked : ∀ definition ∈ definitions, asked definition.name)
    (hgraph : graph.arena.Named asked)
    (h : allocateAll graph known definitions = .ok (all, lowered)) :
    lowered.arena.Named asked := by
  induction definitions generalizing graph known with
  | nil =>
    cases h
    exact hgraph
  | cons definition rest ih =>
    rw [allocateAll] at h
    split at h
    · cases h
    · refine ih (fun other hother => hasked other (List.mem_cons_of_mem _ hother)) ?_ h
      exact hgraph.allocate definition.pathOrName (hasked definition List.mem_cons_self)

theorem Schema.named_of_allocateEntries {asked : String → Prop} {entries : List Schema.Entry}
    {arena : Arena} (hasked : ∀ entry ∈ entries, asked entry.name) (harena : arena.Named asked)
    (known : Entries RefId) : (allocateEntries arena known entries).2.Named asked := by
  induction entries generalizing arena known with
  | nil => exact harena
  | cons entry rest ih =>
    exact ih (fun other hother => hasked other (List.mem_cons_of_mem _ hother))
      (harena.allocate entry.path (hasked entry List.mem_cons_self)) _

/-- A document gives its references names of their own, dotted only where it was written so. -/
theorem Document.named_of_lower {document : Document} {registry : TypeRegistry}
    {graph lowered : Graph} {specs : List ModelSpec}
    (hgraph : graph.arena.Named (document.Asks graph.options))
    (h : document.lower registry graph = .ok (specs, lowered)) :
    lowered.arena.Named (document.Asks graph.options) := by
  cases document with
  | ofSchema schema =>
    have h : schema.lower registry graph = .ok (specs, lowered) := h
    have hentries : (schema.draftIn graph).arena.Named _ :=
      Schema.named_of_allocateEntries (fun _ => Schema.asks_of_mem_entries) hgraph []
    exact hentries.grownUnder (Schema.grownUnder_of_lower h) fun name hname hdot =>
      absurd hdot hname.dot_not_mem
  | ofModels document =>
    have h : document.lower registry graph = .ok (specs, lowered) := h
    unfold ModelsDocument.lower at h
    obtain ⟨⟨known, allocated⟩, hall, h⟩ := bind_eq_ok_iff.1 h
    obtain ⟨specs', -, h⟩ := bind_eq_ok_iff.1 h
    cases h
    exact ModelsDocument.named_of_allocateAll
      (fun definition hdefinition _ => List.mem_map_of_mem hdefinition) hgraph hall

namespace Graph

/-! ## Names in a graph -/

/-- What stands before the last dot of the display name of a model. -/
def packageOf? (graph : Graph) (model : Model) : Option String :=
  Text.package? (graph.arena.displayName model.reference)

/-- The name that was asked for a model. -/
def declaredName? (graph : Graph) (model : Model) : Option String :=
  (graph.arena.get? model.reference).map (·.declaredName)

section

variable {graph : Graph} {built : List ModelSpec} {asked : String → Prop}

/-- A property of pairs of models in different places holds of each model and every later one. -/
theorem Coherent.pairwise_models (h : graph.Coherent built) {r : Model → Model → Prop}
    (hr : ∀ a ∈ graph.models, ∀ b ∈ graph.models, a.id ≠ b.id → r a b) :
    graph.models.Pairwise r := by
  rw [List.pairwise_iff_getElem]
  intro i j hi hj hlt
  refine hr _ (List.getElem_mem hi) _ (List.getElem_mem hj) ?_
  rw [h.id_eq (List.getElem?_eq_getElem hi), h.id_eq (List.getElem?_eq_getElem hj)]
  exact fun hij => absurd (ModelId.mk.inj hij) (Nat.ne_of_lt hlt)

/-- Models with the same class name have different packages, and one of them was asked for under a
    dotted name. -/
theorem Coherent.dotted_of_className_eq (h : graph.Coherent built)
    (hnamed : graph.arena.Named asked) {a b : Model} (ha : a ∈ graph.models)
    (hb : b ∈ graph.models) (hne : a.id ≠ b.id) (hclass : graph.className a = graph.className b) :
    graph.packageOf? a ≠ graph.packageOf? b ∧
      ∃ model ∈ [a, b], ∃ name, asked name ∧ '.' ∈ name.toList ∧
        graph.declaredName? model = some name := by
  have hsource := h.sourceOf?_reference ha
  have hsource' := h.sourceOf?_reference hb
  have hreferences : a.reference ≠ b.reference := by
    intro heq
    rw [heq, hsource'] at hsource
    exact hne (Option.some.inj hsource).symm
  obtain ⟨first, hfirst, -⟩ := Option.bind_eq_some_iff.1 hsource
  obtain ⟨second, hsecond, -⟩ := Option.bind_eq_some_iff.1 hsource'
  have hshort : first.shortName = second.shortName := by
    simpa [className, Arena.shortName, hfirst, hsecond] using hclass
  obtain ⟨hpackage, hdot⟩ := hnamed.dotted_of_shortName_eq hfirst hsecond hreferences hshort
  have hasked : ∀ {id : RefId} {reference : Reference}, graph.arena.get? id = some reference →
      asked reference.declaredName := fun hid =>
    hnamed.asked _ (Arena.identity_mem_identities hid)
  refine ⟨by simpa [packageOf?, Arena.displayName, hfirst, hsecond] using hpackage, ?_⟩
  rcases hdot with hdot | hdot
  · exact ⟨a, by simp, first.declaredName, hasked hfirst, hdot, by simp [declaredName?, hfirst]⟩
  · exact ⟨b, by simp, second.declaredName, hasked hsecond, hdot, by simp [declaredName?, hsecond]⟩

end

/-- The references of a built document have names of their own. -/
theorem named_of_ofDocument {options : Options} {extras : Extras} {registry : TypeRegistry}
    {document : Document} {graph : Graph}
    (h : ofDocument options extras registry document = .ok graph) :
    graph.arena.Named (document.Asks options) := by
  obtain ⟨specs, lowered, hlower, hbuild⟩ := built_of_ofDocument h
  have hlowered : lowered.arena.Named (document.Asks options) :=
    Document.named_of_lower (Arena.named_empty _) hlower
  have hsame : lowered.arena.SameNames (lowered.build specs).2.arena := lowered.sameNames_addAll _
  rw [hbuild] at hsame
  exact hlowered.congr hsame

/-- Different models of the graph of a document have different display names: the names of their
    classes differ, or what stands before the last dots does. Models with the same class name are
    apart only by a dotted name that was written for one of them, as the name of a definition or as
    the class name among the options. So the classes of a document without such names all have
    different names. -/
theorem class_names_apart {options : Options} {extras : Extras} {registry : TypeRegistry}
    {document : Document} {graph : Graph}
    (h : ofDocument options extras registry document = .ok graph) :
    (graph.models.map fun model => (graph.packageOf? model, graph.className model)).Nodup ∧
    (∀ a ∈ graph.models, ∀ b ∈ graph.models, a.id ≠ b.id →
      graph.className a = graph.className b →
      ∃ model ∈ [a, b], ∃ name ∈ document.givenNames options,
        '.' ∈ name.toList ∧ graph.declaredName? model = some name) ∧
    ((∀ name ∈ document.givenNames options, '.' ∉ name.toList) →
      (graph.models.map graph.className).Nodup) := by
  obtain ⟨specs, lowered, -, -, hreached⟩ := reached_of_ofDocument h
  have hcoherent := hreached.coherent
  have hdotted : ∀ a ∈ graph.models, ∀ b ∈ graph.models, a.id ≠ b.id →
      graph.className a = graph.className b → graph.packageOf? a ≠ graph.packageOf? b ∧
      ∃ model ∈ [a, b], ∃ name ∈ document.givenNames options,
        '.' ∈ name.toList ∧ graph.declaredName? model = some name := by
    intro a ha b hb hne hclass
    obtain ⟨hpackage, model, hmodel, name, hasked, hdot, hname⟩ :=
      hcoherent.dotted_of_className_eq (named_of_ofDocument h) ha hb hne hclass
    exact ⟨hpackage, model, hmodel, name, hasked hdot, hdot, hname⟩
  refine ⟨?_, fun a ha b hb hne hclass => (hdotted a ha b hb hne hclass).2, fun hplain => ?_⟩
  · refine List.pairwise_map.2 (hcoherent.pairwise_models fun a ha b hb hne heq => ?_)
    obtain ⟨hpackage, hclass⟩ := Prod.mk.inj heq
    exact (hdotted a ha b hb hne hclass).1 hpackage
  · refine List.pairwise_map.2 (hcoherent.pairwise_models fun a ha b hb hne hclass => ?_)
    obtain ⟨-, model, -, name, hname, hdot, -⟩ := hdotted a ha b hb hne hclass
    exact hplain name hname hdot

/-- Two definitions whose names differ before the last dot only. -/
def petsOfTwoPackages : Document :=
  .ofModels
    { models :=
        [{ name := "zoo.Pet", fields := [{ name := some "cage", type := "int" }] },
          { name := "home.Pet", fields := [{ name := some "owner", type := "str" }] }] }

/-- A schema called like one of its definitions. -/
def petWithPet : Document :=
  .ofSchema
    { title := some "Pet"
      properties := [("mate", { pointer := some "#/$defs/pet" })]
      defs := [("pet", { properties := [("name", { types := some ["string"] })] })] }

/-- The classes of both packages are called `Pet`, and only their packages keep them apart. Where no
    name is dotted, a number does. -/
theorem class_names_apart_pets :
    (∃ graph, ofDocument {} {} {} petsOfTwoPackages = .ok graph ∧
      graph.models.map graph.className = ["Pet", "Pet"] ∧
      (graph.models.map fun model => (graph.packageOf? model, graph.className model)).Nodup) ∧
    ∃ graph, ofDocument {} {} {} petWithPet = .ok graph ∧
      graph.models.map graph.className = ["Pet", "Pet1"] ∧
      (graph.models.map graph.className).Nodup := by
  have hpackages : (ofDocument {} {} {} petsOfTwoPackages).toOption.map (fun graph =>
      graph.models.map graph.className) = some ["Pet", "Pet"] := by decide +kernel
  have hnumbered : (ofDocument {} {} {} petWithPet).toOption.map (fun graph =>
      graph.models.map graph.className) = some ["Pet", "Pet1"] := by decide +kernel
  obtain ⟨packaged, hpackaged, hclasses⟩ := exists_of_toOption_map hpackages
  obtain ⟨graph, hgraph, hclasses'⟩ := exists_of_toOption_map hnumbered
  have hplain : ∀ name ∈ petWithPet.givenNames {}, '.' ∉ name.toList := by
    simp [petWithPet, Document.givenNames]
  exact ⟨⟨packaged, hpackaged, hclasses, (class_names_apart hpackaged).1⟩,
    graph, hgraph, hclasses', (class_names_apart hgraph).2.2 hplain⟩

end Graph

end SchemaPress
