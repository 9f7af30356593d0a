import SchemaPress.Proofs.Config
import SchemaPress.Proofs.Entries
import SchemaPress.Proofs.Field.Required
import SchemaPress.Proofs.Json.Numeral

set_option autoImplicit false

/-! # What becomes of extras

The extras of a field end up in its call. In pydantic 2 there are three ways: an extra that the
call knows is an argument of its own, an example without a list of examples beside it becomes such
a list, and all that is left goes into one dictionary, which is the argument `json_schema_extra`.
An extra of that very name is known to the call as well, so that two writers share one argument:
where both have something to say, the dictionary wins, and that extra is the only one that the call
does not carry. -/

namespace SchemaPress

/-! ## Arguments by name -/

/-- A name that `=` can end. -/
def CallDialect.isPlain (name : String) : Bool :=
  name.toList.all (· != '=')

/-- What stands in front of the first `=` and what stands behind it are both determined. -/
theorem CallDialect.argument_inj {name other value text : String} (hname : isPlain name = true)
    (hother : isPlain other = true) (h : name ++ "=" ++ value = other ++ "=" ++ text) :
    name = other ∧ value = text := by
  have hlist : name.toList ++ '=' :: value.toList = other.toList ++ '=' :: text.toList := by
    simpa using congrArg String.toList h
  have hstop : ∀ rest : List Char, ('=' :: rest).takeWhile (· != '=') = [] := fun _ => rfl
  obtain ⟨hfront, hback⟩ :=
    Text.takeWhile_append_stop (List.all_eq_true.1 hname) (hstop value.toList)
  obtain ⟨hfront', hback'⟩ :=
    Text.takeWhile_append_stop (List.all_eq_true.1 hother) (hstop text.toList)
  rw [hlist] at hfront hback
  refine ⟨String.toList_injective (hfront.symm.trans hfront'), ?_⟩
  exact String.toList_injective (List.cons.inj (hback.symm.trans hback')).2

namespace Field

open CallDialect (pydantic2 callOf IsRelease)

/-! ## The three ways -/

/-- Whether the extras give a list of examples. -/
def listsExamples (field : Field) : Bool :=
  field.extras.any fun entry => entry.1 == "examples" && !entry.2.isNull

/-- An example that no list of examples stands beside. -/
def LoneExample (field : Field) (name : String) : Prop :=
  name = "example" ∧ field.listsExamples = false

/-- The extras of a field for pydantic 2 that are neither arguments nor examples. -/
def gathered (field : Field) : Entries Value :=
  field.extras.filter fun entry =>
    !pydantic2.excluded.contains entry.1 && !entry.2.isNull && !pydantic2.knows entry.1 &&
      !(entry.1 == "example" && !field.listsExamples)

/-- An extra that the call of pydantic 2 should say something about: it is not null, no other part
    of the field decides it, and it is neither the factory nor the docstring. -/
structure Speaks (field : Field) (name : String) (value : Value) : Prop where
  mem : (name, value) ∈ field.extras
  not_null : value.isNull = false
  not_excluded : name ∉ pydantic2.excluded
  not_factory : name ≠ "default_factory"
  not_docstring : ¬ (name = "description" ∧ field.useFieldDescription = true)

/-- The ways in which the arguments of a call can carry an extra. -/
inductive Carried (field : Field) (name : String) (value : Value) (arguments : List String) : Prop
  | argument : pydantic2.knows name = true →
      name ++ "=" ++ Python.literal value ∈ arguments → Carried field name value arguments
  | examples : field.LoneExample name →
      "examples=" ++ Python.literal (.arr [value]) ∈ arguments → Carried field name value arguments
  | entry {dictionary : Entries Value} : pydantic2.knows name = false → ¬ field.LoneExample name →
      (name, value) ∈ dictionary →
      "json_schema_extra=" ++ Python.literal (.obj dictionary) ∈ arguments →
      Carried field name value arguments

/-- The extra whose argument is the dictionary of others. -/
def Displaced (field : Field) (name : String) (value : Value) : Prop :=
  name = "json_schema_extra" ∧ field.gathered ≠ [] ∧
    Python.literal value ≠ Python.literal (.obj field.gathered)

/-- The arguments of the call of pydantic 2 behind the one that leads them. -/
def details (field : Field) : List String :=
  Text.sorted ((pydantic2.arguments field).map fun entry => entry.1 ++ "=" ++ entry.2)

variable {field : Field}

/-! ## Usable extras -/

/-- The extras that are not null and that no other part of the field decides. -/
def present (field : Field) : Entries Value :=
  field.extras.filter fun entry => !pydantic2.excluded.contains entry.1 && !entry.2.isNull

/-- They look as if a lone example had been a list. -/
def listed (field : Field) : Entries Value :=
  if field.listsExamples then field.present
  else
    match Entries.get? field.present "example" with
    | some sample => Entries.put (Entries.drop field.present "example") "examples" (.arr [sample])
    | none => field.present

theorem mem_present {name : String} {value : Value} :
    (name, value) ∈ field.present ↔
      (name, value) ∈ field.extras ∧ name ∉ pydantic2.excluded ∧ value.isNull = false := by
  simp [present, List.mem_filter]

theorem has_present_examples (field : Field) :
    Entries.has field.present "examples" = field.listsExamples := by
  unfold Entries.has present listsExamples
  rw [List.any_filter]
  congr 1
  funext entry
  by_cases hname : entry.1 = "examples"
  · have hkept : pydantic2.excluded.contains "examples" = false := by decide
    rw [hname, hkept, Bool.not_false, Bool.true_and, Bool.and_comm]
  · rw [beq_eq_false_iff_ne.2 hname, Bool.and_false, Bool.false_and]

/-- The extras that a call uses, in two steps. -/
theorem usableExtras_eq (field : Field) :
    pydantic2.usableExtras field =
      if field.useFieldDescription then Entries.drop field.listed "description"
      else field.listed := by
  show (fun extras => if field.useFieldDescription then Entries.drop extras "description"
    else extras) (ite _ _ field.present) = _
  refine congrArg (fun extras => if field.useFieldDescription then
    Entries.drop extras "description" else extras) ?_
  rw [listed]
  split
  · rename_i hlists
    have hlone : (true && !Entries.has field.present "examples") = true := hlists
    rw [has_present_examples, Bool.true_and, Bool.not_eq_true'] at hlone
    rw [hlone]
    rfl
  · rename_i hlists
    have hbeside : ¬ (true && !Entries.has field.present "examples") = true := hlists
    rw [has_present_examples, Bool.true_and, Bool.not_eq_true', Bool.not_eq_false] at hbeside
    rw [hbeside]
    rfl

/-- An extra that is no lone example is still there. -/
theorem get?_listed (hnames : (Entries.names field.extras).Nodup) {name : String} {value : Value}
    (hmem : (name, value) ∈ field.present) (hlone : ¬ field.LoneExample name) :
    Entries.get? field.listed name = some value := by
  have hvalue : Entries.get? field.present name = some value :=
    (Entries.get?_eq_some_iff_mem (Entries.nodup_filter hnames _)).2 hmem
  unfold listed
  split
  · exact hvalue
  · rename_i hlists
    rw [Bool.not_eq_true] at hlists
    have hexample : name ≠ "example" := fun hname => hlone ⟨hname, hlists⟩
    have hexamples : name ≠ "examples" := by
      rintro rfl
      have hhas : Entries.has field.present "examples" = true :=
        List.any_eq_true.2 ⟨_, hmem, beq_self_eq_true _⟩
      rw [has_present_examples, hlists] at hhas
      cases hhas
    split
    · rw [Entries.get?_put, if_neg hexamples, Entries.get?_drop, if_neg hexample, hvalue]
    · exact hvalue

/-- A lone example is a list of one. -/
theorem get?_listed_examples (hnames : (Entries.names field.extras).Nodup) {name : String}
    {value : Value} (hmem : (name, value) ∈ field.present) (hlone : field.LoneExample name) :
    Entries.get? field.listed "examples" = some (.arr [value]) := by
  obtain ⟨rfl, hlists⟩ := hlone
  have hvalue : Entries.get? field.present "example" = some value :=
    (Entries.get?_eq_some_iff_mem (Entries.nodup_filter hnames _)).2 hmem
  unfold listed
  rw [if_neg (by simp [hlists]), hvalue]
  exact (Entries.get?_put _ _ _ _).trans (if_pos rfl)

theorem nodup_listed (hnames : (Entries.names field.extras).Nodup) :
    (Entries.names field.listed).Nodup := by
  have hpresent : (Entries.names field.present).Nodup := Entries.nodup_filter hnames _
  unfold listed
  split
  · exact hpresent
  · split
    · exact Entries.nodup_put (Entries.nodup_filter hpresent _) _ _
    · exact hpresent

/-- The extras that become arguments: all that a call uses but the factory. -/
def argumentExtras (field : Field) : Entries Value :=
  Entries.drop (pydantic2.usableExtras field) "default_factory"

theorem get?_argumentExtras {name : String} (hfactory : name ≠ "default_factory")
    (hdocstring : ¬ (name = "description" ∧ field.useFieldDescription = true)) :
    Entries.get? field.argumentExtras name = Entries.get? field.listed name := by
  unfold argumentExtras
  rw [Entries.get?_drop, if_neg hfactory, usableExtras_eq]
  split
  · rename_i huse
    rw [Entries.get?_drop, if_neg fun hname => hdocstring ⟨hname, huse⟩]
  · rfl

theorem nodup_argumentExtras (hnames : (Entries.names field.extras).Nodup) :
    (Entries.names field.argumentExtras).Nodup := by
  unfold argumentExtras
  rw [usableExtras_eq]
  refine Entries.nodup_filter ?_ _
  split
  · exact Entries.nodup_filter (nodup_listed hnames) _
  · exact nodup_listed hnames

/-- What the call does not know of them are the gathered extras: the steps before touch only names
    that the call knows, but for the lone example. -/
theorem unknown_argumentExtras (field : Field) :
    field.argumentExtras.filter (fun entry => !pydantic2.knows entry.1) = field.gathered := by
  have hlisted : field.listed.filter (fun entry => !pydantic2.knows entry.1) =
      (if field.listsExamples then field.present
        else Entries.drop field.present "example").filter fun entry =>
          !pydantic2.knows entry.1 := by
    unfold listed
    split
    · rfl
    · split
      · exact Entries.filter_put (p := fun name => !pydantic2.knows name) (by decide) _ _
      · rename_i hnone
        rw [Entries.drop_eq_self hnone]
  have hargument : field.argumentExtras.filter (fun entry => !pydantic2.knows entry.1) =
      field.listed.filter fun entry => !pydantic2.knows entry.1 := by
    unfold argumentExtras
    rw [Entries.filter_drop (p := fun name => !pydantic2.knows name) (by decide), usableExtras_eq]
    split
    · exact Entries.filter_drop (p := fun name => !pydantic2.knows name) (by decide) _
    · rfl
  rw [hargument, hlisted]
  unfold gathered
  cases hlists : field.listsExamples with
  | true => simp [present, List.filter_filter, Bool.and_comm, Bool.and_left_comm]
  | false =>
    simp [present, Entries.drop, List.filter_filter, Bool.and_comm, Bool.and_left_comm, bne]

/-! ## Arguments -/

/-- The argument of each name that comes from extras. -/
theorem get?_extraArguments (extras : Entries Value) (name : String) :
    Entries.get? (pydantic2.extraArguments extras) name =
      if name = "json_schema_extra" ∧
          extras.filter (fun entry => !pydantic2.knows entry.1) ≠ [] then
        some (Python.literal (.obj (extras.filter fun entry => !pydantic2.knows entry.1)))
      else if pydantic2.knows name = true then (Entries.get? extras name).map Python.literal
      else none := by
  have hdirect : Entries.get? (Entries.mapValues Python.literal
      (extras.filter fun entry => pydantic2.knows entry.1)) name =
      if pydantic2.knows name = true then (Entries.get? extras name).map Python.literal
      else none := by
    rw [Entries.get?_mapValues, Entries.get?_filter]
    split <;> rfl
  unfold CallDialect.extraArguments
  simp only [List.isEmpty_iff]
  by_cases hnone : extras.filter (fun entry => !pydantic2.knows entry.1) = []
  · rw [if_pos hnone, if_neg fun h => h.2 hnone, hdirect]
  · rw [if_neg hnone, Entries.get?_put]
    by_cases hname : name = "json_schema_extra"
    · rw [if_pos hname, if_pos ⟨hname, hnone⟩]
    · rw [if_neg hname, hdirect, if_neg (c := _ ∧ _) fun h => hname h.1]

/-- Constraints write only names that extras cannot have. -/
theorem names_constraintArguments {name : String}
    (h : name ∈ Entries.names (pydantic2.constraintArguments field)) :
    name ∈ pydantic2.excluded := by
  obtain ⟨entry, hentry, rfl⟩ := List.mem_map.1 h
  obtain ⟨⟨kind, bound⟩, -, hkind⟩ := List.mem_filterMap.1 hentry
  obtain ⟨argument, hargument, rfl⟩ := Option.map_eq_some_iff.1 hkind
  show argument ∈ pydantic2.excluded
  cases kind <;> cases hargument <;> decide

/-- The arguments of pydantic 2: those from extras, under the alias and the constraints. -/
theorem arguments_eq (field : Field) :
    ∃ aliased, pydantic2.arguments field =
        Entries.overlay aliased (pydantic2.constraintArguments field) ∧
      (aliased = pydantic2.extraArguments field.argumentExtras ∨ ∃ text,
        aliased = Entries.put (pydantic2.extraArguments field.argumentExtras) "alias" text) := by
  unfold CallDialect.arguments
  cases field.wireName with
  | none => exact ⟨_, rfl, Or.inl rfl⟩
  | some name => exact ⟨_, rfl, Or.inr ⟨_, rfl⟩⟩

theorem get?_arguments {name : String} (h : name ∉ pydantic2.excluded) :
    Entries.get? (pydantic2.arguments field) name =
      Entries.get? (pydantic2.extraArguments field.argumentExtras) name := by
  obtain ⟨aliased, heq, haliased⟩ := arguments_eq field
  rw [heq, Entries.get?_overlay_of_notMem fun hmem => h (names_constraintArguments hmem)]
  rcases haliased with rfl | ⟨text, rfl⟩
  · rfl
  · have hne : name ≠ "alias" := fun hname => h (hname ▸ by decide)
    rw [Entries.get?_put, if_neg hne]

theorem nodup_arguments (hnames : (Entries.names field.extras).Nodup) :
    (Entries.names (pydantic2.arguments field)).Nodup := by
  have hextra : (Entries.names (pydantic2.extraArguments field.argumentExtras)).Nodup := by
    have hdirect : ∀ p, (Entries.names (Entries.mapValues Python.literal
        (field.argumentExtras.filter p))).Nodup := fun p =>
      Entries.nodup_mapValues (Entries.nodup_filter (nodup_argumentExtras hnames) p) _
    unfold CallDialect.extraArguments
    simp only
    split
    · exact hdirect _
    · exact Entries.nodup_put (hdirect _) _ _
  obtain ⟨aliased, heq, haliased⟩ := arguments_eq field
  rw [heq]
  refine Entries.nodup_overlay ?_ _
  rcases haliased with rfl | ⟨text, rfl⟩
  · exact hextra
  · exact Entries.nodup_put hextra _ _

theorem isPlain_of_knows {name : String} (h : pydantic2.knows name = true) :
    CallDialect.isPlain name = true := by
  have hknown : ∀ name ∈ pydantic2.known.getD [], CallDialect.isPlain name = true :=
    List.all_eq_true.1 (by decide +kernel)
  exact hknown name (List.contains_iff_mem.1 h)

/-- Arguments have plain names: the call knows them, or it writes them by itself. -/
theorem isPlain_of_mem_arguments {entry : String × String}
    (h : entry ∈ pydantic2.arguments field) : CallDialect.isPlain entry.1 = true := by
  have hown : ∀ name ∈ CallDialect.ownArguments, CallDialect.isPlain name = true :=
    List.all_eq_true.1 (by decide +kernel)
  have hrelease : IsRelease pydantic2 := Or.inl rfl
  rcases hrelease.name_of_mem_arguments h with hmem | hmem
  · exact hown _ hmem
  · unfold CallDialect.extraArguments at hmem
    have hdirect : ∀ {extras : Entries Value}, entry ∈ Entries.mapValues Python.literal
        (extras.filter fun entry => pydantic2.knows entry.1) →
        CallDialect.isPlain entry.1 = true := by
      intro extras hentry
      obtain ⟨extra, hextra, rfl⟩ := List.mem_map.1 hentry
      exact isPlain_of_knows (List.mem_filter.1 hextra).2
    simp only at hmem
    split at hmem
    · exact hdirect hmem
    · rcases Entries.mem_put hmem with hname | hmem
      · exact hown _ (hname ▸ by decide)
      · exact hdirect hmem

/-- The details say of a name what the arguments have under it. -/
theorem mem_details_iff (hnames : (Entries.names field.extras).Nodup) {name text : String}
    (hplain : CallDialect.isPlain name = true) :
    name ++ "=" ++ text ∈ field.details ↔
      Entries.get? (pydantic2.arguments field) name = some text := by
  unfold details
  rw [Text.mem_sorted, Entries.get?_eq_some_iff_mem (nodup_arguments hnames), List.mem_map]
  constructor
  · rintro ⟨⟨other, value⟩, hmem, htext⟩
    obtain ⟨rfl, rfl⟩ := CallDialect.argument_inj (isPlain_of_mem_arguments hmem) hplain htext
    exact hmem
  · intro hmem
    exact ⟨_, hmem, rfl⟩

/-- The dictionary is written where there is something in it. -/
theorem get?_dictionary (h : field.gathered ≠ []) :
    Entries.get? (pydantic2.arguments field) "json_schema_extra" =
      some (Python.literal (.obj field.gathered)) := by
  rw [get?_arguments (by decide), get?_extraArguments, unknown_argumentExtras, if_pos ⟨rfl, h⟩]

theorem Speaks.mem_present {name : String} {value : Value} (h : field.Speaks name value) :
    (name, value) ∈ field.present :=
  Field.mem_present.2 ⟨h.mem, h.not_excluded, h.not_null⟩

/-- An extra that the call knows is an argument, if the dictionary leaves it its place. -/
theorem Speaks.get?_argument (hnames : (Entries.names field.extras).Nodup) {name : String}
    {value : Value} (h : field.Speaks name value) (hknown : pydantic2.knows name = true)
    (hfree : name = "json_schema_extra" → field.gathered = []) :
    Entries.get? (pydantic2.arguments field) name = some (Python.literal value) := by
  have hlone : ¬ field.LoneExample name := by
    rintro ⟨rfl, -⟩
    exact absurd hknown (by decide)
  have hlisted : Entries.get? field.listed name = some value :=
    get?_listed hnames h.mem_present hlone
  rw [get?_arguments h.not_excluded, get?_extraArguments, unknown_argumentExtras,
    if_neg fun hboth => hboth.2 (hfree hboth.1), if_pos hknown,
    get?_argumentExtras h.not_factory h.not_docstring, hlisted]
  rfl

theorem Speaks.get?_examples (hnames : (Entries.names field.extras).Nodup) {name : String}
    {value : Value} (h : field.Speaks name value) (hlone : field.LoneExample name) :
    Entries.get? (pydantic2.arguments field) "examples" =
      some (Python.literal (.arr [value])) := by
  have hlisted : Entries.get? field.listed "examples" = some (.arr [value]) :=
    get?_listed_examples hnames h.mem_present hlone
  rw [get?_arguments (by decide), get?_extraArguments, if_neg fun hboth =>
    absurd hboth.1 (by decide), if_pos (by decide),
    get?_argumentExtras (by decide) fun hboth => absurd hboth.1 (by decide), hlisted]
  rfl

theorem Speaks.mem_gathered {name : String} {value : Value} (h : field.Speaks name value)
    (hknown : pydantic2.knows name = false) (hlone : ¬ field.LoneExample name) :
    (name, value) ∈ field.gathered := by
  have hexample : (name == "example" && !field.listsExamples) = false := by
    rw [← Bool.not_eq_true, Bool.and_eq_true, beq_iff_eq, Bool.not_eq_true']
    exact hlone
  have hkept : pydantic2.excluded.contains name = false := by
    simpa using h.not_excluded
  refine List.mem_filter.2 ⟨h.mem, ?_⟩
  simp only [hexample, hkept, hknown, h.not_null, Bool.not_false, Bool.and_self]

/-! ## Extras in calls -/

/-- With something to say about an extra, the call is its leading argument and the details. -/
theorem call?_eq (scope : Scope) (hflavor : field.flavor = .pydantic2)
    (h : field.details ≠ []) :
    field.call? scope = some (callOf
      ((pydantic2.leading? field (pydantic2.factory? scope field)).toList ++ field.details)) := by
  unfold call?
  rw [hflavor]
  show (if (field.details.isEmpty && (pydantic2.factory? scope field).isNone) = true then _
    else _) = _
  rw [if_neg]
  · rfl
  · simp [h]

/-- An extra that the call knows is its argument, unless the dictionary is written there. -/
theorem Speaks.carried_iff_of_knows (hnames : (Entries.names field.extras).Nodup) {name : String}
    {value : Value} (h : field.Speaks name value) (hknown : pydantic2.knows name = true) :
    field.details ≠ [] ∧
      (field.Carried name value field.details ↔ ¬ field.Displaced name value) := by
  have hwritten : ∀ {text : String}, name ++ "=" ++ text ∈ field.details ↔
      Entries.get? (pydantic2.arguments field) name = some text :=
    mem_details_iff hnames (isPlain_of_knows hknown)
  by_cases htaken : name = "json_schema_extra" ∧ field.gathered ≠ []
  · obtain ⟨rfl, hgathered⟩ := htaken
    have hdictionary := get?_dictionary hgathered
    refine ⟨List.ne_nil_of_mem (hwritten.2 hdictionary), ?_, fun hkept => ?_⟩
    · rintro hcarried ⟨-, -, hdiffers⟩
      cases hcarried with
      | argument _ hmem =>
        rw [hwritten, hdictionary] at hmem
        exact hdiffers (Option.some.inj hmem).symm
      | examples hlone _ => exact absurd hlone.1 (by decide)
      | entry hunknown _ _ _ => exact absurd hunknown (by decide)
    · have hsame : Python.literal value = Python.literal (.obj field.gathered) :=
        Classical.byContradiction fun hdiffers => hkept ⟨rfl, hgathered, hdiffers⟩
      exact .argument hknown (hwritten.2 (hsame ▸ hdictionary))
  · have hfree : name = "json_schema_extra" → field.gathered = [] := fun hname =>
      Classical.byContradiction fun hgathered => htaken ⟨hname, hgathered⟩
    have hmem := hwritten.2 (h.get?_argument hnames hknown hfree)
    exact ⟨List.ne_nil_of_mem hmem, fun _ hdisplaced => hdisplaced.2.1 (hfree hdisplaced.1),
      fun _ => .argument hknown hmem⟩

/-- An extra that the call does not know is in its list of examples or in the dictionary. -/
theorem Speaks.carried_of_not_knows (hnames : (Entries.names field.extras).Nodup) {name : String}
    {value : Value} (h : field.Speaks name value) (hknown : pydantic2.knows name = false) :
    field.details ≠ [] ∧ field.Carried name value field.details := by
  by_cases hlone : field.LoneExample name
  · have hmem := (mem_details_iff hnames (by decide +kernel)).2 (h.get?_examples hnames hlone)
    exact ⟨List.ne_nil_of_mem hmem, .examples hlone hmem⟩
  · have hgathered := h.mem_gathered hknown hlone
    have hmem := (mem_details_iff hnames (by decide +kernel)).2
      (get?_dictionary (List.ne_nil_of_mem hgathered))
    exact ⟨List.ne_nil_of_mem hmem, .entry hknown hlone hgathered hmem⟩

/-- Every extra that a call of pydantic 2 should say something about is carried by its arguments,
    but for an extra `json_schema_extra` whose place the dictionary of others takes. -/
theorem extra_carried_iff (scope : Scope) (hflavor : field.flavor = .pydantic2)
    (hnames : (Entries.names field.extras).Nodup) {name : String} {value : Value}
    (hextra : field.Speaks name value) :
    (field.view scope).call = some (callOf
        ((pydantic2.leading? field (pydantic2.factory? scope field)).toList ++ field.details)) ∧
      (field.Carried name value field.details ↔ ¬ field.Displaced name value) := by
  cases hknown : pydantic2.knows name with
  | true =>
    obtain ⟨hdetails, hcarried⟩ := hextra.carried_iff_of_knows hnames hknown
    exact ⟨call?_eq scope hflavor hdetails, hcarried⟩
  | false =>
    obtain ⟨hdetails, hcarried⟩ := hextra.carried_of_not_knows hnames hknown
    refine ⟨call?_eq scope hflavor hdetails, fun _ hdisplaced => ?_, fun _ => hcarried⟩
    rw [hdisplaced.1] at hknown
    exact absurd hknown (by decide)

/-- A weight with a title, an example, a unit and a dictionary of its own. -/
def weightField : Field :=
  build {} { name := some "weight", required := true, type := .builtin "int"
             extras := [("title", .str "Weight"), ("example", .int 5), ("x-unit", .str "kg"),
               ("json_schema_extra", .obj [("a", .str "b")])] }

theorem extra_carried_iff_weight :
    (weightField.view emptyScope).call = some
        "Field(..., examples=[5], json_schema_extra=\x7b'x-unit': 'kg'\x7d, title='Weight')" ∧
      weightField.Carried "title" (.str "Weight") weightField.details ∧
      weightField.Carried "example" (.int 5) weightField.details ∧
      weightField.Carried "x-unit" (.str "kg") weightField.details ∧
      ¬ weightField.Carried "json_schema_extra" (.obj [("a", .str "b")]) weightField.details := by
  have hextras : weightField.extras = [("title", .str "Weight"), ("example", .int 5),
      ("x-unit", .str "kg"), ("json_schema_extra", .obj [("a", .str "b")])] := rfl
  have hcarried : ∀ extra ∈ weightField.extras,
      weightField.Carried extra.1 extra.2 weightField.details ↔
        ¬ weightField.Displaced extra.1 extra.2 := by
    intro extra hextra
    refine (extra_carried_iff emptyScope rfl (by decide +kernel) ⟨hextra, ?_, ?_, ?_, ?_⟩).2 <;>
      revert extra <;> rw [hextras] <;> simp [Value.isNull, CallDialect.pydantic2]
  have hkept : ∀ extra ∈ weightField.extras, extra.1 ≠ "json_schema_extra" →
      weightField.Carried extra.1 extra.2 weightField.details := fun extra hextra hname =>
    (hcarried extra hextra).2 fun hdisplaced => hname hdisplaced.1
  refine ⟨by decide +kernel, hkept _ (.head _) (by decide), hkept _ (.tail _ (.head _)) (by decide),
    hkept _ (.tail _ (.tail _ (.head _))) (by decide), fun hwritten => ?_⟩
  refine (hcarried _ (.tail _ (.tail _ (.tail _ (.head _))))).1 hwritten ⟨rfl, ?_, ?_⟩
  · show [("x-unit", Value.str "kg")] ≠ []
    exact List.cons_ne_nil _ _
  · decide +kernel

end Field

end SchemaPress
