import Mathlib.Data.List.Sort
import SchemaPress.Module

set_option autoImplicit false

/-! # Import blocks depend on sets

A block collects imports in any order and any number of times. Its statements are read off strictly
ascending lists, and such a list is determined by its elements. So two blocks with the same imports
have the same lines (`ImportBlock.lines_congr`), and these lines are the statements of an
arrangement of exactly these imports (`ImportBlock.Arranges`). -/

namespace SchemaPress

namespace ImportBlock

/-! ## The imports of a block -/

@[simp]
theorem items_extend (block : ImportBlock) (items : List Import) :
    (block.extend items).items = block.items ++ items := by
  induction items generalizing block with
  | nil => simp [extend]
  | cons item rest ih =>
    have hrest := ih (block.append item)
    rw [append, List.append_assoc] at hrest
    exact hrest

@[simp]
theorem future_extend (block : ImportBlock) (items : List Import) :
    (block.extend items).future = block.future := by
  induction items generalizing block with
  | nil => rfl
  | cons item rest ih => exact ih (block.append item)

theorem pairwise_bareModules (block : ImportBlock) : block.bareModules.Pairwise (· < ·) :=
  Text.pairwise_sortedUnique _

theorem pairwise_sourceModules (block : ImportBlock) : block.sourceModules.Pairwise (· < ·) :=
  Text.pairwise_sortedUnique _

theorem pairwise_symbolsOf (block : ImportBlock) (module : String) :
    (block.symbolsOf module).Pairwise (· < ·) :=
  Text.pairwise_sortedUnique _

theorem extend_extend (block : ImportBlock) (items others : List Import) :
    (block.extend items).extend others = block.extend (items ++ others) := by
  rw [extend, extend, extend, List.foldl_append]

section

variable {block : ImportBlock} {module name : String}

theorem mem_bareModules : name ∈ block.bareModules ↔ ⟨none, name⟩ ∈ block.items := by
  rw [bareModules, Text.mem_sortedUnique, List.mem_filterMap]
  constructor
  · rintro ⟨⟨origin, symbol⟩, hitem, hname⟩
    cases origin with
    | some origin => simp at hname
    | none =>
      obtain rfl : symbol = name := by simpa using hname
      exact hitem
  · exact fun h => ⟨_, h, rfl⟩

theorem mem_sourceModules :
    module ∈ block.sourceModules ↔ ∃ name, ⟨some module, name⟩ ∈ block.items := by
  rw [sourceModules, Text.mem_sortedUnique, List.mem_filterMap]
  constructor
  · rintro ⟨⟨origin, symbol⟩, hitem, horigin⟩
    obtain rfl : origin = some module := horigin
    exact ⟨symbol, hitem⟩
  · exact fun ⟨_, h⟩ => ⟨_, h, rfl⟩

theorem mem_symbolsOf : name ∈ block.symbolsOf module ↔ ⟨some module, name⟩ ∈ block.items := by
  rw [symbolsOf, Text.mem_sortedUnique, List.mem_filterMap]
  constructor
  · rintro ⟨⟨origin, symbol⟩, hitem, hname⟩
    obtain ⟨rfl, rfl⟩ : origin = some module ∧ symbol = name := by simpa using hname
    exact hitem
  · exact fun h => ⟨_, h, by simp⟩

end

/-! ## Blocks with the same imports -/

/-- Blocks with the same imports have the same lines. -/
theorem lines_congr {block other : ImportBlock} (hfuture : block.future = other.future)
    (h : ∀ item, item ∈ block.items ↔ item ∈ other.items) : block.lines = other.lines := by
  have hbare : block.bareModules = other.bareModules :=
    block.pairwise_bareModules.eq_of_mem_iff other.pairwise_bareModules fun name => by
      rw [mem_bareModules, mem_bareModules, h]
  have hsources : block.sourceModules = other.sourceModules :=
    block.pairwise_sourceModules.eq_of_mem_iff other.pairwise_sourceModules fun module => by
      simp only [mem_sourceModules, h]
  have hsymbols : block.fromLine = other.fromLine := by
    funext module
    have hnames : block.symbolsOf module = other.symbolsOf module :=
      (block.pairwise_symbolsOf module).eq_of_mem_iff (other.pairwise_symbolsOf module)
        fun name => by rw [mem_symbolsOf, mem_symbolsOf, h]
    rw [fromLine, fromLine, hnames]
  have hempty : block.isEmpty = other.isEmpty := by
    rw [isEmpty, isEmpty, Bool.eq_iff_iff, List.isEmpty_iff, List.isEmpty_iff,
      List.eq_nil_iff_forall_not_mem, List.eq_nil_iff_forall_not_mem]
    simp only [h]
  rw [lines, lines, hfuture, hempty, hbare, hsources, hsymbols]

/-! ## The arrangement of a block -/

/-- Imports in the order of a block: the modules that are imported whole, and the modules that
    symbols are taken from with these symbols, all in strictly ascending order. -/
structure Arranges (items : List Import) (bare : List String)
    (groups : List (String × List String)) : Prop where
  bare_ascending : bare.Pairwise (· < ·)
  modules_ascending : (groups.map (·.1)).Pairwise (· < ·)
  names_ascending : ∀ group ∈ groups, group.2.Pairwise (· < ·)
  mem_bare : ∀ name, name ∈ bare ↔ ⟨none, name⟩ ∈ items
  mem_modules : ∀ module, module ∈ groups.map (·.1) ↔ ∃ name, ⟨some module, name⟩ ∈ items
  mem_names : ∀ module name,
    (∃ names, (module, names) ∈ groups ∧ name ∈ names) ↔ ⟨some module, name⟩ ∈ items

/-- The modules of a block with their symbols. -/
def groups (block : ImportBlock) : List (String × List String) :=
  block.sourceModules.map fun module => (module, block.symbolsOf module)

theorem map_fst_groups (block : ImportBlock) :
    block.groups.map (·.1) = block.sourceModules := by
  rw [groups, List.map_map]
  exact List.map_id _

/-- A block arranges its imports. -/
theorem arranges_items (block : ImportBlock) :
    Arranges block.items block.bareModules block.groups where
  bare_ascending := block.pairwise_bareModules
  modules_ascending := block.map_fst_groups ▸ block.pairwise_sourceModules
  names_ascending := by
    intro group hgroup
    obtain ⟨module, -, rfl⟩ := List.mem_map.1 hgroup
    exact block.pairwise_symbolsOf module
  mem_bare := fun _ => mem_bareModules
  mem_modules := fun _ => block.map_fst_groups ▸ mem_sourceModules
  mem_names := by
    intro module name
    constructor
    · rintro ⟨names, hgroup, hname⟩
      obtain ⟨other, -, hother⟩ := List.mem_map.1 hgroup
      obtain ⟨rfl, rfl⟩ := Prod.mk.inj hother
      exact mem_symbolsOf.1 hname
    · intro hitem
      have hmodule := mem_sourceModules.2 ⟨name, hitem⟩
      exact ⟨_, List.mem_map_of_mem hmodule, mem_symbolsOf.2 hitem⟩

/-- A module that symbols are taken from has exactly one line. -/
theorem Arranges.count_module {items : List Import} {bare : List String}
    {groups : List (String × List String)} (h : Arranges items bare groups) {module name : String}
    (hitem : ⟨some module, name⟩ ∈ items) : (groups.map (·.1)).count module = 1 :=
  List.count_eq_one_of_mem h.modules_ascending.nodup ((h.mem_modules module).2 ⟨name, hitem⟩)

/-- The line that asks for late annotations, with an empty one behind it if anything follows. -/
def futureLines (future nothing : Bool) : List String :=
  if future then "from __future__ import annotations" :: (if nothing then [] else [""]) else []

theorem lines_eq (block : ImportBlock) :
    block.lines = futureLines block.future block.items.isEmpty ++
      block.bareModules.map (fun module => "import " ++ module) ++
      block.groups.map fun group =>
        "from " ++ group.1 ++ " import " ++ ", ".intercalate group.2 := by
  rw [groups, List.map_map]
  rfl

end ImportBlock

/-- The block that starts without imports and gets some, one after the other. -/
def ImportBlock.collected (future : Bool) (items : List Import) : ImportBlock :=
  ({ future := future } : ImportBlock).extend items

theorem ImportBlock.items_collected (future : Bool) (items : List Import) :
    (collected future items).items = items := by
  simp [collected]

theorem ImportBlock.future_collected (future : Bool) (items : List Import) :
    (collected future items).future = future := by
  simp [collected]

/-- The import block of a module collects the imports of its models. -/
theorem Graph.importBlock_eq_collected (graph : Graph) :
    graph.importBlock = .collected graph.options.flavor.futureAnnotations
      (graph.orderedModels.flatMap fun model => model.imports graph.scope) := by
  unfold importBlock ImportBlock.collected
  generalize ({ future := graph.options.flavor.futureAnnotations } : ImportBlock) = block
  induction graph.orderedModels generalizing block with
  | nil => rfl
  | cons model rest ih =>
    rw [List.foldl_cons, ih, ImportBlock.extend_extend, List.flatMap_cons]

open ImportBlock in
/-- The text of an import block depends only on the set of the imports that it has got. Behind the
    line that asks for late annotations, if there is one, the modules that are imported whole come
    first and then one line for each module that symbols are taken from. The lines of both groups
    and the symbols in a line are in strictly ascending order, and they are exactly the imports that
    the block has got. The block of a module is the one for the set of all imports of its models,
    whatever the order of the models and of their fields. -/
theorem import_block_of_set {items others : List Import}
    (h : ∀ item, item ∈ items ↔ item ∈ others) (future : Bool) :
    (collected future items).render = (collected future others).render ∧
    (∃ bare groups, Arranges items bare groups ∧
      (∀ module name, ⟨some module, name⟩ ∈ items → (groups.map (·.1)).count module = 1) ∧
      (collected future items).render = "\n".intercalate
        (futureLines future items.isEmpty ++ bare.map (fun module => "import " ++ module) ++
          groups.map fun group =>
            "from " ++ group.1 ++ " import " ++ ", ".intercalate group.2)) ∧
    ∀ graph : Graph, graph.options.flavor.futureAnnotations = future →
      (∀ item, (∃ model ∈ graph.orderedModels, item ∈ model.imports graph.scope) ↔
        item ∈ items) →
      graph.importBlock.render = (collected future items).render := by
  have hrender : ∀ others : List Import, (∀ item, item ∈ items ↔ item ∈ others) →
      (collected future items).render = (collected future others).render := by
    intro others hothers
    have hlines : (collected future items).lines = (collected future others).lines := by
      refine lines_congr ?_ fun item => ?_
      · rw [future_collected, future_collected]
      · rw [items_collected, items_collected, hothers]
    rw [render, render, hlines]
  refine ⟨hrender others h, ?_, fun graph hfuture hitems => ?_⟩
  · have harranges := (collected future items).arranges_items
    rw [items_collected] at harranges
    refine ⟨_, _, harranges, fun module name hitem => harranges.count_module hitem, ?_⟩
    rw [render, lines_eq, items_collected, future_collected]
  · rw [graph.importBlock_eq_collected, hfuture]
    refine (hrender _ fun item => ?_).symm
    rw [← hitems item, List.mem_flatMap]

/-- Fields and models may ask for the same symbols in any order. -/
theorem import_block_of_set_shuffled :
    (∀ item, item ∈ [Import.list, .field, .ofPath "decimal", .optional, .field] ↔
      item ∈ [Import.ofPath "decimal", .field, .list, .list, .optional]) ∧
    (ImportBlock.collected true [.list, .field, .ofPath "decimal", .optional, .field]).render =
      "\n".intercalate ["from __future__ import annotations", "", "import decimal",
        "from pydantic import Field", "from typing import List, Optional"] ∧
    (ImportBlock.collected true [.list, .field, .ofPath "decimal", .optional, .field]).render =
      (ImportBlock.collected true [.ofPath "decimal", .field, .list, .list, .optional]).render := by
  have hsame : ∀ item, item ∈ [Import.list, .field, .ofPath "decimal", .optional, .field] ↔
      item ∈ [Import.ofPath "decimal", .field, .list, .list, .optional] := by
    intro item
    simp only [List.mem_cons, List.not_mem_nil, or_false]
    tauto
  exact ⟨hsame, rfl, (import_block_of_set hsame true).1⟩

end SchemaPress
