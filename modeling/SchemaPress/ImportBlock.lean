import SchemaPress.Import
import SchemaPress.Sorted

set_option autoImplicit false

/-! # Import blocks

The import statements at the top of a module: whole modules first, then one line for each module
that symbols are taken from, everything in alphabetical order and nothing twice. -/

namespace SchemaPress

/-- The imports of a module, and whether annotations are to be evaluated late. -/
structure ImportBlock where
  future : Bool := false
  items : List Import := []
  deriving DecidableEq, Repr

namespace ImportBlock

/-- Adds one import. -/
def append (block : ImportBlock) (item : Import) : ImportBlock :=
  { block with items := block.items ++ [item] }

/-- Adds imports in order. -/
def extend (block : ImportBlock) (items : List Import) : ImportBlock :=
  items.foldl append block

/-- Whether the block imports nothing but late annotations. -/
def isEmpty (block : ImportBlock) : Bool :=
  block.items.isEmpty

/-- The modules that are imported whole. -/
def bareModules (block : ImportBlock) : List String :=
  Text.sortedUnique (block.items.filterMap fun item =>
    if item.module.isNone then some item.name else none)

/-- The modules that symbols are taken from. -/
def sourceModules (block : ImportBlock) : List String :=
  Text.sortedUnique (block.items.filterMap (·.module))

/-- The symbols taken from a module. -/
def symbolsOf (block : ImportBlock) (module : String) : List String :=
  Text.sortedUnique (block.items.filterMap fun item =>
    if item.module = some module then some item.name else none)

/-- The statement that takes symbols from a module. -/
def fromLine (block : ImportBlock) (module : String) : String :=
  "from " ++ module ++ " import " ++ ", ".intercalate (block.symbolsOf module)

/-- The lines of the block. -/
def lines (block : ImportBlock) : List String :=
  (if block.future then
      "from __future__ import annotations" :: (if block.isEmpty then [] else [""])
    else []) ++
    block.bareModules.map ("import " ++ ·) ++
    block.sourceModules.map block.fromLine

/-- The text of the block, without a newline at its end. -/
def render (block : ImportBlock) : String :=
  "\n".intercalate block.lines

end ImportBlock

end SchemaPress
