import SchemaPress.Entries
import SchemaPress.Yaml.Token

set_option autoImplicit false

/-! # YAML nodes

The tree of nodes that the tokens of a document describe. While it is read, an alias is only a
number; then every alias is replaced by the node that its number stands for, within a limit on
the depth of the tree and on the number of replacements. -/

namespace SchemaPress.Yaml

/-- A node of a document: a scalar, a sequence or a mapping, each with its tag. -/
inductive Node
  | scalar (tag : Option Tag) (style : ScalarStyle) (text : String)
  | sequence (tag : Option Tag) (items : List Node)
  | mapping (tag : Option Tag) (entries : List (Node × Node))
  deriving Repr, Inhabited

/-- A node in which aliases are still numbers. -/
inductive Draft
  | aliasTo (number : Nat)
  | scalar (tag : Option Tag) (style : ScalarStyle) (text : String)
  | sequence (tag : Option Tag) (items : List Draft)
  | mapping (tag : Option Tag) (entries : List (Draft × Draft))
  deriving Repr, Inhabited

namespace Draft

/-- The node that stands where none is written. -/
def empty : Draft :=
  .scalar none .plain ""

end Draft

/-! ## Reading nodes from tokens -/

/-- What is known while the nodes of a document are read: the tokens that are left, what tag
    handles stand for, the numbers of the anchors by name, the anchored nodes with their number
    and their place among the anchored nodes, and the number of nodes and collection ends so
    far. -/
structure Composer where
  tokens : List Token
  handles : List (String × List UInt8) := []
  numbers : Entries Nat := []
  anchored : List (Nat × Nat × Draft) := []
  places : Nat := 0
  size : Nat := 0
  deriving Inhabited

/-- A computation on the tokens of a document, which may find them malformed. -/
abbrev Compose := StateT Composer Option

namespace Composer

/-- The next token. -/
def peek : Compose (Option Token) := do
  return (← get).tokens.head?

/-- Passes over the next token. -/
def advance : Compose Unit :=
  modify fun composer => { composer with tokens := composer.tokens.tail }

/-- Counts nodes and collection ends. -/
def count (size : Nat) : Compose Unit :=
  modify fun composer => { composer with size := composer.size + size }

/-- The node that stands where none is written. -/
def missing : Compose Draft := do
  count 1
  return .empty

/-- Takes an anchor, if one comes next. -/
def anchor? : Compose (Option String) := do
  match ← peek with
  | some (.anchor name) => advance; return some name
  | _ => return none

/-- Takes a tag, if one comes next. -/
def tag? : Compose (Option WrittenTag) := do
  match ← peek with
  | some (.tag tag) => advance; return some tag
  | _ => return none

/-- Takes an anchor and a tag in either order. -/
def properties : Compose (Option String × Option WrittenTag) := do
  match ← anchor? with
  | some name => return (some name, ← tag?)
  | none =>
    match ← tag? with
    | some tag => return (← anchor?, some tag)
    | none => return (none, none)

/-- The tag that a written one stands for; its handle has to be known. -/
def fullTag (tag : WrittenTag) : Compose Tag := do
  if tag.handle == "" then return ⟨tag.suffix⟩
  match (← get).handles.lookup tag.handle with
  | some start => return ⟨start ++ tag.suffix⟩
  | none => failure

/-- Numbers an anchor by how many names of anchors there are before it, so that a name that is
    used again may share its number with another one. The answer is the number with the place of
    the node. -/
def number (name : String) : Compose (Nat × Nat) :=
  modifyGet fun composer =>
    let number := composer.numbers.length
    ((number, composer.places), { composer with
      numbers := Entries.put composer.numbers name number
      places := composer.places + 1 })

/-- Numbers an anchor if there is one. -/
def number? : Option String → Compose (Option (Nat × Nat))
  | none => return none
  | some name => some <$> number name

/-- Remembers an anchored node. -/
def remember (anchor : Option (Nat × Nat)) (node : Draft) : Compose Draft := do
  match anchor with
  | none => return node
  | some (number, place) =>
    modify fun composer =>
      { composer with anchored := (number, place, node) :: composer.anchored }
    return node

/-- The number of an alias; its anchor has to be known. -/
def aliasNumber (name : String) : Compose Nat := do
  match Entries.get? (← get).numbers name with
  | some number => return number
  | none => failure

/-- Reads a node with `read` unless the next token is one of those that leave it out. -/
def unlessNext (leavesOut : Option Token → Bool) (read : Compose Draft) : Compose Draft := do
  if leavesOut (← peek) then missing else read

/-- The tokens behind which a key or a value of a block mapping is left out. -/
def endsBlockPart (token : Option Token) : Bool :=
  token == some .key || token == some .value || token == some .blockEnd

/-- The tokens behind which a part of a flow collection is left out. -/
def endsFlowPart (close : Token) (token : Option Token) : Bool :=
  token == some .flowEntry || token == some close

/-- Passes over the comma before an entry of a flow collection, if it is not the first one. -/
def comma (first : Bool) : Compose Unit := do
  if first then return
  if (← peek) == some .flowEntry then advance else failure

mutual

/-- Reads a node. Block collections are read only if `block` is set, and a sequence that is not
    indented only if `indentless` is. -/
def node : (fuel : Nat) → (block indentless : Bool) → Compose Draft
  | 0, _, _ => failure
  | fuel + 1, block, indentless => do
    if let some (.aliasTo name) ← peek then
      advance
      count 1
      return .aliasTo (← aliasNumber name)
    let (name, written) ← properties
    let tag ← written.mapM fullTag
    let next ← peek
    if indentless && next == some .blockEntry then
      let anchor ← number? name
      count 2
      remember anchor (.sequence tag (← indentlessItems fuel))
    else
      match next with
      | some (.scalar style text) =>
        advance
        count 1
        remember (← number? name) (.scalar tag style text)
      | some .flowSequenceStart =>
        let anchor ← number? name
        advance
        count 2
        remember anchor (.sequence tag (← flowItems fuel true))
      | some .flowMappingStart =>
        let anchor ← number? name
        advance
        count 2
        remember anchor (.mapping tag (← flowEntries fuel true))
      | some .blockSequenceStart =>
        guard block
        let anchor ← number? name
        advance
        count 2
        remember anchor (.sequence tag (← blockItems fuel))
      | some .blockMappingStart =>
        guard block
        let anchor ← number? name
        advance
        count 2
        remember anchor (.mapping tag (← blockEntries fuel))
      | _ =>
        guard (name.isSome || tag.isSome)
        count 1
        remember (← number? name) (.scalar tag .plain "")

/-- Reads the items of a block sequence up to its end. -/
def blockItems : (fuel : Nat) → Compose (List Draft)
  | 0 => failure
  | fuel + 1 => do
    match ← peek with
    | some .blockEntry =>
      advance
      let item ← unlessNext (fun next => next == some .blockEntry || next == some .blockEnd)
        (node fuel true false)
      return item :: (← blockItems fuel)
    | some .blockEnd => advance; return []
    | _ => failure

/-- Reads the items of a sequence that is not indented. -/
def indentlessItems : (fuel : Nat) → Compose (List Draft)
  | 0 => failure
  | fuel + 1 => do
    match ← peek with
    | some .blockEntry =>
      advance
      let item ← unlessNext (fun next => next == some .blockEntry || endsBlockPart next)
        (node fuel true false)
      return item :: (← indentlessItems fuel)
    | _ => return []

/-- Reads the entries of a block mapping up to its end. -/
def blockEntries : (fuel : Nat) → Compose (List (Draft × Draft))
  | 0 => failure
  | fuel + 1 => do
    match ← peek with
    | some .key =>
      advance
      let key ← unlessNext endsBlockPart (node fuel true true)
      let value ← blockValue fuel
      return (key, value) :: (← blockEntries fuel)
    | some .blockEnd => advance; return []
    | _ => failure

/-- Reads the value of an entry of a block mapping. -/
def blockValue : (fuel : Nat) → Compose Draft
  | 0 => failure
  | fuel + 1 => do
    if (← peek) == some .value then
      advance
      unlessNext endsBlockPart (node fuel true true)
    else missing

/-- Reads the items of a flow sequence up to its end. An entry with a key is a mapping of its
    own. -/
def flowItems : (fuel : Nat) → (first : Bool) → Compose (List Draft)
  | 0, _ => failure
  | fuel + 1, first => do
    if (← peek) == some .flowSequenceEnd then
      advance
      return []
    comma first
    match ← peek with
    | some .flowSequenceEnd => advance; return []
    | some .key =>
      advance
      let item ← singlePair fuel
      return item :: (← flowItems fuel false)
    | _ =>
      let item ← node fuel false false
      return item :: (← flowItems fuel false)

/-- Reads an entry of a flow sequence that is a mapping. Behind a key that is left out, the next
    token is passed over. -/
def singlePair : (fuel : Nat) → Compose Draft
  | 0 => failure
  | fuel + 1 => do
    count 2
    let next ← peek
    let key ← if next == some .value || endsFlowPart .flowSequenceEnd next then do
        advance
        missing
      else node fuel false false
    let value ← flowValue fuel .flowSequenceEnd
    return .mapping none [(key, value)]

/-- Reads the value of an entry of a flow collection. -/
def flowValue : (fuel : Nat) → (close : Token) → Compose Draft
  | 0, _ => failure
  | fuel + 1, close => do
    if (← peek) == some .value then
      advance
      unlessNext (endsFlowPart close) (node fuel false false)
    else missing

/-- Reads the entries of a flow mapping up to its end. An entry without a colon has no value. -/
def flowEntries : (fuel : Nat) → (first : Bool) → Compose (List (Draft × Draft))
  | 0, _ => failure
  | fuel + 1, first => do
    if (← peek) == some .flowMappingEnd then
      advance
      return []
    comma first
    match ← peek with
    | some .flowMappingEnd => advance; return []
    | some .key =>
      advance
      let key ← unlessNext
        (fun next => next == some .value || endsFlowPart .flowMappingEnd next)
        (node fuel false false)
      let value ← flowValue fuel .flowMappingEnd
      return (key, value) :: (← flowEntries fuel false)
    | _ =>
      let key ← node fuel false false
      let value ← missing
      return (key, value) :: (← flowEntries fuel false)

end

/-! ## Documents -/

/-- Reads the directives before a document; the answer is whether there are any. Only versions 1.1
    and 1.2 are known, and neither a version nor a handle may be given twice. -/
def directives : (fuel : Nat) → (version : Bool) → Compose Bool
  | 0, _ => return false
  | fuel + 1, version => do
    match ← peek with
    | some (.versionDirective major minor) =>
      guard (!version && major == 1 && (minor == 1 || minor == 2))
      advance
      let _ ← directives fuel true
      return true
    | some (.tagDirective handle start) =>
      guard (((← get).handles.lookup handle).isNone)
      advance
      modify fun composer => { composer with handles := composer.handles ++ [(handle, start)] }
      let _ ← directives fuel version
      return true
    | _ => return false

/-- What the two handles stand for that need no directive. -/
def commonHandles : List (String × List UInt8) :=
  [("!", Tag.encode ['!']), ("!!", Tag.coreStart)]

/-- Whether a document has no content before a token. -/
def endsDocument : Option Token → Bool
  | none | some (.versionDirective ..) | some (.tagDirective ..) => true
  | token => token == some .documentStart || token == some .documentEnd

/-- Passes over the ends of documents. -/
def documentEnds : (fuel : Nat) → Compose Unit
  | 0 => return
  | fuel + 1 => do
    if (← peek) == some .documentEnd then
      advance
      documentEnds fuel

/-- Reads the only document of a text, if the text has one. -/
def document : Compose (Option Draft) := do
  let fuel := 2 * (← get).tokens.length + 2
  let first ← peek
  if first.isNone then return none
  let directed ← directives fuel false
  modify fun composer => { composer with handles := composer.handles ++ commonHandles }
  let explicit := (← peek) == some .documentStart
  guard (explicit || !directed)
  if explicit then advance
  let root ← if explicit && endsDocument (← peek) then missing else node fuel true false
  documentEnds fuel
  guard (← peek).isNone
  return some root

end Composer

/-! ## Aliases -/

/-- The deepest nesting of collections. -/
def maxDepth : Nat := 128

/-- What the numbers of aliases stand for, and how often an alias may be followed. -/
structure Anchors where
  nodes : List (Nat × Nat × Draft)
  limit : Nat

/-- The node with a number; of several, the one that comes last. -/
def Anchors.find? (anchors : Anchors) (number : Nat) : Option Draft :=
  let found := anchors.nodes.foldl (fun found (n, place, draft) =>
    if n == number && found.all (fun best : Nat × Draft => best.1 < place) then some (place, draft)
    else found) none
  found.map (·.2)

/-- A computation that counts how often an alias was followed. -/
abbrev Follow := StateT Nat Option

namespace Draft

/-- Follows an alias, within the limit. -/
def follow (anchors : Anchors) : Draft → Follow Draft
  | .aliasTo number => do
    modify (· + 1)
    guard ((← get) ≤ anchors.limit)
    match anchors.find? number with
    | some draft => return draft
    | none => failure
  | draft => return draft

/-- Replaces all aliases in a node that is nested `depth` deep at most. -/
def expand (anchors : Anchors) : (depth : Nat) → Draft → Follow Node
  | 0, draft => do
    match ← draft.follow anchors with
    | .scalar tag style text => return .scalar tag style text
    | _ => failure
  | depth + 1, draft => do
    match ← draft.follow anchors with
    | .scalar tag style text => return .scalar tag style text
    | .sequence tag items => return .sequence tag (← items.mapM (expand anchors depth))
    | .mapping tag entries =>
      return .mapping tag (← entries.mapM fun entry =>
        return (← expand anchors depth entry.1, ← expand anchors depth entry.2))
    | .aliasTo _ => failure

end Draft

namespace Node

/-- The only document of a text: nothing if the text holds no document, and a failure if it is
    malformed or holds several. -/
def parse? (text : String) : Option (Option Node) := do
  let tokens ← tokens? text
  let (root, composer) ← Composer.document.run { tokens }
  match root with
  | none => return none
  | some root =>
    let anchors : Anchors := { nodes := composer.anchored, limit := 100 * composer.size }
    return some (← (root.expand anchors maxDepth).run 0).1

end Node

end SchemaPress.Yaml
