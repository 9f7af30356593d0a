set_option autoImplicit false

/-! # Entries: maps that remember their order

A map from names to values as the list of its entries in the order in which the names first
appeared. Writing to a known name keeps its place; a new name goes to the end. -/

namespace SchemaPress

/-- A map from names to values, in the order in which the names first appeared. -/
abbrev Entries (α : Type) := List (String × α)

namespace Entries

variable {α β : Type}

/-- The value of the first entry with the given name. -/
def get? (entries : Entries α) (name : String) : Option α :=
  List.lookup name entries

/-- Whether some entry has the given name. -/
def has (entries : Entries α) (name : String) : Bool :=
  entries.any (·.1 == name)

/-- The names in order. -/
def names (entries : Entries α) : List String :=
  entries.map (·.1)

/-- Sets the value of a name: in place when the name is known, else at the end. -/
def put (entries : Entries α) (name : String) (value : α) : Entries α :=
  match entries with
  | [] => [(name, value)]
  | entry :: rest =>
    if entry.1 == name then (name, value) :: rest else entry :: put rest name value

/-- Sets the value of a name unless the name is known. -/
def putNew (entries : Entries α) (name : String) (value : α) : Entries α :=
  if has entries name then entries else entries ++ [(name, value)]

/-- Removes every entry with the given name. -/
def drop (entries : Entries α) (name : String) : Entries α :=
  entries.filter (·.1 != name)

/-- Writes the entries of `updates` over `entries`, in order. -/
def overlay (entries updates : Entries α) : Entries α :=
  updates.foldl (fun acc entry => put acc entry.1 entry.2) entries

/-- Merges repeated names: the first place and the last value of each name are kept. -/
def merged (pairs : List (String × α)) : Entries α :=
  overlay [] pairs

/-- Changes every value and keeps the names. -/
def mapValues (f : α → β) (entries : Entries α) : Entries β :=
  entries.map fun entry => (entry.1, f entry.2)

end Entries

end SchemaPress
