import Mustache.Data.Toml.Node
/-!
Tables while a document is read. Besides its entries, a table has marks: whether it was only implied
by a longer key or header, and whether it was made by a dotted key. They decide whether the table
may still be added to.
-/
namespace Mustache.Toml

/-- What a key of an unfinished table stands for. -/
inductive Item where
  /-- A complete datum, to which nothing can be added. -/
  | node (n : Node)
  | table (implied dotted : Bool) (entries : List (String × Item))
  /-- The tables of an array of tables, last first. -/
  | tables (each : List (List (String × Item)))

/-- An unfinished table. -/
structure Table where
  implied : Bool
  dotted : Bool
  entries : List (String × Item)

namespace Item

mutual

/-- The datum of an item. -/
def toNode : Item → Node
  | .node n => n
  | .table _ _ entries => .table (toEntries entries)
  | .tables each => .array (toTables each).reverse

/-- The entries of a table. -/
def toEntries : List (String × Item) → List (String × Node)
  | [] => []
  | (key, item) :: rest => (key, item.toNode) :: toEntries rest

/-- The tables of an array, in the given order. -/
def toTables : List (List (String × Item)) → List Node
  | [] => []
  | entries :: rest => .table (toEntries entries) :: toTables rest

end

end Item

namespace Table

/-- A table without entries or marks. -/
def empty : Table := ⟨false, false, []⟩

/-- A table as an item. -/
def toItem (t : Table) : Item := .table t.implied t.dotted t.entries

/-- The table with an item for a key; a known key keeps its place. -/
def set (t : Table) (key : String) (item : Item) : Table :=
  if t.entries.any (·.1 == key) then
    { t with entries := t.entries.map fun e => if e.1 == key then (key, item) else e }
  else { t with entries := t.entries ++ [(key, item)] }

/-- The table without a key. -/
def remove (t : Table) (key : String) : Table :=
  { t with entries := t.entries.filter (·.1 != key) }

/-- Changes the table at the end of a path, making tables on the way that do not exist. A path
leads into the last table of an array of tables. The path of a dotted key leads only into implied
tables. -/
def descend (dotted : Bool) (change : Table → Option Table) : List String → Table → Option Table
  | [], t => change t
  | key :: path, t =>
    match t.entries.lookup key with
    | none => do
      return t.set key (← descend dotted change path ⟨true, dotted, []⟩).toItem
    | some (.node _) => none
    | some (.tables []) => none
    | some (.tables (last :: others)) => do
      let last ← descend dotted change path ⟨false, false, last⟩
      return t.set key (.tables (last.entries :: others))
    | some (.table implied made entries) =>
      if dotted && !implied then none
      else do
        return t.set key (← descend dotted change path ⟨implied, made, entries⟩).toItem

/-- The table with a datum at a dotted key, whose last part is given apart. The key must be new, and
the table that takes it must have been made by the same kind of key. -/
def assign (path : List String) (key : String) (n : Node) (t : Table) : Option Table :=
  t.descend true (fun inner =>
    if inner.dotted == path.isEmpty then none
    else if inner.entries.any (·.1 == key) then none
    else some (inner.set key (.node n))) path

end Table

end Mustache.Toml
