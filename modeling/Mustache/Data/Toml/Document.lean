import Mustache.Data.Toml.Statement
/-!
TOML documents. Statements are taken in order: a header opens a table, assignments fill it, and it
takes its place in the document when the next header comes or the document ends.
-/
namespace Mustache.Toml

/-- A document that is being read. -/
structure Document where
  /-- The tables that are complete. -/
  root : Table
  /-- The table that is being filled. -/
  current : Table
  /-- Where it belongs; nowhere before the first header. -/
  key : Option Key
  /-- Whether it becomes the next one of an array of tables. -/
  inArray : Bool

namespace Document

/-- A document before the first statement. -/
def start : Document := ⟨.empty, .empty, none, false⟩

/-- Puts the current table in its place. -/
def finish? (d : Document) : Option Table :=
  match d.key with
  | none => some d.current
  | some key =>
    d.root.descend false (fun parent =>
      match parent.entries.lookup key.last with
      | none =>
        some (parent.set key.last
          (if d.inArray then .tables [d.current.entries] else d.current.toItem))
      | some (.tables each) =>
        if d.inArray then some (parent.set key.last (.tables (d.current.entries :: each)))
        else none
      | some (.table true _ _) =>
        if d.inArray then none else some (parent.set key.last d.current.toItem)
      | some _ => none) key.path

/-- Opens a table. One that was only implied by a header is opened again and loses its place. -/
def openTable? (root : Table) (key : Key) : Option Document := do
  let found ← tableAt? root key.path
  match found.entries.lookup key.last with
  | none => some ⟨root, .empty, some key, false⟩
  | some (.table true false entries) =>
    let root ← root.descend false (fun parent => some (parent.remove key.last)) key.path
    some ⟨root, ⟨false, false, entries⟩, some key, false⟩
  | some _ => none
where
  /-- The table at the end of a path, empty if it does not exist. -/
  tableAt? (t : Table) : List String → Option Table
    | [] => some t
    | key :: path =>
      match t.entries.lookup key with
      | none => some .empty
      | some (.node _) | some (.tables []) => none
      | some (.tables (last :: _)) => tableAt? ⟨false, false, last⟩ path
      | some (.table implied dotted entries) => tableAt? ⟨implied, dotted, entries⟩ path

/-- Opens the next table of an array of tables, which takes its place already now. -/
def openArray? (root : Table) (key : Key) : Option Document := do
  let root ← root.descend false (fun parent =>
    match parent.entries.lookup key.last with
    | none => some (parent.set key.last (.tables []))
    | some (.tables _) => some parent
    | some _ => none) key.path
  some ⟨root, .empty, some key, true⟩

/-- Takes in a statement. -/
def step? (d : Document) : Statement → Option Document
  | .assign key n => do
    return { d with current := ← d.current.assign key.path key.last n }
  | .table key => do openTable? (← d.finish?) key
  | .arrayTable key => do openArray? (← d.finish?) key

/-- The entries of a document. -/
def read? (text : String) : Option (List (String × Node)) := do
  let last ← (← Statement.ofText? text).foldlM step? start
  return Item.toEntries (← last.finish?).entries

/-- The value of a document, which is always a map: the reserved key means nothing at its top. -/
def readValue? (text : String) : Option Value := do
  return .map (← Node.toEntries? (← read? text))

end Document

end Mustache.Toml
