import Mustache.Fault
import Mustache.Files.Path
/-!
Where the sources of partials come from: the files of a directory, or a table.
-/
namespace Mustache

/-- What a table answers for a name. -/
inductive Source where
  | text (content : String)
  /-- The name has no source. -/
  | missing (reason : String)
  /-- Looking the name up fails. -/
  | failing (fault : Fault)
deriving DecidableEq, Repr

namespace Source

/-- The text of a source, given the name it was asked for. -/
def read (name : String) : Source → Except Fault String
  | .text content => .ok content
  | .missing reason => .error (.partialNotFound name reason)
  | .failing fault => .error fault

/-- The number of characters in a source. -/
def weight : Source → Nat
  | .text content => content.length
  | _ => 0

end Source

/-- A supplier of partial sources. -/
inductive Resolver where
  /-- The files of a directory with an extension. -/
  | directory (root extension : String)
  /-- Listed sources, and what every other name answers. -/
  | table (entries : List (String × Source)) (otherwise : Source)
deriving DecidableEq, Repr

namespace Resolver

/-- The extension of partial files unless another one is set. -/
def defaultExtension : String := "mustache"

/-- The files of a directory with the default extension. -/
def ofDirectory (root : String) : Resolver := .directory root defaultExtension

/-- The extension in force; a table has the default one. -/
def extension : Resolver → String
  | .directory _ extension => extension
  | .table _ _ => defaultExtension

/-- Whether a text can serve as a file extension: an ASCII letter or digit, then letters, digits
and the characters `-`, `+` and `#`. -/
def isExtension : List Char → Bool
  | [] => false
  | c :: rest =>
    c.isAlphanum && rest.all fun c => c.isAlphanum || c == '-' || c == '+' || c == '#'

/-- The extension a text asks for; one dot in front of it is ignored. -/
def readExtension (value : String) : Except Fault String :=
  let cs := match value.toList with
    | '.' :: rest => rest
    | cs => cs
  if isExtension cs then .ok (String.ofList cs) else .error (.invalidExtension value)

/-- The resolver with another extension. A table checks the extension and ignores it. -/
def setExtension (r : Resolver) (value : String) : Except Fault Resolver :=
  (readExtension value).map fun extension =>
    match r with
    | .directory root _ => .directory root extension
    | .table entries otherwise => .table entries otherwise

/-- The file that holds a partial. -/
def path (root extension name : String) : String :=
  Path.join root (name ++ "." ++ extension)

/-- The source text of a partial. -/
def find (files : Files) (name : String) : Resolver → Except Fault String
  | .directory root extension =>
    let path := path root extension name
    match files.readText path with
    | .ok text => .ok text
    | .error cause => .error (.partialNotFound name (path ++ ": " ++ cause.message))
  | .table entries otherwise => ((entries.lookup name).getD otherwise).read name

/-- At least the number of characters in all sources together. -/
def weight (files : Files) : Resolver → Nat
  | .directory _ _ => files.weight
  | .table entries otherwise =>
    entries.foldr (fun entry total => entry.2.weight + total) otherwise.weight

/-- The table with another source for one name. -/
def setSource (name : String) (source : Source) : Resolver → Resolver
  | .directory root extension => .directory root extension
  | .table entries otherwise =>
    .table ((name, source) :: entries.filter (·.1 != name)) otherwise

end Resolver

end Mustache
