import Mustache.Data.Toml.Document
import Mustache.Files.Path
/-!
The configuration file. It is a TOML document with a section for partials and one for rendering;
unknown keys are ignored. A section may also be given as an array of its values in order.
-/
namespace Mustache.CommandLine

open Toml (Node)

/-- What a configuration file sets. -/
structure Config where
  directory : Option String
  extension : Option String
  stream : Bool
deriving DecidableEq, Repr

namespace Config

/-- The name of the file in the current directory that is used if no other one is named. -/
def defaultFile : String := "stache.toml"

/-- The configuration without a file. -/
def standard : Config := ⟨none, none, false⟩

/-- The values of the named fields of a section, each of them may be missing. -/
def sectionFields? (names : List String) : Option Node → Option (List (Option Node))
  | none | some (.datetime _) => some (names.map fun _ => none)
  | some (.table entries) => some (names.map fun name => entries.lookup name)
  | some (.array items) =>
    some ((List.range names.length).map fun index => items[index]?)
  | some _ => none

/-- The text of a field that may be missing. -/
def textField? : Option Node → Option (Option String)
  | none => some none
  | some (.text s) => some (some s)
  | some _ => none

/-- The truth of a field that may be missing. -/
def boolField? : Option Node → Option Bool
  | none => some false
  | some (.bool b) => some b
  | some _ => none

/-- The configuration that the entries of a document set, if they fit. -/
def ofEntries? (entries : List (String × Node)) : Option Config := do
  match ← sectionFields? ["directory", "extension"] (entries.lookup "partials"),
      ← sectionFields? ["stream"] (entries.lookup "render") with
  | [directory, extension], [stream] =>
    return ⟨← textField? directory, ← textField? extension, ← boolField? stream⟩
  | _, _ => none

/-- The configuration with its directory taken from where the file stands. -/
def relativeTo (path : String) (c : Config) : Config :=
  { c with directory := c.directory.map (Path.join ((Path.parent? path).getD "")) }

/-- The configuration that the text of a file sets, if it is well-formed. -/
def ofText? (path text : String) : Option Config :=
  ((Toml.Document.read? text).bind ofEntries?).map (relativeTo path)

end Config

end Mustache.CommandLine
