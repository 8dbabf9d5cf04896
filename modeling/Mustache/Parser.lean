import Mustache.Partial.Binding
/-!
Parsers. A parser turns texts into element trees whose references are bound in its registry, so a
partial that several texts refer to is read only once.
-/
namespace Mustache

/-- A supplier of partials and the partials known so far. -/
structure Parser where
  resolver : Resolver
  registry : Registry

/-- What an operation of a parser leaves behind. -/
structure Parsing (α : Type) where
  result : Except Fault α
  parser : Parser
  /-- The names the resolver was asked for, in order. -/
  asked : List String

namespace Parser

/-- A parser that knows no partials yet. -/
def ofResolver (resolver : Resolver) : Parser := ⟨resolver, .empty⟩

/-- How deeply partials can be nested in a text: every level mentions a name of its own. -/
def depth (files : Files) (p : Parser) (text : String) : Nat :=
  p.resolver.weight files + text.length + 1

/-- Parses a template text. -/
def parse (files : Files) (p : Parser) (text : String) : Parsing (Forest PartialRef) :=
  let bindName := Binding.name (p.resolver.find files ·) (p.depth files text)
  let settled (result : Except Fault (Forest PartialRef)) (progress : Progress) :=
    Parsing.mk result { p with registry := progress.registry } progress.asked.reverse
  match Binding.outline bindName (.ofText text) ⟨p.registry, []⟩ with
  | .ok elements progress => settled (.ok elements) progress
  | .error fault progress => settled (.error fault) progress

/-- Parses what is read as UTF-8. -/
def parseBytes (files : Files) (p : Parser) (bytes : ByteArray) : Parsing (Forest PartialRef) :=
  match Files.decode bytes with
  | .ok text => p.parse files text
  | .error cause => ⟨.error (.io cause), p, []⟩

/-- Parses the file at a path. -/
def parseFile (files : Files) (p : Parser) (path : String) : Parsing (Forest PartialRef) :=
  match files.readText path with
  | .ok text => p.parse files text
  | .error cause => ⟨.error (.io cause), p, []⟩

/-- Parses the source of a name without mapping the name. -/
def parseByName (files : Files) (p : Parser) (name : String) : Parsing (Forest PartialRef) :=
  match p.resolver.find files name with
  | .ok text =>
    let parsing := p.parse files text
    { parsing with asked := name :: parsing.asked }
  | .error fault => ⟨.error fault, p, [name]⟩

/-- Registers a partial under a name from now on. -/
def addPartial (p : Parser) (name : String) (value : Partial) : Parser :=
  { p with registry := p.registry.register name value }

/-- Whether a name is mapped to a partial. -/
def hasPartial (p : Parser) (name : String) : Bool := p.registry.has name

/-- Changes the extension of partial files. -/
def setExtension (p : Parser) (value : String) : Except Fault Parser :=
  (p.resolver.setExtension value).map fun resolver => { p with resolver := resolver }

end Parser

end Mustache
