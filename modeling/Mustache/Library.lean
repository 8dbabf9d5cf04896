import Mustache.Parser
/-!
A library of parsers. Templates refer to the registry of the parser that made them by its number, so
all parsers whose templates take part in a render stand in one library.
-/
namespace Mustache

/-- Parsers by number. -/
structure Library where
  parsers : List Parser

/-- What an operation on a parser of a library leaves behind. -/
structure Outcome (α : Type) where
  result : Except Fault α
  library : Library
  /-- The names a resolver was asked for, in order. -/
  asked : List String

namespace Library

/-- A library without parsers. -/
def empty : Library := ⟨[]⟩

/-- The number the next parser gets. -/
def next (lib : Library) : ParserId := lib.parsers.length

/-- The library with one more parser. -/
def add (lib : Library) (p : Parser) : Library := ⟨lib.parsers ++ [p]⟩

/-- The parser of a number. -/
def parser? (lib : Library) (id : ParserId) : Option Parser := lib.parsers[id]?

/-- The library with a parser in the place of another one. -/
def replace (lib : Library) (id : ParserId) (p : Parser) : Library := ⟨lib.parsers.set id p⟩

/-- What a reference of a template with this home stands for, if anything. -/
def content? (lib : Library) (home : Option ParserId) (slot : Nat) : Option Content := do
  let id ← home
  let parser ← lib.parser? id
  parser.registry.content? slot

/-- Lets one parser make a template. -/
def make (lib : Library) (id : ParserId) (act : Parser → Parsing (Forest PartialRef)) :
    Outcome Template :=
  match lib.parser? id with
  | none => ⟨.error (.unknownParser id), lib, []⟩
  | some parser =>
    let parsing := act parser
    ⟨parsing.result.map (⟨·, some id⟩), lib.replace id parsing.parser, parsing.asked⟩

/-- Parses a template text. -/
def parse (lib : Library) (files : Files) (id : ParserId) (text : String) : Outcome Template :=
  lib.make id (·.parse files text)

/-- Parses what is read as UTF-8. -/
def parseBytes (lib : Library) (files : Files) (id : ParserId) (bytes : ByteArray) :
    Outcome Template :=
  lib.make id (·.parseBytes files bytes)

/-- Parses the file at a path. -/
def parseFile (lib : Library) (files : Files) (id : ParserId) (path : String) :
    Outcome Template :=
  lib.make id (·.parseFile files path)

/-- Parses the source of a name without mapping the name. -/
def parseByName (lib : Library) (files : Files) (id : ParserId) (name : String) :
    Outcome Template :=
  lib.make id (·.parseByName files name)

/-- The library after a change to one parser. -/
def update (lib : Library) (id : ParserId) (change : Parser → Parser) : Library :=
  match lib.parser? id with
  | none => lib
  | some parser => lib.replace id (change parser)

/-- Registers a partial with a parser. -/
def addPartial (lib : Library) (id : ParserId) (name : String) (value : Partial) : Library :=
  lib.update id (·.addPartial name value)

end Library

end Mustache
