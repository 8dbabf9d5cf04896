import Mustache.Text.Quoted
/-!
What goes to the standard error of a run: text, and the events that the log of the run lets through.
How the line of an event looks, and the time that it begins with, belong to whatever writes the log,
so both are left open until the entries are turned into text. Only the command line keeps a log, so
the events are told in its steps; those that no run of it comes to are left out, which are that a
partial is registered and that a reference stands for nothing.
-/
namespace Mustache.CommandLine

/-- How much an event matters. -/
inductive Severity where
  | trace
  | debug
deriving DecidableEq, Repr

/-- A value that an event tells. -/
inductive Detail where
  /-- A text as it stands. -/
  | bare (s : String)
  | quoted (s : String)
  | count (n : Nat)
deriving DecidableEq, Repr

/-- Something that happens in a run. -/
structure Event where
  level : Severity
  /-- The module that it happens in. -/
  origin : String
  message : String
  details : List (String × Detail)
deriving DecidableEq, Repr

/-- A piece of the standard error. -/
inductive Entry where
  | text (s : String)
  | event (e : Event)
deriving DecidableEq, Repr

namespace Event

/-- It is settled where partials are looked up. -/
def lookupConfigured (directory extension : String) : Event :=
  ⟨.debug, "stache::commands", "partial lookup configured",
    [("directory", .bare directory), ("extension", .quoted extension)]⟩

/-- The text of a template is going to be parsed. -/
def parsing (text : String) : Event :=
  ⟨.trace, "stache_core::parser", "parsing template", [("bytes", .count text.utf8ByteSize)]⟩

/-- The source of a partial is going to be asked for. -/
def resolving (name : String) : Event :=
  ⟨.debug, "stache_core::parser", "resolving partial", [("partial", .quoted name)]⟩

/-- The event in words, without a time. -/
def words (e : Event) : String :=
  let level := match e.level with
    | .trace => "TRACE"
    | .debug => "DEBUG"
  let detail : String × Detail → String
    | (key, .bare text) => " " ++ key ++ "=" ++ text
    | (key, .quoted text) => " " ++ key ++ "=" ++ Text.quoted text
    | (key, .count n) => " " ++ key ++ "=" ++ n.repr
  level ++ " " ++ e.message ++ String.join (e.details.map detail)

end Event

namespace Entry

/-- The entries as text, given the line of each event by the number of events before it. -/
def texts (line : Nat → Event → String) : Nat → List Entry → List String
  | _, [] => []
  | before, .text s :: rest => s :: texts line before rest
  | before, .event e :: rest => line before e :: texts line (before + 1) rest

end Entry

end Mustache.CommandLine
