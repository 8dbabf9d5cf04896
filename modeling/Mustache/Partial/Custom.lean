import Mustache.Context
import Mustache.Template.Basic
/-!
Partials that a caller supplies as code. Such a partial has two halves: one appends to a text, the
other drives the sink of a streaming render. Both are given as programs: trees of the actions they
take, with what follows depending on how each action ends.
-/
namespace Mustache

/-- What a partial does to append to a text. -/
inductive Writing where
  | finish
  /-- Appends a text. -/
  | write (text : String) (next : Writing)
  /-- Renders a template on the side and goes on with its output. -/
  | render (template : Template) (context : Context) (next : String → Writing)

/-- What a partial does with a sink. An action on the sink tells whether it succeeded; the cause of
a failure stays with the renderer. -/
inductive Script where
  /-- Ends, in success or in failure. -/
  | finish (succeeded : Bool)
  /-- Waits until the sink is ready and sends a character. -/
  | feed (c : Char) (next : Bool → Script)
  | flush (next : Bool → Script)
  | close (next : Bool → Script)
  /-- Streams a template into the sink, up to its final flush. -/
  | stream (template : Template) (context : Context) (next : Bool → Script)
  /-- Renders a template on the side and goes on with its output. -/
  | render (template : Template) (context : Context) (next : String → Script)
  /-- Notes something for the owner of the sink. -/
  | remark (line : String) (next : Script)

namespace Script

/-- Feeds characters up to the first failure. -/
def feedAll : List Char → Script
  | [] => .finish true
  | c :: rest => .feed c fun succeeded => if succeeded then feedAll rest else .finish false

end Script

namespace Writing

/-- Collects everything in a buffer first and feeds it to the sink then. -/
def buffered (buffer : String) : Writing → Script
  | .finish => .feedAll buffer.toList
  | .write text next => next.buffered (buffer ++ text)
  | .render template context next =>
    .render template context fun output => (next output).buffered buffer

end Writing

/-- A partial supplied as code; it sees the context of the tag that refers to it. -/
structure Custom where
  /-- The half for texts. -/
  append : Context → Writing
  /-- The half for sinks. -/
  output : Context → Script

namespace Custom

/-- A partial given by its half for texts alone; a sink gets what that half appends. -/
def ofAppend (append : Context → Writing) : Custom :=
  ⟨append, fun context => (append context).buffered ""⟩

end Custom

/-- What a caller can register as a partial. -/
inductive Partial where
  /-- A template, which keeps its own registry. -/
  | template (t : Template)
  | custom (c : Custom)

end Mustache
