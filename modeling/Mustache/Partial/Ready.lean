import Mustache.Partial.Custom
import Mustache.Value.Display
/-!
Ready-made partials: fixed texts, upper-cased paths, embedded and streamed templates, and lists of
actions.
-/
namespace Mustache

/-- One action of a scripted partial. -/
inductive Action where
  /-- Writes a text. -/
  | text (content : String)
  /-- Writes the text form of a path. -/
  | path (path : String)
  | flush
  | close
  /-- Sends a text's first character and flushes. -/
  | send (content : String)
deriving DecidableEq, Repr

namespace Action

/-- The name of an action. -/
def name : Action → String
  | .text _ => "text"
  | .path _ => "path"
  | .flush => "flush"
  | .close => "close"
  | .send _ => "send"

end Action

namespace Script

/-- Feeds characters up to the first failure, and goes on with what came of it. -/
def feedThen (next : Bool → Script) : List Char → Script
  | [] => next true
  | c :: rest => .feed c fun succeeded => if succeeded then feedThen next rest else next false

end Script

namespace Custom

/-- The text form of a path, empty if it has none. -/
def pathText (context : Context) (path : String) : String :=
  ((context.resolve path).bind Value.text?).getD ""

/-- Always the same text. -/
def fixed (text : String) : Custom := .ofAppend fun _ => .write text .finish

/-- The text form of a path with its ASCII letters in upper case. -/
def upper (path : String) : Custom :=
  .ofAppend fun context =>
    .write (String.ofList ((pathText context path).toList.map Char.toUpper)) .finish

/-- Appends the output of a template. -/
def writeTemplate (template : Template) (context : Context) : Writing :=
  .render template context fun output => .write output .finish

/-- A template rendered in the context of the tag and buffered. -/
def embed (template : Template) : Custom := .ofAppend (writeTemplate template)

/-- A template streamed straight into the sink, against data of its own or the context of the
tag. -/
def live (template : Template) (data : Option Value) : Custom :=
  let subject (context : Context) : Context := match data with
    | some value => .root value
    | none => context
  { append context := writeTemplate template (subject context)
    output context := .stream template (subject context) .finish }

/-- Does one action on the sink, and goes on with whether it succeeded. -/
def act (context : Context) (action : Action) (next : Bool → Script) : Script :=
  match action with
  | .text content => .feedThen next content.toList
  | .path path => .feedThen next (pathText context path).toList
  | .flush => .flush next
  | .close => .close next
  | .send content =>
    match content.toList with
    | [] => next true
    | c :: _ => .feed c fun succeeded => if succeeded then .flush next else next false

/-- Does actions one after another. Failures are remarked; they end the partial unless they are to
be ignored. -/
def play (context : Context) (ignoring : Bool) : List Action → Script
  | [] => .finish true
  | action :: rest =>
    act context action fun succeeded =>
      if succeeded then play context ignoring rest
      else .remark (action.name ++ ": output sink failed")
        (if ignoring then play context ignoring rest else .finish false)

/-- The texts that actions write. -/
def writeAll (context : Context) : List Action → Writing
  | [] => .finish
  | .text content :: rest => .write content (writeAll context rest)
  | .path path :: rest => .write (pathText context path) (writeAll context rest)
  | _ :: rest => writeAll context rest

/-- A list of actions on the sink; on a text, only what they write. -/
def scripted (actions : List Action) (ignoring : Bool) : Custom :=
  { append context := writeAll context actions
    output context := play context ignoring actions }

end Custom

end Mustache
