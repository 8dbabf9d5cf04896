import Mustache.Library
import Mustache.Render.Section
import Mustache.Render.Sink
import Mustache.Text.Entity
/-!
The walk over an element tree that feeds its output to a sink. The first failure of the sink ends
it.

Rendering need not end: partials can refer to themselves and streams can be endless. The walk
therefore carries fuel, which bounds how deeply sections and partials nest and how many items of an
endless stream are gone over. A walk that runs out of fuel has no outcome; more fuel never changes
an outcome.

Every call on a sink is answered, and every item of a stream is there, when it is asked for. Left
out is the waiting in between, and how a walk is driven through it: a render for a string drives
itself to its end, and it cannot wait where it was started by a walk that is itself being driven, so
there the program fails if an item is not there at once. Left out is also the trace that a walk
tells of a reference that stands for nothing.
-/
namespace Mustache

/-- The walk ran out of fuel. -/
structure Exhausted where
deriving DecidableEq, Repr

/-- What ends a walk early. -/
inductive Halt (ε : Type) where
  /-- The sink failed. -/
  | sink (error : ε)
  /-- The fuel ran out. -/
  | exhausted
deriving DecidableEq, Repr

/-- Walks that feed a sink with states `σ` and errors `ε`. -/
abbrev WalkM (σ ε : Type) := EStateM (Halt ε) σ

/-- A way to walk a forest, whatever the sink; it is given the home of the forest's references. -/
abbrev Walker :=
  {σ ε : Type} → Sink σ ε → Option ParserId → Context → Forest PartialRef → WalkM σ ε Unit

namespace Walk

variable {σ ε : Type}

/-- One call on the sink as a walk. -/
def call (c : SinkM σ ε Unit) : WalkM σ ε Unit := fun state =>
  match c state with
  | .ok _ next => .ok () next
  | .error e next => .error (.sink e) next

/-- A walk of which only success or failure is reported. -/
def attempt (w : WalkM σ ε Unit) : EStateM Exhausted σ Bool := fun state =>
  match w state with
  | .ok _ next => .ok true next
  | .error (.sink _) next => .ok false next
  | .error .exhausted next => .error ⟨⟩ next

/-- Feeds characters to the sink. -/
def emit (sink : Sink σ ε) : List Char → WalkM σ ε Unit
  | [] => pure ()
  | c :: rest => do
    call (sink.feed c)
    emit sink rest

/-- Walks one after another. -/
def each {α : Type} (walk : α → WalkM σ ε Unit) : List α → WalkM σ ε Unit
  | [] => pure ()
  | a :: rest => do
    walk a
    each walk rest

/-- Goes over the items of an endless stream from an index on; the fuel is the number of items. -/
def endless (walk : Frame → WalkM σ ε Unit) (item : Nat → Value) : Nat → Nat → WalkM σ ε Unit
  | 0, _ => throw .exhausted
  | fuel + 1, index => do
    walk (Section.passing item index)
    endless walk item fuel (index + 1)

/-- The text form of what a path means, if it has one. -/
def textOf? (context : Context) (path : String) : Option String :=
  (context.resolve path).bind Value.text?

/-- Emits a text if there is one. -/
def emitText? (sink : Sink σ ε) : Option String → WalkM σ ε Unit
  | some text => emit sink text.toList
  | none => pure ()

/-- The output of a template rendered on the side. -/
def sideText (walk : Walker) (template : Template) (context : Context) : Option String :=
  match walk Sink.string template.home context template.elements "" with
  | .ok _ output => some output
  | .error _ _ => none

/-- Streams a template into a sink, up to the final flush. -/
def streamed (walk : Walker) (sink : Sink σ ε) (template : Template) (context : Context) :
    WalkM σ ε Unit := do
  walk sink template.home context template.elements
  call sink.flush

/-- Runs the program of a partial on the sink it was handed. -/
def script (walk : Walker) (sink : Sink σ SinkFailed) : Script → EStateM Exhausted σ Bool
  | .finish succeeded => pure succeeded
  | .feed c next => do
    let succeeded ← attempt (call (sink.feed c))
    script walk sink (next succeeded)
  | .flush next => do
    let succeeded ← attempt (call sink.flush)
    script walk sink (next succeeded)
  | .close next => do
    let succeeded ← attempt (call sink.close)
    script walk sink (next succeeded)
  | .stream template context next => do
    let succeeded ← attempt (streamed walk sink template context)
    script walk sink (next succeeded)
  | .render template context next =>
    match sideText walk template context with
    | some output => script walk sink (next output)
    | none => throw ⟨⟩
  | .remark line next => do
    modify (sink.remark line)
    script walk sink next

/-- Runs the program of a partial in a walk. The first error of the sink decides, whatever the
partial made of it. -/
def custom (walk : Walker) (sink : Sink σ ε) (program : Script) : WalkM σ ε Unit := fun state =>
  match script walk sink.forward program (state, none) with
  | .ok _ (next, none) => .ok () next
  | .ok _ (next, some e) => .error (.sink e) next
  | .error _ (next, _) => .error .exhausted next

/-- Walks what a partial reference stands for. -/
def content (walk : Walker) (sink : Sink σ ε) (home : Option ParserId) (context : Context) :
    Option Content → WalkM σ ε Unit
  | none => pure ()
  | some (.parsed elements) => walk sink home context elements
  | some (.registered (.template t)) => walk sink t.home context t.elements
  | some (.registered (.custom c)) => custom walk sink (c.output context)

/-- Walks the body of a section over a value. The sink is flushed before and after each item of a
stream. -/
def block (walk : Walker) (sink : Sink σ ε) (home : Option ParserId) (context : Context)
    (children : Forest PartialRef) (fuel : Nat) (value : Value) : WalkM σ ε Unit :=
  let body (frame : Frame) : WalkM σ ε Unit :=
    walk sink home (context.push frame.value frame.marks) children
  let flushed (frame : Frame) : WalkM σ ε Unit := do
    call sink.flush
    body frame
    call sink.flush
  match value with
  | .stream _ (.endless item) => endless flushed item fuel 0
  | .stream _ (.finite _) => each flushed (Section.frames value)
  | _ => each body (Section.frames value)

/-- Walks one element. -/
def element (lib : Library) (walk : Walker) (fuel : Nat) (sink : Sink σ ε)
    (home : Option ParserId) (context : Context) : Element PartialRef → WalkM σ ε Unit
  | .text content => emit sink content.toList
  | .escaped path => emitText? sink ((textOf? context path).map Text.escape)
  | .raw path => emitText? sink (textOf? context path)
  | .block path children =>
    match context.resolve path with
    | some value => block walk sink home context children fuel value
    | none => pure ()
  | .inverted path children =>
    if Section.isVoid (context.resolve path) then walk sink home context children else pure ()
  | .reference target => content walk sink home context (lib.content? home target.slot)

/-- Walks a forest; every level of nesting takes one unit of fuel. -/
def forest (lib : Library) : Nat → Walker
  | 0 => fun _ _ _ _ => throw .exhausted
  | fuel + 1 => fun sink home context elements =>
    each (element lib (forest lib fuel) fuel sink home context) elements

end Walk

end Mustache
