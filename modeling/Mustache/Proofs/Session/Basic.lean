import Mustache.Library
import Mustache.Proofs.Partial.Reach
/-!
Sessions. A session is any sequence of operations on the parsers of one library: new parsers, parses
of all kinds, whether they succeed or fail, registered partials, and changes of where sources come
from. It keeps the templates that its parses have made, which later operations may register or have
rendered by partials supplied as code.
-/
namespace Mustache

/-- One operation of a session. -/
inductive Operation where
  | newParser (resolver : Resolver)
  | parse (id : ParserId) (text : String)
  | parseBytes (id : ParserId) (bytes : ByteArray)
  | parseFile (id : ParserId) (path : String)
  | parseByName (id : ParserId) (name : String)
  | addPartial (id : ParserId) (name : String) (value : Partial)
  | setExtension (id : ParserId) (value : String)
  /-- Puts another source into the table of a parser. -/
  | setSource (id : ParserId) (name : String) (source : Source)
  /-- Changes what the files hold. -/
  | setFiles (files : Files)

namespace Operation

/-- Whether an operation registers a partial. -/
def Registers (value : Partial) : Operation → Prop
  | .addPartial _ _ registered => registered = value
  | _ => False

end Operation

/-- The state of a session. -/
structure Session where
  library : Library
  files : Files
  /-- The templates that parses have made, last first. -/
  templates : List Template

namespace Session

/-- A session without parsers. -/
def start : Session := ⟨.empty, .none, []⟩

/-- What a parse leaves, whether or not it makes a template. -/
def keep (s : Session) (outcome : Outcome Template) : Session :=
  { s with
    library := outcome.library
    templates := outcome.result.toOption.toList ++ s.templates }

/-- The session after a change to one parser. -/
def update (s : Session) (id : ParserId) (change : Parser → Parser) : Session :=
  { s with library := s.library.update id change }

/-- The session after an operation. A refused extension changes nothing. -/
def step (s : Session) : Operation → Session
  | .newParser resolver => { s with library := s.library.add (.ofResolver resolver) }
  | .parse id text => s.keep (s.library.parse s.files id text)
  | .parseBytes id bytes => s.keep (s.library.parseBytes s.files id bytes)
  | .parseFile id path => s.keep (s.library.parseFile s.files id path)
  | .parseByName id name => s.keep (s.library.parseByName s.files id name)
  | .addPartial id name value => s.update id (·.addPartial name value)
  | .setExtension id value => s.update id fun p => (p.setExtension value).toOption.getD p
  | .setSource id name source =>
    s.update id fun p => { p with resolver := p.resolver.setSource name source }
  | .setFiles files => { s with files := files }

/-- The session after operations. -/
def run (s : Session) (ops : List Operation) : Session := ops.foldl step s

@[simp] theorem run_nil (s : Session) : s.run [] = s := rfl

@[simp] theorem run_cons (s : Session) (op : Operation) (rest : List Operation) :
    s.run (op :: rest) = (s.step op).run rest := rfl

theorem run_append (s : Session) (earlier later : List Operation) :
    s.run (earlier ++ later) = (s.run earlier).run later :=
  List.foldl_append

/-- The templates that operations register, or that the partials they register render, were made by
parses before them, or are templates of some other kind. -/
def Lawful (other : Template → Prop) (s : Session) : List Operation → Prop
  | [] => True
  | op :: rest =>
    (∀ value, op.Registers value → ∀ t, value.Has t → t ∈ s.templates ∨ other t) ∧
      (s.step op).Lawful other rest

theorem lawful_append {other : Template → Prop} {s : Session} {earlier later : List Operation} :
    s.Lawful other (earlier ++ later) ↔
      s.Lawful other earlier ∧ (s.run earlier).Lawful other later := by
  induction earlier generalizing s with
  | nil => simp [Lawful]
  | cons op rest ih =>
    rw [List.cons_append]
    simp only [Lawful, ih, run_cons, and_assoc]

end Session

end Mustache
