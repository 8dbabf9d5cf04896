import Mustache.Value.Lookup
/-!
The frames that a name is looked up in. The current frame holds the value in scope; sections put new
frames in front and never change one. A frame of an iteration also answers for the position of its
item, and a frame of an enumeration value for the variants.
-/
namespace Mustache

/-- What a frame answers for beside its value. -/
inductive Marks where
  | plain
  /-- One item of an iteration: whether it is the first, the last, and its index from zero. -/
  | item (first last : Bool) (index : Nat)
  /-- An enumeration value: the names of the variants. -/
  | variant
deriving DecidableEq, Repr

/-- A value in scope. -/
structure Frame where
  value : Value
  marks : Marks

/-- A chain of frames, the current one and those around it, innermost first. -/
structure Context where
  current : Frame
  enclosing : List Frame

namespace Frame

/-- What a frame answers by itself, before its value is asked. -/
def override? (f : Frame) (name : String) : Option Value :=
  match f.marks with
  | .plain => none
  | .item first last index =>
    if name = "first" then some (.bool first)
    else if name = "last" then some (.bool last)
    else if name = "index" then some (.ofNat index)
    else if name = "index1" then some (.ofNat (index + 1))
    else none
  | .variant =>
    match f.value with
    | .enumeration _ variant variants _ =>
      if name = variant then some (.bool true)
      else if name ∈ variants then some (.bool false)
      else none
    | _ => none

end Frame

namespace Context

/-- The context of a render, with one value in scope. -/
def root (value : Value) : Context := ⟨⟨value, .plain⟩, []⟩

/-- All frames, the current one first. -/
def frames (c : Context) : List Frame := c.current :: c.enclosing

/-- The context with one more frame in front. -/
def push (c : Context) (value : Value) (marks : Marks) : Context := ⟨⟨value, marks⟩, c.frames⟩

/-- The context of a section body. -/
def child (c : Context) (value : Value) : Context := c.push value .plain

/-- The context of one item of an iteration. -/
def itemChild (c : Context) (value : Value) (first last : Bool) (index : Nat) : Context :=
  c.push value (.item first last index)

/-- The context of a section over an enumeration value. -/
def variantChild (c : Context) (value : Value) : Context := c.push value .variant

/-- The first answer to a name going outwards, each frame being asked before its value. -/
def search (name : String) : List Frame → Option Value
  | [] => none
  | f :: rest => ((f.override? name).or (f.value.lookup name)).or (search name rest)

/-- The segments of a dotted path; there is always at least one. -/
def segments : List Char → List (List Char)
  | [] => [[]]
  | '.' :: rest => [] :: segments rest
  | c :: rest =>
    match segments rest with
    | [] => [[c]]
    | segment :: others => (c :: segment) :: others

/-- Looks up segments one after another, each on the result of the one before. -/
def follow (value : Value) : List (List Char) → Option Value
  | [] => some value
  | segment :: rest => (value.lookup (String.ofList segment)).bind fun next => follow next rest

/-- What a path means. The current frame is asked for the path as a whole; only the first segment
is looked for in enclosing frames as well. -/
def resolve (c : Context) (path : String) : Option Value :=
  match c.current.override? path with
  | some value => some value
  | none =>
    if path = "." then some c.current.value
    else match segments path.toList with
      | [] => none
      | head :: rest =>
        let name := String.ofList head
        ((c.current.value.lookup name).or (search name c.enclosing)).bind (follow · rest)

end Context

end Mustache
