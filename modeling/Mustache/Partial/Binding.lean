import Mustache.Partial.Registry
import Mustache.Partial.Resolver
/-!
Binding partial references to registry slots. References are bound in reading order. The first
reference to a name reserves a slot, asks for the source, reads it, binds its references in turn and
fills the slot. A failure takes the name off the reserved slot again; what was bound completely
before it stays.

Partials can refer to one another without end in sight only through names that are mapped already,
so the nesting is bounded by the number of names that all texts together can mention.
-/
namespace Mustache

/-- What binding changes: the registry, and the names asked for so far, last first. -/
structure Progress where
  registry : Registry
  asked : List String

/-- A step of binding; what has changed stays changed if it fails. -/
abbrev Binding := EStateM Fault Progress

namespace Binding

/-- Binds names one after another. -/
def each (bindOne : String → Binding Unit) : List String → Binding Unit
  | [] => pure ()
  | name :: rest => do
    bindOne name
    each bindOne rest

/-- Binds the references of an outline. The names before a flaw are bound as well. -/
def outline (bindOne : String → Binding Unit) (o : Outline) : Binding (Forest PartialRef) := do
  each bindOne o.references
  match o.result with
  | .ok forest => return forest.map (← get).registry.refer
  | .error located => throw (.parse located)

/-- Maps a name to a new slot while its source is asked for. -/
def reserve (name : String) : Binding Nat := fun p =>
  .ok p.registry.slots.length ⟨p.registry.reserve name, name :: p.asked⟩

/-- Fills a slot with the body of a partial. -/
def fill (index : Nat) (elements : Forest PartialRef) : Binding Unit := fun p =>
  .ok () { p with registry := p.registry.fill index elements }

/-- Takes a name off its slot if a step fails. -/
def orRelease (name : String) (index : Nat) (act : Binding Unit) : Binding Unit := fun p =>
  match act p with
  | .ok result p => .ok result p
  | .error fault p => .error fault { p with registry := p.registry.release name index }

/-- A source text, or the failure to get one. -/
def source (find : String → Except Fault String) (name : String) : Binding String := fun p =>
  match find name with
  | .ok text => .ok text p
  | .error fault => .error fault p

/-- Makes sure that a name is mapped, with at most so many partials inside one another. -/
def name (find : String → Except Fault String) : Nat → String → Binding Unit
  | 0, _ => throw .nestedTooDeep
  | depth + 1, name => do
    if (← get).registry.has name then
      return
    let index ← reserve name
    orRelease name index do
      let text ← source find name
      let elements ← outline (Binding.name find depth) (.ofText text)
      fill index elements

end Binding

end Mustache
