import Mustache.Template.Element
/-!
Templates ready for rendering. Their partial references point to the slots of one parser's registry.
-/
namespace Mustache

/-- The number of a parser in its library. -/
abbrev ParserId := Nat

/-- A partial reference bound to a registry slot. -/
structure PartialRef where
  name : String
  slot : Nat
deriving DecidableEq, Repr

/-- An element tree and the parser whose registry its references point into. A template that no
parser made has no such registry, and its references stand for nothing. -/
structure Template where
  elements : Forest PartialRef
  home : Option ParserId

namespace Template

/-- A template of the given elements alone. -/
def ofElements (elements : Forest PartialRef) : Template := ⟨elements, none⟩

end Template

end Mustache
