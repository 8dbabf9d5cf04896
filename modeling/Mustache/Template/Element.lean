/-!
The element tree of a template. The type of partial references is a parameter: a text that has only
been read refers to partials by name, a template ready for rendering by registry slot.
-/
namespace Mustache

/-- One node of a template; `ρ` is what a partial reference holds. -/
inductive Element (ρ : Type) where
  /-- Literal text. -/
  | text (content : String)
  /-- The text form of a path's value, escaped. -/
  | escaped (path : String)
  /-- The text form of a path's value as it is. -/
  | raw (path : String)
  /-- A section: its children once per item, or once for a scalar that holds. -/
  | block (path : String) (children : List (Element ρ))
  /-- An inverted section: its children once if the section of that path has none. -/
  | inverted (path : String) (children : List (Element ρ))
  /-- Whatever stands for a partial at this place. -/
  | reference (target : ρ)

/-- A sequence of elements, as a template or a section holds them. -/
abbrev Forest (ρ : Type) := List (Element ρ)

namespace Element

variable {ρ τ : Type}

mutual

/-- The element with every reference replaced. -/
def map (f : ρ → τ) : Element ρ → Element τ
  | .text content => .text content
  | .escaped path => .escaped path
  | .raw path => .raw path
  | .block path children => .block path (mapAll f children)
  | .inverted path children => .inverted path (mapAll f children)
  | .reference target => .reference (f target)

/-- The forest with every reference replaced. -/
def mapAll (f : ρ → τ) : Forest ρ → Forest τ
  | [] => []
  | element :: rest => element.map f :: mapAll f rest

end

mutual

/-- The references of an element in reading order. -/
def targets : Element ρ → List ρ
  | .block _ children | .inverted _ children => targetsAll children
  | .reference target => [target]
  | _ => []

/-- The references of a forest in reading order. -/
def targetsAll : Forest ρ → List ρ
  | [] => []
  | element :: rest => element.targets ++ targetsAll rest

end

end Element

namespace Forest

variable {ρ τ : Type}

/-- The forest with every reference replaced. -/
def map (f : ρ → τ) (forest : Forest ρ) : Forest τ := Element.mapAll f forest

/-- The references of a forest in reading order. -/
def targets (forest : Forest ρ) : List ρ := Element.targetsAll forest

end Forest

end Mustache
