import Mustache.Library
import Mustache.Proofs.Template.References
/-!
What a template reaches. References lead to the bodies of partials, to registered templates, which
bring the registry of another parser, and to the templates that a partial supplied as code renders
or streams. Partials can refer to one another, so the graph may have cycles.
-/
namespace Mustache

/-- Whether a partial on a sink renders or streams a template, whatever happens on the way. -/
def Script.Has (t : Template) : Script → Prop
  | .finish _ => False
  | .feed _ next | .flush next | .close next => ∃ succeeded, (next succeeded).Has t
  | .stream u _ next => t = u ∨ ∃ succeeded, (next succeeded).Has t
  | .render u _ next => t = u ∨ ∃ output, (next output).Has t
  | .remark _ next => next.Has t

/-- Whether a partial brings a template of its own into a render. -/
def Partial.Has (t : Template) : Partial → Prop
  | .template u => t = u
  | .custom c => ∃ context, (c.output context).Has t

namespace Library

/-- The templates that take part in a render of `t`; the body of a partial counts as a template with
the home of the reference. -/
inductive Reaches (lib : Library) (t : Template) : Template → Prop where
  | self : lib.Reaches t t
  | body {u : Template} {ref : PartialRef} {elements : Forest PartialRef} : lib.Reaches t u →
      ref ∈ u.elements.targets → lib.content? u.home ref.slot = some (.parsed elements) →
      lib.Reaches t ⟨elements, u.home⟩
  | registered {u v : Template} {ref : PartialRef} {value : Partial} : lib.Reaches t u →
      ref ∈ u.elements.targets → lib.content? u.home ref.slot = some (.registered value) →
      value.Has v → lib.Reaches t v

/-- A slot of a parser that a reference of a reached template points to. -/
def ReachesSlot (lib : Library) (t : Template) (id : ParserId) (slot : Nat) : Prop :=
  ∃ u, lib.Reaches t u ∧ u.home = some id ∧ ∃ ref ∈ u.elements.targets, ref.slot = slot

/-- No reference that takes part in a render of the template stands for nothing. -/
def FullyBound (lib : Library) (t : Template) : Prop :=
  ∀ u, lib.Reaches t u → ∀ ref ∈ u.elements.targets, (lib.content? u.home ref.slot).isSome

end Library

section Within

variable (known : Option ParserId → PartialRef → Prop)

/-- All references of a template are known ones. -/
def Template.Within (t : Template) : Prop := ∀ ref ∈ t.elements.targets, known t.home ref

/-- All references behind a slot of a parser are known ones. -/
def Content.Within (home : Option ParserId) : Content → Prop
  | .parsed elements => Template.Within known ⟨elements, home⟩
  | .registered value => ∀ t, value.Has t → t.Within known

variable {known} {known' : Option ParserId → PartialRef → Prop}

theorem Template.Within.imp {t : Template} (within : t.Within known)
    (implies : ∀ home ref, known home ref → known' home ref) : t.Within known' :=
  fun ref member => implies t.home ref (within ref member)

theorem Content.Within.imp {home : Option ParserId} {content : Content}
    (within : content.Within known home) (implies : ∀ home ref, known home ref → known' home ref) :
    content.Within known' home := by
  cases content with
  | parsed elements => exact Template.Within.imp within implies
  | registered value => exact fun t has => (within t has).imp implies

end Within

section Reached

variable {lib : Library} {t u : Template} {known : Option ParserId → PartialRef → Prop}

/-- What holds of the references of a template, and of those behind every reference of which it
holds, holds of all references that the template reaches. -/
theorem Library.Reaches.within (reached : lib.Reaches t u) (start : t.Within known)
    (closed : ∀ home ref content, known home ref → lib.content? home ref.slot = some content →
      content.Within known home) : u.Within known := by
  induction reached with
  | self => exact start
  | body _ member holds ih => exact closed _ _ _ (ih _ member) holds
  | registered _ member holds has ih => exact closed _ _ _ (ih _ member) holds _ has

end Reached

end Mustache
