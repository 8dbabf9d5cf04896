import Mustache.Proofs.Partial.Mirror
import Mustache.Render.Basic
/-!
Rendering through registries that mirror the same sources. Slot numbers do not matter then: what a
name stands for is decided by its source. Main statement: a forest whose references are bound in
such registries, each in a library of its own, is walked in the same way on every sink and with any
fuel.
-/
namespace Mustache

open Registry

variable {σ ε : Type} {lib lib' : Library} {home home' : Option ParserId}

namespace Walk

/-- How a section is walked depends on how its children are. -/
theorem block_congr {walk walk' : Walker} {sink sink' : Sink σ ε}
    {children children' : Forest PartialRef} (flush : sink.flush = sink'.flush)
    (same : ∀ context, walk sink home context children = walk' sink' home' context children')
    (context : Context) (fuel : Nat) (value : Value) :
    block walk sink home context children fuel value =
      block walk' sink' home' context children' fuel value := by
  unfold block
  simp only [same, flush]

theorem each_map_congr {walk walk' : Element PartialRef → WalkM σ ε Unit}
    {bind bind' : String → PartialRef} {names : Forest String}
    (same : ∀ e ∈ names, walk (e.map bind) = walk' (e.map bind')) :
    each walk (names.map bind) = each walk' (names.map bind') := by
  induction names with
  | nil => rfl
  | cons e rest ih =>
    have later := ih fun other member => same other (.tail e member)
    unfold Forest.map at later ⊢
    simp only [Element.mapAll, each, same e List.mem_cons_self, later]

end Walk

/-- Two libraries resolve bound references by registries that mirror the same sources. -/
structure Library.Mirrored (find : String → Except Fault String) (lib lib' : Library)
    (home home' : Option ParserId) (r r' : Registry) : Prop where
  content : ∀ slot, lib.content? home slot = r.content? slot
  content' : ∀ slot, lib'.content? home' slot = r'.content? slot
  mirrors : r.Mirrors find
  mirrors' : r'.Mirrors find

/-- Forests of names that both registries have mapped are walked in the same way. -/
theorem Walk.forest_mirrored {find : String → Except Fault String} {r r' : Registry}
    (mirrored : lib.Mirrored find lib' home home' r r') (sink : Sink σ ε) (fuel : Nat)
    (context : Context) (names : Forest String) (mapped : ∀ name ∈ names.targets, r.has name = true)
    (mapped' : ∀ name ∈ names.targets, r'.has name = true) :
    Walk.forest lib fuel sink home context (names.map r.refer) =
      Walk.forest lib' fuel sink home' context (names.map r'.refer) := by
  induction fuel generalizing context names with
  | zero => rfl
  | succ fuel ih =>
    refine each_map_congr fun e member => ?_
    have here (name : String) (refers : name ∈ e.targets) : r.has name = true :=
      mapped name (Forest.mem_targets member refers)
    have here' (name : String) (refers : name ∈ e.targets) : r'.has name = true :=
      mapped' name (Forest.mem_targets member refers)
    cases e with
    | text | escaped | raw => rfl
    | block path children =>
      simp only [Element.map, element]
      cases context.resolve path with
      | none => rfl
      | some value =>
        exact block_congr rfl (fun inner => ih inner children here here') context fuel value
    | inverted path children =>
      simp only [Element.map, element]
      split
      · exact ih context children here here'
      · rfl
    | reference name =>
      obtain ⟨text, body, found, sound, holds, closed⟩ :=
        mirrored.mirrors.content (here name List.mem_cons_self)
      obtain ⟨text', body', found', sound', holds', closed'⟩ :=
        mirrored.mirrors'.content (here' name List.mem_cons_self)
      rw [found] at found'
      cases found'
      rw [sound] at sound'
      cases sound'
      simp only [Element.map, element, mirrored.content, mirrored.content', holds, holds']
      exact ih context body closed closed'

end Mustache
