import Mustache.Proofs.Render.Outcome
import Mustache.Proofs.Session.Soundness
/-!
Bindings are stable. Main statement: whatever happens in a session after a template was made,
including registrations under names that the template refers to and parses that fail, the template
renders the same way as before.
-/
namespace Mustache

/-- In a later state of a library, known references mean what they meant before. -/
theorem Library.Extends.matches {lib lib' : Library} {other : Option ParserId → PartialRef → Prop}
    (extended : lib'.Extends lib) (closed : lib.Closed other)
    (void : ∀ home ref, other home ref → home = none) :
    Walk.Matches lib lib' (lib.Knows other) where
  same home ref known := by
    rcases known with standing | loose
    · exact extended.content?_eq standing
    · rw [void home ref loose]
      rfl
  closed home ref content _ holds := closed home ref.slot content holds

namespace Session

/-- Rendering a template that a parse has made gives the same after any further operations. The
partials registered in the session may use templates that its parses have made before, and templates
that no parser made. -/
theorem rendersAlike_run {earlier later : List Operation} {t : Template}
    (rules : start.Lawful (fun u => u.home = none) (earlier ++ later))
    (made : t ∈ (start.run earlier).templates) :
    (start.run earlier).library.RendersAlike (start.run (earlier ++ later)).library t := by
  obtain ⟨before, after⟩ := lawful_append.mp rules
  have accepts (u : Template) (loose : u.home = none) : u.Within fun home _ => home = none :=
    fun _ _ => loose
  have sound := (run_sound accepts (start_sound _) before).1
  have extended := (run_sound accepts sound after).2
  rw [run_append]
  refine Library.rendersAlike (extended.matches sound.closed fun _ _ loose => loose) ?_
  exact (sound.templates t made).imp fun _ _ => .inl

/-- A partial is registered under a name that a template refers to, and a parse that mentions the
name fails: the template goes on as before. -/
theorem rendersAlike_overwritten :
    let earlier := [.newParser (.table [("b", .text "x")] (.missing "")), .parse 0 "{{>b}}"]
    let later := [.addPartial 0 "b" (.template (.ofElements [.text "y"])), .parse 0 "{{>b}}{{>c}}"]
    (start.run earlier).library.RendersAlike (start.run (earlier ++ later)).library
      ⟨[.reference ⟨"b", 0⟩], some 0⟩ := by
  refine rendersAlike_run ?_ (List.mem_singleton.mpr rfl)
  simp [Lawful, Operation.Registers, Partial.Has, Template.ofElements]

end Session

end Mustache
