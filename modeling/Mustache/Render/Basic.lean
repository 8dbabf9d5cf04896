import Mustache.Render.Walk
/-!
Rendering templates: into a text, or into any sink. There is one walk for both; a text is a sink
that never fails.
-/
namespace Mustache.Library

variable {σ ε : Type}

/-- Renders a template after a text, if the fuel suffices. -/
def renderOnto (lib : Library) (fuel : Nat) (text : String) (template : Template)
    (context : Context) : Option String :=
  match Walk.forest lib fuel Sink.string template.home context template.elements text with
  | .ok _ output => some output
  | .error _ _ => none

/-- Renders a template, if the fuel suffices. -/
def render (lib : Library) (fuel : Nat) (template : Template) (context : Context) :
    Option String :=
  lib.renderOnto fuel "" template context

/-- Renders a template into a sink and flushes it at the end. -/
def stream (lib : Library) (fuel : Nat) (sink : Sink σ ε) (template : Template)
    (context : Context) : WalkM σ ε Unit :=
  Walk.streamed (Walk.forest lib fuel) sink template context

end Mustache.Library
