import Mustache.Proofs.Render.Schedule
/-!
Partials given by their half for texts alone. What such a half appends does not depend on the sink.
Main statement: run on a sink, the partial emits the text that its half appends to an empty one, and
a failure of the sink is the same as it would be without the partial in between.
-/
namespace Mustache

variable {σ ε : Type}

/-- The text that a writing leaves after another one, given how it renders templates. -/
def Writing.onto? (render : Template → Context → Option String) (text : String) :
    Writing → Option String
  | .finish => some text
  | .write more next => next.onto? render (text ++ more)
  | .render t context next =>
    (render t context).bind fun output => (next output).onto? render text

namespace Walk

variable {walk : Walker}

/-- A writing is collected completely before the first character is fed. -/
theorem script_buffered (sink : Sink σ SinkFailed) (w : Writing) (buffer : String) :
    script walk sink (w.buffered buffer) =
      match w.onto? (sideText walk) buffer with
      | some text => script walk sink (.feedAll text.toList)
      | none => throw ⟨⟩ := by
  induction w generalizing buffer with
  | finish => rfl
  | write more next ih => exact ih (buffer ++ more)
  | render t context next ih =>
    simp only [Writing.buffered, script, Writing.onto?]
    cases sideText walk t context with
    | none => rfl
    | some output => exact ih output buffer

/-- Feeding a character through to a sink that has not failed before. -/
theorem attempt_feed_forward (sink : Sink σ ε) (c : Char) (s : σ) :
    attempt (call (sink.forward.feed c)) (s, none) =
      match sink.feed c s with
      | .ok _ t => .ok true (t, none)
      | .error e t => .ok false (t, some e) := by
  simp only [attempt, call, Sink.feed, Sink.forward, Sink.keep, Bind.bind, EStateM.bind]
  cases sink.ready s with
  | error e t => rfl
  | ok _ t =>
    dsimp only
    cases sink.send c t with
    | error e u => rfl
    | ok _ u => rfl

theorem script_feedAll (sink : Sink σ ε) (cs : List Char) (s : σ) :
    script walk sink.forward (.feedAll cs) (s, none) =
      match emit sink cs s with
      | .ok _ t => .ok true (t, none)
      | .error (.sink e) t => .ok false (t, some e)
      | .error .exhausted t => .error ⟨⟩ (t, none) := by
  induction cs generalizing s with
  | nil => rfl
  | cons c rest ih =>
    simp only [Script.feedAll, script, emit, Bind.bind, EStateM.bind, attempt_feed_forward, call]
    cases sink.feed c s with
    | error e t => rfl
    | ok _ t => exact ih t

/-- Characters fed by a partial reach the sink like characters of the template. -/
theorem custom_feedAll (sink : Sink σ ε) (cs : List Char) :
    custom walk sink (.feedAll cs) = emit sink cs := by
  funext s
  simp only [custom, script_feedAll]
  cases emit sink cs s with
  | ok _ t => rfl
  | error halt t =>
    cases halt with
    | sink e => rfl
    | exhausted => rfl

theorem custom_ofAppend (sink : Sink σ ε) (append : Context → Writing) (context : Context) :
    custom walk sink ((Custom.ofAppend append).output context) =
      match (append context).onto? (sideText walk) "" with
      | some text => emit sink text.toList
      | none => throw .exhausted := by
  have unfolded : (Custom.ofAppend append).output context = (append context).buffered "" := rfl
  funext s
  cases written : (append context).onto? (sideText walk) "" with
  | some text =>
    simp only [unfolded, custom, script_buffered, written]
    exact congrFun (custom_feedAll sink text.toList) s
  | none =>
    simp only [unfolded, custom, script_buffered, written]
    rfl

end Walk

/-- In a render, the partial emits what its half appends when templates are rendered on the side. -/
theorem Library.custom_ofAppend (lib : Library) (fuel : Nat) (sink : Sink σ ε)
    (append : Context → Writing) (context : Context) :
    Walk.custom (Walk.forest lib fuel) sink ((Custom.ofAppend append).output context) =
      match (append context).onto? (lib.render fuel) "" with
      | some text => Walk.emit sink text.toList
      | none => throw .exhausted :=
  Walk.custom_ofAppend sink append context

end Mustache
