import Mustache.Proofs.Render.Outcome
/-!
Rendering into a text and into a sink agree. The calls that a walk makes on a sink that never fails
do not depend on the sink; they are noted by a sink of their own. Main statements: a walk on a sink
that never fails ends exactly if the noting walk does, and leaves what the noted calls leave; hence
a template streams into such a sink exactly the characters that it renders after a text, and one of
the two completes exactly if the other does.
-/
namespace Mustache

variable {σ ε : Type}

/-- A call on a sink, or a remark for its owner. -/
inductive SinkCall where
  | ready
  | send (c : Char)
  | flush
  | close
  | remark (line : String)
deriving DecidableEq, Repr

namespace SinkCall

/-- The characters that calls send. -/
def sent : List SinkCall → List Char
  | [] => []
  | .send c :: rest => c :: sent rest
  | _ :: rest => sent rest

end SinkCall

namespace Sink

/-- One call on a sink. -/
def perform (sink : Sink σ ε) : SinkCall → SinkM σ ε Unit
  | .ready => sink.ready
  | .send c => sink.send c
  | .flush => sink.flush
  | .close => sink.close
  | .remark line => modify (sink.remark line)

/-- Calls on a sink up to the first that fails. -/
def performAll (sink : Sink σ ε) : List SinkCall → SinkM σ ε Unit
  | [] => pure ()
  | call :: rest => do
    sink.perform call
    sink.performAll rest

/-- Whether a sink accepts every sequence of calls. -/
def NeverFails (sink : Sink σ ε) (start : σ) : Prop :=
  ∀ calls, ∃ last, sink.performAll calls start = .ok () last

/-- A sink that notes the calls on it, last first. -/
def noting : Sink (List SinkCall) Empty where
  ready := modify (.ready :: ·)
  send c := modify (.send c :: ·)
  flush := modify (.flush :: ·)
  close := modify (.close :: ·)
  remark line calls := .remark line :: calls

theorem performAll_concat (sink : Sink σ ε) (calls : List SinkCall) (call : SinkCall) :
    sink.performAll (calls ++ [call]) = (do sink.performAll calls; sink.perform call) := by
  induction calls with
  | nil => exact bind_pure_unit
  | cons first rest ih =>
    simp only [List.cons_append, performAll, ih]
    exact (bind_assoc _ _ _).symm

section Noting

variable {sink : Sink σ ε} {start : σ}

/-- The state of a sink after noted calls. -/
def After (sink : Sink σ ε) (start : σ) (noted : List SinkCall) (state : σ) : Prop :=
  sink.performAll noted.reverse start = .ok () state

/-- Errors of a sink that has none are never related to anything. -/
def Unfailing : Empty → ε → Prop := fun e _ => e.elim

theorem noted_simulates (steady : sink.NeverFails start) (call : SinkCall) :
    Simulates (sink.After start) Unfailing (fun _ => False)
      (modify (call :: ·) : SinkM (List SinkCall) Empty Unit) (sink.perform call) := by
  intro noted state after
  obtain ⟨next, performed⟩ := steady (call :: noted).reverse
  have extended : sink.perform call state = .ok () next := by
    rw [List.reverse_cons, performAll_concat] at performed
    unfold After at after
    simpa [Bind.bind, EStateM.bind, after] using performed
  rw [extended]
  exact .ok () performed

theorem noting_lockstep (steady : sink.NeverFails start) :
    Lockstep noting sink (sink.After start) Unfailing where
  ready := noted_simulates steady .ready
  send c := noted_simulates steady (.send c)
  flush := noted_simulates steady .flush
  close := noted_simulates steady .close
  remark line noted state after := by
    cases noted_simulates steady (.remark line) noted state after with
    | ok _ next => exact next

end Noting

/-- On a text, calls append what they send. -/
theorem performAll_string (calls : List SinkCall) (out : String) :
    string.performAll calls out = .ok () (out ++ String.ofList (SinkCall.sent calls)) := by
  induction calls generalizing out with
  | nil => simp [performAll, SinkCall.sent, Pure.pure, EStateM.pure]
  | cons call rest ih =>
    simp only [performAll, Bind.bind, EStateM.bind]
    cases call with
    | send c =>
      have sent : string.perform (.send c) out = .ok () (out.push c) := rfl
      have longer : out.push c ++ String.ofList (SinkCall.sent rest) =
          out ++ String.ofList (c :: SinkCall.sent rest) := by simp [← String.toList_inj]
      rw [sent]
      simp only [ih, SinkCall.sent, longer]
    | ready | flush | close | remark line => exact ih out

theorem string_neverFails (out : String) : string.NeverFails out :=
  fun calls => ⟨_, performAll_string calls out⟩

end Sink

namespace Library

variable {lib : Library} {fuel : Nat} {t : Template} {context : Context}

/-- The calls that the walk over a template makes on a sink that never fails, if the fuel
suffices. -/
def calls? (lib : Library) (fuel : Nat) (t : Template) (context : Context) :
    Option (List SinkCall) :=
  match Walk.forest lib fuel Sink.noting t.home context t.elements [] with
  | .ok _ noted => some noted.reverse
  | .error _ _ => none

/-- How a walk on a sink that never fails ends. -/
theorem forest_calls (lib : Library) (fuel : Nat) (t : Template) (context : Context)
    {sink : Sink σ ε} {start : σ} (steady : sink.NeverFails start) :
    (∃ calls last, lib.calls? fuel t context = some calls ∧
      sink.performAll calls start = .ok () last ∧
      Walk.forest lib fuel sink t.home context t.elements start = .ok () last) ∨
    (∃ last, lib.calls? fuel t context = none ∧
      Walk.forest lib fuel sink t.home context t.elements start = .error .exhausted last) := by
  have follows : Walk.Follows False (sink.After start) Sink.Unfailing
      (Walk.forest lib fuel Sink.noting t.home context t.elements)
      (Walk.forest lib fuel sink t.home context t.elements) :=
    Walk.forest_leads (matches_self lib) fuel 0 (.inr rfl) (Sink.noting_lockstep steady) t context
      fun _ _ => trivial
  have agree := follows [] start rfl
  unfold calls?
  generalize Walk.forest lib fuel Sink.noting t.home context t.elements [] = noted,
    Walk.forest lib fuel sink t.home context t.elements start = result at agree ⊢
  cases agree with
  | @ok _ noted last after => exact .inl ⟨noted.reverse, last, rfl, after, rfl⟩
  | @error halt halt' noted last failed after =>
    cases failed with
    | @sink impossible _ => exact impossible.elim
    | exhausted => exact .inr ⟨last, rfl, rfl⟩
  | starved impossible => exact impossible.1.elim

theorem calls?_mono {calls : List SinkCall} (noted : lib.calls? fuel t context = some calls)
    (extra : Nat) : lib.calls? (fuel + extra) t context = some calls := by
  have agree := forest_mono lib fuel extra Sink.noting t context [] [] rfl
  unfold calls? at noted ⊢
  generalize Walk.forest lib fuel Sink.noting t.home context t.elements [] = result,
    Walk.forest lib (fuel + extra) Sink.noting t.home context t.elements [] = result'
    at agree noted ⊢
  cases agree with
  | ok _ same => rw [← noted, same]
  | error _ _ => cases noted
  | starved _ => cases noted

/-- Whatever the fuel, the calls are the same. -/
theorem calls?_unique {fuel' : Nat} {calls calls' : List SinkCall}
    (noted : lib.calls? fuel t context = some calls)
    (noted' : lib.calls? fuel' t context = some calls') : calls = calls' := by
  have more := calls?_mono noted fuel'
  have more' := calls?_mono noted' fuel
  rw [Nat.add_comm, more] at more'
  exact Option.some.inj more'

theorem renderOnto_calls (lib : Library) (fuel : Nat) (out : String) (t : Template)
    (context : Context) : lib.renderOnto fuel out t context =
      (lib.calls? fuel t context).map fun calls => out ++ String.ofList (SinkCall.sent calls) := by
  unfold renderOnto
  rcases forest_calls lib fuel t context (Sink.string_neverFails out) with
    ⟨calls, last, noted, performed, walked⟩ | ⟨last, none, walked⟩
  · rw [Sink.performAll_string] at performed
    cases performed
    rw [walked, noted]
    rfl
  · rw [walked, none]
    rfl

/-- A stream ends like the walk, with one more flush. -/
theorem stream_calls (lib : Library) (fuel : Nat) (t : Template) (context : Context)
    {sink : Sink σ ε} {start : σ} (steady : sink.NeverFails start) :
    (∃ calls last, lib.calls? fuel t context = some calls ∧
      sink.performAll (calls ++ [.flush]) start = .ok () last ∧
      lib.stream fuel sink t context start = .ok () last) ∨
    (∃ last, lib.calls? fuel t context = none ∧
      lib.stream fuel sink t context start = .error .exhausted last) := by
  rcases forest_calls lib fuel t context steady with
    ⟨calls, walked, noted, performed, ran⟩ | ⟨last, none, ran⟩
  · obtain ⟨last, flushed⟩ := steady (calls ++ [.flush])
    refine .inl ⟨calls, last, noted, flushed, ?_⟩
    rw [Sink.performAll_concat] at flushed
    simp only [Bind.bind, EStateM.bind, performed, Sink.perform] at flushed
    simp only [stream, Walk.streamed, Bind.bind, EStateM.bind, ran, Walk.call, flushed]
  · refine .inr ⟨last, none, ?_⟩
    simp only [stream, Walk.streamed, Bind.bind, EStateM.bind, ran]

/-- Rendering a template after a text completes with some fuel. -/
def Renders (lib : Library) (t : Template) (context : Context) (out text : String) : Prop :=
  ∃ fuel, lib.renderOnto fuel out t context = some text

/-- Streaming a template into a sink completes with some fuel. -/
def Streams (lib : Library) (sink : Sink σ ε) (t : Template) (context : Context) (start last : σ) :
    Prop :=
  ∃ fuel, lib.stream fuel sink t context start = .ok () last

section Ends

variable {calls : List SinkCall} (noted : lib.calls? fuel t context = some calls)
include noted

theorem renders_iff {out text : String} : lib.Renders t context out text ↔
    text = out ++ String.ofList (SinkCall.sent calls) := by
  constructor
  · rintro ⟨fuel', rendered⟩
    rw [renderOnto_calls, Option.map_eq_some_iff] at rendered
    obtain ⟨calls', noted', same⟩ := rendered
    rw [calls?_unique noted noted', same]
  · rintro rfl
    exact ⟨fuel, by rw [renderOnto_calls, noted, Option.map_some]⟩

theorem streams_iff {sink : Sink σ ε} {start last : σ} (steady : sink.NeverFails start) :
    lib.Streams sink t context start last ↔
      sink.performAll (calls ++ [.flush]) start = .ok () last := by
  constructor
  · rintro ⟨fuel', streamed⟩
    rcases stream_calls lib fuel' t context steady with
      ⟨calls', last', noted', performed, ran⟩ | ⟨last', _, ran⟩
    · rw [streamed] at ran
      cases ran
      rw [calls?_unique noted noted', performed]
    · rw [streamed] at ran
      cases ran
  · intro performed
    rcases stream_calls lib fuel t context steady with
      ⟨calls', last', noted', performed', ran⟩ | ⟨_, none, _⟩
    · rw [← calls?_unique noted noted', performed] at performed'
      cases performed'
      exact ⟨fuel, ran⟩
    · rw [noted] at none
      cases none

end Ends

/-- One sequence of calls stands for a template in a context. Rendering appends what the calls send
to any text, and streaming makes these calls and flushes, on any sink that never fails. If there is
no such sequence, neither completes with any fuel. -/
theorem renders_streams_agree (lib : Library) (t : Template) (context : Context) :
    (∃ calls,
      (∀ out text, lib.Renders t context out text ↔
        text = out ++ String.ofList (SinkCall.sent calls)) ∧
      ∀ {σ ε : Type} (sink : Sink σ ε) (start last : σ), sink.NeverFails start →
        (lib.Streams sink t context start last ↔
          sink.performAll (calls ++ [.flush]) start = .ok () last)) ∨
    ∀ fuel,
      (∀ out, lib.renderOnto fuel out t context = none) ∧
      ∀ {σ ε : Type} (sink : Sink σ ε) (start : σ), sink.NeverFails start →
        ∃ last, lib.stream fuel sink t context start = .error .exhausted last := by
  by_cases ends : ∃ fuel calls, lib.calls? fuel t context = some calls
  · obtain ⟨fuel, calls, noted⟩ := ends
    refine .inl ⟨calls, fun out text => renders_iff noted, fun sink start last steady => ?_⟩
    exact streams_iff noted steady
  · right
    intro fuel
    have none : lib.calls? fuel t context = none := by
      cases noted : lib.calls? fuel t context with
      | none => rfl
      | some calls => exact (ends ⟨fuel, calls, noted⟩).elim
    constructor
    · intro out
      rw [renderOnto_calls, none, Option.map_none]
    · intro σ ε sink start steady
      rcases stream_calls lib fuel t context steady with ⟨calls, _, noted, _⟩ | ⟨last, _, ran⟩
      · rw [none] at noted
        cases noted
      · exact ⟨last, ran⟩

end Library

end Mustache
