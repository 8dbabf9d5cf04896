import Mathlib
import Mustache.Partial.Ready
import Mustache.Proofs.Render.Agreement
import Mustache.Proofs.Render.Schedule
import Mustache.Render.Recorder
/-!
Failures of a sink while partials supplied as code run. Such a partial may ignore that a call failed
and go on, it may stream templates that refer to further partials of this kind, and it learns
nothing about the error. Main statements: when its program ends, the walk ends with the first error
that the sink has produced in the meantime, and goes on if there is none; and a stream ends with the
first error its sink has ever produced, in the very state that the move left in which it occurred.
-/
namespace Mustache

variable {σ ε α : Type}

/-- The state that a computation ends in, whether or not it succeeds. -/
def stateOf : EStateM.Result ε σ α → σ
  | .ok _ s => s
  | .error _ s => s

/-- The calls made on a sink, in order, each with its error if it failed. -/
abbrev CallLog (ε : Type) := List (SinkCall × Option ε)

/-- The first error in a log. -/
def CallLog.firstError? (log : CallLog ε) : Option ε := log.findSome? (·.2)

namespace Sink

/-- A call that is logged. -/
def record (call : SinkCall) (act : SinkM σ ε Unit) : SinkM (σ × CallLog ε) ε Unit := fun state =>
  match act state.1 with
  | .ok _ next => .ok () (next, state.2 ++ [(call, none)])
  | .error e next => .error e (next, state.2 ++ [(call, some e)])

/-- The sink with a log of the calls on it. -/
def logged (sink : Sink σ ε) : Sink (σ × CallLog ε) ε where
  ready := record .ready sink.ready
  send c := record (.send c) (sink.send c)
  flush := record .flush sink.flush
  close := record .close sink.close
  remark line state := (sink.remark line state.1, state.2)

/-- A call leaves the first error as it is if it succeeds; if it fails, its error is the first one
unless there is one already. -/
def Recalls (first : σ → Option ε) (call : SinkM σ ε Unit) : Prop :=
  ∀ s, match call s with
    | .ok _ t => first t = first s
    | .error e t => first t = (first s).or (some e)

/-- A sink whose states tell the first error that a call on it ended with. -/
structure Remembers (sink : Sink σ ε) (first : σ → Option ε) : Prop where
  ready : Recalls first sink.ready
  send : ∀ c, Recalls first (sink.send c)
  flush : Recalls first sink.flush
  close : Recalls first sink.close
  remark : ∀ line s, first (sink.remark line s) = first s

theorem record_recalls (call : SinkCall) (act : SinkM σ ε Unit) :
    Recalls (fun state => state.2.firstError?) (record call act) := by
  intro s
  simp only [record]
  cases act s.1 with
  | ok _ t => simp [CallLog.firstError?]
  | error e t => simp [CallLog.firstError?]

theorem logged_remembers (sink : Sink σ ε) :
    sink.logged.Remembers (fun state => state.2.firstError?) where
  ready := record_recalls _ _
  send _ := record_recalls _ _
  flush := record_recalls _ _
  close := record_recalls _ _
  remark _ _ := rfl

theorem keep_recalls (act : SinkM σ ε Unit) :
    Recalls (fun state => state.2.map fun _ => ⟨⟩) (keep act) := by
  intro s
  simp only [keep]
  cases act s.1 with
  | ok _ t => rfl
  | error e t => cases s.2 <;> rfl

/-- A sink handed to a partial remembers that it has failed. -/
theorem forward_remembers (sink : Sink σ ε) :
    sink.forward.Remembers (fun state => state.2.map fun _ => ⟨⟩) where
  ready := keep_recalls _
  send _ := keep_recalls _
  flush := keep_recalls _
  close := keep_recalls _
  remark _ _ := rfl

theorem record_simulates (call : SinkCall) (act : SinkM σ ε Unit) :
    Simulates (fun s t => s.1 = t) Eq (fun _ => False) (record call act) act := by
  rintro s t rfl
  simp only [record]
  cases act s.1 with
  | ok _ next => exact .ok () rfl
  | error e next => exact .error rfl rfl

theorem logged_lockstep (sink : Sink σ ε) :
    Lockstep sink.logged sink (fun s t => s.1 = t) Eq where
  ready := record_simulates _ _
  send _ := record_simulates _ _
  flush := record_simulates _ _
  close := record_simulates _ _
  remark line _ _ same := congrArg (sink.remark line) same

/-- A sink all of whose calls keep an invariant, whether or not they succeed. -/
def Keeps (sink : Sink σ ε) (inv : σ → Prop) : Prop :=
  ∀ call s, inv s → inv (stateOf (sink.perform call s))

theorem Keeps.simulates {sink : Sink σ ε} {inv : σ → Prop} (keeps : sink.Keeps inv)
    (call : SinkCall) : Simulates (fun s t => s = t ∧ inv s) Eq (fun _ => False)
      (sink.perform call) (sink.perform call) := by
  rintro s t ⟨rfl, start⟩
  have kept := keeps call s start
  cases ran : sink.perform call s with
  | ok _ next =>
    rw [ran] at kept
    exact .ok () ⟨rfl, kept⟩
  | error e next =>
    rw [ran] at kept
    exact .error rfl ⟨rfl, kept⟩

theorem Keeps.lockstep {sink : Sink σ ε} {inv : σ → Prop} (keeps : sink.Keeps inv) :
    Lockstep sink sink (fun s t => s = t ∧ inv s) Eq where
  ready := keeps.simulates .ready
  send c := keeps.simulates (.send c)
  flush := keeps.simulates .flush
  close := keeps.simulates .close
  remark line s t start := by
    obtain ⟨rfl, start⟩ := start
    exact ⟨rfl, keeps (.remark line) s start⟩

theorem keep_kept {first : σ → Option ε} {call : SinkM σ ε Unit} (recalls : Recalls first call)
    (s : σ × Option ε) (same : s.2 = first s.1) :
    (stateOf (keep call s)).2 = first (stateOf (keep call s)).1 := by
  have recalled := recalls s.1
  simp only [keep]
  cases ran : call s.1 with
  | ok _ t =>
    rw [ran] at recalled
    simp only [stateOf, recalled, same]
  | error e t =>
    rw [ran] at recalled
    simp only [stateOf, recalled, same]

section Remembering

variable {sink : Sink σ ε} {first : σ → Option ε} (remembers : sink.Remembers first)
include remembers

theorem Remembers.perform (call : SinkCall) : Recalls first (sink.perform call) := by
  cases call with
  | ready => exact remembers.ready
  | send c => exact remembers.send c
  | flush => exact remembers.flush
  | close => exact remembers.close
  | remark line => exact remembers.remark line

/-- Once there is a first error, there always is. -/
theorem Remembers.keeps_isSome : sink.Keeps fun s => (first s).isSome := by
  intro call s failed
  have recalls := remembers.perform call s
  cases ran : sink.perform call s with
  | ok _ t =>
    rw [ran] at recalls
    simp only [stateOf, recalls, failed]
  | error e t =>
    rw [ran] at recalls
    simp only [stateOf, recalls, Option.isSome_or, failed, Bool.true_or]

/-- The error kept for the renderer is the first one of the sink. -/
theorem Remembers.keeps_kept : sink.forward.Keeps fun s => s.2 = first s.1 := by
  intro call s same
  cases call with
  | ready => exact keep_kept remembers.ready s same
  | send c => exact keep_kept (remembers.send c) s same
  | flush => exact keep_kept remembers.flush s same
  | close => exact keep_kept remembers.close s same
  | remark line => exact same.trans (remembers.remark line s.1).symm

end Remembering

end Sink

/-- What is related to itself and has an invariant on its states. -/
theorem Agree.inv {errors : ε → ε → Prop} {open? : ε → Prop} {inv : σ → Prop}
    {result : EStateM.Result ε σ α} (agree : Agree (fun s t => s = t ∧ inv s) errors open?
      result result) (closed : ∀ e, ¬ open? e) : inv (stateOf result) := by
  cases result with
  | ok a s =>
    cases agree with
    | ok _ kept => exact kept.2
  | error e s =>
    cases agree with
    | error _ kept => exact kept.2
    | starved impossible => exact (closed e impossible).elim

namespace Walk

variable {lib : Library} {fuel : Nat}

section Keeping

variable {sink : Sink σ ε} {inv : σ → Prop}

/-- A stream keeps what the calls on its sink keep. -/
theorem streamed_keeps (keeps : sink.Keeps inv) (t : Template) (context : Context) {s : σ}
    (start : inv s) : inv (stateOf (streamed (forest lib fuel) sink t context s)) :=
  (streamed_follows (Library.leads_self lib fuel) keeps.lockstep (fun _ _ => trivial) context s s
    ⟨rfl, start⟩).inv fun _ impossible => impossible.1

/-- The program of a partial keeps what the calls on the sink it was handed keep. -/
theorem script_keeps {sink : Sink σ SinkFailed} (keeps : sink.Keeps inv) (program : Script) {s : σ}
    (start : inv s) : inv (stateOf (script (forest lib fuel) sink program s)) :=
  (script_simulates (Library.leads_self lib fuel) keeps.lockstep program (fun _ _ _ _ => trivial)
    s s ⟨rfl, start⟩).inv fun _ => id

end Keeping

/-- What a walk ends with is the first error of its sink, if it ends. -/
def Faithful (first : σ → Option ε) : EStateM.Result (Halt ε) σ Unit → Prop
  | .ok _ t => first t = none
  | .error (.sink e) t => first t = some e
  | .error .exhausted _ => True

theorem call_faithful {first : σ → Option ε} {act : SinkM σ ε Unit}
    (recalls : Sink.Recalls first act) {s : σ} (clean : first s = none) :
    Faithful first (call act s) := by
  have recalled := recalls s
  unfold call
  cases ran : act s with
  | ok _ t =>
    rw [ran] at recalled
    exact recalled.trans clean
  | error e t =>
    rw [ran, clean] at recalled
    exact recalled

theorem Faithful.bind {first : σ → Option ε} {head tail : WalkM σ ε Unit} {s : σ}
    (faithful : Faithful first (head s))
    (continues : ∀ t, first t = none → Faithful first (tail t)) :
    Faithful first ((do head; tail : WalkM σ ε Unit) s) := by
  simp only [Bind.bind, EStateM.bind]
  cases ran : head s with
  | ok _ t =>
    rw [ran] at faithful
    exact continues t faithful
  | error halt t =>
    rw [ran] at faithful
    exact faithful

theorem each_faithful {first : σ → Option ε} {walk : α → WalkM σ ε Unit}
    (faithful : ∀ a s, first s = none → Faithful first (walk a s)) (items : List α) {s : σ}
    (clean : first s = none) : Faithful first (each walk items s) := by
  induction items generalizing s with
  | nil => exact clean
  | cons a rest ih => exact (faithful a s clean).bind fun t clean => ih clean

section Remembering

variable {sink : Sink σ ε} {first : σ → Option ε} (remembers : sink.Remembers first)
include remembers

theorem feed_recalls (c : Char) : Sink.Recalls first (sink.feed c) := by
  intro s
  have ready := remembers.ready s
  simp only [Sink.feed, Bind.bind, EStateM.bind]
  cases asked : sink.ready s with
  | error e t =>
    rw [asked] at ready
    exact ready
  | ok _ t =>
    rw [asked] at ready
    have sent := remembers.send c t
    rw [ready] at sent
    exact sent

/-- What the renderer has kept when a program ends is the first error of the sink. -/
theorem script_kept (lib : Library) (fuel : Nat) (program : Script) {s : σ}
    (clean : first s = none) :
    (stateOf (script (forest lib fuel) sink.forward program (s, none))).2 =
      first (stateOf (script (forest lib fuel) sink.forward program (s, none))).1 :=
  script_keeps remembers.keeps_kept program clean.symm

theorem custom_faithful (lib : Library) (fuel : Nat) (program : Script) {s : σ}
    (clean : first s = none) : Faithful first (custom (forest lib fuel) sink program s) := by
  have kept := script_kept remembers lib fuel program clean
  unfold custom
  cases ran : script (forest lib fuel) sink.forward program (s, none) with
  | ok b t =>
    obtain ⟨t, failure⟩ := t
    rw [ran] at kept
    cases failure with
    | none => exact kept.symm
    | some e => exact kept.symm
  | error _ t => trivial

theorem move_faithful (lib : Library) (move : Move) (s : σ) (clean : first s = none) :
    Faithful first (move.perform lib sink s) := by
  cases move with
  | feed c => exact call_faithful (feed_recalls remembers c) clean
  | flush => exact call_faithful remembers.flush clean
  | visit c context fuel => exact custom_faithful remembers lib fuel _ clean

theorem streamed_faithful (lib : Library) (fuel : Nat) (t : Template) (context : Context) {s : σ}
    (clean : first s = none) :
    Faithful first (streamed (forest lib fuel) sink t context s) := by
  have walked : Faithful first (forest lib fuel sink t.home context t.elements s) := by
    rw [forest_eq_perform]
    refine (each_faithful (move_faithful remembers lib) _ clean).bind fun t clean => ?_
    split
    · exact clean
    · trivial
  exact walked.bind fun t clean => call_faithful remembers.flush clean

end Remembering

section Reporting

variable {first : σ → Option ε}

/-- A walk that fails only if its sink has, and does not make the sink forget. -/
structure Reports (first : σ → Option ε) (walk : WalkM σ ε Unit) : Prop where
  faithful : ∀ s, first s = none → Faithful first (walk s)
  recalls : ∀ s, (first s).isSome → (first (stateOf (walk s))).isSome

theorem call_reports {act : SinkM σ ε Unit} (recalls : Sink.Recalls first act) :
    Reports first (call act) where
  faithful _ clean := call_faithful recalls clean
  recalls s failed := by
    have recalled := recalls s
    unfold call
    cases ran : act s with
    | ok _ t =>
      rw [ran] at recalled
      simp only [stateOf, recalled, failed]
    | error e t =>
      rw [ran] at recalled
      simp only [stateOf, recalled, Option.isSome_or, failed, Bool.true_or]

theorem streamed_reports {sink : Sink σ ε} (remembers : sink.Remembers first) (lib : Library)
    (fuel : Nat) (t : Template) (context : Context) :
    Reports first (streamed (forest lib fuel) sink t context) where
  faithful _ clean := streamed_faithful remembers lib fuel t context clean
  recalls _ failed := streamed_keeps remembers.keeps_isSome t context failed

/-- What a reported success or failure says of the walk. -/
theorem of_attempt {walk : WalkM σ ε Unit} {s t : σ} {succeeded : Bool}
    (ran : attempt walk s = .ok succeeded t) :
    succeeded = true ∧ walk s = .ok () t ∨
      succeeded = false ∧ ∃ e, walk s = .error (.sink e) t := by
  unfold attempt at ran
  cases walked : walk s with
  | ok _ u =>
    rw [walked] at ran
    cases ran
    exact .inl ⟨rfl, rfl⟩
  | error halt u =>
    rw [walked] at ran
    cases halt with
    | sink e =>
      cases ran
      exact .inr ⟨rfl, e, rfl⟩
    | exhausted => cases ran

/-- If a step has not succeeded, or the sink had failed before it, then it has failed after it. -/
theorem Reports.attempt {walk : WalkM σ ε Unit} (reports : Reports first walk) {s t : σ}
    {failed succeeded : Bool} (known : failed = true → (first s).isSome)
    (ran : attempt walk s = .ok succeeded t) :
    (failed || !succeeded) = true → (first t).isSome := by
  intro either
  cases before : (first s).isSome with
  | true =>
    have still := reports.recalls s before
    rcases of_attempt ran with ⟨_, walked⟩ | ⟨_, e, walked⟩
    · rwa [walked] at still
    · rwa [walked] at still
  | false =>
    have clean : first s = none := by simpa using before
    have faithful := reports.faithful s clean
    rcases of_attempt ran with ⟨rfl, walked⟩ | ⟨rfl, e, walked⟩
    · rw [Bool.not_true, Bool.or_false] at either
      rw [known either] at before
      cases before
    · rw [walked] at faithful
      exact Option.isSome_of_eq_some faithful

end Reporting

end Walk

/-- A program ends in failure only after an action of it has failed; `failed` tells whether one
already has. -/
def Script.Honest : Bool → Script → Prop
  | failed, .finish succeeded => succeeded = true ∨ failed = true
  | failed, .feed _ next | failed, .flush next | failed, .close next | failed, .stream _ _ next =>
    ∀ succeeded, (next succeeded).Honest (failed || !succeeded)
  | failed, .render _ _ next => ∀ output, (next output).Honest failed
  | failed, .remark _ next => next.Honest failed

/-- A program that makes calls on its sink and does nothing else. -/
def Script.Direct : Script → Prop
  | .finish _ => True
  | .feed _ next | .flush next | .close next => ∀ succeeded, (next succeeded).Direct
  | .stream .. | .render .. => False
  | .remark _ next => next.Direct

namespace Walk

/-- An honest program that ends in failure has a sink that failed. -/
theorem script_honest {sink : Sink σ SinkFailed} {first : σ → Option SinkFailed}
    (remembers : sink.Remembers first) (lib : Library) (fuel : Nat) {program : Script}
    {failed : Bool} (honest : program.Honest failed) {s t : σ}
    (known : failed = true → (first s).isSome) {succeeded : Bool}
    (ran : script (forest lib fuel) sink program s = .ok succeeded t) :
    succeeded = true ∨ (first t).isSome := by
  have goes {act : EStateM Exhausted σ Bool} {next : Bool → Script} {s : σ}
      (ran : (act >>= fun succeeded => script (forest lib fuel) sink (next succeeded)) s =
        .ok succeeded t) : ∃ b u, act s = .ok b u ∧
          script (forest lib fuel) sink (next b) u = .ok succeeded t := by
    simp only [Bind.bind, EStateM.bind] at ran
    split at ran
    · exact ⟨_, _, ‹_›, ran⟩
    · cases ran
  induction program generalizing failed s with
  | finish result =>
    cases ran
    exact honest.imp_right known
  | feed c next ih =>
    obtain ⟨b, u, attempted, ran⟩ := goes ran
    exact ih b (honest b) ((call_reports (feed_recalls remembers c)).attempt known attempted) ran
  | flush next ih =>
    obtain ⟨b, u, attempted, ran⟩ := goes ran
    exact ih b (honest b) ((call_reports remembers.flush).attempt known attempted) ran
  | close next ih =>
    obtain ⟨b, u, attempted, ran⟩ := goes ran
    exact ih b (honest b) ((call_reports remembers.close).attempt known attempted) ran
  | stream v context next ih =>
    obtain ⟨b, u, attempted, ran⟩ := goes ran
    exact ih b (honest b)
      ((streamed_reports remembers lib fuel v context).attempt known attempted) ran
  | render v context next ih =>
    simp only [script] at ran
    cases side : sideText (forest lib fuel) v context with
    | none =>
      rw [side] at ran
      cases ran
    | some output =>
      rw [side] at ran
      exact ih output (honest output) known ran
  | remark line next ih =>
    have kept : failed = true → (first (sink.remark line s)).isSome := fun before => by
      rw [remembers.remark]
      exact known before
    exact ih honest kept ran

/-- Things done one after another either all succeed, or end with the first that does not. -/
theorem each_ends (walk : α → WalkM σ ε Unit) (items : List α) (start : σ) :
    (∃ last, each walk items start = .ok () last) ∨
      ∃ before item after middle halt last, items = before ++ item :: after ∧
        each walk before start = .ok () middle ∧ walk item middle = .error halt last ∧
        each walk items start = .error halt last := by
  induction items generalizing start with
  | nil => exact .inl ⟨start, rfl⟩
  | cons a rest ih =>
    simp only [each, Bind.bind, EStateM.bind]
    cases ran : walk a start with
    | error halt last => exact .inr ⟨[], a, rest, start, halt, last, rfl, rfl, ran, rfl⟩
    | ok _ next =>
      rcases ih next with done | ⟨before, item, after, middle, halt, last, rfl, made, fails, ends⟩
      · exact .inl done
      · refine .inr ⟨a :: before, item, after, middle, halt, last, rfl, ?_, fails, ends⟩
        simp only [each, Bind.bind, EStateM.bind, ran, made]

theorem call_ne_exhausted {act : SinkM σ ε Unit} {s t : σ} :
    call act s ≠ .error .exhausted t := by
  unfold call
  split <;> nofun

theorem custom_exhausted {walk : Walker} {sink : Sink σ ε} {program : Script} {s t : σ}
    (starved : custom walk sink program s = .error .exhausted t) :
    ∃ kept, script walk sink.forward program (s, none) = .error ⟨⟩ (t, kept) := by
  unfold custom at starved
  cases ran : script walk sink.forward program (s, none) with
  | ok succeeded u =>
    obtain ⟨u, failure⟩ := u
    rw [ran] at starved
    cases failure <;> cases starved
  | error _ u =>
    rw [ran] at starved
    cases starved
    exact ⟨u.2, rfl⟩

/-- How the run of a partial ends when its program does: in success if no call on the sink failed
meanwhile, and otherwise with the error of the first that did. The program itself can end in failure
only in the second case, provided that it is honest. -/
def Settled (walk : Walker) (sink : Sink σ ε) (program : Script) (start : σ) : Prop :=
  match script walk sink.logged.forward program ((start, []), none) with
  | .ok succeeded ((last, log), _) =>
    match log.firstError? with
    | none => custom walk sink.logged program (start, []) = .ok () (last, log) ∧
        (program.Honest false → succeeded = true)
    | some e => custom walk sink.logged program (start, []) = .error (.sink e) (last, log)
  | .error _ ((last, log), _) =>
    custom walk sink.logged program (start, []) = .error .exhausted (last, log)

theorem custom_settled (lib : Library) (fuel : Nat) (sink : Sink σ ε) (program : Script)
    (start : σ) : Settled (forest lib fuel) sink program start := by
  have kept := script_kept (s := (start, [])) sink.logged_remembers lib fuel program rfl
  unfold Settled custom
  cases ran : script (forest lib fuel) sink.logged.forward program ((start, []), none) with
  | error _ t => rfl
  | ok succeeded t =>
    obtain ⟨⟨last, log⟩, failure⟩ := t
    rw [ran] at kept
    have same : log.firstError? = failure := kept.symm
    cases failure with
    | some e => simp only [same]
    | none =>
      simp only [same, true_and]
      intro honest
      have sure := script_honest sink.logged.forward_remembers lib fuel honest nofun ran
      simpa using sure

/-- A call on the sink succeeds or fails. -/
theorem attempt_call (act : SinkM σ ε Unit) (s : σ) :
    ∃ succeeded t, attempt (call act) s = .ok succeeded t := by
  unfold attempt call
  cases act s with
  | ok _ t => exact ⟨true, t, rfl⟩
  | error e t => exact ⟨false, t, rfl⟩

/-- A program of calls alone comes to its end, whatever they answer. -/
theorem script_direct (walk : Walker) (sink : Sink σ SinkFailed) {program : Script}
    (direct : program.Direct) (s : σ) :
    ∃ succeeded t, script walk sink program s = .ok succeeded t := by
  have goes {act : SinkM σ SinkFailed Unit} {next : Bool → Script} {s : σ}
      (later : ∀ b t, ∃ succeeded u, script walk sink (next b) t = .ok succeeded u) :
      ∃ succeeded t, (attempt (call act) >>= fun b => script walk sink (next b)) s =
        .ok succeeded t := by
    obtain ⟨b, t, attempted⟩ := attempt_call act s
    simp only [Bind.bind, EStateM.bind, attempted]
    exact later b t
  induction program generalizing s with
  | finish succeeded => exact ⟨succeeded, s, rfl⟩
  | feed c next ih => exact goes fun b => ih b (direct b)
  | flush next ih => exact goes fun b => ih b (direct b)
  | close next ih => exact goes fun b => ih b (direct b)
  | stream | render => exact direct.elim
  | remark line next ih => exact ih direct (sink.remark line s)

end Walk

/-- How a stream of certain moves ends on a sink whose calls are logged. -/
inductive Surfaces (lib : Library) (sink : Sink σ ε) (moves : List Move) (start : σ) :
    EStateM.Result (Halt ε) (σ × CallLog ε) Unit → Prop where
  /-- No call has failed, and every move was made. -/
  | done {last : σ} {log : CallLog ε} : log.firstError? = none →
      Walk.each (Move.perform lib sink.logged) moves (start, []) = .ok () (last, log) →
      Surfaces lib sink moves start (.ok () (last, log))
  /-- A call has failed during some move, and the stream ends as that move does, with the first
  error of all. -/
  | failed {before after : List Move} {move : Move} {middle : σ × CallLog ε} {e : ε} {last : σ}
      {log : CallLog ε} : moves = before ++ move :: after →
      Walk.each (Move.perform lib sink.logged) before (start, []) = .ok () middle →
      middle.2.firstError? = none → log.firstError? = some e →
      move.perform lib sink.logged middle = .error (.sink e) (last, log) →
      Surfaces lib sink moves start (.error (.sink e) (last, log))
  /-- The fuel has run out before any call failed. -/
  | starved {last : σ} {log : CallLog ε} : log.firstError? = none →
      Surfaces lib sink moves start (.error .exhausted (last, log))
  /-- The fuel has run out while the program of a partial was running. -/
  | stuck {before after : List Move} {c : Custom} {context : Context} {fuel : Nat}
      {middle : σ × CallLog ε} {last : σ} {log : CallLog ε} {kept : Option ε} :
      moves = before ++ .visit c context fuel :: after →
      Walk.each (Move.perform lib sink.logged) before (start, []) = .ok () middle →
      middle.2.firstError? = none →
      Walk.script (Walk.forest lib fuel) sink.logged.forward (c.output context) (middle, none) =
        .error ⟨⟩ ((last, log), kept) →
      Surfaces lib sink moves start (.error .exhausted (last, log))

/-- What a run on a sink whose calls are logged is without the log. -/
def unlogged : EStateM.Result (Halt ε) (σ × CallLog ε) Unit → EStateM.Result (Halt ε) σ Unit
  | .ok _ (s, _) => .ok () s
  | .error halt (s, _) => .error halt s

namespace Library

variable {lib : Library} {fuel : Nat} {t : Template} {context : Context}

/-- The schedule of a stream: that of the template, and a final flush. -/
def streamSchedule (lib : Library) (fuel : Nat) (t : Template) (context : Context) : Schedule :=
  lib.schedule fuel t context ++ ⟨[.flush], true⟩

theorem stream_eq_perform (lib : Library) (fuel : Nat) (sink : Sink σ ε) (t : Template)
    (context : Context) :
    lib.stream fuel sink t context = (lib.streamSchedule fuel t context).perform lib sink := by
  rw [streamSchedule, Schedule.perform_append, Schedule.perform_one, schedule,
    ← Walk.forest_eq_perform]
  rfl

theorem stream_unlogged (lib : Library) (fuel : Nat) (sink : Sink σ ε) (t : Template)
    (context : Context) (start : σ) :
    unlogged (lib.stream fuel sink.logged t context (start, [])) =
      lib.stream fuel sink t context start := by
  have agree : Agree (fun s t => s.1 = t) (Halt.Related Eq) (fun halt => False ∧ halt = .exhausted)
      (lib.stream fuel sink.logged t context (start, [])) (lib.stream fuel sink t context start) :=
    Walk.streamed_follows (leads_self lib fuel) sink.logged_lockstep (fun _ _ => trivial)
      context (start, []) start rfl
  generalize lib.stream fuel sink.logged t context (start, []) = result,
    lib.stream fuel sink t context start = result' at agree ⊢
  cases agree with
  | ok _ same => exact congrArg (EStateM.Result.ok ()) same
  | error related same =>
    cases related with
    | sink same_error => rw [unlogged, same, same_error]
    | exhausted => rw [unlogged, same]
  | starved impossible => exact impossible.1.elim

theorem stream_surfaces (lib : Library) (fuel : Nat) (sink : Sink σ ε) (t : Template)
    (context : Context) (start : σ) :
    Surfaces lib sink (lib.streamSchedule fuel t context).moves start
      (lib.stream fuel sink.logged t context (start, [])) := by
  rw [stream_eq_perform]
  generalize lib.streamSchedule fuel t context = schedule
  have faithful (moves : List Move) :=
    Walk.each_faithful (Walk.move_faithful sink.logged_remembers lib) moves (s := (start, [])) rfl
  simp only [Schedule.perform, Bind.bind, EStateM.bind]
  rcases Walk.each_ends (Move.perform lib sink.logged) schedule.moves (start, []) with
    ⟨⟨last, log⟩, done⟩ | ⟨before, move, after, middle, halt, ⟨last, log⟩, split, made, fails, ends⟩
  · have clean := faithful schedule.moves
    rw [done] at clean ⊢
    cases schedule.ended with
    | true => exact .done clean done
    | false => exact .starved clean
  · have clean := faithful before
    have first := faithful schedule.moves
    rw [made] at clean
    rw [ends] at first ⊢
    cases halt with
    | sink e => exact .failed split made clean first fails
    | exhausted =>
      cases move with
      | feed c => exact (Walk.call_ne_exhausted fails).elim
      | flush => exact (Walk.call_ne_exhausted fails).elim
      | visit c around left =>
        obtain ⟨kept, stuck⟩ := Walk.custom_exhausted fails
        exact .stuck split made clean stuck

/-- A stream ends with the first error that its sink has ever produced, as the move left it during
which it occurred, or makes all its moves if there was none. The run of a partial, in a stream of
any depth, is settled by the calls on its own sink alone; it comes to its end at least if it makes
calls and nothing else. -/
theorem stream_first_error (lib : Library) (fuel : Nat) (sink : Sink σ ε) (t : Template)
    (context : Context) (start : σ) :
    unlogged (lib.stream fuel sink.logged t context (start, [])) =
      lib.stream fuel sink t context start ∧
    Surfaces lib sink (lib.streamSchedule fuel t context).moves start
      (lib.stream fuel sink.logged t context (start, [])) ∧
    ∀ {τ δ : Type} (inner : Sink τ δ) (left : Nat) (program : Script) (state : τ),
      Walk.Settled (Walk.forest lib left) inner program state ∧
      (program.Direct → ∃ succeeded last, Walk.script (Walk.forest lib left) inner.logged.forward
        program ((state, []), none) = .ok succeeded last) :=
  ⟨lib.stream_unlogged fuel sink t context start, lib.stream_surfaces fuel sink t context start,
    fun inner left program state => ⟨Walk.custom_settled lib left inner program state,
      fun direct => Walk.script_direct _ inner.logged.forward direct _⟩⟩

/-- A partial that ignores failures, streamed by another one, between texts. -/
def nestedRogue : Library := ofPartials
  [("rogue", .custom (.scripted [.text "bc", .text "d", .close] true)),
    ("outer", .custom (.live ⟨[.reference ⟨"rogue", 0⟩, .text "e"], some 0⟩ none))]

/-- The recorder is not ready any more after two characters, refuses two, and is closed. -/
example : (match nestedRogue.stream 9 (Recorder.sink { ready := some 2 })
      ⟨[.text "a", .reference ⟨"outer", 1⟩, .text "f"], some 0⟩ (.root .null) {} with
    | .error (.sink e) r => some (e, r.current, r.errors, r.closes)
    | _ => none) = some (.ready 1, "ab", 2, 1) := by cbv

end Library

end Mustache
