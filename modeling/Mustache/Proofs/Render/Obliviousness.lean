import Mathlib
import Mustache.Partial.Ready
import Mustache.Proofs.Render.Agreement
import Mustache.Proofs.Render.Closure
import Mustache.Render.Recorder
/-!
Rendering is oblivious to its sink. As long as partials supplied as code are given by their half for
texts, what a template does to a sink is one series of events, characters and flushes, that depends
on the template and the context alone. Main statement: a stream makes exactly the calls of these
events and one more flush, in order, up to the first call that fails, and ends with the error of
that call. So a sink that takes only so many characters has got the beginning of the rendered text.
-/
namespace Mustache

variable {σ ε : Type}

/-- What happens to a sink while a template is streamed. -/
inductive Event where
  | char (c : Char)
  | flush
deriving DecidableEq, Repr

namespace Event

/-- The calls of an event; before a character is sent, the sink is asked whether it is ready. -/
def calls : Event → List SinkCall
  | .char c => [.ready, .send c]
  | .flush => [.flush]

/-- The characters of events. -/
def chars : List Event → List Char
  | [] => []
  | .char c :: rest => c :: chars rest
  | .flush :: rest => chars rest

/-- The calls of a stream: those of its events, and a final flush. -/
def plan (events : List Event) : List SinkCall := events.flatMap calls ++ [.flush]

theorem chars_append (first second : List Event) :
    chars (first ++ second) = chars first ++ chars second := by
  induction first with
  | nil => rfl
  | cons event rest ih =>
    cases event with
    | char c => exact congrArg (c :: ·) ih
    | flush => exact ih

theorem sent_calls (events : List Event) :
    SinkCall.sent (events.flatMap calls) = chars events := by
  induction events with
  | nil => rfl
  | cons event rest ih =>
    cases event with
    | char c => exact congrArg (c :: ·) ih
    | flush => exact ih

end Event

namespace Sink

variable {sink : Sink σ ε}

theorem performAll_append (first second : List SinkCall) :
    sink.performAll (first ++ second) = (do sink.performAll first; sink.performAll second) := by
  induction first with
  | nil => exact (pure_bind _ _).symm
  | cons call rest ih =>
    simp only [List.cons_append, performAll, ih]
    exact (bind_assoc _ _ _).symm

theorem performAll_char (c : Char) : sink.performAll (Event.char c).calls = sink.feed c :=
  congrArg (sink.ready >>= ·) (funext fun _ => bind_pure_unit)

theorem performAll_flush : sink.performAll Event.flush.calls = sink.flush := bind_pure_unit

/-- A sink that takes so many characters and no more, and can always be flushed; `received` relates
its states to what it has taken. -/
structure Takes (sink : Sink σ ε) (received : σ → List Char → Prop) (limit : Nat) : Prop where
  accepts : ∀ s cs c, received s cs → cs.length < limit →
    ∃ t, sink.feed c s = .ok () t ∧ received t (cs ++ [c])
  refuses : ∀ s cs c, received s cs → limit ≤ cs.length →
    ∃ e t, sink.feed c s = .error e t ∧ received t cs
  flushes : ∀ s cs, received s cs → ∃ t, sink.flush s = .ok () t ∧ received t cs

/-- Such a sink gets as many of the characters as it takes. -/
theorem Takes.performEvents {received : σ → List Char → Prop} {limit : Nat}
    (takes : sink.Takes received limit) (events : List Event) {s : σ} {cs : List Char}
    (start : received s cs) (room : cs.length ≤ limit) :
    ((cs ++ Event.chars events).length ≤ limit ∧
      ∃ t, sink.performAll (events.flatMap Event.calls) s = .ok () t ∧
        received t (cs ++ Event.chars events)) ∨
    (limit < (cs ++ Event.chars events).length ∧
      ∃ e t, sink.performAll (events.flatMap Event.calls) s = .error e t ∧
        received t ((cs ++ Event.chars events).take limit)) := by
  induction events generalizing s cs with
  | nil =>
    rw [Event.chars, List.append_nil]
    exact .inl ⟨room, s, rfl, start⟩
  | cons event rest ih =>
    rw [List.flatMap_cons, performAll_append]
    simp only [Bind.bind, EStateM.bind]
    cases event with
    | flush =>
      obtain ⟨t, flushed, kept⟩ := takes.flushes s cs start
      rw [performAll_flush, flushed]
      exact ih kept room
    | char c =>
      rw [performAll_char]
      by_cases fits : cs.length < limit
      · obtain ⟨t, fed, longer⟩ := takes.accepts s cs c start fits
        have same : cs ++ Event.chars (.char c :: rest) = (cs ++ [c]) ++ Event.chars rest := by
          rw [List.append_assoc]
          rfl
        rw [fed, same]
        refine ih longer ?_
        rw [List.length_append]
        exact fits
      · obtain ⟨e, t, refused, kept⟩ := takes.refuses s cs c start (Nat.le_of_not_lt fits)
        have full : cs.length = limit := by omega
        rw [refused]
        refine .inr ⟨?_, e, t, rfl, ?_⟩
        · simp only [Event.chars, List.length_append, List.length_cons]
          omega
        · rw [← full, List.take_left]
          exact kept

/-- A last flush makes no difference to that. -/
theorem Takes.performAll {received : σ → List Char → Prop} {limit : Nat}
    (takes : sink.Takes received limit) (events : List Event) {s : σ} {cs : List Char}
    (start : received s cs) (room : cs.length ≤ limit) :
    ((cs ++ Event.chars events).length ≤ limit ∧
      ∃ t, sink.performAll (Event.plan events) s = .ok () t ∧
        received t (cs ++ Event.chars events)) ∨
    (limit < (cs ++ Event.chars events).length ∧
      ∃ e t, sink.performAll (Event.plan events) s = .error e t ∧
        received t ((cs ++ Event.chars events).take limit)) := by
  rw [Event.plan, performAll_append]
  simp only [Bind.bind, EStateM.bind]
  rcases takes.performEvents events start room with
    ⟨short, t, done, got⟩ | ⟨long, e, t, failed, got⟩
  · obtain ⟨u, flushed, kept⟩ := takes.flushes t _ got
    rw [done]
    exact .inl ⟨short, u, (congrFun performAll_flush t).trans flushed, kept⟩
  · rw [failed]
    exact .inr ⟨long, e, t, rfl, got⟩

/-- A recorder that can always be flushed takes as many characters as its limits allow. -/
theorem recorder_takes {limits : RecorderLimits} {limit : Nat} (flushed : limits.flush = none)
    (limited : ∀ sent, (Recorder.reached sent limits.ready || Recorder.reached sent limits.send) =
      decide (limit ≤ sent)) :
    (Recorder.sink limits).Takes
      (fun r cs => r.sent = cs.length ∧ r.chunks.flatMap String.toList = cs) limit where
  accepts := by
    rintro r cs c ⟨count, got⟩ room
    have open? := limited r.sent
    rw [count, decide_eq_false (Nat.not_le.mpr room), Bool.or_eq_false_iff] at open?
    refine ⟨{ r with current := r.current.push c, sent := r.sent + 1 }, ?_, ?_, ?_⟩
    · simp [feed, Recorder.sink, Recorder.guarded, count, open?, Bind.bind, EStateM.bind]
    · simp [count]
    · simp [Recorder.chunks, ← got]
  refuses := by
    rintro r cs c ⟨count, got⟩ full
    have closed := limited r.sent
    rw [count, decide_eq_true full, Bool.or_eq_true] at closed
    cases unready : Recorder.reached cs.length limits.ready with
    | true =>
      refine ⟨.ready (r.errors + 1), { r with errors := r.errors + 1 }, ?_, count, got⟩
      simp [feed, Recorder.sink, Recorder.guarded, count, unready, Bind.bind, EStateM.bind]
    | false =>
      have unsent : Recorder.reached cs.length limits.send = true := by simpa [unready] using closed
      refine ⟨.send (r.errors + 1), { r with errors := r.errors + 1 }, ?_, count, got⟩
      simp [feed, Recorder.sink, Recorder.guarded, count, unready, unsent, Bind.bind, EStateM.bind]
  flushes := by
    rintro r cs ⟨count, got⟩
    refine ⟨{ r with current := "", flushed := r.current :: r.flushed }, ?_, count, ?_⟩
    · simp [Recorder.sink, Recorder.guarded, flushed, Recorder.reached]
    · simp [Recorder.chunks, ← got]

/-- A run makes certain calls on a sink: it succeeds if they all do, and otherwise ends with the
error of the first that fails, right after it. -/
def Carries (sink : Sink σ ε) (calls : List SinkCall) (run : WalkM σ ε Unit) : Prop :=
  ∀ start,
    (∃ last, sink.performAll calls start = .ok () last ∧ run start = .ok () last) ∨
    ∃ made failing rest middle e last, calls = made ++ failing :: rest ∧
      sink.performAll made start = .ok () middle ∧ sink.perform failing middle = .error e last ∧
      run start = .error (.sink e) last

/-- Calls on a sink either all succeed, or end with the first that fails. -/
theorem carries_performAll (sink : Sink σ ε) (calls : List SinkCall) :
    sink.Carries calls (Walk.call (sink.performAll calls)) := by
  intro start
  induction calls generalizing start with
  | nil => exact .inl ⟨start, rfl, rfl⟩
  | cons call rest ih =>
    simp only [Walk.call, performAll, Bind.bind, EStateM.bind]
    cases performed : sink.perform call start with
    | error e last => exact .inr ⟨[], call, rest, start, e, last, rfl, rfl, performed, rfl⟩
    | ok _ next =>
      rcases ih next with done | ⟨made, failing, later, middle, e, last, rfl, before, fails, ends⟩
      · exact .inl done
      · refine .inr ⟨call :: made, failing, later, middle, e, last, rfl, ?_, fails, ends⟩
        simp only [performAll, Bind.bind, EStateM.bind, performed, before]

end Sink

/-- Makes the calls of events on a sink. -/
def Event.performAll (sink : Sink σ ε) (events : List Event) : WalkM σ ε Unit :=
  Walk.call (sink.performAll (events.flatMap Event.calls))

namespace Walk

theorem call_bind (first second : SinkM σ ε Unit) :
    call (do first; second) = (do call first; call second) := by
  funext s
  simp only [call, Bind.bind, EStateM.bind]
  cases first s <;> rfl

theorem performAll_append (sink : Sink σ ε) (first second : List Event) :
    Event.performAll sink (first ++ second) =
      (do Event.performAll sink first; Event.performAll sink second) := by
  rw [Event.performAll, List.flatMap_append, Sink.performAll_append, call_bind]
  rfl

theorem performAll_char (sink : Sink σ ε) (c : Char) :
    Event.performAll sink [.char c] = call (sink.feed c) :=
  congrArg call (Sink.performAll_char c)

theorem performAll_flush (sink : Sink σ ε) : Event.performAll sink [.flush] = call sink.flush :=
  congrArg call Sink.performAll_flush

theorem performAll_chars (sink : Sink σ ε) (cs : List Char) :
    Event.performAll sink (cs.map .char) = emit sink cs := by
  induction cs with
  | nil => rfl
  | cons c rest ih =>
    rw [List.map_cons, ← List.singleton_append, performAll_append, performAll_char, ih]
    rfl

end Walk

namespace Library

variable {lib : Library} {t : Template} {context : Context} {fuel : Nat}

/-- A partial that runs in the schedule is given by its half for texts; then a move makes the same
calls on every sink, or never ends. -/
theorem perform_plain (lib : Library) {move : Move}
    (plain : ∀ c around left, move = .visit c around left → ∃ append, c = .ofAppend append) :
    (∃ events, ∀ {σ ε : Type} (sink : Sink σ ε),
      move.perform lib sink = Event.performAll sink events) ∨
    ∀ {σ ε : Type} (sink : Sink σ ε), move.perform lib sink = throw .exhausted := by
  cases move with
  | feed c => exact .inl ⟨[.char c], fun sink => (Walk.performAll_char sink c).symm⟩
  | flush => exact .inl ⟨[.flush], fun sink => (Walk.performAll_flush sink).symm⟩
  | visit c around left =>
    obtain ⟨append, rfl⟩ := plain c around left rfl
    cases written : (append around).onto? (lib.render left) "" with
    | some text =>
      refine .inl ⟨text.toList.map .char, fun sink => ?_⟩
      rw [Walk.performAll_chars, Move.perform, custom_ofAppend, written]
    | none =>
      refine .inr fun sink => ?_
      rw [Move.perform, custom_ofAppend, written]

/-- Moves that end on one sink make the same calls on all. -/
theorem each_plain {moves : List Move}
    (plain : ∀ c around left, .visit c around left ∈ moves → ∃ append, c = .ofAppend append)
    {sink : Sink σ ε} {start last : σ}
    (ends : Walk.each (Move.perform lib sink) moves start = .ok () last) :
    ∃ events, ∀ {σ ε : Type} (sink : Sink σ ε),
      Walk.each (Move.perform lib sink) moves = Event.performAll sink events := by
  induction moves generalizing start with
  | nil => exact ⟨[], fun _ => rfl⟩
  | cons move rest ih =>
    simp only [Walk.each, Bind.bind, EStateM.bind] at ends
    have plain_here (c around left) (same : move = .visit c around left) :=
      plain c around left (same ▸ List.mem_cons_self)
    have plain_rest (c around left) (member : .visit c around left ∈ rest) :=
      plain c around left (.tail move member)
    rcases lib.perform_plain plain_here with ⟨events, here⟩ | starves
    · cases ran : move.perform lib sink start with
      | error halt next =>
        rw [ran] at ends
        cases ends
      | ok _ next =>
        rw [ran] at ends
        obtain ⟨later, there⟩ := ih plain_rest ends
        refine ⟨events ++ later, fun sink => ?_⟩
        rw [Walk.performAll_append, ← here sink, ← there sink]
        rfl
    · rw [starves sink] at ends
      cases ends

/-- The walk over a template makes the calls of certain events on every sink. -/
def Emits (lib : Library) (fuel : Nat) (t : Template) (context : Context) (events : List Event) :
    Prop :=
  ∀ {σ ε : Type} (sink : Sink σ ε),
    Walk.forest lib fuel sink t.home context t.elements = Event.performAll sink events

theorem emits_of_render (closures : ∀ c, lib.Visits t c → ∃ append, c = .ofAppend append)
    {text : String} (rendered : lib.render fuel t context = some text) :
    ∃ events, lib.Emits fuel t context events ∧ Event.chars events = text.toList := by
  have ran : Walk.forest lib fuel Sink.string t.home context t.elements "" = .ok () text :=
    renderOnto_eq_some_iff.mp rendered
  have performed := ran
  rw [Walk.forest_eq_perform, Schedule.perform_eq_ok_iff] at performed
  obtain ⟨events, same⟩ := each_plain
    (fun c _ _ member => closures c (visits_of_mem_schedule member)) performed.2
  have emits : lib.Emits fuel t context events := fun sink =>
    ((Walk.forest_eq_perform ..).trans (Schedule.perform_of_ended performed.1)).trans (same sink)
  refine ⟨events, emits, ?_⟩
  rw [emits Sink.string, Event.performAll, Walk.call, Sink.performAll_string,
    Event.sent_calls] at ran
  cases ran
  simp

/-- More fuel makes no difference to events that are complete. -/
theorem Emits.mono {events : List Event} (emits : lib.Emits fuel t context events) (extra : Nat) :
    lib.Emits (fuel + extra) t context events := by
  intro σ ε sink
  funext s
  have agree := forest_mono lib fuel extra sink t context s s rfl
  rw [emits sink] at agree
  unfold Event.performAll Walk.call at agree ⊢
  generalize Walk.forest lib (fuel + extra) sink t.home context t.elements s = result at agree ⊢
  cases performed : sink.performAll (events.flatMap Event.calls) s with
  | ok _ last =>
    rw [performed] at agree
    cases agree with
    | ok _ same => rw [same]
  | error e last =>
    rw [performed] at agree
    cases agree with
    | error related same =>
      cases related with
      | sink same_error => rw [same, same_error]
    | starved impossible => cases impossible.2

theorem stream_of_emits {events : List Event} (emits : lib.Emits fuel t context events)
    (sink : Sink σ ε) :
    lib.stream fuel sink t context = Walk.call (sink.performAll (Event.plan events)) := by
  have flush : Walk.call sink.flush = Walk.call (sink.performAll [.flush]) :=
    (Walk.performAll_flush sink).symm
  rw [Event.plan, Sink.performAll_append, Walk.call_bind, ← flush]
  exact congrArg (· >>= fun _ => Walk.call sink.flush) (emits sink)

/-- A stream makes the calls of a series of events and a final flush, whatever the sink. The events
depend on the template and the context alone, and their characters are the rendered text; so a sink
that takes only so many characters gets the beginning of it. This holds as soon as rendering ends
and every partial supplied as code is given by its half for texts. -/
theorem stream_oblivious {text : String}
    (closures : ∀ c, lib.Visits t c → ∃ append, c = .ofAppend append)
    (rendered : lib.render fuel t context = some text) :
    ∃ events : List Event, Event.chars events = text.toList ∧
      ∀ {σ ε : Type} (sink : Sink σ ε) (extra : Nat),
        sink.Carries (Event.plan events) (lib.stream (fuel + extra) sink t context) ∧
        ∀ received limit, sink.Takes received limit → ∀ start, received start [] →
          (text.length ≤ limit ∧ ∃ last, lib.stream (fuel + extra) sink t context start =
            .ok () last ∧ received last text.toList) ∨
          (limit < text.length ∧ ∃ e last, lib.stream (fuel + extra) sink t context start =
            .error (.sink e) last ∧ received last (text.toList.take limit)) := by
  obtain ⟨events, emits, chars⟩ := emits_of_render closures rendered
  refine ⟨events, chars, fun sink extra => ?_⟩
  rw [stream_of_emits (emits.mono extra) sink]
  refine ⟨sink.carries_performAll _, fun received limit takes start none => ?_⟩
  have ends := takes.performAll events none (Nat.zero_le limit)
  rw [List.nil_append, chars, String.length_toList] at ends
  rcases ends with ⟨short, last, done, got⟩ | ⟨long, e, last, failed, got⟩
  · exact .inl ⟨short, last, by rw [Walk.call, done], got⟩
  · exact .inr ⟨long, e, last, by rw [Walk.call, failed], got⟩

/-- A text, and a section with a reference in it. -/
def stamped : Template :=
  ⟨[.text "a", .block "." [.escaped ".", .reference ⟨"stamp", 0⟩]], some 0⟩

/-- A library that knows the partial of that reference, which always writes the same. -/
def stamps : Library := ofPartials [("stamp", .custom (.fixed "!"))]

theorem stamps_closures {home : Option ParserId} {slot : Nat}
    (holds : stamps.content? home slot = some (.registered (.custom c))) :
    ∃ append, c = .ofAppend append := by
  match home, slot with
  | none, _ | some (_ + 1), _ | some 0, _ + 1 => cases holds
  | some 0, 0 =>
    cases holds
    exact ⟨_, rfl⟩

/-- Rendered for a stream of two items into a recorder that takes three characters only. -/
theorem stamped_limited :
    stamps.render 9 stamped (.root (.stream ⟨0, "s"⟩ (.finite [.int 1, .int 2]))) = some "a1!2!" ∧
    ∃ e last, stamps.stream 9 (Recorder.sink { ready := some 3 }) stamped
        (.root (.stream ⟨0, "s"⟩ (.finite [.int 1, .int 2]))) {} = .error (.sink e) last ∧
      last.chunks.flatMap String.toList = ['a', '1', '!'] := by
  have rendered : stamps.render 9 stamped
      (.root (.stream ⟨0, "s"⟩ (.finite [.int 1, .int 2]))) = some "a1!2!" := by cbv
  have closures (c : Custom) (visits : stamps.Visits stamped c) :
      ∃ append, c = .ofAppend append := by
    obtain ⟨_, _, _, holds⟩ := visits
    exact stamps_closures holds
  obtain ⟨events, _, oblivious⟩ := stream_oblivious closures rendered
  have takes : (Recorder.sink { ready := some 3 }).Takes _ 3 :=
    Sink.recorder_takes rfl fun _ => Bool.or_false _
  rcases (oblivious (Recorder.sink { ready := some 3 }) 0).2 _ 3 takes {} ⟨rfl, rfl⟩ with
    ⟨short, _⟩ | ⟨_, e, last, failed, _, got⟩
  · exact absurd short (by decide)
  · exact ⟨rendered, e, last, failed, got⟩

end Library

end Mustache
