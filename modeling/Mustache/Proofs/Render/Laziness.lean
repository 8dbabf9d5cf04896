import Mathlib
import Mustache.Proofs.Context.Truncation
import Mustache.Proofs.Render.Failure
import Mustache.Proofs.Render.Obliviousness
/-!
Endless streams are consumed lazily. A walk is put on rations: each pass over an endless stream gets
so many items, and the walk is given up when a pass asks for one more. Main statements: unless it is
given up, a walk on rations does what the walk does in the context whose endless streams are cut off
after so many items, and what the walk does in the context itself; a sink that fails ends the
iteration of an endless stream whose items are rendered to something.
-/
namespace Mustache

variable {σ τ ε δ α : Type}

/-- What ended a run early, if anything. -/
def haltOf? : EStateM.Result (Halt ε) σ Unit → Option (Halt ε)
  | .ok _ _ => none
  | .error halt _ => some halt

theorem eq_error_of_haltOf? {result : EStateM.Result (Halt ε) σ Unit} {halt : Halt ε}
    (halted : haltOf? result = some halt) : result = .error halt (stateOf result) := by
  cases result with
  | ok _ last => cases halted
  | error other last =>
    cases halted
    rfl

namespace Section

/-- The items of a stream that never ends. -/
def unending? : Option Value → Option (Nat → Value)
  | some (.stream _ (.endless item)) => some item
  | _ => none

theorem unending?_eq_some {found : Option Value} {item : Nat → Value} :
    unending? found = some item ↔ ∃ self, found = some (.stream self (.endless item)) := by
  constructor
  · intro unending
    unfold unending? at unending
    split at unending
    · cases unending
      exact ⟨_, rfl⟩
    · cases unending
  · rintro ⟨self, rfl⟩
    rfl

theorem isUnending_of_unending? {value : Value} (none : unending? (some value) = none) :
    isUnending value = false := by
  refine Bool.eq_false_iff.mpr fun unending => ?_
  obtain ⟨self, item, rfl⟩ := exists_of_isUnending unending
  cases none

/-- What is cut off is void exactly if it was, unless nothing is left of an endless stream. -/
theorem isVoid_map_cut {found : Option Value} {n : Nat}
    (looked : ¬ (n = 0 ∧ (unending? found).isSome)) :
    isVoid (found.map (Value.cut n)) = isVoid found := by
  cases found with
  | none => rfl
  | some value =>
    refine isVoid_cut (or_iff_not_imp_left.mpr fun zero => ?_)
    refine isUnending_of_unending? (Option.not_isSome_iff_eq_none.mp fun some => ?_)
    exact looked ⟨not_not.mp zero, some⟩

/-- The frames of sufficiently many items begin with those of the first. -/
theorem exists_firstFrames_append (item : Nat → Value) {n count : Nat} (enough : n ≤ count) :
    ∃ rest, firstFrames item count = firstFrames item n ++ rest := by
  obtain ⟨more, rfl⟩ := Nat.exists_eq_add_of_le enough
  exact ⟨_, by rw [firstFrames, firstFrames, List.range_add, List.map_append]⟩

end Section

/-- What a partial appends where endless streams are cut off, as far as it looks at them by naming
values and rendering templates: the same texts, and the output of the same templates, in contexts
that are cut off. -/
inductive Writing.Cuts (lib : Library) (n : Nat) : Writing → Writing → Prop where
  | finish : Writing.Cuts lib n .finish .finish
  | write {text : String} {next cut : Writing} : Writing.Cuts lib n next cut →
      Writing.Cuts lib n (.write text next) (.write text cut)
  | render {t : Template} {context : Context} {next cut : String → Writing} :
      (∀ c, lib.Visits t c → ∃ append, c = .ofAppend append) →
      (∀ output, Writing.Cuts lib n (next output) (cut output)) →
      Writing.Cuts lib n (.render t context next) (.render t (context.cut n) cut)

namespace Walk

/-- Walks one element on rations. A section over an endless stream gets `n` items and is given up
then; an inverted section needs one. How far a partial supplied as code has looked shows only in
what it writes: with the templates it renders on rations too, it must write what it writes where
endless streams are cut off. -/
def rationedElement (lib : Library) (n : Nat) (walk : Walker) (fuel : Nat) (sink : Sink σ ε)
    (home : Option ParserId) (context : Context) : Element PartialRef → WalkM σ ε Unit
  | .block path children =>
    match Section.unending? (context.resolve path) with
    | some item => do
      each (fun frame =>
          turn true sink (walk sink home (context.push frame.value frame.marks) children))
        (Section.firstFrames item n)
      throw .exhausted
    | none => element lib walk fuel sink home context (.block path children)
  | .inverted path children =>
    if n = 0 ∧ (Section.unending? (context.resolve path)).isSome then throw .exhausted
    else element lib walk fuel sink home context (.inverted path children)
  | .reference target =>
    match lib.content? home target.slot with
    | some (.registered (.custom c)) =>
      if (c.append context).onto? (sideText walk) "" =
          (c.append (context.cut n)).onto? (lib.render fuel) "" then
        custom walk sink (c.output context)
      else throw .exhausted
    | _ => element lib walk fuel sink home context (.reference target)
  | e => element lib walk fuel sink home context e

/-- Walks a forest on rations of `n` items for each pass over an endless stream. -/
def rationed (lib : Library) (n : Nat) : Nat → Walker
  | 0 => fun _ _ _ _ => throw .exhausted
  | fuel + 1 => fun sink home context elements =>
    each (rationedElement lib n (rationed lib n fuel) fuel sink home context) elements

section Following

variable {states : σ → τ → Prop} {errors : ε → δ → Prop}

theorem throw_follows (walk : WalkM τ δ Unit) :
    Follows True states errors (throw .exhausted : WalkM σ ε Unit) walk :=
  fun _ _ _ => .starved ⟨trivial, rfl⟩

/-- What follows a walk that is given up at its end follows the walk up to there. -/
theorem Follows.giveUp {first : WalkM σ ε Unit} {second : WalkM τ δ Unit}
    (follows : Follows True states errors first second) (after : Unit → WalkM τ δ Unit) :
    Follows True states errors (do first; throw .exhausted) (second >>= after) :=
  follows.bind fun _ => throw_follows _

theorem turn_follows {flushing : Bool} {first : Sink σ ε} {second : Sink τ δ}
    (together : Lockstep first second states errors) {walk : WalkM σ ε Unit}
    {walk' : WalkM τ δ Unit} (follows : Follows True states errors walk walk') :
    Follows True states errors (turn flushing first walk) (turn flushing second walk') := by
  cases flushing with
  | false => exact follows
  | true =>
    have flush : Follows True states errors (call first.flush) (call second.flush) :=
      call_follows together.flush
    exact flush.bind fun _ => follows.bind fun _ => flush

end Following

/-- Unless a section never ends, it takes its turns. -/
theorem block_of_ends {value : Value} (ends : Section.isUnending value = false) (walk : Walker)
    (sink : Sink σ ε) (home : Option ParserId) (context : Context) (children : Forest PartialRef)
    (fuel : Nat) : block walk sink home context children fuel value =
      each (fun frame => turn (Section.isStream (some value)) sink
        (walk sink home (context.push frame.value frame.marks) children))
        (Section.frames value) := by
  cases value with
  | stream self pass =>
    cases pass with
    | finite items => rfl
    | endless item => cases ends
  | null | bool | int | float | text | seq | map | enumeration | object => rfl

/-- A section over an endless stream takes the first turns, and then others. -/
theorem block_of_unending (self : Handle) (item : Nat → Value) (walk : Walker) (sink : Sink σ ε)
    (home : Option ParserId) (context : Context) (children : Forest PartialRef) {n fuel : Nat}
    (enough : n ≤ fuel) :
    ∃ after : Unit → WalkM σ ε Unit,
      block walk sink home context children fuel (.stream self (.endless item)) =
        each (fun frame =>
            turn true sink (walk sink home (context.push frame.value frame.marks) children))
          (Section.firstFrames item n) >>= after := by
  obtain ⟨rest, split⟩ := Section.exists_firstFrames_append item enough
  have taken : block walk sink home context children fuel (.stream self (.endless item)) =
      endless (fun frame =>
        turn true sink (walk sink home (context.push frame.value frame.marks) children))
        item fuel 0 := rfl
  rw [taken, endless_eq_each, split, each_append, bind_assoc]
  exact ⟨_, rfl⟩

/-- A walk that comes to such a section does what stands before it, and takes the first turns. -/
theorem forest_of_unending {lib : Library} {self : Handle} {item : Nat → Value}
    (sink : Sink σ ε) (home : Option ParserId) {context : Context} {path : String}
    (resolved : context.resolve path = some (.stream self (.endless item)))
    (before children after : Forest PartialRef) {n fuel : Nat} (enough : n ≤ fuel) :
    ∃ later : WalkM σ ε Unit,
      forest lib (fuel + 1) sink home context (before ++ .block path children :: after) =
        (do forest lib (fuel + 1) sink home context before
            each (fun frame => turn true sink
                (forest lib fuel sink home (context.push frame.value frame.marks) children))
              (Section.firstFrames item n)
            later) := by
  obtain ⟨rest, split⟩ :=
    block_of_unending self item (forest lib fuel) sink home context children enough
  refine ⟨do rest (); each (element lib (forest lib fuel) fuel sink home context) after, ?_⟩
  simp only [forest, each_append, each, element, resolved, split, bind_assoc]

/-- On rations a walk does what it does otherwise, with sufficient fuel, unless it is given up. -/
theorem rationed_leads (lib : Library) (n fuel extra : Nat) :
    Leads True (fun _ _ => True) (rationed lib n fuel) (forest lib (fuel + (n + extra))) := by
  induction fuel with
  | zero => exact fun _ _ _ _ => throw_follows _
  | succ fuel ih =>
    intro σ τ ε δ first second states errors together t context _
    rw [Nat.succ_add]
    refine each_follows t.elements fun e _ => ?_
    have otherwise (e : Element PartialRef) : Follows True states errors
        (element lib (rationed lib n fuel) fuel first t.home context e)
        (element lib (forest lib (fuel + (n + extra))) (fuel + (n + extra)) second t.home
          context e) :=
      element_follows (Library.matches_self lib) ih together t.home context fuel _ (.inl trivial) e
        fun _ _ => trivial
    cases e with
    | text content => exact otherwise (.text content)
    | escaped path => exact otherwise (.escaped path)
    | raw path => exact otherwise (.raw path)
    | block path children =>
      simp only [rationedElement]
      cases unending : Section.unending? (context.resolve path) with
      | none => exact otherwise _
      | some item =>
        obtain ⟨self, resolved⟩ := Section.unending?_eq_some.mp unending
        obtain ⟨after, split⟩ := block_of_unending self item (forest lib (fuel + (n + extra)))
          second t.home context children (show n ≤ fuel + (n + extra) by omega)
        simp only [element, resolved, split]
        refine Follows.giveUp (each_follows _ fun frame _ => ?_) after
        exact turn_follows together (ih together ⟨children, t.home⟩ _ fun _ _ => trivial)
    | inverted path children =>
      simp only [rationedElement]
      split
      · exact throw_follows _
      · exact otherwise _
    | reference target =>
      simp only [rationedElement]
      split
      · rename_i c holds
        split
        · simp only [element, holds]
          exact custom_follows ih together (c.output context) fun _ _ _ _ => trivial
        · exact throw_follows _
      · exact otherwise _

section Cut

variable {lib : Library} {n fuel : Nat} {sink : Sink σ ε} {home : Option ParserId} {c : Context}
  {children : Forest PartialRef}

/-- A section on rations follows the section over what is cut off. -/
theorem rationed_block_cut (lib : Library) (path : String) {walk walk' : Walker}
    (related : ∀ c : Context, Follows True Eq Eq (walk sink home c children)
      (walk' sink home (c.cut n) children)) :
    Follows True Eq Eq (rationedElement lib n walk fuel sink home c (.block path children))
      (element lib walk' fuel sink home (c.cut n) (.block path children)) := by
  have turns (flushing : Bool) (frames : List Frame) : Follows True Eq Eq
      (each (fun frame => turn flushing sink
        (walk sink home (c.push frame.value frame.marks) children)) frames)
      (each (fun frame => turn flushing sink
        (walk' sink home ((c.cut n).push frame.value frame.marks) children))
        (frames.map (·.cut n))) := by
    rw [each_map]
    exact each_follows _ fun frame _ => turn_follows (Lockstep.refl sink) (related _)
  simp only [rationedElement, element, Context.resolve_cut]
  cases unending : Section.unending? (c.resolve path) with
  | some item =>
    obtain ⟨self, resolved⟩ := Section.unending?_eq_some.mp unending
    simp only [resolved, Option.map_some, block_of_ends (Section.isUnending_cut _),
      Section.isStream_cut, Section.frames_cut_endless]
    -- the section that is cut off ends here, and the one on rations is given up
    have given_up := Follows.giveUp (turns true (Section.firstFrames item n)) pure
    rwa [bind_pure] at given_up
  | none =>
    cases resolved : c.resolve path with
    | none => exact .pure ()
    | some value =>
      have ends := Section.isUnending_of_unending? (resolved ▸ unending)
      simp only [Option.map_some, block_of_ends ends, block_of_ends (Section.isUnending_cut _),
        Section.isStream_cut, Section.frames_cut ends]
      exact turns _ _

/-- A partial given by its half for texts is given up or writes what it writes where endless streams
are cut off. -/
theorem closure_cut (lib : Library) {walk : Walker} (append : Context → Writing)
    (sink : Sink σ ε) : Follows True Eq Eq
      (if ((Custom.ofAppend append).append c).onto? (sideText walk) "" =
          ((Custom.ofAppend append).append (c.cut n)).onto? (lib.render fuel) "" then
        custom walk sink ((Custom.ofAppend append).output c)
      else throw .exhausted)
      (custom (forest lib fuel) sink ((Custom.ofAppend append).output (c.cut n))) := by
  have appends (c : Context) : (Custom.ofAppend append).append c = append c := rfl
  simp only [appends]
  split
  · rename_i same
    rw [custom_ofAppend, Library.custom_ofAppend, same]
    cases (append (c.cut n)).onto? (lib.render fuel) "" with
    | none => exact throw_follows _
    | some text => exact emit_follows (Lockstep.refl sink) text.toList
  · exact throw_follows _

/-- On rations a walk does what the walk does in the context that is cut off, unless it is given
up. -/
theorem rationed_cut {t : Template}
    (closures : ∀ c, lib.Visits t c → ∃ append, c = .ofAppend append)
    {elements : Forest PartialRef} (met : ∀ ref ∈ elements.targets, lib.Meets t home ref)
    (sink : Sink σ ε) : Follows True Eq Eq (rationed lib n fuel sink home c elements)
      (forest lib fuel sink home (c.cut n) elements) := by
  induction fuel generalizing home c elements with
  | zero => exact throw_follows _
  | succ fuel ih =>
    refine each_follows elements fun e inside => ?_
    have met_here (ref : PartialRef) (refers : ref ∈ e.targets) : lib.Meets t home ref :=
      met ref (Forest.mem_targets inside refers)
    cases e with
    | text content => exact emit_follows (Lockstep.refl sink) content.toList
    | escaped path | raw path =>
      simp only [rationedElement, element, Context.textOf?_cut]
      exact emitText_follows (Lockstep.refl sink) _
    | block path children => exact rationed_block_cut lib path fun c => ih met_here
    | inverted path children =>
      simp only [rationedElement, element, Context.resolve_cut]
      split
      · exact throw_follows _
      · rename_i looked
        rw [Section.isVoid_map_cut looked]
        split
        · exact ih met_here
        · exact .pure ()
    | reference target =>
      obtain ⟨u, embeds, rfl, refers⟩ := met_here target List.mem_cons_self
      simp only [rationedElement, element]
      cases holds : lib.content? u.home target.slot with
      | none => exact .pure ()
      | some content =>
        cases content with
        | parsed body =>
          exact ih fun ref refers' => ⟨_, .body embeds refers holds, rfl, refers'⟩
        | registered value =>
          cases value with
          | template v =>
            exact ih fun ref refers' => ⟨v, .template embeds refers holds, rfl, refers'⟩
          | custom code =>
            obtain ⟨append, rfl⟩ :=
              closures code ⟨u.home, target, ⟨u, embeds, rfl, refers⟩, holds⟩
            exact closure_cut lib append sink

end Cut

/-- A walk that is not given up ends like the one that it follows. -/
theorem Follows.eq_of_going {first second : WalkM σ ε Unit}
    (follows : Follows True Eq Eq first second) {s : σ}
    (going : haltOf? (first s) ≠ some .exhausted) : second s = first s := by
  have agree := follows s s rfl
  generalize first s = result, second s = result' at agree going ⊢
  cases agree with
  | ok a same => rw [same]
  | error related same =>
    cases related with
    | sink same_error => rw [same, same_error]
    | exhausted => exact (going rfl).elim
  | starved starves =>
    obtain ⟨_, rfl⟩ := starves
    exact (going rfl).elim

section Closure

variable {lib : Library} {n fuel : Nat}

/-- What is rendered on rations is what is rendered where endless streams are cut off. -/
theorem render_of_rationed {t : Template} {context : Context} {output : String}
    (closures : ∀ c, lib.Visits t c → ∃ append, c = .ofAppend append)
    (rendered : sideText (rationed lib n fuel) t context = some output) :
    lib.render fuel t (context.cut n) = some output := by
  unfold sideText at rendered
  split at rendered
  · rename_i written ran
    cases rendered
    have walked : rationed lib n fuel Sink.string t.home context t.elements "" = .ok () output :=
      ran
    have follows : Follows True Eq Eq (rationed lib n fuel Sink.string t.home context t.elements)
        (forest lib fuel Sink.string t.home (context.cut n) t.elements) :=
      rationed_cut closures (fun _ refers => ⟨t, .self, rfl, refers⟩) Sink.string
    have same := follows.eq_of_going (s := "") (by simp [walked, haltOf?])
    simp only [Library.render, Library.renderOnto, same, walked]
  · cases rendered

/-- What is appended on rations is what is appended where endless streams are cut off. -/
theorem onto?_of_cuts {w cut : Writing} (cuts : w.Cuts lib n cut) {text whole : String}
    (written : w.onto? (sideText (rationed lib n fuel)) text = some whole) :
    cut.onto? (lib.render fuel) text = some whole := by
  induction cuts generalizing text with
  | finish => exact written
  | write _ ih => exact ih written
  | render closures _ ih =>
    obtain ⟨output, rendered, rest⟩ := Option.bind_eq_some_iff.mp written
    rw [Writing.onto?, render_of_rationed closures rendered]
    exact ih output rest

/-- A partial that looks no further itself is not given up; only what it renders is on rations. -/
theorem rationedElement_of_cuts {home : Option ParserId} {ref : PartialRef}
    {append : Context → Writing} {context : Context}
    (holds : lib.content? home ref.slot = some (.registered (.custom (.ofAppend append))))
    (cuts : (append context).Cuts lib n (append (context.cut n))) (sink : Sink σ ε) :
    rationedElement lib n (rationed lib n fuel) fuel sink home context (.reference ref) =
      custom (rationed lib n fuel) sink ((Custom.ofAppend append).output context) := by
  have appends (c : Context) : (Custom.ofAppend append).append c = append c := rfl
  simp only [rationedElement, holds, appends]
  cases written : (append context).onto? (sideText (rationed lib n fuel)) "" with
  | none =>
    rw [custom_ofAppend, written]
    exact ite_self _
  | some whole => rw [onto?_of_cuts cuts written, if_pos rfl]

end Closure

end Walk

/-! Ready-made partials look no further themselves. -/

namespace Custom

variable {lib : Library} {n : Nat}

theorem cuts_fixed (text : String) (context : Context) :
    ((fixed text).append context).Cuts lib n ((fixed text).append (context.cut n)) :=
  .write .finish

theorem cuts_upper (path : String) (context : Context) :
    ((upper path).append context).Cuts lib n ((upper path).append (context.cut n)) := by
  have same : pathText (context.cut n) path = pathText context path :=
    congrArg (·.getD "") (context.textOf?_cut path)
  simp only [upper, ofAppend, same]
  exact .write .finish

theorem cuts_embed {t : Template}
    (closures : ∀ c, lib.Visits t c → ∃ append, c = .ofAppend append) (context : Context) :
    ((embed t).append context).Cuts lib n ((embed t).append (context.cut n)) :=
  .render closures fun _ => .write .finish

end Custom

namespace Library

variable {lib : Library} {t : Template} {n fuel : Nat}

/-- A stream that may look at `n` items in each pass over an endless stream asks for another one. -/
def Overdraws (lib : Library) (n fuel : Nat) (sink : Sink σ ε) (t : Template) (context : Context)
    (start : σ) : Prop :=
  haltOf? (Walk.streamed (Walk.rationed lib n fuel) sink t context start) = some .exhausted

section Rationed

variable {sink : Sink σ ε} {context : Context} {start : σ}
  (within : ¬ lib.Overdraws n fuel sink t context start)
include within

/-- The stream on rations is the one in the context that is cut off. -/
theorem stream_cut (closures : ∀ c, lib.Visits t c → ∃ append, c = .ofAppend append) :
    lib.stream fuel sink t (context.cut n) start =
      Walk.streamed (Walk.rationed lib n fuel) sink t context start := by
  have follows : Walk.Follows True Eq Eq
      (Walk.streamed (Walk.rationed lib n fuel) sink t context)
      (lib.stream fuel sink t (context.cut n)) :=
    (Walk.rationed_cut closures (fun _ refers => ⟨t, .self, rfl, refers⟩) sink).bind fun _ =>
      Walk.call_follows (Lockstep.refl sink).flush
  exact follows.eq_of_going within

/-- The stream on rations is the one in the context itself, with enough fuel. -/
theorem stream_uncut (extra : Nat) :
    lib.stream (fuel + (n + extra)) sink t context start =
      Walk.streamed (Walk.rationed lib n fuel) sink t context start := by
  have follows : Walk.Follows True Eq Eq
      (Walk.streamed (Walk.rationed lib n fuel) sink t context)
      (lib.stream (fuel + (n + extra)) sink t context) :=
    Walk.streamed_follows (Walk.rationed_leads lib n fuel extra) (Lockstep.refl sink)
      (fun _ _ => trivial) context
  exact follows.eq_of_going within

end Rationed

section Stopping

/-- The body of a section is rendered to some text for each of these frames. -/
def Writes (lib : Library) (home : Option ParserId) (context : Context)
    (children : Forest PartialRef) (frames : List Frame) (text : Frame → String) : Prop :=
  ∀ frame ∈ frames, text frame ≠ "" ∧
    ∃ fuel, lib.render fuel ⟨children, home⟩ (context.push frame.value frame.marks) =
      some (text frame)

variable (closures : ∀ c, lib.Visits t c → ∃ append, c = .ofAppend append)
  {home : Option ParserId} {context : Context} {children : Forest PartialRef}

/-- What a template refers to is met by a walk that embeds it. -/
theorem meets_of_embeds {u v : Template} (within : u.Within (lib.Meets t))
    (embeds : lib.Embeds u v) : v.Within (lib.Meets t) := by
  induction embeds with
  | self => exact within
  | body _ refers holds ih =>
    obtain ⟨w, embedded, same, refers'⟩ := ih _ refers
    rw [← same] at holds
    exact fun ref target => ⟨_, .body embedded refers' holds, same, target⟩
  | template _ refers holds ih =>
    obtain ⟨w, embedded, same, refers'⟩ := ih _ refers
    rw [← same] at holds
    exact fun ref target => ⟨_, .template embedded refers' holds, rfl, target⟩

theorem visits_of_within {u : Template} (within : u.Within (lib.Meets t)) {c : Custom}
    (visits : lib.Visits u c) : lib.Visits t c := by
  obtain ⟨home, ref, ⟨v, embeds, rfl, refers⟩, holds⟩ := visits
  exact ⟨v.home, ref, meets_of_embeds within embeds ref refers, holds⟩

theorem length_le_flatMap {f : α → List τ} {items : List α} (some : ∀ a ∈ items, f a ≠ []) :
    items.length ≤ (items.flatMap f).length := by
  induction items with
  | nil => exact Nat.zero_le _
  | cons a rest ih =>
    have first := List.length_pos_iff.mpr (some a List.mem_cons_self)
    have later := ih fun other member => some other (.tail a member)
    rw [List.flatMap_cons, List.length_append, List.length_cons]
    omega

include closures in
/-- Turns of a section that come to their end make the calls of certain events. -/
theorem exists_events_of_writes (within : Template.Within (lib.Meets t) ⟨children, home⟩)
    {frames : List Frame} {text : Frame → String}
    (writes : lib.Writes home context children frames text) :
    ∃ fuel events, Event.chars events = frames.flatMap (fun frame => (text frame).toList) ∧
      ∀ (extra : Nat) {σ ε : Type} (sink : Sink σ ε),
        Walk.each (fun frame => Walk.turn true sink
          (Walk.forest lib (fuel + extra) sink home (context.push frame.value frame.marks)
            children)) frames = Event.performAll sink events := by
  induction frames with
  | nil => exact ⟨0, [], rfl, fun _ _ _ _ => rfl⟩
  | cons frame rest ih =>
    obtain ⟨_, fuel, rendered⟩ := writes frame List.mem_cons_self
    obtain ⟨fuel', later, chars', same'⟩ := ih fun other member => writes other (.tail frame member)
    obtain ⟨events, emits, chars⟩ :=
      emits_of_render (fun c visits => closures c (visits_of_within within visits)) rendered
    refine ⟨fuel + fuel', .flush :: (events ++ .flush :: later), ?_, fun extra σ ε sink => ?_⟩
    · rw [Event.chars, Event.chars_append, Event.chars, chars, chars', List.flatMap_cons]
    · have here := emits.mono (fuel' + extra) sink
      have there := same' (fuel + extra) sink
      rw [← Nat.add_assoc] at here
      rw [Nat.add_left_comm, ← Nat.add_assoc] at there
      have framed : Event.flush :: (events ++ .flush :: later) =
          [.flush] ++ (events ++ ([.flush] ++ later)) := rfl
      rw [Walk.each, there, framed, Walk.performAll_append, Walk.performAll_append,
        Walk.performAll_append, ← here, Walk.performAll_flush]
      simp only [Walk.turn, if_true, bind_assoc]

include closures in
/-- A sink that takes so many characters ends the iteration of an endless stream that renders each
of its items to something. It gets the beginning of what is written. -/
theorem forest_stops {received : σ → List Char → Prop} {limit : Nat} {sink : Sink σ ε}
    (takes : sink.Takes received limit) {before after : Forest PartialRef} {path : String}
    (within : Template.Within (lib.Meets t) ⟨before ++ .block path children :: after, home⟩)
    {self : Handle} {item : Nat → Value}
    (resolved : context.resolve path = some (.stream self (.endless item)))
    {head : String} (heads : ∃ fuel, lib.render fuel ⟨before, home⟩ context = some head)
    {text : Frame → String} (writes : lib.Writes home context children
      (Section.firstFrames item (limit + 1)) text)
    {s : σ} {cs : List Char} (got : received s cs) (room : cs.length ≤ limit) :
    ∃ fuel e last, (∀ extra, Walk.forest lib (fuel + extra) sink home context
        (before ++ .block path children :: after) s = .error (.sink e) last) ∧
      received last ((cs ++ head.toList ++
        (Section.firstFrames item (limit + 1)).flatMap
          fun frame => (text frame).toList).take limit) := by
  have within_before : Template.Within (lib.Meets t) ⟨before, home⟩ := by
    intro ref refers
    exact within ref (by simp [show ref ∈ before.targets from refers])
  have within_children : Template.Within (lib.Meets t) ⟨children, home⟩ := by
    intro ref refers
    exact within ref (by simp [show ref ∈ children.targets from refers])
  obtain ⟨fuel, rendered⟩ := heads
  obtain ⟨events, emits, chars⟩ :=
    emits_of_render (fun c visits => closures c (visits_of_within within_before visits)) rendered
  obtain ⟨fuel', turns, chars', same⟩ := exists_events_of_writes closures within_children writes
  have long : limit < (cs ++ Event.chars (events ++ turns)).length := by
    have many := length_le_flatMap (f := fun frame => (text frame).toList)
      fun frame member => by simpa using (writes frame member).1
    rw [Section.length_firstFrames] at many
    rw [Event.chars_append, chars', List.length_append, List.length_append]
    omega
  rcases takes.performEvents (events ++ turns) got room with
    ⟨short, _⟩ | ⟨_, e, last, failed, kept⟩
  · omega
  · rw [Event.chars_append, chars, chars', ← List.append_assoc] at kept
    refine ⟨fuel + fuel' + limit + 2, e, last, fun extra => ?_, kept⟩
    obtain ⟨left, enough⟩ : ∃ left, left = fuel + fuel' + limit + 1 + extra := ⟨_, rfl⟩
    obtain ⟨later, walked⟩ := Walk.forest_of_unending sink home resolved before children
      after (show limit + 1 ≤ left by omega)
    have beginning : Walk.forest lib (left + 1) sink home context before =
        Event.performAll sink events := by
      rw [show left + 1 = fuel + (fuel' + limit + 2 + extra) by omega]
      exact emits.mono _ sink
    have turning := same (fuel + limit + 1 + extra) sink
    rw [show fuel' + (fuel + limit + 1 + extra) = left by omega] at turning
    have failed' : Event.performAll sink (events ++ turns) s = .error (.sink e) last := by
      rw [Event.performAll, Walk.call, failed]
    rw [show fuel + fuel' + limit + 2 + extra = left + 1 by omega, walked, turning,
      beginning, ← bind_assoc, ← Walk.performAll_append]
    simp only [Bind.bind, EStateM.bind, failed']

end Stopping

/-- Endless streams are consumed lazily. If a stream needs no more than `n` items of each pass over
an endless stream, it makes the same calls and ends in the same way where these are cut off after
`n` items, on rations, and where they are not cut off. A partial supplied as code that looks no
further itself is run with the templates that it renders on rations as well. A sink that takes so
many characters ends the iteration of an endless stream that renders each of its items to something,
and gets the beginning of what is written. An inverted section over an endless stream ends at once,
and needs one item. -/
theorem stream_lazily (closures : ∀ c, lib.Visits t c → ∃ append, c = .ofAppend append) :
    (∀ {σ ε : Type} (sink : Sink σ ε) (context : Context) (start : σ) (n fuel : Nat),
      ¬ lib.Overdraws n fuel sink.logged t context (start, []) →
        Walk.streamed (Walk.rationed lib n fuel) sink.logged t context (start, []) =
          lib.stream fuel sink.logged t (context.cut n) (start, []) ∧
        ∀ extra,
          lib.stream (fuel + (n + extra)) sink.logged t context (start, []) =
            lib.stream fuel sink.logged t (context.cut n) (start, []) ∧
          lib.stream (fuel + (n + extra)) sink t context start =
            lib.stream fuel sink t (context.cut n) start) ∧
    (∀ {σ ε : Type} (sink : Sink σ ε) (home : Option ParserId) (context : Context) (n fuel : Nat)
      (ref : PartialRef) (append : Context → Writing),
      lib.content? home ref.slot = some (.registered (.custom (.ofAppend append))) →
      (append context).Cuts lib n (append (context.cut n)) →
      Walk.rationedElement lib n (Walk.rationed lib n fuel) fuel sink home context
          (.reference ref) =
        Walk.custom (Walk.rationed lib n fuel) sink ((Custom.ofAppend append).output context)) ∧
    (∀ {σ ε : Type} (sink : Sink σ ε) (received : σ → List Char → Prop) (limit : Nat)
      (home : Option ParserId) (context : Context) (before after children : Forest PartialRef)
      (path : String) (self : Handle) (item : Nat → Value) (head : String) (text : Frame → String)
      (start : σ) (cs : List Char),
      sink.Takes received limit →
      Template.Within (lib.Meets t) ⟨before ++ .block path children :: after, home⟩ →
      context.resolve path = some (.stream self (.endless item)) →
      (∃ fuel, lib.render fuel ⟨before, home⟩ context = some head) →
      lib.Writes home context children (Section.firstFrames item (limit + 1)) text →
      received start cs → cs.length ≤ limit →
      ∃ fuel e last,
        (∀ extra, Walk.forest lib (fuel + extra) sink home context
            (before ++ .block path children :: after) start = .error (.sink e) last ∧
          lib.stream (fuel + extra) sink ⟨before ++ .block path children :: after, home⟩ context
            start = .error (.sink e) last) ∧
        received last ((cs ++ head.toList ++
          (Section.firstFrames item (limit + 1)).flatMap
            fun frame => (text frame).toList).take limit)) ∧
    ∀ {σ ε : Type} (walk : Walker) (sink : Sink σ ε) (home : Option ParserId) (context : Context)
      (fuel : Nat) (path : String) (children : Forest PartialRef) (self : Handle)
      (item : Nat → Value), context.resolve path = some (.stream self (.endless item)) →
      Walk.element lib walk fuel sink home context (.inverted path children) = pure () ∧
      Walk.rationedElement lib 1 walk fuel sink home context (.inverted path children) =
        pure () := by
  refine ⟨fun sink context start n fuel within => ?_, ?_, ?_, ?_⟩
  · have finite := stream_cut within closures
    refine ⟨finite.symm, fun extra => ?_⟩
    have logged := (stream_uncut within extra).trans finite.symm
    refine ⟨logged, ?_⟩
    rw [← stream_unlogged lib (fuel + (n + extra)) sink t context start,
      ← stream_unlogged lib fuel sink t (context.cut n) start, logged]
  · intro σ ε sink home context n fuel ref append holds cuts
    exact Walk.rationedElement_of_cuts holds cuts sink
  · intro σ ε sink received limit home context before after children path self item head text start
      cs takes within resolved heads writes got room
    obtain ⟨fuel, e, last, fails, kept⟩ :=
      forest_stops closures takes within resolved heads writes got room
    refine ⟨fuel, e, last, fun extra => ⟨fails extra, ?_⟩, kept⟩
    simp only [stream, Walk.streamed, Bind.bind, EStateM.bind, fails extra]
  · intro σ ε walk sink home context fuel path children self item resolved
    have holds : Section.isVoid (some (.stream self (.endless item))) = false := rfl
    have ends : Walk.element lib walk fuel sink home context (.inverted path children) =
        pure () := by
      simp only [Walk.element, resolved, holds]
      rfl
    exact ⟨ends, by simpa only [Walk.rationedElement, Nat.one_ne_zero, false_and, if_false]⟩

/-- A stream of all numbers. -/
def counting : Value := .stream ⟨0, "s"⟩ (.endless fun n => .int n)

/-- An inverted section over a stream, and inside a section over it, with a stamp, another one. -/
def looped : Template :=
  ⟨[.inverted "s" [.text "none"], .block "s" [.reference ⟨"stamp", 0⟩, .block "s" [.escaped "."]]],
    some 0⟩

/-- A section over a stream alone. -/
def listed : Template := ⟨[.block "." [.escaped "."]], some 0⟩

/-- Streams into a recorder that takes three characters: one needs three items in each pass and
ends as it does where there are only three, and the other one ends as well. -/
theorem looped_lazily :
    (∃ e last, stamps.stream 6 (Recorder.sink { ready := some 3 }) looped
        (.root (.map [("s", .stream ⟨0, "s"⟩ (.finite [.int 0, .int 1, .int 2]))])) {} =
          .error (.sink e) last ∧
      stamps.stream 9 (Recorder.sink { ready := some 3 }) looped
        (.root (.map [("s", counting)])) {} = .error (.sink e) last ∧
      last.chunks.flatMap String.toList = ['!', '0', '1']) ∧
    ∃ fuel e last,
      stamps.stream fuel (Recorder.sink { ready := some 3 }) listed (.root counting) {} =
        .error (.sink e) last ∧
      last.chunks.flatMap String.toList = ['0', '1', '2'] := by
  have closures (c : Custom) (visits : stamps.Visits looped c) :
      ∃ append, c = .ofAppend append := by
    obtain ⟨_, _, _, holds⟩ := visits
    exact stamps_closures holds
  obtain ⟨cutting, _, stopping, _⟩ := stream_lazily closures
  constructor
  · have within : ¬ stamps.Overdraws 3 6 (Recorder.sink { ready := some 3 }).logged looped
        (.root (.map [("s", counting)])) ({}, []) := by
      have going : haltOf? (Walk.streamed (Walk.rationed stamps 3 6)
          (Recorder.sink { ready := some 3 }).logged looped (.root (.map [("s", counting)]))
          ({}, [])) = some (.sink (.ready 1)) := by cbv
      rw [Overdraws, going]
      decide
    have same := ((cutting (Recorder.sink { ready := some 3 }) _ {} 3 6 within).2 0).2
    have cut : Context.cut 3 (.root (.map [("s", counting)])) =
        .root (.map [("s", .stream ⟨0, "s"⟩ (.finite [.int 0, .int 1, .int 2]))]) := rfl
    have halted : haltOf? (stamps.stream 6 (Recorder.sink { ready := some 3 }) looped
        (.root (.map [("s", .stream ⟨0, "s"⟩ (.finite [.int 0, .int 1, .int 2]))])) {}) =
          some (.sink (.ready 1)) := by cbv
    have ends := eq_error_of_haltOf? halted
    rw [cut, ends] at same
    exact ⟨_, _, ends, same, by cbv⟩
  · have takes : (Recorder.sink { ready := some 3 }).Takes _ 3 :=
      Sink.recorder_takes rfl fun _ => Bool.or_false _
    have writes : stamps.Writes (some 0) (.root counting) [.escaped "."]
        (Section.firstFrames (fun n => .int n) 4)
        (fun frame => frame.value.display) := by
      intro frame member
      have frames : frame ∈ [⟨.int 0, .item true false 0⟩, ⟨.int 1, .item false false 1⟩,
        ⟨.int 2, .item false false 2⟩, (⟨.int 3, .item false false 3⟩ : Frame)] := member
      simp only [List.mem_cons, List.not_mem_nil, or_false] at frames
      rcases frames with rfl | rfl | rfl | rfl <;> exact ⟨by decide, 2, by cbv⟩
    obtain ⟨fuel, e, last, fails, _, got⟩ := stopping _ _ 3 (some 0) (.root counting) [] [] _ "."
      _ _ "" _ {} [] takes (fun _ none => by simp at none) rfl ⟨1, rfl⟩ writes ⟨rfl, rfl⟩
      (by decide)
    exact ⟨fuel, e, last, (fails 0).2, got⟩

end Library

end Mustache
