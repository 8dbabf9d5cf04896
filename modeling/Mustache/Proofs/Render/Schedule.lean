import Mustache.Proofs.Partial.Reach
import Mustache.Render.Basic
/-!
What a walk does, laid out in advance. The moves of a walk are the characters it feeds, its flushes
and the partials supplied as code that it runs; they depend on the template and the context alone.
Main statements: on every sink, a walk performs its schedule, one move after another up to the first
that does not succeed; and the partials it runs are those that the template refers to, directly or
through the bodies of other partials.
-/
namespace Mustache

variable {σ ε α : Type}

/-- One thing a walk does. -/
inductive Move where
  /-- Waits for the sink and sends a character. -/
  | feed (c : Char)
  | flush
  /-- Runs a partial supplied as code in the context of a tag, with the fuel that is left. -/
  | visit (custom : Custom) (context : Context) (fuel : Nat)

/-- The moves of a walk, as far as its fuel goes. -/
structure Schedule where
  moves : List Move
  /-- Whether the walk ends after these moves; otherwise its fuel does. -/
  ended : Bool

namespace Schedule

/-- Nothing to do. -/
def idle : Schedule := ⟨[], true⟩

/-- No fuel to go on with. -/
def starved : Schedule := ⟨[], false⟩

/-- One schedule and then another one, unless the first runs out of fuel. -/
protected def append (first second : Schedule) : Schedule :=
  if first.ended then ⟨first.moves ++ second.moves, second.ended⟩ else first

instance : Append Schedule := ⟨Schedule.append⟩

/-- The characters of a text, if there is one. -/
def ofText? : Option String → Schedule
  | some text => ⟨text.toList.map .feed, true⟩
  | none => idle

/-- Schedules one after another. -/
def each (plan : α → Schedule) : List α → Schedule
  | [] => idle
  | a :: rest => plan a ++ each plan rest

/-- The items of an endless stream, as many as the fuel allows. -/
def endless (plan : Frame → Schedule) (item : Nat → Value) : Nat → Nat → Schedule
  | 0, _ => starved
  | fuel + 1, index => plan (Section.passing item index) ++ endless plan item fuel (index + 1)

/-- A way to lay out the walk over a forest, given the home of its references. -/
abbrev Planner := Option ParserId → Context → Forest PartialRef → Schedule

/-- The schedule of what a reference stands for. -/
def content (plan : Planner) (fuel : Nat) (home : Option ParserId) (context : Context) :
    Option Content → Schedule
  | none => idle
  | some (.parsed elements) => plan home context elements
  | some (.registered (.template t)) => plan t.home context t.elements
  | some (.registered (.custom c)) => ⟨[.visit c context fuel], true⟩

/-- The schedule of a section over a value. -/
def block (plan : Planner) (home : Option ParserId) (context : Context)
    (children : Forest PartialRef) (fuel : Nat) (value : Value) : Schedule :=
  let body (frame : Frame) : Schedule := plan home (context.push frame.value frame.marks) children
  let flushed (frame : Frame) : Schedule := ⟨[.flush], true⟩ ++ (body frame ++ ⟨[.flush], true⟩)
  match value with
  | .stream _ (.endless item) => endless flushed item fuel 0
  | .stream _ (.finite _) => each flushed (Section.frames value)
  | _ => each body (Section.frames value)

/-- The schedule of one element. -/
def element (lib : Library) (plan : Planner) (fuel : Nat) (home : Option ParserId)
    (context : Context) : Element PartialRef → Schedule
  | .text text => ofText? (some text)
  | .escaped path => ofText? ((Walk.textOf? context path).map Text.escape)
  | .raw path => ofText? (Walk.textOf? context path)
  | .block path children =>
    match context.resolve path with
    | some value => block plan home context children fuel value
    | none => idle
  | .inverted path children =>
    if Section.isVoid (context.resolve path) then plan home context children else idle
  | .reference target => content plan fuel home context (lib.content? home target.slot)

/-- The schedule of a forest. -/
def forest (lib : Library) : Nat → Planner
  | 0 => fun _ _ _ => starved
  | fuel + 1 => fun home context elements =>
    each (element lib (forest lib fuel) fuel home context) elements

theorem append_of_ended {first : Schedule} (ended : first.ended = true) (second : Schedule) :
    first ++ second = ⟨first.moves ++ second.moves, second.ended⟩ :=
  if_pos ended

theorem append_of_starved {first : Schedule} (unended : first.ended = false) (second : Schedule) :
    first ++ second = first :=
  if_neg (by simp [unended])

/-- The moves of two schedules are moves of one of them. -/
theorem mem_append {first second : Schedule} {move : Move}
    (member : move ∈ (first ++ second).moves) : move ∈ first.moves ∨ move ∈ second.moves := by
  cases ended : first.ended with
  | true =>
    rw [append_of_ended ended] at member
    exact List.mem_append.mp member
  | false =>
    rw [append_of_starved ended] at member
    exact .inl member

theorem mem_each {plan : α → Schedule} {items : List α} {move : Move}
    (member : move ∈ (each plan items).moves) : ∃ a ∈ items, move ∈ (plan a).moves := by
  induction items with
  | nil => cases member
  | cons a rest ih =>
    rcases mem_append member with here | later
    · exact ⟨a, List.mem_cons_self, here⟩
    · obtain ⟨other, inside, there⟩ := ih later
      exact ⟨other, List.mem_cons_of_mem a inside, there⟩

theorem mem_endless {plan : Frame → Schedule} {item : Nat → Value} {fuel index : Nat} {move : Move}
    (member : move ∈ (endless plan item fuel index).moves) :
    ∃ frame, move ∈ (plan frame).moves := by
  induction fuel generalizing index with
  | zero => cases member
  | succ fuel ih =>
    rcases mem_append member with here | later
    · exact ⟨_, here⟩
    · exact ih later

end Schedule

/-- Makes a move on a sink. -/
def Move.perform (lib : Library) (sink : Sink σ ε) : Move → WalkM σ ε Unit
  | .feed c => Walk.call (sink.feed c)
  | .flush => Walk.call sink.flush
  | .visit custom context fuel =>
    Walk.custom (Walk.forest lib fuel) sink (custom.output context)

/-- Makes the moves of a schedule on a sink, up to the first that does not succeed. -/
def Schedule.perform (lib : Library) (sink : Sink σ ε) (s : Schedule) : WalkM σ ε Unit := do
  Walk.each (Move.perform lib sink) s.moves
  if s.ended then pure () else throw .exhausted

namespace Walk

theorem each_append (walk : α → WalkM σ ε Unit) (first second : List α) :
    each walk (first ++ second) = (do each walk first; each walk second) := by
  induction first with
  | nil => exact (pure_bind _ _).symm
  | cons a rest ih =>
    simp only [List.cons_append, each, ih]
    exact (bind_assoc _ _ _).symm

theorem throw_bind (halt : Halt ε) (next : Unit → WalkM σ ε Unit) :
    ((throw halt : WalkM σ ε Unit) >>= next) = throw halt := rfl

end Walk

namespace Schedule

variable {lib : Library} {sink : Sink σ ε}

theorem perform_idle : idle.perform lib sink = pure () := rfl

theorem perform_starved : starved.perform lib sink = throw .exhausted := rfl

theorem perform_one (move : Move) : perform lib sink ⟨[move], true⟩ = move.perform lib sink :=
  bind_pure_unit.trans bind_pure_unit

theorem perform_of_ended {s : Schedule} (ended : s.ended = true) :
    s.perform lib sink = Walk.each (Move.perform lib sink) s.moves := by
  rw [perform, if_pos ended]
  exact bind_pure_unit

theorem perform_eq_ok_iff {s : Schedule} {start last : σ} :
    s.perform lib sink start = .ok () last ↔
      s.ended = true ∧ Walk.each (Move.perform lib sink) s.moves start = .ok () last := by
  cases ended : s.ended with
  | true => simp [perform_of_ended ended]
  | false =>
    simp only [perform, ended, Bool.false_eq_true, if_false, Bind.bind, EStateM.bind, false_and,
      iff_false]
    cases Walk.each (Move.perform lib sink) s.moves start <;> nofun

theorem perform_append (first second : Schedule) :
    (first ++ second).perform lib sink =
      (do first.perform lib sink; second.perform lib sink) := by
  cases ended : first.ended with
  | true =>
    rw [append_of_ended ended]
    simp [perform, ended, Walk.each_append]
  | false =>
    rw [append_of_starved ended]
    simp [perform, ended, Walk.throw_bind]

theorem perform_ofText (text? : Option String) :
    (ofText? text?).perform lib sink = Walk.emitText? sink text? := by
  cases text? with
  | none => rfl
  | some text =>
    have fed (cs : List Char) : Walk.each (Move.perform lib sink) (cs.map .feed) =
        Walk.emit sink cs := by
      induction cs with
      | nil => rfl
      | cons c rest ih =>
        rw [List.map_cons, Walk.each, Walk.emit, ih]
        rfl
    exact bind_pure_unit.trans (fed text.toList)

theorem perform_each {plan : α → Schedule} {walk : α → WalkM σ ε Unit} {items : List α}
    (same : ∀ a ∈ items, (plan a).perform lib sink = walk a) :
    (each plan items).perform lib sink = Walk.each walk items := by
  induction items with
  | nil => exact perform_idle
  | cons a rest ih =>
    rw [each, perform_append, Walk.each, same a List.mem_cons_self,
      ih fun other member => same other (List.mem_cons_of_mem a member)]

theorem perform_endless {plan : Frame → Schedule} {walk : Frame → WalkM σ ε Unit}
    (same : ∀ frame, (plan frame).perform lib sink = walk frame) (item : Nat → Value)
    (fuel index : Nat) :
    (endless plan item fuel index).perform lib sink = Walk.endless walk item fuel index := by
  induction fuel generalizing index with
  | zero => exact perform_starved
  | succ fuel ih => rw [endless, perform_append, Walk.endless, ih, same]

section Planned

variable {plan : Planner} {walk : Walker}
  (planned : ∀ home context elements,
    (plan home context elements).perform lib sink = walk sink home context elements)
include planned

theorem perform_block (home : Option ParserId) (context : Context) (children : Forest PartialRef)
    (fuel : Nat) (value : Value) : (block plan home context children fuel value).perform lib sink =
      Walk.block walk sink home context children fuel value := by
  have flushed (frame : Frame) :
      (⟨[.flush], true⟩ ++ (plan home (context.push frame.value frame.marks) children ++
        ⟨[.flush], true⟩) : Schedule).perform lib sink = (do
          Walk.call sink.flush
          walk sink home (context.push frame.value frame.marks) children
          Walk.call sink.flush) := by
    rw [perform_append, perform_append, planned, perform_one]
    rfl
  cases value with
  | stream self pass =>
    cases pass with
    | finite items => exact perform_each fun frame _ => flushed frame
    | endless item => exact perform_endless flushed item fuel 0
  | null | bool | int | float | text | seq | map | enumeration | object =>
    exact perform_each fun frame _ => planned home _ children

end Planned

theorem perform_element {plan : Planner} {fuel : Nat}
    (planned : ∀ home context elements, (plan home context elements).perform lib sink =
      Walk.forest lib fuel sink home context elements)
    (home : Option ParserId) (context : Context) (e : Element PartialRef) :
    (element lib plan fuel home context e).perform lib sink =
      Walk.element lib (Walk.forest lib fuel) fuel sink home context e := by
  cases e with
  | text text => exact perform_ofText (some text)
  | escaped path => exact perform_ofText _
  | raw path => exact perform_ofText _
  | block path children =>
    simp only [element, Walk.element]
    cases context.resolve path with
    | none => exact perform_idle
    | some value => exact perform_block planned home context children fuel value
  | inverted path children =>
    simp only [element, Walk.element]
    split
    · exact planned home context children
    · exact perform_idle
  | reference target =>
    simp only [element, Walk.element]
    cases lib.content? home target.slot with
    | none => exact perform_idle
    | some content =>
      cases content with
      | parsed elements => exact planned home context elements
      | registered value =>
        cases value with
        | template t => exact planned t.home context t.elements
        | custom c => exact perform_one _

end Schedule

/-- A walk performs its schedule, whatever the sink. -/
theorem Walk.forest_eq_perform (lib : Library) (fuel : Nat) (sink : Sink σ ε)
    (home : Option ParserId) (context : Context) (elements : Forest PartialRef) :
    Walk.forest lib fuel sink home context elements =
      (Schedule.forest lib fuel home context elements).perform lib sink := by
  induction fuel generalizing home context elements with
  | zero => rfl
  | succ fuel ih =>
    have planned := fun home context elements => (ih home context elements).symm
    exact (Schedule.perform_each fun e _ => Schedule.perform_element planned home context e).symm

section Fuel

/-- The move with more fuel left for it. -/
def Move.more (extra : Nat) : Move → Move
  | .visit custom context fuel => .visit custom context (fuel + extra)
  | move => move

namespace Schedule

variable {extra : Nat}

/-- The schedule with more fuel left for each of its moves. -/
def more (extra : Nat) (s : Schedule) : Schedule := ⟨s.moves.map (Move.more extra), s.ended⟩

theorem ended_append (first second : Schedule) :
    (first ++ second).ended = (first.ended && second.ended) := by
  cases ended : first.ended with
  | true => rw [append_of_ended ended, Bool.true_and]
  | false => rw [append_of_starved ended, ended, Bool.false_and]

theorem more_append (first second : Schedule) :
    (first ++ second).more extra = first.more extra ++ second.more extra := by
  cases ended : first.ended with
  | true =>
    have ended_more : (first.more extra).ended = true := ended
    rw [append_of_ended ended, append_of_ended ended_more]
    simp [more]
  | false =>
    have starved_more : (first.more extra).ended = false := ended
    rw [append_of_starved ended, append_of_starved starved_more]

theorem more_ofText (text? : Option String) : (ofText? text?).more extra = ofText? text? := by
  cases text? with
  | none => rfl
  | some text => simp [more, ofText?, Move.more]

theorem more_each {plan later : α → Schedule} {items : List α}
    (same : ∀ a, (plan a).ended = true → later a = (plan a).more extra)
    (ended : (each plan items).ended = true) :
    each later items = (each plan items).more extra := by
  induction items with
  | nil => rfl
  | cons a rest ih =>
    rw [each, ended_append, Bool.and_eq_true] at ended
    rw [each, each, more_append, same a ended.1, ih ended.2]

/-- An endless stream uses up all fuel. -/
theorem ended_endless (plan : Frame → Schedule) (item : Nat → Value) (fuel index : Nat) :
    (endless plan item fuel index).ended = false := by
  induction fuel generalizing index with
  | zero => rfl
  | succ fuel ih => rw [endless, ended_append, ih, Bool.and_false]

theorem more_block {plan later : Planner} {home : Option ParserId} {context : Context}
    {children : Forest PartialRef} {fuel : Nat} {value : Value}
    (same : ∀ home context elements, (plan home context elements).ended = true →
      later home context elements = (plan home context elements).more extra)
    (ended : (block plan home context children fuel value).ended = true) :
    block later home context children (fuel + extra) value =
      (block plan home context children fuel value).more extra := by
  have flushed (frame : Frame)
      (ended : (⟨[.flush], true⟩ ++ (plan home (context.push frame.value frame.marks) children ++
        ⟨[.flush], true⟩) : Schedule).ended = true) :
      (⟨[.flush], true⟩ ++ (later home (context.push frame.value frame.marks) children ++
        ⟨[.flush], true⟩) : Schedule) =
      (⟨[.flush], true⟩ ++ (plan home (context.push frame.value frame.marks) children ++
        ⟨[.flush], true⟩) : Schedule).more extra := by
    rw [ended_append, ended_append, Bool.and_eq_true, Bool.and_eq_true] at ended
    rw [more_append, more_append, same _ _ _ ended.2.1]
    rfl
  cases value with
  | stream self pass =>
    cases pass with
    | finite items => exact more_each flushed ended
    | endless item =>
      rw [block, ended_endless] at ended
      cases ended
  | null | bool | int | float | text | seq | map | enumeration | object =>
    exact more_each (fun frame => same home _ children) ended

/-- More fuel does not change a schedule that has come to its end, apart from the fuel left. -/
theorem forest_more (lib : Library) {fuel : Nat} (extra : Nat) {home : Option ParserId}
    {context : Context} {elements : Forest PartialRef}
    (ended : (forest lib fuel home context elements).ended = true) :
    forest lib (fuel + extra) home context elements =
      (forest lib fuel home context elements).more extra := by
  induction fuel generalizing home context elements with
  | zero => cases ended
  | succ fuel ih =>
    rw [Nat.succ_add]
    refine more_each (fun e ended => ?_) ended
    cases e with
    | text text => exact (more_ofText (some text)).symm
    | escaped path => exact (more_ofText _).symm
    | raw path => exact (more_ofText _).symm
    | block path children =>
      simp only [element] at ended ⊢
      cases resolved : context.resolve path with
      | none => rfl
      | some value =>
        rw [resolved] at ended
        exact more_block (fun _ _ _ => ih) ended
    | inverted path children =>
      simp only [element] at ended ⊢
      split at ended
      · rename_i void
        rw [if_pos void, if_pos void]
        exact ih ended
      · rename_i holds
        rw [if_neg holds, if_neg holds]
        rfl
    | reference target =>
      simp only [element] at ended ⊢
      cases holds : lib.content? home target.slot with
      | none => rfl
      | some content =>
        rw [holds] at ended
        cases content with
        | parsed body => exact ih ended
        | registered value =>
          cases value with
          | template t => exact ih ended
          | custom c => rfl

end Schedule

end Fuel

namespace Library

/-- The schedule of a template in a context. -/
def schedule (lib : Library) (fuel : Nat) (t : Template) (context : Context) : Schedule :=
  .forest lib fuel t.home context t.elements

/-- The templates whose elements are walked with those of `t`: the bodies of partials that it refers
to, and registered templates. -/
inductive Embeds (lib : Library) (t : Template) : Template → Prop where
  | self : lib.Embeds t t
  | body {u : Template} {ref : PartialRef} {elements : Forest PartialRef} : lib.Embeds t u →
      ref ∈ u.elements.targets → lib.content? u.home ref.slot = some (.parsed elements) →
      lib.Embeds t ⟨elements, u.home⟩
  | template {u v : Template} {ref : PartialRef} : lib.Embeds t u → ref ∈ u.elements.targets →
      lib.content? u.home ref.slot = some (.registered (.template v)) → lib.Embeds t v

/-- A reference of a template that is walked with `t`. -/
def Meets (lib : Library) (t : Template) (home : Option ParserId) (ref : PartialRef) : Prop :=
  ∃ u, lib.Embeds t u ∧ u.home = home ∧ ref ∈ u.elements.targets

/-- The partials supplied as code that a walk over the template can run. -/
def Visits (lib : Library) (t : Template) (c : Custom) : Prop :=
  ∃ home ref, lib.Meets t home ref ∧
    lib.content? home ref.slot = some (.registered (.custom c))

variable {lib : Library} {t : Template} {c : Custom} {context around : Context} {fuel left : Nat}

theorem visits_of_mem_ofText {text? : Option String}
    (member : Move.visit c context left ∈ (Schedule.ofText? text?).moves) : False := by
  cases text? with
  | none => cases member
  | some text =>
    obtain ⟨_, _, impossible⟩ := List.mem_map.mp member
    cases impossible

/-- A section runs what its children run. -/
theorem mem_block {plan : Schedule.Planner} {home : Option ParserId} {children : Forest PartialRef}
    {value : Value} (member : Move.visit c context left ∈
      (Schedule.block plan home around children fuel value).moves) :
    ∃ inner, Move.visit c context left ∈ (plan home inner children).moves := by
  have flushed {frame : Frame} (member : Move.visit c context left ∈
      (⟨[.flush], true⟩ ++ (plan home (around.push frame.value frame.marks) children ++
        ⟨[.flush], true⟩) : Schedule).moves) :
      Move.visit c context left ∈
        (plan home (around.push frame.value frame.marks) children).moves := by
    rcases Schedule.mem_append member with impossible | member
    · simp at impossible
    · rcases Schedule.mem_append member with inside | impossible
      · exact inside
      · simp at impossible
  unfold Schedule.block at member
  split at member
  · obtain ⟨frame, inside⟩ := Schedule.mem_endless member
    exact ⟨_, flushed inside⟩
  · obtain ⟨frame, _, inside⟩ := Schedule.mem_each member
    exact ⟨_, flushed inside⟩
  · obtain ⟨frame, _, inside⟩ := Schedule.mem_each member
    exact ⟨_, inside⟩

theorem visits_of_mem_forest {home : Option ParserId} {elements : Forest PartialRef}
    (met : ∀ ref ∈ elements.targets, lib.Meets t home ref)
    (member : Move.visit c context left ∈
      (Schedule.forest lib fuel home around elements).moves) : lib.Visits t c := by
  induction fuel generalizing home around elements with
  | zero => cases member
  | succ fuel ih =>
    obtain ⟨e, inside, member⟩ := Schedule.mem_each member
    have met_here (ref : PartialRef) (refers : ref ∈ e.targets) : lib.Meets t home ref :=
      met ref (Forest.mem_targets inside refers)
    cases e with
    | text text => exact (visits_of_mem_ofText member).elim
    | escaped path => exact (visits_of_mem_ofText member).elim
    | raw path => exact (visits_of_mem_ofText member).elim
    | block path children =>
      simp only [Schedule.element] at member
      split at member
      · obtain ⟨inner, member⟩ := mem_block member
        exact ih met_here member
      · cases member
    | inverted path children =>
      simp only [Schedule.element] at member
      split at member
      · exact ih met_here member
      · cases member
    | reference target =>
      obtain ⟨u, embeds, rfl, refers⟩ := met_here target List.mem_cons_self
      simp only [Schedule.element] at member
      cases holds : lib.content? u.home target.slot with
      | none =>
        rw [holds] at member
        cases member
      | some content =>
        rw [holds] at member
        cases content with
        | parsed body =>
          exact ih (fun ref refers' => ⟨_, .body embeds refers holds, rfl, refers'⟩) member
        | registered value =>
          cases value with
          | template v =>
            exact ih (fun ref refers' => ⟨v, .template embeds refers holds, rfl, refers'⟩) member
          | custom other =>
            cases List.mem_singleton.mp member
            exact ⟨u.home, target, ⟨u, embeds, rfl, refers⟩, holds⟩

/-- The partials that a walk runs are those it can run. -/
theorem visits_of_mem_schedule
    (member : Move.visit c context left ∈ (lib.schedule fuel t around).moves) : lib.Visits t c :=
  visits_of_mem_forest (fun _ refers => ⟨t, .self, rfl, refers⟩) member

/-- The library of one parser without sources, with which partials have been registered. -/
def ofPartials (known : List (String × Partial)) : Library :=
  empty.add <| known.foldl (fun p entry => p.addPartial entry.1 entry.2)
    (.ofResolver (.table [] (.missing "unknown")))

end Library

end Mustache
