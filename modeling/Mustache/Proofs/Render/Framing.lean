import Mathlib
import Mustache.Proofs.Render.Complement
import Mustache.Proofs.Render.Failure
import Mustache.Proofs.Render.Obliviousness
/-!
Flushes frame the items of streams and nothing else. What a walk without code does is told as a
tree: characters, and items of streams with what is rendered for them. Main statements: a walk comes
to its end exactly if there is such a tree; on every sink, a stream makes the calls of the tree,
with one flush before and one after each item, and one flush at the end.
-/
namespace Mustache

variable {σ ε α β : Type}

/-- What a walk does, told item by item. -/
inductive Happening where
  /-- A character is written. -/
  | char (c : Char)
  /-- The body of a section is rendered for one item of a stream. -/
  | item (inside : List Happening)

namespace Happening

mutual

/-- The events of a happening: an item is framed by flushes of its own. -/
def events : Happening → List Event
  | .char c => [.char c]
  | .item inside => .flush :: (eventsAll inside ++ [.flush])

/-- The events of happenings one after another. -/
def eventsAll : List Happening → List Event
  | [] => []
  | first :: rest => first.events ++ eventsAll rest

end

mutual

/-- The number of items of streams in a happening, at any depth. -/
def items : Happening → Nat
  | .char _ => 0
  | .item inside => itemsAll inside + 1

/-- The number of items of streams in happenings, at any depth. -/
def itemsAll : List Happening → Nat
  | [] => 0
  | first :: rest => first.items + itemsAll rest

end

/-- The characters of a text, if there is one. -/
def ofText? : Option String → List Happening
  | some text => text.toList.map .char
  | none => []

theorem eventsAll_eq_flatMap (tree : List Happening) : eventsAll tree = tree.flatMap events := by
  induction tree with
  | nil => rfl
  | cons first rest ih => rw [eventsAll, ih, List.flatMap_cons]

theorem eventsAll_append (first second : List Happening) :
    eventsAll (first ++ second) = eventsAll first ++ eventsAll second := by
  simp only [eventsAll_eq_flatMap, List.flatMap_append]

theorem eventsAll_chars (cs : List Char) : eventsAll (cs.map .char) = cs.map .char := by
  rw [eventsAll_eq_flatMap, List.flatMap_map]
  exact (List.map_eq_flatMap ..).symm

mutual

theorem count_flush_events (h : Happening) : h.events.count .flush = 2 * h.items := by
  cases h with
  | char c => rfl
  | item inside =>
    rw [events, items, List.count_cons_self, List.count_append, count_flush_eventsAll inside]
    simp only [List.count_singleton_self]
    omega

/-- There are two flushes for each item. -/
theorem count_flush_eventsAll (tree : List Happening) :
    (eventsAll tree).count .flush = 2 * itemsAll tree := by
  match tree with
  | [] => rfl
  | first :: rest =>
    rw [eventsAll, itemsAll, List.count_append, count_flush_events first,
      count_flush_eventsAll rest, Nat.mul_add]

end

end Happening

namespace Event

/-- The characters between flushes. -/
def chunks : List Event → List (List Char)
  | [] => [[]]
  | .char c :: rest => (chunks rest).modifyHead (c :: ·)
  | .flush :: rest => [] :: chunks rest

theorem length_chunks (events : List Event) :
    (chunks events).length = events.count .flush + 1 := by
  induction events with
  | nil => rfl
  | cons event rest ih =>
    cases event with
    | char c => simp [chunks, ih]
    | flush => simp [chunks, ih]

/-- The chunks, one after another, are all characters. -/
theorem flatten_chunks (events : List Event) : (chunks events).flatten = chars events := by
  induction events with
  | nil => rfl
  | cons event rest ih =>
    cases event with
    | char c =>
      rw [chunks, chars, ← ih]
      have some : chunks rest ≠ [] := List.ne_nil_of_length_eq_add_one (length_chunks rest)
      obtain ⟨first, others, shape⟩ := List.exists_cons_of_ne_nil some
      rw [shape]
      rfl
    | flush => exact ih

theorem count_flush_plan (events : List Event) :
    (plan events).count .flush = events.count .flush + 1 := by
  have calls : (events.flatMap calls).count .flush = events.count .flush := by
    induction events with
    | nil => rfl
    | cons event rest ih =>
      rw [List.flatMap_cons, List.count_append, ih]
      cases event with
      | char c => simp [Event.calls]
      | flush => simp [Event.calls, Nat.add_comm]
  rw [plan, List.count_append, calls]
  rfl

/-- The move that an event is. -/
def move : Event → Move
  | .char c => .feed c
  | .flush => .flush

end Event

namespace Schedule

/-- The schedule of events, which comes to its end. -/
def ofEvents (events : List Event) : Schedule := ⟨events.map Event.move, true⟩

variable {lib : Library} {first second : List Event} {events : List Event}

theorem ofEvents_append : ofEvents (first ++ second) = ofEvents first ++ ofEvents second := by
  rw [append_of_ended rfl]
  simp [ofEvents]

theorem ofEvents_text (text? : Option String) :
    ofText? text? = ofEvents (Happening.eventsAll (Happening.ofText? text?)) := by
  cases text? with
  | none => rfl
  | some text => simp [ofText?, Happening.ofText?, Happening.eventsAll_chars, ofEvents, Event.move]

theorem append_idle (s : Schedule) : s ++ idle = s := by
  cases ended : s.ended with
  | true =>
    rw [append_of_ended ended]
    simp [idle, ← ended]
  | false => exact append_of_starved ended idle

theorem each_ofEvents {plan : α → Schedule} {events : α → List Event} {items : List α}
    (same : ∀ a ∈ items, plan a = ofEvents (events a)) :
    each plan items = ofEvents (items.flatMap events) := by
  induction items with
  | nil => rfl
  | cons a rest ih =>
    rw [each, same a List.mem_cons_self, ih fun other member => same other (.tail a member),
      List.flatMap_cons, ofEvents_append]

theorem each_map (plan : β → Schedule) (f : α → β) (items : List α) :
    each plan (items.map f) = each (fun a => plan (f a)) items := by
  induction items with
  | nil => rfl
  | cons a rest ih => rw [List.map_cons, each, each, ih]

theorem each_ended {plan : α → Schedule} {items : List α} (ended : (each plan items).ended = true) :
    ∀ a ∈ items, (plan a).ended = true := by
  induction items with
  | nil => nofun
  | cons a rest ih =>
    rw [each, ended_append, Bool.and_eq_true] at ended
    intro other member
    rcases List.mem_cons.mp member with rfl | later
    · exact ended.1
    · exact ih ended.2 other later

/-- Events need no fuel. -/
theorem more_eq_ofEvents_iff {s : Schedule} {extra : Nat} :
    s.more extra = ofEvents events ↔ s = ofEvents events := by
  obtain ⟨moves, ended⟩ := s
  have same (move : Move) (event : Event) : move.more extra = event.move ↔ move = event.move := by
    cases move <;> cases event <;> simp [Move.more, Event.move]
  simp only [more, ofEvents, Schedule.mk.injEq, and_congr_left_iff]
  rintro -
  induction moves generalizing events with
  | nil => cases events <;> simp
  | cons move rest ih => cases events <;> simp [same, ih]

theorem perform_ofEvents (sink : Sink σ ε) :
    (ofEvents events).perform lib sink = Event.performAll sink events := by
  rw [perform_of_ended rfl]
  induction events with
  | nil => rfl
  | cons event rest ih =>
    rw [← List.singleton_append, Walk.performAll_append, ← ih]
    cases event with
    | char c =>
      rw [Walk.performAll_char]
      rfl
    | flush =>
      rw [Walk.performAll_flush]
      rfl

end Schedule

namespace Library

/-- What happens while a forest is walked, as far as no code is run. In a section over a stream, the
items come directly one after another; in other sections, the turns leave no trace of their own, and
neither do inverted sections and references. -/
inductive Yields (lib : Library) :
    Option ParserId → Context → Forest PartialRef → List Happening → Prop where
  | nil {home : Option ParserId} {c : Context} : Yields lib home c [] []
  | cons {home : Option ParserId} {c : Context} {first : Element PartialRef}
      {rest : Forest PartialRef} {tree later : List Happening} :
      Yields lib home c [first] tree → Yields lib home c rest later →
      Yields lib home c (first :: rest) (tree ++ later)
  | text {home : Option ParserId} {c : Context} {text : String} :
      Yields lib home c [.text text] (Happening.ofText? (some text))
  | escaped {home : Option ParserId} {c : Context} {path : String} :
      Yields lib home c [.escaped path]
        (Happening.ofText? ((Walk.textOf? c path).map Text.escape))
  | raw {home : Option ParserId} {c : Context} {path : String} :
      Yields lib home c [.raw path] (Happening.ofText? (Walk.textOf? c path))
  | absent {home : Option ParserId} {c : Context} {path : String}
      {children : Forest PartialRef} : c.resolve path = none →
      Yields lib home c [.block path children] []
  /-- A section over a value that is not a stream. -/
  | turns {home : Option ParserId} {c : Context} {path : String} {children : Forest PartialRef}
      {value : Value} (turns : List (Frame × List Happening)) : c.resolve path = some value →
      Section.isStream (some value) = false → turns.map (·.1) = Section.frames value →
      (∀ turn ∈ turns, Yields lib home (c.push turn.1.value turn.1.marks) children turn.2) →
      Yields lib home c [.block path children] (turns.flatMap (·.2))
  /-- A section over a stream that comes to its end. -/
  | stream {home : Option ParserId} {c : Context} {path : String} {children : Forest PartialRef}
      {value : Value} (turns : List (Frame × List Happening)) : c.resolve path = some value →
      Section.isStream (some value) = true → Section.isUnending value = false →
      turns.map (·.1) = Section.frames value →
      (∀ turn ∈ turns, Yields lib home (c.push turn.1.value turn.1.marks) children turn.2) →
      Yields lib home c [.block path children] (turns.map (.item ·.2))
  | inverted {home : Option ParserId} {c : Context} {path : String}
      {children : Forest PartialRef} {tree : List Happening} :
      Section.isVoid (c.resolve path) = true → Yields lib home c children tree →
      Yields lib home c [.inverted path children] tree
  | skipped {home : Option ParserId} {c : Context} {path : String}
      {children : Forest PartialRef} : Section.isVoid (c.resolve path) = false →
      Yields lib home c [.inverted path children] []
  | unbound {home : Option ParserId} {c : Context} {ref : PartialRef} :
      lib.content? home ref.slot = none → Yields lib home c [.reference ref] []
  | parsed {home : Option ParserId} {c : Context} {ref : PartialRef}
      {body : Forest PartialRef} {tree : List Happening} :
      lib.content? home ref.slot = some (.parsed body) → Yields lib home c body tree →
      Yields lib home c [.reference ref] tree
  | template {home : Option ParserId} {c : Context} {ref : PartialRef} {t : Template}
      {tree : List Happening} :
      lib.content? home ref.slot = some (.registered (.template t)) →
      Yields lib t.home c t.elements tree → Yields lib home c [.reference ref] tree

variable {lib : Library} {home : Option ParserId} {c : Context} {elements : Forest PartialRef}
  {tree : List Happening} {t : Template} {fuel : Nat}

/-- A forest is walked with these happenings, with some fuel. -/
def Plans (lib : Library) (fuel : Nat) (home : Option ParserId) (c : Context)
    (elements : Forest PartialRef) (tree : List Happening) : Prop :=
  Schedule.forest lib fuel home c elements = .ofEvents (Happening.eventsAll tree)

theorem Plans.mono (plans : lib.Plans fuel home c elements tree) (extra : Nat) :
    lib.Plans (fuel + extra) home c elements tree := by
  have ended : (Schedule.forest lib fuel home c elements).ended = true := by
    rw [plans]
    rfl
  rw [Plans, Schedule.forest_more lib extra ended]
  exact Schedule.more_eq_ofEvents_iff.mpr plans

theorem Plans.of_more {extra : Nat} (plans : lib.Plans (fuel + extra) home c elements tree)
    (ended : (Schedule.forest lib fuel home c elements).ended = true) :
    lib.Plans fuel home c elements tree := by
  rw [Plans, Schedule.forest_more lib extra ended] at plans
  exact Schedule.more_eq_ofEvents_iff.mp plans

theorem forest_one (fuel : Nat) (e : Element PartialRef) :
    Schedule.forest lib (fuel + 1) home c [e] =
      Schedule.element lib (Schedule.forest lib fuel) fuel home c e :=
  Schedule.append_idle _

theorem forest_cons (fuel : Nat) (first : Element PartialRef) (rest : Forest PartialRef) :
    Schedule.forest lib fuel home c (first :: rest) =
      Schedule.forest lib fuel home c [first] ++ Schedule.forest lib fuel home c rest := by
  cases fuel with
  | zero => rfl
  | succ fuel =>
    rw [forest_one]
    rfl

/-- For finitely many turns, one amount of fuel suffices. -/
theorem exists_plans {children : Forest PartialRef} {turns : List (Frame × List Happening)}
    (each : ∀ turn ∈ turns, ∃ fuel,
      lib.Plans fuel home (c.push turn.1.value turn.1.marks) children turn.2) :
    ∃ fuel, ∀ turn ∈ turns,
      lib.Plans fuel home (c.push turn.1.value turn.1.marks) children turn.2 := by
  induction turns with
  | nil => exact ⟨0, nofun⟩
  | cons turn rest ih =>
    obtain ⟨fuel, here⟩ := each turn List.mem_cons_self
    obtain ⟨fuel', later⟩ := ih fun other member => each other (.tail turn member)
    refine ⟨fuel + fuel', fun other member => ?_⟩
    rcases List.mem_cons.mp member with rfl | inside
    · exact here.mono fuel'
    · rw [Nat.add_comm]
      exact (later other inside).mono fuel

/-- What is told of a walk is what it does, as soon as there is enough fuel. -/
theorem Yields.plans (yields : lib.Yields home c elements tree) :
    ∃ fuel, lib.Plans fuel home c elements tree := by
  induction yields with
  | nil => exact ⟨1, rfl⟩
  | cons _ _ ih ih' =>
    obtain ⟨fuel, here⟩ := ih
    obtain ⟨fuel', later⟩ := ih'
    refine ⟨fuel + fuel', ?_⟩
    have later' := later.mono fuel
    rw [Nat.add_comm] at later'
    rw [Plans, forest_cons, here.mono fuel', later', Happening.eventsAll_append,
      Schedule.ofEvents_append]
  | text =>
    refine ⟨1, ?_⟩
    rw [Plans, forest_one]
    exact Schedule.ofEvents_text (some _)
  | escaped | raw =>
    refine ⟨1, ?_⟩
    rw [Plans, forest_one]
    exact Schedule.ofEvents_text _
  | absent missing =>
    refine ⟨1, ?_⟩
    rw [Plans, forest_one]
    simp only [Schedule.element, missing]
    rfl
  | @turns home c path children value turns resolved plain frames _ ih =>
    obtain ⟨fuel, each⟩ := exists_plans ih
    refine ⟨fuel + 1, ?_⟩
    rw [Plans, forest_one]
    have all : Schedule.each
        (fun frame => Schedule.forest lib fuel home (c.push frame.value frame.marks) children)
        (Section.frames value) = .ofEvents (Happening.eventsAll (turns.flatMap (·.2))) := by
      rw [← frames, Schedule.each_map, Schedule.each_ofEvents each]
      simp only [Happening.eventsAll_eq_flatMap, List.flatMap_assoc]
    simp only [Schedule.element, resolved]
    cases value with
    | stream => cases plain
    | null | bool | int | float | text | seq | map | enumeration | object => exact all
  | @stream home c path children value turns resolved streams ends frames _ ih =>
    obtain ⟨fuel, each⟩ := exists_plans ih
    refine ⟨fuel + 1, ?_⟩
    rw [Plans, forest_one]
    have framed : ∀ turn ∈ turns,
        (⟨[.flush], true⟩ ++
          (Schedule.forest lib fuel home (c.push turn.1.value turn.1.marks) children ++
            ⟨[.flush], true⟩) : Schedule) = .ofEvents (Happening.item turn.2).events := by
      intro turn member
      have events : (Happening.item turn.2).events =
          [.flush] ++ (Happening.eventsAll turn.2 ++ [.flush]) := rfl
      rw [each turn member, events, Schedule.ofEvents_append, Schedule.ofEvents_append]
      rfl
    have all : Schedule.each
        (fun frame => ⟨[.flush], true⟩ ++
          (Schedule.forest lib fuel home (c.push frame.value frame.marks) children ++
            ⟨[.flush], true⟩))
        (Section.frames value) = .ofEvents (Happening.eventsAll (turns.map (.item ·.2))) := by
      rw [← frames, Schedule.each_map, Schedule.each_ofEvents framed,
        Happening.eventsAll_eq_flatMap, List.flatMap_map]
    simp only [Schedule.element, resolved]
    cases value with
    | stream self pass =>
      cases pass with
      | finite items => exact all
      | endless item => cases ends
    | null | bool | int | float | text | seq | map | enumeration | object => cases streams
  | inverted void _ ih =>
    obtain ⟨fuel, inside⟩ := ih
    refine ⟨fuel + 1, ?_⟩
    rw [Plans, forest_one]
    simp only [Schedule.element, void, if_true]
    exact inside
  | skipped holds =>
    refine ⟨1, ?_⟩
    rw [Plans, forest_one]
    simp only [Schedule.element, holds]
    rfl
  | unbound nothing =>
    refine ⟨1, ?_⟩
    rw [Plans, forest_one]
    simp only [Schedule.element, nothing]
    rfl
  | parsed holds _ ih =>
    obtain ⟨fuel, inside⟩ := ih
    refine ⟨fuel + 1, ?_⟩
    rw [Plans, forest_one]
    simp only [Schedule.element, holds]
    exact inside
  | template holds _ ih =>
    obtain ⟨fuel, inside⟩ := ih
    refine ⟨fuel + 1, ?_⟩
    rw [Plans, forest_one]
    simp only [Schedule.element, holds]
    exact inside

section Completeness

variable (templates : ∀ custom, ¬ lib.Visits t custom)

theorem exists_turns {children : Forest PartialRef} {frames : List Frame}
    (each : ∀ frame ∈ frames, ∃ tree,
      lib.Yields home (c.push frame.value frame.marks) children tree) :
    ∃ turns : List (Frame × List Happening), turns.map (·.1) = frames ∧
      ∀ turn ∈ turns, lib.Yields home (c.push turn.1.value turn.1.marks) children turn.2 := by
  induction frames with
  | nil => exact ⟨[], rfl, nofun⟩
  | cons frame rest ih =>
    obtain ⟨tree, here⟩ := each frame List.mem_cons_self
    obtain ⟨turns, same, later⟩ := ih fun other member => each other (.tail frame member)
    refine ⟨(frame, tree) :: turns, by rw [List.map_cons, same], fun turn member => ?_⟩
    rcases List.mem_cons.mp member with rfl | inside
    · exact here
    · exact later turn inside

theorem exists_yields_of_each (each : ∀ e ∈ elements, ∃ tree, lib.Yields home c [e] tree) :
    ∃ tree, lib.Yields home c elements tree := by
  induction elements with
  | nil => exact ⟨[], .nil⟩
  | cons e rest ih =>
    obtain ⟨tree, here⟩ := each e List.mem_cons_self
    obtain ⟨later, there⟩ := ih fun other member => each other (.tail e member)
    exact ⟨tree ++ later, .cons here there⟩

theorem exists_yields_block {plan : Schedule.Planner} {path : String}
    {children : Forest PartialRef} {value : Value} (resolved : c.resolve path = some value)
    (inside : ∀ c, (plan home c children).ended = true →
      ∃ tree, lib.Yields home c children tree)
    (ended : (Schedule.block plan home c children fuel value).ended = true) :
    ∃ tree, lib.Yields home c [.block path children] tree := by
  cases value with
  | stream self pass =>
    cases pass with
    | finite items =>
      obtain ⟨turns, same, each⟩ := exists_turns fun frame member => by
        have framed := Schedule.each_ended ended frame member
        rw [Schedule.ended_append, Schedule.ended_append, Bool.and_eq_true,
          Bool.and_eq_true] at framed
        exact inside _ framed.2.1
      exact ⟨_, .stream turns resolved rfl rfl same each⟩
    | endless item =>
      rw [Schedule.block, Schedule.ended_endless] at ended
      cases ended
  | null | bool | int | float | text | seq | map | enumeration | object =>
    obtain ⟨turns, same, each⟩ := exists_turns fun frame member =>
      inside _ (Schedule.each_ended ended frame member)
    exact ⟨_, .turns turns resolved rfl same each⟩

include templates in
/-- A walk that comes to its end without running code can be told. -/
theorem exists_yields (met : ∀ ref ∈ elements.targets, lib.Meets t home ref)
    (ended : (Schedule.forest lib fuel home c elements).ended = true) :
    ∃ tree, lib.Yields home c elements tree := by
  induction fuel generalizing home c elements with
  | zero => cases ended
  | succ fuel ih =>
    refine exists_yields_of_each fun e inside => ?_
    have here := Schedule.each_ended ended e inside
    have met_here (ref : PartialRef) (refers : ref ∈ e.targets) : lib.Meets t home ref :=
      met ref (Forest.mem_targets inside refers)
    cases e with
    | text text => exact ⟨_, .text⟩
    | escaped path => exact ⟨_, .escaped⟩
    | raw path => exact ⟨_, .raw⟩
    | block path children =>
      simp only [Schedule.element] at here
      cases resolved : c.resolve path with
      | none => exact ⟨_, .absent resolved⟩
      | some value =>
        rw [resolved] at here
        exact exists_yields_block resolved (fun _ ended => ih met_here ended) here
    | inverted path children =>
      simp only [Schedule.element] at here
      cases void : Section.isVoid (c.resolve path) with
      | true =>
        rw [if_pos void] at here
        obtain ⟨tree, yields⟩ := ih met_here here
        exact ⟨tree, .inverted void yields⟩
      | false => exact ⟨_, .skipped void⟩
    | reference target =>
      obtain ⟨u, embeds, rfl, refers⟩ := met_here target List.mem_cons_self
      simp only [Schedule.element] at here
      cases holds : lib.content? u.home target.slot with
      | none => exact ⟨_, .unbound holds⟩
      | some content =>
        rw [holds] at here
        cases content with
        | parsed body =>
          obtain ⟨tree, yields⟩ :=
            ih (fun ref refers' => ⟨_, .body embeds refers holds, rfl, refers'⟩) here
          exact ⟨tree, .parsed holds yields⟩
        | registered value =>
          cases value with
          | template v =>
            obtain ⟨tree, yields⟩ :=
              ih (fun ref refers' => ⟨v, .template embeds refers holds, rfl, refers'⟩) here
            exact ⟨tree, .template holds yields⟩
          | custom code =>
            exact (templates code ⟨u.home, target, ⟨u, embeds, rfl, refers⟩, holds⟩).elim

end Completeness

variable {context : Context}

theorem ended_of_render {text : String} (rendered : lib.render fuel t context = some text) :
    (lib.schedule fuel t context).ended = true := by
  have ran : Walk.forest lib fuel Sink.string t.home context t.elements "" = .ok () text :=
    renderOnto_eq_some_iff.mp rendered
  rw [Walk.forest_eq_perform, Schedule.perform_eq_ok_iff] at ran
  exact ran.1

theorem Yields.plans_of_render {text : String}
    (yields : lib.Yields t.home context t.elements tree)
    (rendered : lib.render fuel t context = some text) :
    lib.Plans fuel t.home context t.elements tree := by
  obtain ⟨enough, plans⟩ := yields.plans
  have more := plans.mono fuel
  rw [Nat.add_comm] at more
  exact more.of_more (ended_of_render rendered)

theorem Plans.emits (plans : lib.Plans fuel t.home context t.elements tree) (sink : Sink σ ε) :
    Walk.forest lib fuel sink t.home context t.elements =
      Event.performAll sink (Happening.eventsAll tree) := by
  rw [Walk.forest_eq_perform, plans, Schedule.perform_ofEvents]

/-- What a text gets are the characters. -/
theorem Plans.render (plans : lib.Plans fuel t.home context t.elements tree) :
    lib.render fuel t context =
      some (String.ofList (Event.chars (Happening.eventsAll tree))) := by
  refine renderOnto_eq_some_iff.mpr ?_
  rw [plans.emits, Event.performAll, Walk.call, Sink.performAll_string, Event.sent_calls]
  simp

/-- If no code is run, a template renders with some fuel exactly if what happens can be told as a
tree. However it is told, with enough fuel a stream makes the calls of that tree and a last flush,
on every sink. So a sink that never fails is flushed twice for each item of a stream and once more,
and the characters between flushes, put together, are the rendered text. -/
theorem stream_framed (templates : ∀ custom, ¬ lib.Visits t custom) :
    ((∃ fuel text, lib.render fuel t context = some text) ↔
      ∃ tree, lib.Yields t.home context t.elements tree) ∧
    ∀ tree, lib.Yields t.home context t.elements tree →
      (Event.plan (Happening.eventsAll tree)).count .flush = 1 + 2 * Happening.itemsAll tree ∧
      ∀ fuel text, lib.render fuel t context = some text →
        (Event.chunks (Happening.eventsAll tree)).flatten = text.toList ∧
        ∀ {σ ε : Type} (sink : Sink σ ε),
          lib.stream fuel sink t context =
            Walk.call (sink.performAll (Event.plan (Happening.eventsAll tree))) ∧
          ∀ start, sink.NeverFails start →
            ∃ last, lib.stream fuel sink t context start = .ok () last := by
  constructor
  · constructor
    · rintro ⟨fuel, text, rendered⟩
      exact exists_yields templates (fun _ refers => ⟨t, .self, rfl, refers⟩)
        (ended_of_render rendered)
    · rintro ⟨tree, yields⟩
      obtain ⟨fuel, plans⟩ := yields.plans
      exact ⟨fuel, _, plans.render⟩
  · intro tree yields
    refine ⟨?_, fun fuel text rendered => ?_⟩
    · rw [Event.count_flush_plan, Happening.count_flush_eventsAll, Nat.add_comm]
    · have plans := yields.plans_of_render rendered
      have same := plans.render
      rw [rendered] at same
      cases same
      refine ⟨by rw [Event.flatten_chunks, String.toList_ofList], fun sink => ?_⟩
      have streams := stream_of_emits (fun sink => plans.emits sink) sink
      refine ⟨streams, fun start steady => ?_⟩
      obtain ⟨last, performed⟩ := steady (Event.plan (Happening.eventsAll tree))
      exact ⟨last, by rw [streams, Walk.call, performed]⟩

theorem performAll_noting (calls noted : List SinkCall) :
    Sink.noting.performAll calls noted = .ok () (calls.reverse ++ noted) := by
  induction calls generalizing noted with
  | nil => rfl
  | cons call rest ih =>
    have first : Sink.noting.perform call noted = .ok () (call :: noted) := by
      cases call <;> rfl
    simp only [Sink.performAll, Bind.bind, EStateM.bind, first, ih]
    simp

/-- A row of what a stream holds. -/
def row : Template := ⟨[.block "s" [.escaped "."]], none⟩

/-- A library that knows the partial for a row. -/
def rows : Library := ofPartials [("row", .template row)]

theorem rows_templates {home : Option ParserId} {slot : Nat} {custom : Custom}
    (holds : rows.content? home slot = some (.registered (.custom custom))) : False := by
  match home, slot with
  | none, _ | some (_ + 1), _ | some 0, 0 | some 0, _ + 1 => cases holds

/-- Streams inside a sequence inside a stream, an inverted section over a stream, and a row. -/
def nested : Template :=
  ⟨[.block "s" [.block "q" [.block "t" [.escaped "."]]], .inverted "s" [.text "none"],
    .reference ⟨"row", 0⟩], some 0⟩

/-- Two items in one stream, two in a sequence, and one in another stream. -/
def streams : Context :=
  .root (.map [("s", .stream ⟨0, "s"⟩ (.finite [.int 1, .int 2])), ("q", .seq [.int 3, .int 4]),
    ("t", .stream ⟨1, "t"⟩ (.finite [.text "x"]))])

/-- Eight items are gone over, with seventeen flushes. -/
theorem nested_framed :
    ∃ tree, rows.Yields nested.home streams nested.elements tree ∧ Happening.itemsAll tree = 8 ∧
      (Event.chunks (Happening.eventsAll tree)).flatten = "xxxx12".toList ∧
      ∃ last, rows.stream 9 Sink.string nested streams "" = .ok () last := by
  have rendered : rows.render 9 nested streams = some "xxxx12" := by cbv
  obtain ⟨ends, framed⟩ := stream_framed fun custom (visits : rows.Visits nested custom) => by
    obtain ⟨_, _, _, holds⟩ := visits
    exact rows_templates holds
  obtain ⟨tree, yields⟩ := ends.mp ⟨9, _, rendered⟩
  obtain ⟨flushes, told⟩ := framed tree yields
  obtain ⟨chunks, streamed⟩ := told 9 _ rendered
  have seventeen : (stateOf (rows.stream 9 Sink.noting nested streams [])).count .flush = 17 := by
    cbv
  rw [(streamed Sink.noting).1, Walk.call, performAll_noting] at seventeen
  simp only [stateOf, List.append_nil, List.count_reverse, flushes] at seventeen
  exact ⟨tree, yields, by omega, chunks,
    (streamed Sink.string).2 "" (Sink.string_neverFails "")⟩

end Library

end Mustache
