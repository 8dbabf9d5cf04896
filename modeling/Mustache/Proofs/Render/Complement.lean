import Mathlib
import Mustache.Proofs.Render.Schedule
/-!
Sections and inverted sections complement each other. Which turns a section takes is told kind by
kind: the items of sequences, maps and streams one after another, with their place and with marks
for the first and the last, and other values that hold once. Main statement: a section renders its
children in exactly these turns; an inverted section renders its own exactly if there are none, then
once in the context around it, and for that it looks at the first item of a stream at most.
-/
namespace Mustache

variable {σ ε : Type}

namespace Section

/-- The turns of a section over a value, counted from zero, and their frames. -/
inductive Turn : Value → Nat → Frame → Prop where
  | bool : Turn (.bool true) 0 ⟨.bool true, .plain⟩
  | int {i : Int} : i ≠ 0 → Turn (.int i) 0 ⟨.int i, .plain⟩
  /-- Only the two zeros do not hold. -/
  | float {x : Binary64} : (∀ negative, x ≠ .finite negative 0) →
      Turn (.float x) 0 ⟨.float x, .plain⟩
  | text {s : String} : s ≠ "" → Turn (.text s) 0 ⟨.text s, .plain⟩
  | enumeration {self : Handle} {variant : String} {variants : List String}
      {fields : List (String × Value)} : Turn (.enumeration self variant variants fields) 0
        ⟨.enumeration self variant variants fields, .variant⟩
  | object {self : Handle} {form : String} {fields statics : List (String × Value)} :
      Turn (.object self form fields statics) 0 ⟨.object self form fields statics, .plain⟩
  | item {items : List Value} {n : Nat} {item : Value} : items[n]? = some item →
      Turn (.seq items) n ⟨item, .item (n == 0) (n + 1 == items.length) n⟩
  | entry {entries : List (String × Value)} {n : Nat} {key : String} {value : Value} :
      entries[n]? = some (key, value) →
      Turn (.map entries) n ⟨.entry key value, .item (n == 0) (n + 1 == entries.length) n⟩
  /-- The last item of a stream is not marked. -/
  | passing {self : Handle} {items : List Value} {n : Nat} {item : Value} :
      items[n]? = some item →
      Turn (.stream self (.finite items)) n ⟨item, .item (n == 0) false n⟩
  | endless {self : Handle} {item : Nat → Value} {n : Nat} :
      Turn (.stream self (.endless item)) n ⟨item n, .item (n == 0) false n⟩

/-- What can be seen of a value without going past the first item of a stream. -/
def glimpse : Value → Value
  | .stream self pass => .stream self (.finite (pass.take 1))
  | value => value

theorem getElem?_itemFrames (bounded : Bool) (start n : Nat) (items : List Value) :
    (itemFrames bounded start items)[n]? = items[n]?.map fun item =>
      ⟨item, .item (start + n == 0) (bounded && n + 1 == items.length) (start + n)⟩ := by
  induction items generalizing start n with
  | nil => rfl
  | cons item rest ih =>
    cases n with
    | zero => cases rest <;> simp [itemFrames]
    | succ n =>
      rw [itemFrames, List.getElem?_cons_succ, ih, List.getElem?_cons_succ, List.length_cons]
      simp [Nat.add_right_comm, Nat.add_assoc]

/-- The frames of so many of the first items of an endless stream. -/
def firstFrames (item : Nat → Value) (count : Nat) : List Frame :=
  (List.range count).map (passing item)

@[simp] theorem length_firstFrames (item : Nat → Value) (count : Nat) :
    (firstFrames item count).length = count := by
  rw [firstFrames, List.length_map, List.length_range]

theorem getElem?_firstFrames {item : Nat → Value} {count n : Nat} {frame : Frame} :
    (firstFrames item count)[n]? = some frame ↔ n < count ∧ frame = passing item n := by
  rw [firstFrames, List.getElem?_map, Option.map_eq_some_iff]
  constructor
  · rintro ⟨place, stands, rfl⟩
    obtain ⟨inside, rfl⟩ := List.getElem?_eq_some_iff.mp stands
    rw [List.length_range] at inside
    exact ⟨inside, by rw [List.getElem_range]⟩
  · rintro ⟨inside, rfl⟩
    exact ⟨n, List.getElem?_range inside, rfl⟩

theorem getElem?_once {value : Value} {holds : Bool} {n : Nat} {frame : Frame} :
    (once value holds)[n]? = some frame ↔ holds = true ∧ n = 0 ∧ frame = ⟨value, .plain⟩ := by
  cases holds <;> cases n <;> simp [once, eq_comm]

/-- Unless a section never ends, its turns are those with the frames listed. -/
theorem turn_iff_of_ends {value : Value} (ends : isUnending value = false) (n : Nat)
    (frame : Frame) : Turn value n frame ↔ (frames value)[n]? = some frame := by
  cases value with
  | null => constructor <;> rintro ⟨⟩
  | bool b =>
    rw [frames, getElem?_once]
    constructor
    · rintro ⟨⟩
      exact ⟨rfl, rfl, rfl⟩
    · rintro ⟨rfl, rfl, rfl⟩
      exact .bool
  | int i =>
    rw [frames, getElem?_once, bne_iff_ne]
    constructor
    · rintro ⟨⟩
      exact ⟨‹_›, rfl, rfl⟩
    · rintro ⟨nonzero, rfl, rfl⟩
      exact .int nonzero
  | float x =>
    have holds : (!x.isZero) = true ↔ ∀ negative, x ≠ .finite negative 0 := by
      cases x with
      | nan | infinite => simp [Binary64.isZero]
      | finite negative units => simp [Binary64.isZero]
    rw [frames, getElem?_once, holds]
    constructor
    · rintro ⟨⟩
      exact ⟨‹_›, rfl, rfl⟩
    · rintro ⟨nonzero, rfl, rfl⟩
      exact .float nonzero
  | text s =>
    rw [frames, getElem?_once]
    constructor
    · rintro ⟨⟩
      exact ⟨by simpa using ‹_›, rfl, rfl⟩
    · rintro ⟨nonempty, rfl, rfl⟩
      exact .text (by simpa using nonempty)
  | seq items =>
    rw [frames, getElem?_itemFrames, Option.map_eq_some_iff]
    simp only [Nat.zero_add, Bool.true_and]
    constructor
    · rintro ⟨⟩
      exact ⟨_, ‹_›, rfl⟩
    · rintro ⟨item, stands, rfl⟩
      exact .item stands
  | map entries =>
    rw [frames, getElem?_itemFrames, Option.map_eq_some_iff, List.length_map]
    simp only [Nat.zero_add, Bool.true_and, List.getElem?_map, Option.map_eq_some_iff]
    constructor
    · rintro ⟨⟩
      exact ⟨_, ⟨_, ‹_›, rfl⟩, rfl⟩
    · rintro ⟨_, ⟨⟨key, value⟩, stands, rfl⟩, rfl⟩
      exact .entry stands
  | enumeration self variant variants fields =>
    cases n with
    | zero =>
      rw [frames, List.getElem?_cons_zero, Option.some_inj]
      constructor
      · rintro ⟨⟩
        rfl
      · rintro rfl
        exact .enumeration
    | succ n => constructor <;> rintro ⟨⟩
  | object self form fields statics =>
    cases n with
    | zero =>
      rw [frames, List.getElem?_cons_zero, Option.some_inj]
      constructor
      · rintro ⟨⟩
        rfl
      · rintro rfl
        exact .object
    | succ n => constructor <;> rintro ⟨⟩
  | stream self pass =>
    cases pass with
    | finite items =>
      rw [frames, getElem?_itemFrames, Option.map_eq_some_iff]
      simp only [Nat.zero_add, Bool.false_and]
      constructor
      · rintro ⟨⟩
        exact ⟨_, ‹_›, rfl⟩
      · rintro ⟨item, stands, rfl⟩
        exact .passing stands
    | endless item => cases ends

/-- The turns that a section takes over what its path means, if that is anything. -/
def Takes (found : Option Value) (n : Nat) (frame : Frame) : Prop :=
  ∃ value, found = some value ∧ Turn value n frame

/-- Frames are those of all turns of a section or, if it never ends, of at least so many of them as
the fuel tells. -/
structure Unfolds (found : Option Value) (fuel : Nat) (frames : List Frame) (ended : Bool) :
    Prop where
  taken : ∀ n frame, frames[n]? = some frame → Takes found n frame
  complete : ended = true → ∀ n frame, Takes found n frame → frames[n]? = some frame
  further : ended = false → fuel ≤ frames.length ∧ ∀ n, ∃ frame, Takes found n frame

theorem unfolds_none (fuel : Nat) : Unfolds none fuel [] true where
  taken := nofun
  complete := nofun
  further := nofun

theorem unfolds_of_ends {value : Value} (ends : isUnending value = false) (fuel : Nat) :
    Unfolds (some value) fuel (frames value) true where
  taken n frame stands := ⟨value, rfl, (turn_iff_of_ends ends n frame).mpr stands⟩
  complete := by
    rintro - n frame ⟨_, ⟨⟩, turn⟩
    exact (turn_iff_of_ends ends n frame).mp turn
  further := nofun

theorem unfolds_of_unending (self : Handle) (item : Nat → Value) (fuel : Nat) :
    Unfolds (some (.stream self (.endless item))) fuel (firstFrames item fuel) false where
  taken n frame stands := by
    obtain ⟨-, rfl⟩ := getElem?_firstFrames.mp stands
    exact ⟨_, rfl, .endless⟩
  complete := nofun
  further _ := ⟨(length_firstFrames item fuel).ge, fun n => ⟨_, _, rfl, .endless⟩⟩

/-- Values are void if a section over them takes no turn. -/
theorem isVoid_iff_not_takes (found : Option Value) :
    isVoid found = true ↔ ∀ n frame, ¬ Takes found n frame := by
  cases found with
  | none => exact iff_of_true rfl nofun
  | some value =>
    cases unending : isUnending value with
    | false =>
      simp only [isVoid_of_ends unending, List.isEmpty_iff, List.eq_nil_iff_forall_not_mem,
        List.mem_iff_getElem?, Takes, Option.some_inj, exists_eq_left', turn_iff_of_ends unending]
      exact ⟨fun none n frame stands => none frame ⟨n, stands⟩,
        fun none frame ⟨n, stands⟩ => none n frame stands⟩
    | true =>
      obtain ⟨self, item, rfl⟩ := exists_of_isUnending unending
      exact iff_of_false (by simp [isVoid_of_unending unending])
        fun none => none 0 _ ⟨_, rfl, .endless⟩

theorem Unfolds.isVoid_iff {found : Option Value} {fuel : Nat} {frames : List Frame} {ended : Bool}
    (unfolds : Unfolds found fuel frames ended) :
    isVoid found = true ↔ frames = [] ∧ ended = true := by
  rw [isVoid_iff_not_takes]
  constructor
  · intro none
    constructor
    · refine List.eq_nil_iff_forall_not_mem.mpr fun frame member => ?_
      obtain ⟨n, stands⟩ := List.mem_iff_getElem?.mp member
      exact none n frame (unfolds.taken n frame stands)
    · cases ended with
      | true => rfl
      | false =>
        obtain ⟨frame, takes⟩ := (unfolds.further rfl).2 0
        exact absurd takes (none 0 frame)
  · rintro ⟨rfl, rfl⟩ n frame takes
    cases unfolds.complete rfl n frame takes

/-- Whether something is void can be seen from the first item of a stream. -/
theorem isVoid_map_glimpse (found : Option Value) : isVoid (found.map glimpse) = isVoid found := by
  cases found with
  | none => rfl
  | some value =>
    cases value with
    | stream self pass =>
      cases pass with
      | finite items => cases items <;> rfl
      | endless item => rfl
    | null | bool | int | float | text | seq | map | enumeration | object => rfl

/-- Whether something is a stream. -/
def isStream : Option Value → Bool
  | some (.stream ..) => true
  | _ => false

end Section

namespace Walk

/-- One turn of a section. Over a stream, the sink is flushed before and after it. -/
def turn (flushing : Bool) (sink : Sink σ ε) (walk : WalkM σ ε Unit) : WalkM σ ε Unit :=
  if flushing then do
    call sink.flush
    walk
    call sink.flush
  else walk

/-- An element with children does nothing but to render them in some contexts, one after another,
and to run out of fuel thereafter unless it has ended. -/
def Repeats (lib : Library) (fuel : Nat) (c : Context)
    (make : Forest PartialRef → Element PartialRef) (flushing ended : Bool)
    (contexts : List Context) : Prop :=
  ∀ ⦃σ ε : Type⦄ (walk : Walker) (sink : Sink σ ε) (home : Option ParserId)
    (children : Forest PartialRef), element lib walk fuel sink home c (make children) = do
      each (fun around => turn flushing sink (walk sink home around children)) contexts
      if ended then pure () else throw .exhausted

/-- An element with children renders them in exactly these contexts. -/
abbrev Renders (lib : Library) (fuel : Nat) (c : Context)
    (make : Forest PartialRef → Element PartialRef) (contexts : List Context) : Prop :=
  Repeats lib fuel c make false true contexts

theorem each_map {α β : Type} (walk : β → WalkM σ ε Unit) (f : α → β) (items : List α) :
    each walk (items.map f) = each (fun a => walk (f a)) items := by
  induction items with
  | nil => rfl
  | cons a rest ih => rw [List.map_cons, each, each, ih]

/-- To go over an endless stream is to go over as many items as the fuel allows. -/
theorem endless_eq_each (walk : Frame → WalkM σ ε Unit) (item : Nat → Value) (fuel : Nat) :
    endless walk item fuel 0 = (do
      each walk (Section.firstFrames item fuel)
      throw .exhausted) := by
  have onwards (index : Nat) : endless walk item fuel index = (do
      each walk ((List.range' index fuel).map (Section.passing item))
      throw .exhausted) := by
    induction fuel generalizing index with
    | zero => rfl
    | succ fuel ih =>
      rw [endless, ih, List.range'_succ, List.map_cons, each, bind_assoc]
  rw [onwards, Section.firstFrames, List.range_eq_range']

variable {lib : Library} {fuel : Nat} {c : Context} {path : String}
  {make : Forest PartialRef → Element PartialRef}

/-- A section renders its children in the frames of its turns. -/
theorem exists_repeats_block (lib : Library) (fuel : Nat) (c : Context) (path : String) :
    ∃ frames ended, Section.Unfolds (c.resolve path) fuel frames ended ∧
      Repeats lib fuel c (.block path) (Section.isStream (c.resolve path)) ended
        (frames.map fun f => c.push f.value f.marks) := by
  cases resolved : c.resolve path with
  | none =>
    refine ⟨[], true, Section.unfolds_none fuel, ?_⟩
    intro σ ε walk sink home children
    rw [element, resolved]
    rfl
  | some value =>
    cases unending : Section.isUnending value with
    | false =>
      refine ⟨_, true, Section.unfolds_of_ends unending fuel, ?_⟩
      intro σ ε walk sink home children
      rw [element, resolved, each_map]
      refine Eq.trans ?_ bind_pure_unit.symm
      cases value with
      | stream self pass =>
        cases pass with
        | finite items => rfl
        | endless item => cases unending
      | null | bool | int | float | text | seq | map | enumeration | object => rfl
    | true =>
      obtain ⟨self, item, rfl⟩ := Section.exists_of_isUnending unending
      refine ⟨_, false, Section.unfolds_of_unending self item fuel, ?_⟩
      intro σ ε walk sink home children
      rw [element, resolved, each_map]
      exact endless_eq_each _ item fuel

/-- With a walk that fails at once for its children, an element succeeds only without any turn. -/
theorem Repeats.starved_iff {flushing ended : Bool} {contexts : List Context}
    (repeats : Repeats lib fuel c make flushing ended contexts) :
    element lib (forest lib 0) fuel Sink.string none c (make []) "" = .ok () "" ↔
      contexts = [] ∧ ended = true := by
  rw [repeats (forest lib 0)]
  constructor
  · intro ran
    cases contexts with
    | nil =>
      cases ended with
      | true => exact ⟨rfl, rfl⟩
      | false => cases ran
    | cons around rest => cases flushing <;> cases ran
  · rintro ⟨rfl, rfl⟩
    rfl

theorem Repeats.renders_nil_iff {flushing ended : Bool} {contexts : List Context}
    (repeats : Repeats lib fuel c make flushing ended contexts) :
    Renders lib fuel c make [] ↔ contexts = [] ∧ ended = true := by
  constructor
  · intro renders
    exact repeats.starved_iff.mp (renders.starved_iff.mpr ⟨rfl, rfl⟩)
  · rintro ⟨rfl, rfl⟩
    exact repeats

/-- An inverted section renders its children in the context around it, or not at all. -/
theorem renders_inverted (lib : Library) (fuel : Nat) (c : Context) (path : String) :
    Renders lib fuel c (.inverted path)
      (if Section.isVoid (c.resolve path) then [c] else []) := by
  intro σ ε walk sink home children
  rw [element]
  split
  · exact (bind_pure_unit.trans bind_pure_unit).symm
  · rfl

theorem renders_inverted_nil_iff :
    Renders lib fuel c (.inverted path) [] ↔ ¬ Section.isVoid (c.resolve path) = true := by
  rw [(renders_inverted lib fuel c path).renders_nil_iff]
  cases Section.isVoid (c.resolve path) <;> simp

theorem renders_inverted_iff :
    Renders lib fuel c (.inverted path) [c] ↔ Section.isVoid (c.resolve path) = true := by
  constructor
  · intro renders
    by_contra holds
    cases (renders.renders_nil_iff.mp (renders_inverted_nil_iff.mpr holds)).1
  · intro void
    have renders := renders_inverted lib fuel c path
    rwa [if_pos void] at renders

/-- A section renders its children in no context exactly if the inverted section of that path
renders its own, and then it renders them once and in the context around it; otherwise the inverted
section renders nothing. Contexts that mean the same by the path up to the first item of a stream
make no difference to the inverted section. The contexts that a section renders its children in are
those of its turns, in their order. -/
theorem block_inverted_complement (lib : Library) (fuel : Nat) (c : Context) (path : String) :
    (Renders lib fuel c (.block path) [] ↔ Renders lib fuel c (.inverted path) [c]) ∧
    (¬ Renders lib fuel c (.block path) [] ↔ Renders lib fuel c (.inverted path) []) ∧
    (∀ around : Context,
      (around.resolve path).map Section.glimpse = (c.resolve path).map Section.glimpse →
      (Renders lib fuel around (.inverted path) [around] ↔
        Renders lib fuel c (.inverted path) [c])) ∧
    ∃ frames ended, Section.Unfolds (c.resolve path) fuel frames ended ∧
      Repeats lib fuel c (.block path) (Section.isStream (c.resolve path)) ended
        (frames.map fun f => c.push f.value f.marks) := by
  obtain ⟨frames, ended, unfolds, repeats⟩ := exists_repeats_block lib fuel c path
  have void : Renders lib fuel c (.block path) [] ↔ Section.isVoid (c.resolve path) = true := by
    rw [repeats.renders_nil_iff, unfolds.isVoid_iff, List.map_eq_nil_iff]
  refine ⟨void.trans renders_inverted_iff.symm, ?_, ?_, frames, ended, unfolds, repeats⟩
  · rw [void, renders_inverted_nil_iff]
  · intro around same
    rw [renders_inverted_iff, renders_inverted_iff, ← Section.isVoid_map_glimpse, same,
      Section.isVoid_map_glimpse]

/-- A stream that gives nothing and then all numbers. -/
def unendingScope : Context :=
  .root (.stream ⟨0, "Counter"⟩ (.endless fun n => if n = 0 then .null else .ofNat n))

/-- The first item of that stream alone. -/
def beginningScope : Context := .root (.stream ⟨0, "Counter"⟩ (.finite [.null]))

/-- An inverted section over the endless stream renders nothing, and it ends. -/
theorem block_inverted_complement_unending :
    Renders .empty 1 unendingScope (.inverted ".") [] ∧
      (Renders .empty 1 beginningScope (.inverted ".") [beginningScope] ↔
        Renders .empty 1 unendingScope (.inverted ".") [unendingScope]) := by
  obtain ⟨zero, otherwise, glimpsed, _⟩ := block_inverted_complement .empty 1 unendingScope "."
  refine ⟨otherwise.mp fun none => ?_, glimpsed beginningScope rfl⟩
  cases renders_inverted_iff.mp (zero.mp none)

end Walk

end Mustache
