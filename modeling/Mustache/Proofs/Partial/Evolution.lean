import Mustache.Proofs.Partial.Binding
import Mustache.Proofs.Partial.Reach
/-!
How the parsers of a library change. An operation adds slots to the registry of one parser at most,
and never touches a slot that stands. Main statements: in a library that is sound, meaning that
references behind slots stand for something, soundness is kept by every such change; and what a
reference stands for does not change.
-/
namespace Mustache

open Registry

/-- What an operation may put into a registry: a body whose references point into it, or a partial
that the operation registers. -/
inductive Registry.Admits (registers : Partial → Prop) (r : Registry) : Content → Prop where
  | parsed {elements : Forest PartialRef} : (∀ ref ∈ elements.targets, r.Points ref) →
      r.Admits registers (.parsed elements)
  | registered {value : Partial} : registers value → r.Admits registers (.registered value)

/-- A parser before and after an operation. A slot that is made holds a partial exactly if its name
is mapped to it in the end. -/
structure Parser.Evolves (registers : Partial → Prop) (before after : Parser) : Prop where
  slots : before.registry.slots <+: after.registry.slots
  indexed : after.registry.Indexed
  made : ∀ index slot, before.registry.slots.length ≤ index →
    after.registry.slots[index]? = some slot →
    (slot.content.isSome ↔ after.registry.index? slot.name = some index)
  held : ∀ index content, before.registry.slots.length ≤ index →
    after.registry.content? index = some content → after.registry.Admits registers content

/-- The only slot that adding a name makes. -/
theorem Registry.added_slot {r : Registry} {name : String} {content : Option Content} {index : Nat}
    {slot : Slot} (new : r.slots.length ≤ index)
    (stands : (r.add name content).slots[index]? = some slot) :
    index = r.slots.length ∧ slot = ⟨name, content⟩ := by
  unfold add at stands
  rw [List.getElem?_append_right new] at stands
  have only := (List.getElem?_eq_some_iff.mp stands).1
  rw [List.length_singleton] at only
  have first : index - r.slots.length = 0 := by omega
  rw [first] at stands
  cases stands
  exact ⟨by omega, rfl⟩

namespace Parser

variable {registers : Partial → Prop} {before after : Parser}

theorem Evolves.of_extends {parsing : Parsing (Forest PartialRef)}
    (indexed : before.registry.Indexed) (extended : parsing.Extends before) :
    before.Evolves registers parsing.parser where
  slots := extended.grows.slots
  indexed := extended.grows.indexed indexed
  made index slot new stands := (extended.grows.made index slot new stands).mapped
  held index content new holds := by
    obtain ⟨slot, stands, filled⟩ := Option.bind_eq_some_iff.mp holds
    obtain ⟨elements, rfl, pointing⟩ :=
      (extended.grows.made index slot new stands).body content filled
    exact .parsed pointing

theorem Evolves.of_registry_eq (indexed : before.registry.Indexed)
    (same : after.registry = before.registry) : before.Evolves registers after where
  slots := ⟨[], by rw [same, List.append_nil]⟩
  indexed := by rwa [same]
  made index slot new stands := by
    rw [same] at stands
    have old := (List.getElem?_eq_some_iff.mp stands).1
    omega
  held index content new holds := by
    obtain ⟨slot, stands, _⟩ := Option.bind_eq_some_iff.mp holds
    rw [same] at stands
    have old := (List.getElem?_eq_some_iff.mp stands).1
    omega

/-- Registering a partial makes one slot, which holds it. -/
theorem addPartial_evolves (indexed : before.registry.Indexed) (name : String) {value : Partial}
    (registered : registers value) : before.Evolves registers (before.addPartial name value) where
  slots := ⟨[⟨name, some (.registered value)⟩], rfl⟩
  indexed := by
    intro other index found
    simp only [addPartial, register, index?_add] at found
    split at found
    · rename_i same
      cases found
      exact ⟨⟨name, some (.registered value)⟩, by simp [addPartial, register, add], same.symm⟩
    · obtain ⟨slot, stands, named⟩ := indexed other index found
      have grown : before.registry.slots <+: (before.addPartial name value).registry.slots :=
        ⟨_, rfl⟩
      exact ⟨slot, slot_mono grown stands, named⟩
  made index slot new stands := by
    obtain ⟨rfl, rfl⟩ := added_slot (r := before.registry) new stands
    simp [addPartial, register, index?_add]
  held index content new holds := by
    obtain ⟨slot, stands, filled⟩ := Option.bind_eq_some_iff.mp holds
    obtain ⟨_, rfl⟩ := added_slot (r := before.registry) new stands
    cases filled
    exact .registered registered

theorem addPartial_settles (before : Parser) (name : String) (value : Partial) :
    before.registry.Settles (before.addPartial name value).registry := by
  intro index slot new stands
  obtain ⟨rfl, rfl⟩ := added_slot (r := before.registry) new stands
  simp [addPartial, register, index?_add]

end Parser

namespace Library

/-- A library before and after an operation. -/
inductive Evolves (registers : Partial → Prop) (lib : Library) : Library → Prop where
  | unchanged : lib.Evolves registers lib
  | added (resolver : Resolver) : lib.Evolves registers (lib.add (.ofResolver resolver))
  | replaced {id : ParserId} {before after : Parser} : lib.parser? id = some before →
      before.Evolves registers after → lib.Evolves registers (lib.replace id after)

/-- A later state of a library: every parser is still there and has all its slots. -/
def Extends (after before : Library) : Prop :=
  ∀ id parser, before.parser? id = some parser →
    ∃ later, after.parser? id = some later ∧ parser.registry.slots <+: later.registry.slots

/-- Whether the registry that a reference points into has a slot for it that was made for the name
referred to. -/
def Stands (lib : Library) (home : Option ParserId) (ref : PartialRef) : Prop :=
  ∃ id parser, home = some id ∧ lib.parser? id = some parser ∧ parser.registry.Points ref

variable {lib lib' last : Library} {registers : Partial → Prop}

theorem parser?_replace {id : ParserId} {before : Parser} (found : lib.parser? id = some before)
    (after : Parser) (other : ParserId) :
    (lib.replace id after).parser? other =
      if other = id then some after else lib.parser? other := by
  unfold parser? at found
  have inside := (List.getElem?_eq_some_iff.mp found).1
  by_cases same : other = id
  · subst same
    simp [parser?, replace, inside]
  · simp [parser?, replace, same, List.getElem?_set_ne (Ne.symm same)]

theorem parser?_add {id : ParserId} {parser : Parser} (found : lib.parser? id = some parser)
    (p : Parser) : (lib.add p).parser? id = some parser := by
  unfold parser? at found
  simp [parser?, add, List.getElem?_append_left (List.getElem?_eq_some_iff.mp found).1, found]

/-- The parsers of a library with one more parser. -/
theorem of_parser?_add {id : ParserId} {parser p : Parser}
    (found : (lib.add p).parser? id = some parser) : lib.parser? id = some parser ∨ parser = p := by
  unfold parser? add at found
  by_cases old : id < lib.parsers.length
  · rw [List.getElem?_append_left old] at found
    exact .inl found
  · rw [List.getElem?_append_right (Nat.le_of_not_lt old)] at found
    exact .inr (List.mem_singleton.mp (List.mem_of_getElem? found))

namespace Extends

theorem refl (lib : Library) : lib.Extends lib :=
  fun _ parser found => ⟨parser, found, List.prefix_refl _⟩

theorem trans (second : last.Extends lib') (first : lib'.Extends lib) : last.Extends lib := by
  intro id parser found
  obtain ⟨middle, found, grown⟩ := first id parser found
  obtain ⟨later, found, grown'⟩ := second id middle found
  exact ⟨later, found, grown.trans grown'⟩

theorem stands (extended : lib'.Extends lib) {home : Option ParserId} {ref : PartialRef}
    (standing : lib.Stands home ref) : lib'.Stands home ref := by
  obtain ⟨id, parser, here, found, points⟩ := standing
  obtain ⟨later, found, grown⟩ := extended id parser found
  exact ⟨id, later, here, found, points.mono grown⟩

/-- A reference that stands goes on standing for the same. -/
theorem content?_eq (extended : lib'.Extends lib) {home : Option ParserId} {ref : PartialRef}
    (standing : lib.Stands home ref) :
    lib'.content? home ref.slot = lib.content? home ref.slot := by
  obtain ⟨id, parser, rfl, found, points⟩ := standing
  obtain ⟨later, found', grown⟩ := extended id parser found
  simp only [content?, Option.bind_eq_bind, Option.bind_some, found, found']
  exact content_of_points points grown

end Extends

theorem Evolves.extends (evolves : lib.Evolves registers lib') : lib'.Extends lib := by
  cases evolves with
  | unchanged => exact .refl lib
  | added resolver => exact fun id parser found => ⟨parser, parser?_add found _, List.prefix_refl _⟩
  | @replaced id before after found evolves =>
    intro other parser found_other
    rw [parser?_replace found]
    split
    · rename_i same
      rw [same, found] at found_other
      cases found_other
      exact ⟨after, rfl, evolves.slots⟩
    · exact ⟨parser, found_other, List.prefix_refl _⟩

/-- A slot stood before, or was made and holds a partial exactly if its name is mapped to it. -/
theorem Evolves.slot (evolves : lib.Evolves registers lib') {id : ParserId} {after : Parser}
    {index : Nat} {slot : Slot} (found : lib'.parser? id = some after)
    (stands : after.registry.slots[index]? = some slot) :
    ∃ before, lib.parser? id = some before ∧ (before.registry.slots[index]? = some slot ∨
      before.registry.slots.length ≤ index ∧
        (slot.content.isSome ↔ after.registry.index? slot.name = some index)) := by
  cases evolves with
  | unchanged => exact ⟨after, found, .inl stands⟩
  | added resolver =>
    rcases of_parser?_add found with old | rfl
    · exact ⟨after, old, .inl stands⟩
    · cases stands
  | @replaced changed before later known evolves =>
    rw [parser?_replace known] at found
    split at found
    · rename_i same
      subst same
      cases found
      refine ⟨before, known, ?_⟩
      by_cases old : index < before.registry.slots.length
      · exact .inl (by rw [← slot_of_extends evolves.slots old, stands])
      · have new := Nat.le_of_not_lt old
        exact .inr ⟨new, evolves.made index slot new stands⟩
    · exact ⟨after, found, .inl stands⟩

/-- Every slot made since is still the one its name is mapped to, in all registries. -/
def Settles (before after : Library) : Prop :=
  ∀ id parser later, before.parser? id = some parser → after.parser? id = some later →
    parser.registry.Settles later.registry

namespace Settles

theorem refl (lib : Library) : lib.Settles lib := by
  intro id parser later known found
  rw [known] at found
  cases found
  exact .refl _

theorem add (lib : Library) (p : Parser) : lib.Settles (lib.add p) := by
  intro id parser later known found
  rw [parser?_add known] at found
  cases found
  exact .refl _

theorem replace {id : ParserId} {before after : Parser} (known : lib.parser? id = some before)
    (settles : before.registry.Settles after.registry) : lib.Settles (lib.replace id after) := by
  intro other parser later known' found
  rw [parser?_replace known] at found
  split at found
  · rename_i same
    rw [same, known] at known'
    cases known'
    cases found
    exact settles
  · rw [known'] at found
    cases found
    exact .refl _

theorem update {id : ParserId} {change : Parser → Parser}
    (settles : ∀ p : Parser, p.registry.Settles (change p).registry) :
    lib.Settles (lib.update id change) := by
  unfold Library.update
  split
  · exact .refl lib
  · rename_i parser found
    exact .replace found (settles parser)

end Settles

/-- Every registry of a library maps names to slots made for them. -/
def Indexed (lib : Library) : Prop :=
  ∀ id parser, lib.parser? id = some parser → parser.registry.Indexed

theorem Evolves.indexed (evolves : lib.Evolves registers lib') (indexed : lib.Indexed) :
    lib'.Indexed := by
  cases evolves with
  | unchanged => exact indexed
  | added resolver =>
    intro id parser found
    rcases of_parser?_add found with old | rfl
    · exact indexed id parser old
    · exact fun name index mapped => by cases mapped
  | @replaced id before after found evolves =>
    intro other parser found_other
    rw [parser?_replace found] at found_other
    split at found_other
    · cases found_other
      exact evolves.indexed
    · exact indexed other parser found_other

/-- A reference that stands, or one of some other kind. -/
def Knows (lib : Library) (other : Option ParserId → PartialRef → Prop) (home : Option ParserId)
    (ref : PartialRef) : Prop :=
  lib.Stands home ref ∨ other home ref

/-- The references behind slots are known. -/
def Closed (lib : Library) (other : Option ParserId → PartialRef → Prop) : Prop :=
  ∀ home slot content, lib.content? home slot = some content → content.Within (lib.Knows other) home

section Closure

variable {other : Option ParserId → PartialRef → Prop}

theorem Extends.knows (extended : lib'.Extends lib) {home : Option ParserId} {ref : PartialRef}
    (known : lib.Knows other home ref) : lib'.Knows other home ref :=
  known.imp extended.stands id

theorem content?_some {home : Option ParserId} {slot : Nat} {content : Content}
    (holds : lib.content? home slot = some content) :
    ∃ id parser, home = some id ∧ lib.parser? id = some parser ∧
      parser.registry.content? slot = some content := by
  obtain ⟨id, rfl, holds⟩ := Option.bind_eq_some_iff.mp holds
  obtain ⟨parser, found, holds⟩ := Option.bind_eq_some_iff.mp holds
  exact ⟨id, parser, rfl, found, holds⟩

theorem content?_at {id : ParserId} {parser : Parser} (found : lib.parser? id = some parser)
    (slot : Nat) : lib.content? (some id) slot = parser.registry.content? slot := by
  simp [content?, found]

/-- References behind slots stay known if those are that an operation registers. -/
theorem Evolves.closed (evolves : lib.Evolves registers lib') (closed : lib.Closed other)
    (registered : ∀ value, registers value → ∀ t, value.Has t → t.Within (lib.Knows other)) :
    lib'.Closed other := by
  have extended := evolves.extends
  have still {home : Option ParserId} {content : Content}
      (within : content.Within (lib.Knows other) home) : content.Within (lib'.Knows other) home :=
    within.imp fun _ _ => extended.knows
  intro home slot content holds
  obtain ⟨id, parser, rfl, found, filled⟩ := content?_some holds
  cases evolves with
  | unchanged => exact closed (some id) slot content (by rw [content?_at found, filled])
  | added resolver =>
    rcases of_parser?_add found with old | rfl
    · exact still (closed (some id) slot content (by rw [content?_at old, filled]))
    · cases filled
  | @replaced changed before after known evolves =>
    rw [parser?_replace known] at found
    split at found
    · rename_i same
      subst same
      cases found
      by_cases old : slot < before.registry.slots.length
      · refine still (closed (some id) slot content ?_)
        rw [content?_at known, ← filled, Registry.content?, Registry.content?,
          slot_of_extends evolves.slots old]
      · cases evolves.held slot content (Nat.le_of_not_lt old) filled with
        | parsed pointing =>
          intro ref member
          refine .inl ⟨id, parser, rfl, ?_, pointing ref member⟩
          rw [parser?_replace known, if_pos rfl]
        | registered value =>
          exact fun t has => (registered _ value t has).imp fun _ _ => extended.knows
    · exact still (closed (some id) slot content (by rw [content?_at found, filled]))

end Closure

end Library

end Mustache
