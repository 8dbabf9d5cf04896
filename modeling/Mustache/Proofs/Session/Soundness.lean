import Mustache.Proofs.Partial.Evolution
import Mustache.Proofs.Session.Basic
/-!
Sound sessions. In a sound session names are mapped to slots made for them, the references of every
template made so far stand in a registry, and so do the references behind every slot. Main
statements: every operation keeps a session sound and leaves all slots that stand as they are; hence
so does every sequence of operations.
-/
namespace Mustache.Session

/-- The references of all templates and of everything behind slots stand, or are of some other
kind. -/
structure Sound (other : Option ParserId → PartialRef → Prop) (s : Session) : Prop where
  indexed : s.library.Indexed
  closed : s.library.Closed other
  templates : ∀ t ∈ s.templates, t.Within s.library.Stands

variable {s : Session} {registers : Partial → Prop} {other : Option ParserId → PartialRef → Prop}

/-- What a step does: the library evolves, and the references of a template that is made stand. -/
structure Advances (registers : Partial → Prop) (before after : Session) : Prop where
  library : before.library.Evolves registers after.library
  templates : ∀ t ∈ after.templates, t ∈ before.templates ∨ t.Within after.library.Stands

theorem keep_advances (indexed : s.library.Indexed) (id : ParserId)
    {act : Parser → Parsing (Forest PartialRef)}
    (extended : ∀ p : Parser, p.registry.Indexed → (act p).Extends p) :
    s.Advances registers (s.keep (s.library.make id act)) := by
  unfold Library.make
  split
  · exact ⟨.unchanged, fun t made => .inl made⟩
  · rename_i parser found
    have parsed := extended parser (indexed id parser found)
    refine ⟨.replaced found (.of_extends (indexed id parser found) parsed), fun t made => ?_⟩
    rcases List.mem_append.mp made with new | old
    · right
      cases ran : (act parser).result with
      | error fault => simp [ran, Except.map, Except.toOption] at new
      | ok elements =>
        obtain rfl : t = ⟨elements, some id⟩ := by
          simpa [ran, Except.map, Except.toOption] using new
        intro ref member
        refine ⟨id, (act parser).parser, rfl, ?_, parsed.points elements ran ref member⟩
        exact (Library.parser?_replace found _ id).trans (if_pos rfl)
    · exact .inl old

theorem update_advances (indexed : s.library.Indexed) (id : ParserId) {change : Parser → Parser}
    (evolves : ∀ p : Parser, p.registry.Indexed → p.Evolves registers (change p)) :
    s.Advances registers (s.update id change) := by
  refine ⟨?_, fun t made => .inl made⟩
  simp only [update, Library.update]
  split
  · exact .unchanged
  · rename_i parser found
    exact .replaced found (evolves parser (indexed id parser found))

theorem step_advances (indexed : s.library.Indexed) (op : Operation) :
    s.Advances op.Registers (s.step op) := by
  cases op with
  | newParser resolver => exact ⟨.added resolver, fun t made => .inl made⟩
  | parse id text => exact keep_advances indexed id fun p ok => Parser.parse_extends ok text
  | parseBytes id bytes =>
    exact keep_advances indexed id fun p ok => Parser.parseBytes_extends ok bytes
  | parseFile id path => exact keep_advances indexed id fun p ok => Parser.parseFile_extends ok path
  | parseByName id name =>
    exact keep_advances indexed id fun p ok => Parser.parseByName_extends ok name
  | addPartial id name value =>
    exact update_advances indexed id fun p ok => Parser.addPartial_evolves ok name rfl
  | setExtension id value =>
    refine update_advances indexed id fun p ok => .of_registry_eq ok ?_
    unfold Parser.setExtension
    cases p.resolver.setExtension value <;> rfl
  | setSource id name source => exact update_advances indexed id fun p ok => .of_registry_eq ok rfl
  | setFiles files => exact ⟨.unchanged, fun t made => .inl made⟩

theorem Advances.sound {before after : Session} (advances : before.Advances registers after)
    (sound : before.Sound other) (registered : ∀ value, registers value → ∀ t, value.Has t →
      t ∈ before.templates ∨ t.Within other) : after.Sound other where
  indexed := advances.library.indexed sound.indexed
  closed := by
    refine advances.library.closed sound.closed fun value given t has => ?_
    rcases registered value given t has with made | supplied
    · exact (sound.templates t made).imp fun _ _ => .inl
    · exact supplied.imp fun _ _ => .inr
  templates t made := by
    rcases advances.templates t made with old | new
    · exact (sound.templates t old).imp fun _ _ => advances.library.extends.stands
    · exact new

theorem start_sound (other : Option ParserId → PartialRef → Prop) : start.Sound other where
  indexed id parser found := by cases found
  closed home slot content holds := by
    obtain ⟨id, parser, _, found, _⟩ := Library.content?_some holds
    cases found
  templates t made := by cases made

section Runs

variable {lawful : Template → Prop} (accepts : ∀ t, lawful t → t.Within other)
include accepts

/-- What a session keeps: soundness, and whatever stands in it. -/
theorem run_sound {ops : List Operation} (sound : s.Sound other) (rules : s.Lawful lawful ops) :
    (s.run ops).Sound other ∧ (s.run ops).library.Extends s.library := by
  induction ops generalizing s with
  | nil => exact ⟨sound, .refl _⟩
  | cons op rest ih =>
    have advances := step_advances sound.indexed op
    have registered := fun value given t has =>
      (rules.1 value given t has).imp_right (accepts t)
    have ⟨later, extended⟩ := ih (advances.sound sound registered) rules.2
    exact ⟨later, extended.trans advances.library.extends⟩

end Runs

end Mustache.Session
