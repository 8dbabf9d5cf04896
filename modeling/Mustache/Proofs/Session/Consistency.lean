import Mathlib
import Mustache.Proofs.Partial.Course
import Mustache.Proofs.Render.Outcome
import Mustache.Proofs.Session.History
import Mustache.Proofs.Session.Soundness
/-!
Consistent registries. While partials are being read, names are mapped to slots that are still
empty. Main statements: between operations every mapped name leads to a filled slot of its own, made
for that name, and every reference leads to a slot made for the name referred to, however operations
before have ended; and a parse maps exactly the names of the partials that it has read completely,
while those that it was reading when it failed are not mapped.
-/
namespace Mustache

namespace Registry

variable {before after r : Registry}

/-- Every mapped name leads to a filled slot that was made for it, and the references of bodies lead
to slots that were made for the names referred to. -/
structure Consistent (r : Registry) : Prop where
  filled : ∀ name index, r.index? name = some index →
    ∃ content, r.slots[index]? = some ⟨name, some content⟩
  points : ∀ index elements, r.content? index = some (.parsed elements) →
    ∀ ref ∈ elements.targets, r.Points ref

theorem empty_consistent : empty.Consistent where
  filled _ _ mapped := by cases mapped
  points _ _ holds := by cases holds

namespace Consistent

theorem indexed (consistent : r.Consistent) : r.Indexed := by
  intro name index mapped
  obtain ⟨content, stands⟩ := consistent.filled name index mapped
  exact ⟨_, stands, rfl⟩

/-- No two names share a slot. -/
theorem separate (consistent : r.Consistent) {name other : String} {index : Nat}
    (mapped : r.index? name = some index) (mapped' : r.index? other = some index) :
    name = other := by
  obtain ⟨_, stands⟩ := consistent.filled name index mapped
  obtain ⟨_, stands'⟩ := consistent.filled other index mapped'
  rw [stands] at stands'
  cases stands'
  rfl

theorem register (consistent : r.Consistent) (name : String) (value : Partial) :
    (r.register name value).Consistent where
  filled other index mapped := by
    rw [Registry.register, index?_add] at mapped
    split at mapped
    · rename_i same
      cases mapped
      exact ⟨.registered value, by simp [Registry.register, add, same]⟩
    · obtain ⟨content, stands⟩ := consistent.filled other index mapped
      exact ⟨content, slot_mono ⟨_, rfl⟩ stands⟩
  points index elements holds ref member := by
    by_cases old : index < r.slots.length
    · rw [Registry.register, content?_add_of_lt r name _ old] at holds
      exact (consistent.points index elements holds ref member).mono ⟨_, rfl⟩
    · obtain ⟨slot, stands, held⟩ := Option.bind_eq_some_iff.mp holds
      obtain ⟨_, rfl⟩ := added_slot (Nat.le_of_not_lt old) stands
      cases held

end Consistent

/-- Growing keeps a registry consistent: a name that is mapped on the way has its slot filled. -/
theorem Grows.consistent (grown : before.Grows after) (consistent : before.Consistent) :
    after.Consistent where
  filled name index mapped := by
    cases known : before.index? name with
    | some other =>
      have same := grown.kept name other known
      rw [mapped] at same
      cases same
      obtain ⟨content, stands⟩ := consistent.filled name index known
      exact ⟨content, slot_mono grown.slots stands⟩
    | none =>
      obtain ⟨new, ⟨_, held⟩, stands, rfl⟩ := grown.fresh name index mapped known
      have filled := (grown.made index _ new stands).mapped.mpr mapped
      obtain ⟨content, rfl⟩ := Option.isSome_iff_exists.mp filled
      exact ⟨content, stands⟩
  points index elements holds ref member := by
    obtain ⟨slot, stands, held⟩ := Option.bind_eq_some_iff.mp holds
    by_cases old : index < before.slots.length
    · have unchanged : before.content? index = after.content? index := by
        rw [content?, content?, slot_of_extends grown.slots old]
      exact (consistent.points index elements (unchanged.trans holds) ref member).mono grown.slots
    · have fresh := grown.made index slot (Nat.le_of_not_lt old) stands
      obtain ⟨_, same, pointing⟩ := fresh.body _ held
      cases same
      exact pointing ref member

end Registry

open Registry

theorem Parser.parse_consistent {p : Parser} (consistent : p.registry.Consistent) (files : Files)
    (text : String) : (p.parse files text).parser.registry.Consistent :=
  (parse_extends consistent.indexed text).grows.consistent consistent

/-- What a parse makes of the names of a registry: the ones newly mapped are exactly those of the
partials that it has read completely, each leads to the element tree of its source, and the partials
that it was reading when it failed are not mapped. -/
structure Parsing.Accounts (find : String → Except Fault String) (before : Registry) (text : String)
    (parsing : Parsing (Forest PartialRef)) (done : List String) (ending : Binding.Ending) : Prop
    extends parsing.Follows find before text done ending where
  mapped : ∀ name, parsing.parser.registry.has name = true ↔ before.has name = true ∨ name ∈ done
  read : ∀ name ∈ done, before.has name = false ∧ ∃ source elements index,
    find name = .ok source ∧ (Outline.ofText source).result = .ok (elements.map (·.name)) ∧
      parsing.parser.registry.index? name = some index ∧
      parsing.parser.registry.slots[index]? = some ⟨name, some (.parsed elements)⟩
  reading : ∀ name ∈ ending.reading, parsing.parser.registry.has name = false

theorem Parsing.Follows.accounts {find : String → Except Fault String} {before : Registry}
    {text : String} {parsing : Parsing (Forest PartialRef)} {done : List String}
    {ending : Binding.Ending} (follows : parsing.Follows find before text done ending) :
    parsing.Accounts find before text done ending where
  toFollows := follows
  mapped _ := follows.course.has_iff
  read name member := by
    refine ⟨?_, follows.course.body member⟩
    rw [Bool.eq_false_iff]
    exact fun mapped => follows.course.not_mem_of_has mapped (List.mem_append_left _ member)
  reading _ member := follows.course.not_has_of_mem_reading member

namespace Template

/-- A template of elements alone reaches nothing but itself. -/
theorem reaches_ofElements {lib : Library} {elements : Forest PartialRef} {u : Template}
    (reached : lib.Reaches (.ofElements elements) u) : u = .ofElements elements := by
  induction reached with
  | self => rfl
  | body _ _ holds ih | registered _ _ holds _ ih =>
    rw [ih] at holds
    cases holds

theorem not_reachesSlot_ofElements (lib : Library) (elements : Forest PartialRef) (id : ParserId)
    (slot : Nat) : ¬ lib.ReachesSlot (.ofElements elements) id slot := by
  rintro ⟨u, reached, home, _⟩
  rw [reaches_ofElements reached] at home
  cases home

/-- It renders the same in all libraries. -/
theorem rendersAlike_ofElements (lib lib' : Library) (elements : Forest PartialRef) :
    lib.RendersAlike lib' (.ofElements elements) := by
  have matched : Walk.Matches lib lib' fun home _ => home = none := by
    refine ⟨?_, ?_⟩
    · rintro _ ref rfl
      rfl
    · rintro _ ref content rfl holds
      cases holds
  exact Library.rendersAlike matched fun _ _ => rfl

end Template

namespace Session

variable {ops : List Operation} {id : ParserId} {p : Parser}

theorem parser_consistent (found : (start.run ops).library.parser? id = some p) :
    p.registry.Consistent := by
  refine run_keeps_all Consistent ?_ ?_ empty_consistent ?_ found
  · exact fun _ files text consistent => Parser.parse_consistent consistent files text
  · exact fun name value _ consistent => consistent.register name value
  · intro _ _ known
    cases known

theorem lawful_of_all (s : Session) (ops : List Operation) : s.Lawful (fun _ => True) ops := by
  induction ops generalizing s with
  | nil => trivial
  | cons op rest ih => exact ⟨fun _ _ _ _ => .inr trivial, ih _⟩

/-- Whatever partials a session registers, the references of its templates stand. -/
theorem start_run_sound (ops : List Operation) : (start.run ops).Sound fun _ _ => True :=
  (run_sound (fun _ _ _ _ => trivial) (start_sound _) (lawful_of_all start ops)).1

theorem start_run_extends (earlier later : List Operation) :
    (start.run (earlier ++ later)).library.Extends (start.run earlier).library := by
  rw [run_append]
  exact (run_sound (fun _ _ _ _ => trivial) (start_run_sound earlier) (lawful_of_all _ later)).2

theorem template_points {t : Template} (made : t ∈ (start.run ops).templates)
    (home : t.home = some id) (found : (start.run ops).library.parser? id = some p) :
    ∀ ref ∈ t.elements.targets, p.registry.Points ref := by
  intro ref member
  obtain ⟨id', p', here, found', points⟩ := (start_run_sound ops).templates t made ref member
  rw [home] at here
  cases here
  rw [found] at found'
  cases found'
  exact points

/-- A mapped name stays mapped, whatever operations follow. -/
theorem hasPartial_run {s : Session} {name : String} (found : s.library.parser? id = some p)
    (consistent : p.registry.Consistent) (mapped : p.hasPartial name = true)
    (later : List Operation) :
    ∃ q, (s.run later).library.parser? id = some q ∧ q.hasPartial name = true := by
  have kept : ∃ q, (s.run later).library.parser? id = some q ∧ q.registry.Consistent ∧
      q.registry.has name = true := by
    refine run_keeps (fun r => r.Consistent ∧ r.has name = true) ?_ ?_ found ⟨consistent, mapped⟩
    · rintro p files text ⟨consistent, mapped⟩
      have grown : p.registry.Grows (p.parse files text).parser.registry :=
        (Parser.parse_extends consistent.indexed text).grows
      exact ⟨Parser.parse_consistent consistent files text, has_mono grown.kept mapped⟩
    · rintro other value _ r ⟨consistent, mapped⟩
      exact ⟨consistent.register other value, has_add.mpr (.inr mapped)⟩
  obtain ⟨q, found, _, mapped⟩ := kept
  exact ⟨q, found, mapped⟩

/-- Between the operations of a session, every mapped name leads to a filled slot of its own that
was made for it, and every reference of a template or body to a slot made for the name referred to.
A mapped name stays mapped. A parse follows a course in which every slot is empty when it is filled;
it maps exactly the names of the partials that it reads completely, and those that it was reading
when it failed are not mapped. Templates of elements alone reach no slot. -/
theorem registry_consistent (found : (start.run ops).library.parser? id = some p) :
    p.registry.Consistent ∧
    (∀ name other index, p.registry.index? name = some index →
      p.registry.index? other = some index → name = other) ∧
    (∀ t ∈ (start.run ops).templates, t.home = some id →
      ∀ ref ∈ t.elements.targets, p.registry.Points ref) ∧
    (∀ name, p.hasPartial name = true → ∀ later, ∃ q,
      (start.run (ops ++ later)).library.parser? id = some q ∧ q.hasPartial name = true) ∧
    (∀ files text, ∃ done ending,
      (p.parse files text).Accounts (p.resolver.find files ·) p.registry text done ending) ∧
    (∀ files name, (∃ fault, p.resolver.find files name = .error fault ∧
        p.parseByName files name = ⟨.error fault, p, [name]⟩) ∨
      ∃ text done ending, p.resolver.find files name = .ok text ∧
        (p.parseByName files name).Accounts (p.resolver.find files ·) p.registry text done
          ending) ∧
    ∀ (lib : Library) (elements : Forest PartialRef),
      (∀ id slot, ¬ lib.ReachesSlot (.ofElements elements) id slot) ∧
      ∀ lib' : Library, lib.RendersAlike lib' (.ofElements elements) := by
  have consistent := parser_consistent found
  refine ⟨consistent, fun name other index => consistent.separate,
    fun t made home => template_points made home found, fun name mapped later => ?_,
    fun files text => ?_, fun files name => ?_, fun lib elements => ?_⟩
  · rw [run_append]
    exact hasPartial_run found consistent mapped later
  · obtain ⟨done, ending, follows, _⟩ := Parser.parse_follows consistent.indexed files text
    exact ⟨done, ending, follows.accounts⟩
  · unfold Parser.parseByName
    cases source : p.resolver.find files name with
    | error fault => exact .inl ⟨fault, rfl, rfl⟩
    | ok text =>
      obtain ⟨done, ending, follows, _⟩ := Parser.parse_follows consistent.indexed files text
      have same : Parsing.Follows (p.resolver.find files ·) p.registry text
        { p.parse files text with asked := name :: (p.parse files text).asked } done ending :=
        ⟨follows.course, follows.result⟩
      exact .inr ⟨text, done, ending, rfl, same.accounts⟩
  · exact ⟨Template.not_reachesSlot_ofElements lib elements,
      fun lib' => Template.rendersAlike_ofElements lib lib' elements⟩

/-- Partial `a` refers to `b`, which refers back to it, and then to a name without a source. -/
def halfRead : Resolver :=
  .table [("a", .text "{{>b}}{{>c}}"), ("b", .text "[{{>a}}]")] (.missing "unknown")

/-- The parse of a text that refers to `a`. -/
def halfReadParsing : Parsing (Forest PartialRef) :=
  (Parser.ofResolver halfRead).parse .none "{{>a}}"

/-- A parse that fails inside `a` has read `b` completely, and leaves `a` and `c` unmapped. -/
theorem registry_consistent_halfRead :
    (start.run [.newParser halfRead]).library.parser? 0 = some (.ofResolver halfRead) ∧
    halfReadParsing.result = .error (.partialNotFound "c" "unknown") ∧
    ∃ done ending, halfReadParsing.Accounts (halfRead.find .none ·) .empty "{{>a}}" done ending ∧
      "b" ∈ done ∧ "a" ∉ done ∧ "c" ∉ done := by
  have found : (start.run [.newParser halfRead]).library.parser? 0 =
      some (.ofResolver halfRead) := rfl
  have complete : halfReadParsing.parser.registry.has "b" = true := by cbv
  have outer : halfReadParsing.parser.registry.has "a" = false := by cbv
  have inner : halfReadParsing.parser.registry.has "c" = false := by cbv
  obtain ⟨_, _, _, _, parses, _⟩ := registry_consistent found
  obtain ⟨done, ending, accounts⟩ : ∃ done ending,
      halfReadParsing.Accounts (halfRead.find .none ·) .empty "{{>a}}" done ending :=
    parses .none "{{>a}}"
  have failed : halfReadParsing.result = .error (.partialNotFound "c" "unknown") := by cbv
  refine ⟨found, failed, done, ending, accounts, ?_, fun member => ?_, fun member => ?_⟩
  · exact ((accounts.mapped "b").mp complete).resolve_left Bool.false_ne_true
  · have mapped := (accounts.mapped "a").mpr (.inr member)
    exact Bool.false_ne_true (outer.symm.trans mapped)
  · have mapped := (accounts.mapped "c").mpr (.inr member)
    exact Bool.false_ne_true (inner.symm.trans mapped)

end Session

end Mustache
