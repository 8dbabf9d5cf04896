import Mathlib
import Mustache.Proofs.Session.Resolution
/-!
Registered partials. Main statement: from the moment that a partial is registered under a name,
until another one is, every reference to the name that is parsed leads to it, in templates and in
the sources of partials that are read from then on; it is rendered like the partial itself, in the
context of the tag; the resolver is not asked for the name; and nothing else is bound differently.
-/
namespace Mustache

variable {σ ε : Type}

/-- How a partial is walked in the context of a tag: a template with the registry of its own parser,
one supplied as code with that context. -/
def Partial.walk (lib : Library) (fuel : Nat) (sink : Sink σ ε) (context : Context) :
    Partial → WalkM σ ε Unit
  | .template t => Walk.forest lib fuel sink t.home context t.elements
  | .custom c => Walk.custom (Walk.forest lib fuel) sink (c.output context)

namespace Registry

/-- A name leads to the partial registered in a slot, and so do all references to the name in bodies
that were read since. -/
structure Prevails (r : Registry) (name : String) (slot : Nat) (value : Partial) : Prop where
  mapped : r.index? name = some slot
  holds : r.content? slot = some (.registered value)
  bodies : ∀ index elements, slot < index → r.content? index = some (.parsed elements) →
    ∀ ref ∈ elements.targets, ref.name = name → ref.slot = slot

variable {r r' : Registry} {name other : String} {slot : Nat} {value : Partial}

theorem content?_lt {index : Nat} {content : Content} (holds : r.content? index = some content) :
    index < r.slots.length := by
  obtain ⟨_, stands, _⟩ := Option.bind_eq_some_iff.mp holds
  exact (List.getElem?_eq_some_iff.mp stands).1

/-- References that the registry binds lead to the slot of their name. -/
theorem slot_of_mem_refer (mapped : r.index? name = some slot) {forest : Forest String}
    {ref : PartialRef} (member : ref ∈ (forest.map r.refer).targets) (named : ref.name = name) :
    ref.slot = slot := by
  rw [Forest.targets_map] at member
  obtain ⟨written, _, rfl⟩ := List.mem_map.mp member
  have same : written = name := named
  simp [refer, same, mapped]

theorem register_prevails (r : Registry) (name : String) (value : Partial) :
    (r.register name value).Prevails name r.slots.length value where
  mapped := by simp [register, index?_add]
  holds := content?_add_length r name _
  bodies index elements later holds := by
    have inside := content?_lt holds
    simp only [register, add, List.length_append, List.length_singleton] at inside
    omega

namespace Prevails

/-- Another name is added with something else than a body. -/
theorem add (prevails : r.Prevails name slot value) (different : name ≠ other)
    {content : Option Content} (bodiless : ∀ elements, content ≠ some (.parsed elements)) :
    (r.add other content).Prevails name slot value where
  mapped := by rw [index?_add, if_neg different, prevails.mapped]
  holds := by rw [content?_add_of_lt r other content (content?_lt prevails.holds), prevails.holds]
  bodies index elements later holds := by
    by_cases old : index < r.slots.length
    · rw [content?_add_of_lt r other content old] at holds
      exact prevails.bodies index elements later holds
    · obtain ⟨_, stands, held⟩ := Option.bind_eq_some_iff.mp holds
      obtain ⟨_, rfl⟩ := added_slot (Nat.le_of_not_lt old) stands
      exact absurd held (bodiless elements)

theorem fill (prevails : r.Prevails name slot value) {index : Nat}
    (stands : r.slots[index]? = some ⟨other, none⟩) {elements : Forest PartialRef}
    (bound : ∀ ref ∈ elements.targets, ref.name = name → ref.slot = slot) :
    (r.fill index elements).Prevails name slot value where
  mapped := prevails.mapped
  holds := by
    have empty : r.content? index = none := by simp [content?, stands]
    have different : slot ≠ index := by
      rintro rfl
      rw [prevails.holds] at empty
      cases empty
    rw [content?_fill r index slot elements (List.getElem?_eq_some_iff.mp stands).1,
      if_neg different, prevails.holds]
  bodies here body later holds := by
    rw [content?_fill r index here elements (List.getElem?_eq_some_iff.mp stands).1] at holds
    split at holds
    · have empty : r.content? index = none := by simp [content?, stands]
      rw [empty, Option.none_or] at holds
      cases holds
      exact bound
    · exact prevails.bodies here body later holds

theorem release (prevails : r.Prevails name slot value) (different : name ≠ other) (index : Nat) :
    (r.release other index).Prevails name slot value where
  mapped := release_kept different prevails.mapped
  holds := by rw [content?_release, prevails.holds]
  bodies here body later holds := by
    rw [content?_release] at holds
    exact prevails.bodies here body later holds

end Prevails

end Registry

open Registry

variable {name : String} {slot : Nat} {value : Partial}

/-- Binding the references of a text leaves a registered partial in force. -/
theorem Binding.Course.prevails {find : String → Except Fault String} {r r' : Registry}
    {o : Outline} {done : List String} {ending : Binding.Ending}
    (course : Binding.Course find r o done ending r') (prevails : r.Prevails name slot value) :
    r'.Prevails name slot value := by
  have reserved {r : Registry} {other : String} (fresh : r.has other = false)
      (prevails : r.Prevails name slot value) : (r.reserve other).Prevails name slot value :=
    prevails.add (ne_of_has fresh (has_eq_true_iff.mpr ⟨slot, prevails.mapped⟩)) nofun
  have different {r : Registry} {other : String} (fresh : r.has other = false)
      (prevails : r.Prevails name slot value) : name ≠ other :=
    ne_of_has fresh (has_eq_true_iff.mpr ⟨slot, prevails.mapped⟩)
  induction course with
  | finish | flaw | cut => exact prevails
  | known _ _ ih => exact ih prevails
  | read fresh _ inside empty _ inner rest =>
    have bound := inner (reserved fresh prevails)
    obtain ⟨forest, _, rfl, _⟩ := inside.of_complete
    exact rest (bound.fill empty fun ref => slot_of_mem_refer bound.mapped)
  | missing fresh _ => exact (reserved fresh prevails).release (different fresh prevails) _
  | inside fresh _ _ inner =>
    exact (inner (reserved fresh prevails)).release (different fresh prevails) _

namespace Parser

variable {files : Files} {p : Parser}

theorem parse_prevails (indexed : p.registry.Indexed)
    (prevails : p.registry.Prevails name slot value) (text : String) :
    (p.parse files text).parser.registry.Prevails name slot value := by
  obtain ⟨done, ending, follows, _⟩ := parse_follows indexed files text
  exact follows.course.prevails prevails

/-- The references to the name in a text that is parsed lead to the registered partial. -/
theorem slot_of_parse (indexed : p.registry.Indexed) (mapped : p.registry.index? name = some slot)
    {text : String} {elements : Forest PartialRef}
    (parsed : (p.parse files text).result = .ok elements) {ref : PartialRef}
    (member : ref ∈ elements.targets) (named : ref.name = name) : ref.slot = slot := by
  obtain ⟨done, ending, follows, _⟩ := parse_follows indexed files text
  have result := follows.result
  rw [parsed] at result
  cases ending with
  | broken cause reading => cases result
  | complete elements =>
    cases result
    obtain ⟨forest, _, rfl, _⟩ := follows.course.of_complete
    exact slot_of_mem_refer (follows.course.kept mapped) member named

end Parser

/-- A reference to the slot of a registered partial is walked like the partial. -/
theorem Walk.element_registered {lib : Library} {id : ParserId} {p : Parser}
    (found : lib.parser? id = some p)
    (holds : p.registry.content? slot = some (.registered value)) (sink : Sink σ ε) (fuel : Nat)
    (context : Context) {ref : PartialRef} (refers : ref.slot = slot) :
    Walk.element lib (Walk.forest lib fuel) fuel sink (some id) context (.reference ref) =
      value.walk lib fuel sink context := by
  rw [Walk.element, Library.content?_at found, refers, holds]
  cases value <;> rfl

namespace Session

variable {earlier later : List Operation} {id : ParserId} {p : Parser}

theorem run_prevails {s : Session} (found : s.library.parser? id = some p)
    (consistent : p.registry.Consistent) (prevails : p.registry.Prevails name slot value)
    (last : ∀ other, .addPartial id name other ∉ later) :
    ∃ q, (s.run later).library.parser? id = some q ∧ q.registry.Consistent ∧
      q.registry.Prevails name slot value := by
  refine run_keeps (fun r => r.Consistent ∧ r.Prevails name slot value) ?_ ?_ found
    ⟨consistent, prevails⟩
  · rintro p files text ⟨consistent, prevails⟩
    exact ⟨Parser.parse_consistent consistent files text,
      Parser.parse_prevails consistent.indexed prevails text⟩
  · rintro other registered member r ⟨consistent, prevails⟩
    refine ⟨consistent.register other registered, prevails.add ?_ nofun⟩
    rintro rfl
    exact last registered member

/-- After a partial has been registered under a name, and until another one is, every reference to
the name in a text or in a body that is read leads to it, and is walked like the partial itself in
the context of the tag. The resolver is not asked for the name, except to parse it by name. All
other names, and all slots that stood before, are as they were. -/
theorem registered_prevails (found : (start.run earlier).library.parser? id = some p)
    (name : String) (value : Partial) (later : List Operation)
    (last : ∀ other, .addPartial id name other ∉ later) :
    (∃ q, (start.run (earlier ++ .addPartial id name value :: later)).library.parser? id = some q ∧
      q.registry.Prevails name p.registry.slots.length value ∧
      (∀ files text elements, (q.parse files text).result = .ok elements →
        ∀ ref ∈ elements.targets, ref.name = name → ref.slot = p.registry.slots.length) ∧
      (∀ lib : Library, lib.parser? id = some q → ∀ {σ ε : Type} (sink : Sink σ ε) (fuel : Nat)
        (context : Context) (ref : PartialRef), ref.slot = p.registry.slots.length →
        Walk.element lib (Walk.forest lib fuel) fuel sink (some id) context (.reference ref) =
          value.walk lib fuel sink context) ∧
      (∀ files, (∀ text, name ∉ (q.parse files text).asked) ∧
        ∀ other, name ∉ (q.parseByName files other).asked.tail) ∧
      ∀ index < p.registry.slots.length, q.registry.slots[index]? = p.registry.slots[index]?) ∧
    ∀ other ≠ name,
      (p.addPartial name value).registry.index? other = p.registry.index? other := by
  have registered : (start.run (earlier ++ [.addPartial id name value])).library.parser? id =
      some (p.addPartial name value) := by
    rw [run_append]
    exact parser?_addPartial found name value
  have consistent := (parser_consistent found).register name value
  constructor
  · obtain ⟨q, found', consistent', prevails⟩ := run_prevails registered consistent
      (register_prevails p.registry name value) last
    rw [← run_append, List.append_assoc] at found'
    refine ⟨q, found', prevails, ?_, ?_, ?_, ?_⟩
    · intro files text elements parsed ref member named
      exact Parser.slot_of_parse consistent'.indexed prevails.mapped parsed member named
    · intro lib known σ ε sink fuel context ref refers
      exact Walk.element_registered known prevails.holds sink fuel context refers
    · have mapped : (p.addPartial name value).hasPartial name = true :=
        has_add.mpr (.inl rfl)
      refine not_asked_of_mapped registered mapped later ?_
      rw [List.append_assoc]
      exact found'
    · obtain ⟨q', known, grown⟩ :=
        start_run_extends earlier (.addPartial id name value :: later) id p found
      obtain rfl : q = q' := Option.some.inj (found'.symm.trans known)
      exact fun index old => slot_of_extends grown old
  · intro other different
    exact (index?_add p.registry name other _).trans (if_neg different)

/-- A source for `n` that cannot be parsed, and one that refers to `n`. -/
def mending : Resolver :=
  .table [("n", .text "{{^open}}"), ("m", .text "({{>n}})")] (.missing "unknown")

/-- The name `n` is registered after it could not be read, and then a text refers to it by way of
`m`: the template renders the partial, in the context of the text. -/
theorem registered_prevails_mending :
    let value := Partial.template (.ofElements [.escaped "x"])
    let earlier := [.newParser mending, .parse 0 "{{>n}}"]
    let s := start.run (earlier ++ .addPartial 0 "n" value :: [.parse 0 "{{>m}}"])
    (∃ q, s.library.parser? 0 = some q ∧ q.registry.Prevails "n" 1 value) ∧
    s.templates = [⟨[.reference ⟨"m", 2⟩], some 0⟩] ∧
    s.library.render 3 ⟨[.reference ⟨"m", 2⟩], some 0⟩ (.root (.map [("x", .text "1")])) =
      some "(1)" := by
  intro value earlier s
  have found : (start.run earlier).library.parser? 0 =
      some ((Parser.ofResolver mending).parse .none "{{>n}}").parser := rfl
  have reserved : ((Parser.ofResolver mending).parse .none "{{>n}}").parser.registry.slots.length =
      1 := by cbv
  obtain ⟨⟨q, known, prevails, _⟩, _⟩ :=
    registered_prevails found "n" value [.parse 0 "{{>m}}"] (by simp)
  rw [reserved] at prevails
  exact ⟨⟨q, known, prevails⟩, by cbv, by cbv⟩

end Session

end Mustache
