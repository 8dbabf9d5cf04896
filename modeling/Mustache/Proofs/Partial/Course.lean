import Mathlib.Data.List.Nodup
import Mustache.Proofs.Partial.Cache
/-!
The course of binding, told without a bound on the nesting of partials. A course lists the partials
that were read completely, in the order in which they were finished, and those that were being read
when a failure ended it. Main statements: binding the references of a text always follows a course,
in which every slot is still empty when it is filled; the names mapped afterwards are those mapped
before and those of the partials that were read completely; all names asked for are different and
were not mapped before; and the bound is reached only by as many names inside one another.
-/
namespace Mustache

open Registry

namespace Binding

/-- How binding the references of a text ends. -/
inductive Ending where
  | complete (elements : Forest PartialRef)
  /-- With a fault, or without one if the bound on the nesting was reached; and the partials that
  were being read then, the outermost first. -/
  | broken (cause : Option Fault) (reading : List String)

namespace Ending

/-- What the caller is told. -/
def result : Ending → Except Fault (Forest PartialRef)
  | .complete elements => .ok elements
  | .broken cause _ => .error (cause.getD .nestedTooDeep)

/-- The partials that were being read. -/
def reading : Ending → List String
  | .complete _ => []
  | .broken _ reading => reading

/-- The result of a step that ends so. -/
def leaving (q : Progress) : Ending → EStateM.Result Fault Progress (Forest PartialRef)
  | .complete elements => .ok elements q
  | .broken cause _ => .error (cause.getD .nestedTooDeep) q

end Ending

/-- The course of binding the references of an outline: the registry before, the partials read
completely, the ending, and the registry afterwards. -/
inductive Course (find : String → Except Fault String) :
    Registry → Outline → List String → Ending → Registry → Prop where
  | finish {r : Registry} {forest : Forest String} :
      Course find r ⟨[], .ok forest⟩ [] (.complete (forest.map r.refer)) r
  | flaw {r : Registry} {located : Located} :
      Course find r ⟨[], .error located⟩ [] (.broken (some (.parse located)) []) r
  | known {r r' : Registry} {name : String} {rest : List String}
      {result : Except Located (Forest String)} {done : List String} {ending : Ending} :
      r.has name = true → Course find r ⟨rest, result⟩ done ending r' →
      Course find r ⟨name :: rest, result⟩ done ending r'
  /-- The slot that a partial is read into is still empty when its body is complete. -/
  | read {r bound r' : Registry} {name text : String} {rest inner : List String}
      {result : Except Located (Forest String)} {elements : Forest PartialRef}
      {done : List String} {ending : Ending} :
      r.has name = false → find name = .ok text →
      Course find (r.reserve name) (.ofText text) inner (.complete elements) bound →
      bound.slots[r.slots.length]? = some ⟨name, none⟩ →
      Course find (bound.fill r.slots.length elements) ⟨rest, result⟩ done ending r' →
      Course find r ⟨name :: rest, result⟩ (inner ++ name :: done) ending r'
  | missing {r : Registry} {name : String} {rest : List String}
      {result : Except Located (Forest String)} {fault : Fault} :
      r.has name = false → find name = .error fault →
      Course find r ⟨name :: rest, result⟩ [] (.broken (some fault) [name])
        ((r.reserve name).release name r.slots.length)
  | inside {r bound : Registry} {name text : String} {rest inner : List String}
      {result : Except Located (Forest String)} {cause : Option Fault} {reading : List String} :
      r.has name = false → find name = .ok text →
      Course find (r.reserve name) (.ofText text) inner (.broken cause reading) bound →
      Course find r ⟨name :: rest, result⟩ inner (.broken cause (name :: reading))
        (bound.release name r.slots.length)
  | cut {r : Registry} {name : String} {rest : List String}
      {result : Except Located (Forest String)} :
      Course find r ⟨name :: rest, result⟩ [] (.broken none []) r

end Binding

namespace Registry

variable {r : Registry} {name other : String}

theorem ne_of_has (fresh : r.has name = false) (mapped : r.has other = true) : other ≠ name := by
  rintro rfl
  rw [fresh] at mapped
  cases mapped

theorem has_reserve_self (r : Registry) (name : String) : (r.reserve name).has name = true :=
  has_reserve.mpr (.inl rfl)

theorem has_release {index : Nat} (mapped : r.index? name = some index) :
    (r.release name index).has other = true ↔ other ≠ name ∧ r.has other = true := by
  unfold has
  rw [index?_release]
  by_cases same : other = name <;> simp [same, mapped]

end Registry

namespace Binding

variable {find : String → Except Fault String} {r r' : Registry} {o : Outline}
  {done : List String} {ending : Ending} {name : String}

namespace Course

/-- Names that are mapped stay mapped to their slots. -/
theorem kept (course : Course find r o done ending r') {index : Nat}
    (mapped : r.index? name = some index) : r'.index? name = some index := by
  induction course with
  | finish | flaw | cut => exact mapped
  | known _ _ ih => exact ih mapped
  | read fresh _ _ _ _ inner rest =>
    have unknown := has_eq_false_iff.mp fresh
    exact rest (inner (reserve_kept unknown mapped))
  | missing fresh _ =>
    have unknown := has_eq_false_iff.mp fresh
    exact release_kept (ne_of_unknown unknown mapped) (reserve_kept unknown mapped)
  | inside fresh _ _ inner =>
    have unknown := has_eq_false_iff.mp fresh
    exact release_kept (ne_of_unknown unknown mapped) (inner (reserve_kept unknown mapped))

theorem has_of_has (course : Course find r o done ending r') (mapped : r.has name = true) :
    r'.has name = true :=
  has_mono (fun _ _ => course.kept) mapped

/-- A name that is mapped is not read. -/
theorem not_mem_of_has (course : Course find r o done ending r') (mapped : r.has name = true) :
    name ∉ done ++ ending.reading := by
  induction course with
  | finish | flaw | cut => exact List.not_mem_nil
  | known _ _ ih => exact ih mapped
  | @read r _ _ other _ _ _ _ _ _ _ fresh _ inside _ _ inner rest =>
    have reserved : (r.reserve other).has name = true := has_reserve.mpr (.inr mapped)
    have outside := inner reserved
    have later := rest (inside.has_of_has reserved)
    simp only [Ending.reading, List.append_nil, List.mem_append, List.mem_cons] at outside later ⊢
    rintro ((here | same | here) | here)
    · exact outside here
    · exact ne_of_has fresh mapped same
    · exact later (.inl here)
    · exact later (.inr here)
  | missing fresh _ => exact fun here => ne_of_has fresh mapped (List.mem_singleton.mp here)
  | inside fresh _ _ inner =>
    have outside := inner (has_reserve.mpr (.inr mapped))
    simp only [Ending.reading, List.mem_append, List.mem_cons] at outside ⊢
    rintro (here | same | here)
    · exact outside (.inl here)
    · exact ne_of_has fresh mapped same
    · exact outside (.inr here)

/-- The names mapped afterwards are those that were mapped before, and those of the partials that
were read completely. -/
theorem has_iff (course : Course find r o done ending r') :
    r'.has name = true ↔ r.has name = true ∨ name ∈ done := by
  induction course with
  | finish | flaw | cut => simp
  | known _ _ ih => exact ih
  | read _ _ _ _ _ inner rest =>
    have filled (bound : Registry) (index : Nat) (elements : Forest PartialRef) :
        (bound.fill index elements).has name = bound.has name := rfl
    rw [rest, filled, inner, has_reserve, List.mem_append, List.mem_cons]
    grind
  | @missing r other _ _ _ fresh _ =>
    rw [has_release (reserve_index_self r other), has_reserve]
    have different : r.has name = true → name ≠ other := ne_of_has fresh
    simp only [List.not_mem_nil, or_false]
    grind
  | @inside r _ other _ _ inner _ _ _ fresh _ course ih =>
    rw [has_release (course.kept (reserve_index_self r other)), ih, has_reserve]
    have different : r.has name = true → name ≠ other := ne_of_has fresh
    have unread : name ∈ inner → name ≠ other := by
      rintro here rfl
      exact course.not_mem_of_has (has_reserve_self r name) (List.mem_append_left _ here)
    grind

/-- No partial is read twice. -/
theorem nodup (course : Course find r o done ending r') : (done ++ ending.reading).Nodup := by
  induction course with
  | finish | flaw | cut => exact List.nodup_nil
  | known _ _ ih => exact ih
  | missing => exact List.nodup_singleton _
  | @read r bound _ name _ _ inner _ _ done ending _ _ inside _ rest ih later =>
    have first : inner.Nodup := by simpa [Ending.reading] using ih
    have mapped (other : String) (here : other = name ∨ other ∈ inner) : bound.has other = true :=
      inside.has_iff.mpr (here.imp_left fun same => has_reserve.mpr (.inl same))
    have outside (other : String) (here : other = name ∨ other ∈ inner) :
        other ∉ done ++ ending.reading := rest.not_mem_of_has (mapped other here)
    have unread : name ∉ inner := fun here =>
      inside.not_mem_of_has (has_reserve_self r name) (List.mem_append_left _ here)
    rw [List.append_assoc, List.cons_append, List.nodup_append']
    refine ⟨first, List.nodup_cons.mpr ⟨outside name (.inl rfl), later⟩, ?_⟩
    intro other here there
    rcases List.mem_cons.mp there with rfl | there
    · exact unread here
    · exact outside other (.inr here) there
  | @inside r _ name _ _ inner _ _ reading _ _ course ih =>
    have unread : name ∉ inner ++ reading := course.not_mem_of_has (has_reserve_self r name)
    exact List.perm_middle.nodup_iff.mpr (List.nodup_cons.mpr ⟨unread, ih⟩)

/-- The partials that were being read are not mapped afterwards. -/
theorem not_has_of_mem_reading (course : Course find r o done ending r')
    (reading : name ∈ ending.reading) : r'.has name = false := by
  rw [Bool.eq_false_iff, Ne, course.has_iff]
  rintro (mapped | here)
  · exact course.not_mem_of_has mapped (List.mem_append_right _ reading)
  · exact (List.nodup_append'.mp course.nodup).2.2 here reading

/-- The references of an element tree are bound as the registry binds them afterwards, and all of
them are mapped. -/
theorem of_complete {elements : Forest PartialRef}
    (course : Course find r o done (.complete elements) r') : ∃ forest, o.result = .ok forest ∧
      elements = forest.map r'.refer ∧ ∀ name ∈ o.references, r'.has name = true := by
  generalize complete : Ending.complete elements = ending at course
  induction course with
  | finish =>
    cases complete
    exact ⟨_, rfl, rfl, nofun⟩
  | flaw | missing | inside | cut => cases complete
  | known mapped rest ih =>
    obtain ⟨forest, sound, bound, all⟩ := ih complete
    refine ⟨forest, sound, bound, fun other refers => ?_⟩
    rcases List.mem_cons.mp refers with rfl | refers
    · exact rest.has_of_has mapped
    · exact all other refers
  | read _ _ inside _ rest _ ih =>
    obtain ⟨forest, sound, bound, all⟩ := ih complete
    refine ⟨forest, sound, bound, fun other refers => ?_⟩
    rcases List.mem_cons.mp refers with rfl | refers
    · exact rest.has_of_has (inside.has_of_has (has_reserve_self _ _))
    · exact all other refers

/-- Slots that stand keep what they hold. -/
theorem slots (course : Course find r o done ending r') : r.slots <+: r'.slots := by
  induction course with
  | finish | flaw | cut => exact List.prefix_refl _
  | known _ _ ih => exact ih
  | @read r bound _ name _ _ _ _ elements _ _ _ _ _ _ _ inner rest =>
    have reserved : r.slots <+: bound.slots := List.IsPrefix.trans ⟨_, rfl⟩ inner
    refine List.IsPrefix.trans (List.prefix_iff_getElem?.mpr fun index old => ?_) rest
    rw [fill_slot_of_ne bound elements (Nat.ne_of_lt old), slot_of_extends reserved old,
      List.getElem?_eq_getElem old]
  | missing =>
    rw [release_slots]
    exact ⟨_, rfl⟩
  | inside _ _ _ inner =>
    rw [release_slots]
    exact List.IsPrefix.trans ⟨_, rfl⟩ inner

/-- The name of a partial that was read completely leads to the element tree of its source. -/
theorem body (course : Course find r o done ending r') (read : name ∈ done) :
    ∃ text elements index, find name = .ok text ∧
      (Outline.ofText text).result = .ok (elements.map (·.name)) ∧
      r'.index? name = some index ∧ r'.slots[index]? = some ⟨name, some (.parsed elements)⟩ := by
  induction course with
  | finish | flaw | missing | cut => cases read
  | known _ _ ih => exact ih read
  | @read r bound r' other text _ inner _ body done _ _ found inside empty rest ih later =>
    have still {elements : Forest PartialRef} {index : Nat}
        (mapped : bound.index? name = some index)
        (stands : (bound.fill r.slots.length body).slots[index]? =
          some ⟨name, some (.parsed elements)⟩) :
        r'.index? name = some index ∧ r'.slots[index]? = some ⟨name, some (.parsed elements)⟩ :=
      ⟨rest.kept mapped, slot_mono rest.slots stands⟩
    rcases List.mem_append.mp read with here | here
    · obtain ⟨text, elements, index, found, sound, mapped, stands⟩ := ih here
      have different : index ≠ r.slots.length := by
        rintro rfl
        rw [empty] at stands
        cases stands
      exact ⟨text, elements, index, found, sound,
        still mapped (by rw [fill_slot_of_ne bound body different, stands])⟩
    · rcases List.mem_cons.mp here with rfl | here
      · obtain ⟨forest, sound, rfl, _⟩ := inside.of_complete
        refine ⟨text, _, r.slots.length, found, ?_, still ?_ (fill_slot_self _ empty rfl)⟩
        · rw [Forest.map_name_refer, sound]
        · exact inside.kept (reserve_index_self r name)
      · exact later here
  | @inside r bound other _ _ _ _ _ _ _ _ course ih =>
    obtain ⟨text, elements, index, found, sound, mapped, stands⟩ := ih read
    have different : name ≠ other := by
      rintro rfl
      exact course.not_mem_of_has (has_reserve_self r name) (List.mem_append_left _ read)
    exact ⟨text, elements, index, found, sound, release_kept different mapped,
      by rw [release_slots, stands]⟩

/-- What is being read is mentioned somewhere. -/
theorem reading_subset {names : List String} (course : Course find r o done ending r')
    (closed : ∀ name text, find name = .ok text →
      ∀ other ∈ (Outline.ofText text).references, other ∈ names)
    (mentioned : ∀ name ∈ o.references, name ∈ names) : ending.reading ⊆ names := by
  induction course with
  | finish | flaw | cut => exact List.nil_subset _
  | known _ _ ih | read _ _ _ _ _ _ ih =>
    exact ih fun other refers => mentioned other (.tail _ refers)
  | missing =>
    exact List.cons_subset.mpr ⟨mentioned _ List.mem_cons_self, List.nil_subset _⟩
  | inside _ found _ ih =>
    exact List.cons_subset.mpr ⟨mentioned _ List.mem_cons_self, ih (closed _ _ found)⟩

end Course

theorem outline_cons (bindOne : String → Binding Unit) (name : String) (rest : List String)
    (result : Except Located (Forest String)) :
    outline bindOne ⟨name :: rest, result⟩ =
      (do bindOne name; outline bindOne ⟨rest, result⟩) := by
  simp only [outline, each]
  exact bind_assoc _ _ _

/-- A run of binding follows a course. It asks for the sources of the partials on it, and reaches
the bound only with as many partials inside one another. -/
structure Follows (find : String → Except Fault String) (depth : Nat) (o : Outline)
    (p q : Progress) (done : List String) (ending : Ending) : Prop where
  course : Course find p.registry o done ending q.registry
  asked : q.asked.Perm (done ++ ending.reading ++ p.asked)
  deep : ∀ reading, ending = .broken none reading → reading.length = depth

namespace Follows

variable {depth : Nat} {p q middle : Progress} {rest inner : List String} {text : String}
  {result : Except Located (Forest String)}

/-- Nothing is read for a name that is mapped. -/
theorem known (mapped : p.registry.has name = true)
    (after : Follows find depth ⟨rest, result⟩ p q done ending) :
    Follows find depth ⟨name :: rest, result⟩ p q done ending :=
  ⟨.known mapped after.course, after.asked, after.deep⟩

/-- A partial is being read while one inside it fails. -/
theorem inside {cause : Option Fault} {reading : List String} (fresh : p.registry.has name = false)
    (found : find name = .ok text)
    (broken : Follows find depth (.ofText text) ⟨p.registry.reserve name, name :: p.asked⟩ q inner
      (.broken cause reading)) :
    Follows find (depth + 1) ⟨name :: rest, result⟩ p
      ⟨q.registry.release name p.registry.slots.length, q.asked⟩ inner
      (.broken cause (name :: reading)) where
  course := .inside fresh found broken.course
  asked := by
    refine broken.asked.trans ?_
    simp only [Ending.reading, List.append_assoc, List.cons_append]
    exact List.perm_middle.append_left inner
  deep := by
    rintro _ ⟨⟩
    rw [List.length_cons, broken.deep reading rfl]

/-- A partial is read completely, and binding goes on. -/
theorem read {elements : Forest PartialRef} (fresh : p.registry.has name = false)
    (found : find name = .ok text)
    (complete : Follows find depth (.ofText text) ⟨p.registry.reserve name, name :: p.asked⟩ middle
      inner (.complete elements))
    (empty : middle.registry.slots[p.registry.slots.length]? = some ⟨name, none⟩)
    (after : Follows find (depth + 1) ⟨rest, result⟩
      ⟨middle.registry.fill p.registry.slots.length elements, middle.asked⟩ q done ending) :
    Follows find (depth + 1) ⟨name :: rest, result⟩ p q (inner ++ name :: done) ending where
  course := .read fresh found complete.course empty after.course
  asked := by
    refine after.asked.trans ((complete.asked.append_left _).trans ?_)
    refine List.perm_iff_count.mpr fun other => ?_
    simp only [Ending.reading, List.append_nil, List.append_assoc, List.cons_append,
      List.count_append, List.count_cons]
    omega
  deep := after.deep

end Follows

/-- Without references, binding ends at once. -/
theorem outline_nil_follows (find : String → Except Fault String) (depth : Nat)
    (bindOne : String → Binding Unit) (result : Except Located (Forest String)) (p : Progress) :
    ∃ done ending, outline bindOne ⟨[], result⟩ p = ending.leaving p ∧
      Follows find depth ⟨[], result⟩ p p done ending := by
  cases result with
  | ok forest => exact ⟨[], _, rfl, .finish, .refl _, nofun⟩
  | error located => exact ⟨[], _, rfl, .flaw, .refl _, nofun⟩

/-- Binding follows a course, however many partials may be inside one another. -/
theorem outline_follows (find : String → Except Fault String) (depth : Nat) (o : Outline)
    (p : Progress) (indexed : p.registry.Indexed) :
    ∃ done ending q, outline (Binding.name find depth) o p = ending.leaving q ∧
      Follows find depth o p q done ending := by
  induction depth generalizing o p with
  | zero =>
    obtain ⟨names, result⟩ := o
    cases names with
    | nil =>
      obtain ⟨done, ending, ran, follows⟩ := outline_nil_follows find 0 _ result p
      exact ⟨done, ending, p, ran, follows⟩
    | cons name rest =>
      refine ⟨[], .broken none [], p, rfl, .cut, .refl _, ?_⟩
      rintro _ ⟨⟩
      rfl
  | succ depth ih =>
    obtain ⟨names, result⟩ := o
    induction names generalizing p with
    | nil =>
      obtain ⟨done, ending, ran, follows⟩ := outline_nil_follows find (depth + 1) _ result p
      exact ⟨done, ending, p, ran, follows⟩
    | cons name rest later =>
      rw [outline_cons]
      simp only [Bind.bind, EStateM.bind]
      cases mapped : p.registry.has name with
      | true =>
        obtain ⟨done, ending, q, ran, follows⟩ := later p indexed
        rw [name_mapped depth mapped]
        exact ⟨done, ending, q, ran, follows.known mapped⟩
      | false =>
        have ends := name_maps find (depth + 1) name p indexed
        unfold Leaves at ends
        rw [name_unmapped depth mapped] at ends ⊢
        cases found : find name with
        | error fault =>
          exact ⟨[], .broken (some fault) [name], _, rfl, .missing mapped found, .refl _, nofun⟩
        | ok text =>
          have reserved := reserve_indexed indexed name
          have pointing := outline_leaves (name_maps find depth) (.ofText text)
            (fun _ => Outline.targets_eq_references) ⟨p.registry.reserve name, name :: p.asked⟩
            reserved
          obtain ⟨inner, ending, middle, ran, follows⟩ :=
            ih (.ofText text) ⟨p.registry.reserve name, name :: p.asked⟩ reserved
          unfold Leaves at pointing
          simp only [found, ran] at ends pointing ⊢
          cases ending with
          | broken cause reading =>
            exact ⟨inner, .broken cause (name :: reading), _, rfl, follows.inside mapped found⟩
          | complete elements =>
            obtain ⟨done, ending, q, ran, after⟩ :=
              later ⟨_, middle.asked⟩ (ends.1.indexed indexed)
            exact ⟨inner ++ name :: done, ending, q, ran,
              follows.read mapped found (reserved_slot pointing.1) after⟩

end Binding

/-- A parse ends as a course of the registry does. -/
structure Parsing.Follows (find : String → Except Fault String) (before : Registry) (text : String)
    (parsing : Parsing (Forest PartialRef)) (done : List String) (ending : Binding.Ending) :
    Prop where
  course : Binding.Course find before (.ofText text) done ending parsing.parser.registry
  result : parsing.result = ending.result

namespace Parser

variable {p : Parser}

/-- A parse follows a course. It asks for the sources of the partials on it, and reaches the bound
on the nesting only with as many partials inside one another. -/
theorem parse_follows (indexed : p.registry.Indexed) (files : Files) (text : String) :
    ∃ done ending,
    (p.parse files text).Follows (p.resolver.find files ·) p.registry text done ending ∧
      (p.parse files text).asked.Perm (done ++ ending.reading) ∧
      ∀ reading, ending = .broken none reading → reading.length = p.depth files text := by
  obtain ⟨done, ending, q, ran, follows⟩ := Binding.outline_follows (p.resolver.find files ·)
    (p.depth files text) (.ofText text) ⟨p.registry, []⟩ indexed
  have asked : q.asked.reverse.Perm (done ++ ending.reading) := by
    simpa using q.asked.reverse_perm.trans follows.asked
  refine ⟨done, ending, ?_⟩
  unfold parse
  cases ending with
  | complete elements =>
    simp only [ran, Binding.Ending.leaving]
    exact ⟨⟨follows.course, rfl⟩, asked, follows.deep⟩
  | broken cause reading =>
    simp only [ran, Binding.Ending.leaving]
    exact ⟨⟨follows.course, rfl⟩, asked, follows.deep⟩

end Parser

end Mustache
