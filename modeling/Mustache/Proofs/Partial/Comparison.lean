import Mustache.Proofs.Partial.Course
/-!
Courses of binding side by side. Main statements: partials whose sources are sound and refer to one
another or to mapped names only can be bound without a fault; so a registry that knows such partials
beforehand, and one that does not, bind every outline alike. And a registry in which one name is
mapped already, although its source is still being read, binds alike with one in which it is not,
unless the latter fails while it reads the source of that name inside another partial.
-/
namespace Mustache

open Registry

namespace Binding

variable {find : String → Except Fault String}

namespace Ending

@[simp] theorem reading_complete (elements : Forest PartialRef) :
    (complete elements).reading = [] := rfl

@[simp] theorem reading_broken (cause : Option Fault) (names : List String) :
    (broken cause names).reading = names := rfl

/-- Whether binding ended by itself, not at the bound on the nesting. -/
def Natural (ending : Ending) : Prop := ∀ reading, ending ≠ .broken none reading

theorem natural_complete (elements : Forest PartialRef) : (complete elements).Natural := nofun

/-- What ends the binding of a partial ends that of the text around it. -/
theorem Natural.inside {cause : Option Fault} {name : String} {reading : List String}
    (natural : (broken cause (name :: reading)).Natural) : (broken cause reading).Natural := by
  rintro _ ⟨⟩
  exact natural _ rfl

theorem Natural.cause {cause : Option Fault} {reading : List String}
    (natural : (broken cause reading).Natural) : ∃ fault, cause = some fault :=
  Option.ne_none_iff_exists'.mp fun none => natural reading (by rw [none])

/-- Both courses are complete, with registries that are related, or both are broken for the same
cause. -/
inductive Alike (related : Registry → Registry → Prop) :
    Ending → Registry → Ending → Registry → Prop where
  | complete {elements elements' : Forest PartialRef} {r s : Registry} : related r s →
      Alike related (.complete elements) r (.complete elements') s
  | broken {cause : Option Fault} {reading reading' : List String} {r s : Registry} :
      Alike related (.broken cause reading) r (.broken cause reading') s

theorem Alike.imp {related weaker : Registry → Registry → Prop} {ending ending' : Ending}
    {r s : Registry} (alike : Alike related ending r ending' s)
    (implies : ∀ r s, related r s → weaker r s) : Alike weaker ending r ending' s := by
  cases alike with
  | complete all => exact .complete (implies _ _ all)
  | broken => exact .broken

end Ending

/-- Names whose sources are sound and refer to mapped names or to one another only. -/
def Closed (find : String → Except Fault String) (r : Registry) (extra : String → Prop) : Prop :=
  ∀ name, extra name → ∃ text forest, find name = .ok text ∧
    (Outline.ofText text).result = .ok forest ∧
    ∀ other ∈ (Outline.ofText text).references, r.has other = true ∨ extra other

theorem Closed.mono {r s : Registry} {extra : String → Prop} (closed : Closed find r extra)
    (more : ∀ name, r.has name = true → s.has name = true) : Closed find s extra := by
  intro name known
  obtain ⟨text, forest, found, sound, refers⟩ := closed name known
  refine ⟨text, forest, found, sound, fun other member => ?_⟩
  exact (refers other member).imp_left (more other)

/-- The source of such a name, while the name is reserved. -/
theorem Closed.body {r : Registry} {extra : String → Prop} {name text : String}
    (closed : Closed find r extra) (known : extra name) (found : find name = .ok text) :
    ∃ forest, (Outline.ofText text).result = .ok forest ∧
      ∀ other ∈ (Outline.ofText text).references,
        (r.reserve name).has other = true ∨ extra other := by
  obtain ⟨text', forest, found', sound, refers⟩ := closed name known
  rw [found] at found'
  cases found'
  exact ⟨forest, sound, fun other member =>
    (refers other member).imp_left fun mapped => has_reserve.mpr (.inr mapped)⟩

/-- A registry that has some names mapped beside those that another one has mapped, all of them with
sound sources. -/
structure Ahead (find : String → Except Fault String) (extra : String → Prop) (r s : Registry) :
    Prop where
  mapped : ∀ name, r.has name = true ↔ s.has name = true ∨ extra name
  closed : Closed find s extra

/-- A registry that has one name mapped beside those that another one has mapped. -/
structure Beside (name : String) (r s : Registry) : Prop where
  mapped : ∀ other, s.has other = true ↔ r.has other = true ∨ other = name
  fresh : r.has name = false

/-- What is left of an outline when the references before are mapped. -/
def Remains (whole : Outline) (r : Registry) (o : Outline) : Prop :=
  ∃ before, whole = ⟨before ++ o.references, o.result⟩ ∧ ∀ name ∈ before, r.has name = true

theorem Remains.refl (whole : Outline) (r : Registry) : Remains whole r whole :=
  ⟨[], rfl, List.forall_mem_nil _⟩

section Reserving

variable {extra : String → Prop} {r s : Registry} {name other : String}

theorem has_reserve_of_has (mapped : r.has other = true) : (r.reserve name).has other = true :=
  has_reserve.mpr (.inr mapped)

theorem Closed.reserve (closed : Closed find r extra) (name : String) :
    Closed find (r.reserve name) extra :=
  closed.mono fun _ => has_reserve_of_has

theorem Ahead.known (ahead : Ahead find extra r s) (mapped : r.has name = true)
    (fresh : s.has name = false) : extra name := by
  simpa [fresh, mapped] using ahead.mapped name

theorem Ahead.fill (ahead : Ahead find extra r s) (index index' : Nat)
    (elements elements' : Forest PartialRef) :
    Ahead find extra (r.fill index elements) (s.fill index' elements') :=
  ⟨ahead.mapped, ahead.closed⟩

/-- The registry behind reads a name that the one ahead has mapped, and nothing that this has
not. -/
theorem Ahead.catchUp {bound : Registry} {inner : List String} (ahead : Ahead find extra r s)
    (grown : ∀ other, bound.has other = true ↔
      (other = name ∨ s.has other = true) ∨ other ∈ inner)
    (known : extra name) (read : ∀ other ∈ inner, extra other) : Ahead find extra r bound where
  mapped other := by
    rw [ahead.mapped, grown]
    constructor
    · exact Or.imp_left fun mapped => .inl (.inr mapped)
    · rintro (((rfl | mapped) | member) | extra)
      · exact .inr known
      · exact .inl mapped
      · exact .inr (read other member)
      · exact .inr extra
  closed := ahead.closed.mono fun other mapped => (grown other).mpr (.inl (.inr mapped))

theorem Ahead.reserve (ahead : Ahead find extra r s) (name : String) :
    Ahead find extra (r.reserve name) (s.reserve name) where
  mapped other := by rw [has_reserve, has_reserve, ahead.mapped, or_assoc]
  closed := ahead.closed.mono fun _ => has_reserve_of_has

theorem Beside.reserve (beside : Beside name r s) (different : other ≠ name) :
    Beside name (r.reserve other) (s.reserve other) where
  mapped third := by rw [has_reserve, has_reserve, beside.mapped, or_assoc]
  fresh := by
    rw [Bool.eq_false_iff, Ne, has_reserve, beside.fresh]
    simpa using Ne.symm different

theorem Beside.has_of_ne (beside : Beside name r s) (different : other ≠ name) :
    s.has other = r.has other := by
  rw [Bool.eq_iff_iff, beside.mapped]
  simp [different]

theorem Beside.fill (beside : Beside name r s) (index index' : Nat)
    (elements elements' : Forest PartialRef) :
    Beside name (r.fill index elements) (s.fill index' elements') :=
  ⟨beside.mapped, beside.fresh⟩

theorem Remains.next {whole : Outline} {rest : List String}
    {result : Except Located (Forest String)} (left : Remains whole r ⟨name :: rest, result⟩)
    (grown : ∀ other, other = name ∨ r.has other = true → s.has other = true) :
    Remains whole s ⟨rest, result⟩ := by
  obtain ⟨before, rfl, mapped⟩ := left
  refine ⟨before ++ [name], by simp, fun other member => grown other ?_⟩
  rcases List.mem_append.mp member with here | here
  · exact .inr (mapped other here)
  · exact .inl (List.mem_singleton.mp here)

end Reserving

namespace Course

variable {r r' s s' : Registry} {o : Outline} {done done' : List String} {ending ending' : Ending}
  {extra : String → Prop}

/-- Every partial that has been read has a sound source, whose references are mapped then. -/
theorem closed_done {elements : Forest PartialRef}
    (course : Course find r o done (.complete elements) r') {name : String} (read : name ∈ done) :
    ∃ text forest, find name = .ok text ∧ (Outline.ofText text).result = .ok forest ∧
      ∀ other ∈ (Outline.ofText text).references, r'.has other = true := by
  generalize complete : Ending.complete elements = ending at course
  induction course generalizing elements with
  | finish => cases read
  | flaw | missing | inside | cut => cases complete
  | known _ _ ih => exact ih read complete
  | read _ found inside _ rest ihInside ihRest =>
    rcases List.mem_append.mp read with here | here
    · obtain ⟨text, forest, found, sound, mapped⟩ := ihInside here rfl
      exact ⟨text, forest, found, sound, fun other refers => rest.has_of_has (mapped other refers)⟩
    · rcases List.mem_cons.mp here with rfl | here
      · obtain ⟨forest, sound, _, mapped⟩ := inside.of_complete
        exact ⟨_, forest, found, sound, fun other refers => rest.has_of_has (mapped other refers)⟩
      · exact ihRest here complete

/-- Binding a sound outline is completed if all that it refers to is mapped or can be bound without
a fault, and reads nothing else. -/
theorem complete_of_closed (course : Course find r o done ending r') (natural : ending.Natural)
    (closed : Closed find r extra) {forest : Forest String} (sound : o.result = .ok forest)
    (mentioned : ∀ name ∈ o.references, r.has name = true ∨ extra name) :
    (∃ elements, ending = .complete elements) ∧ ∀ name ∈ done, extra name := by
  induction course generalizing forest with
  | finish => exact ⟨⟨_, rfl⟩, List.forall_mem_nil _⟩
  | flaw => cases sound
  | known _ _ ih =>
    exact ih natural closed sound fun other refers => mentioned other (.tail _ refers)
  | @read r bound _ name text _ _ _ _ _ _ fresh found inside _ rest ihInside ihRest =>
    have known : extra name := by
      simpa [fresh] using mentioned name List.mem_cons_self
    obtain ⟨forest', sound', refers⟩ := closed.body known found
    have inner :=
      (ihInside (Ending.natural_complete _) (closed.reserve name) sound' refers).2
    have later (other : String) (mapped : r.has other = true) : bound.has other = true :=
      inside.has_of_has (has_reserve_of_has mapped)
    obtain ⟨complete, outer⟩ := ihRest natural (closed.mono later) sound
      fun other member => (mentioned other (.tail _ member)).imp_left (later other)
    refine ⟨complete, fun other member => ?_⟩
    rcases List.mem_append.mp member with here | here
    · exact inner other here
    · rcases List.mem_cons.mp here with rfl | here
      · exact known
      · exact outer other here
  | @missing r name _ _ _ fresh missing =>
    have known : extra name := by
      simpa [fresh] using mentioned name List.mem_cons_self
    obtain ⟨text, forest, found, _⟩ := closed name known
    rw [missing] at found
    cases found
  | @inside r _ name _ _ _ _ _ _ fresh found _ ih =>
    have known : extra name := by
      simpa [fresh] using mentioned name List.mem_cons_self
    obtain ⟨forest', sound', refers⟩ := closed.body known found
    obtain ⟨_, impossible⟩ := (ih natural.inside (closed.reserve name) sound' refers).1
    cases impossible
  | cut => exact absurd rfl (natural _)

section Inversion

variable {name text : String} {rest : List String} {result : Except Located (Forest String)}
  (course : Course find r ⟨name :: rest, result⟩ done ending r') (natural : ending.Natural)
include course natural

/-- Nothing is read for a name that is mapped. -/
theorem of_known (mapped : r.has name = true) : Course find r ⟨rest, result⟩ done ending r' := by
  cases course with
  | known _ after => exact after
  | read fresh | missing fresh | inside fresh =>
    rw [mapped] at fresh
    cases fresh
  | cut => exact absurd rfl (natural _)

/-- A name without a source ends binding. -/
theorem of_missing {fault : Fault} (fresh : r.has name = false)
    (missing : find name = .error fault) : ending = .broken (some fault) [name] := by
  cases course with
  | known mapped =>
    rw [fresh] at mapped
    cases mapped
  | read _ found | inside _ found =>
    rw [missing] at found
    cases found
  | missing _ missing' =>
    rw [missing] at missing'
    cases missing'
    rfl
  | cut => exact absurd rfl (natural _)

/-- A source is bound with its name reserved. Binding goes on if that is completed. -/
theorem of_found (fresh : r.has name = false) (found : find name = .ok text) :
    (∃ inner elements bound done',
      Course find (r.reserve name) (.ofText text) inner (.complete elements) bound ∧
      Course find (bound.fill r.slots.length elements) ⟨rest, result⟩ done' ending r') ∨
    ∃ cause reading bound,
      Course find (r.reserve name) (.ofText text) done (.broken cause reading) bound ∧
      ending = .broken cause (name :: reading) := by
  cases course with
  | known mapped =>
    rw [fresh] at mapped
    cases mapped
  | missing _ missing =>
    rw [found] at missing
    cases missing
  | read _ found' inside _ after =>
    rw [found] at found'
    cases found'
    exact .inl ⟨_, _, _, _, inside, after⟩
  | inside _ found' inside =>
    rw [found] at found'
    cases found'
    exact .inr ⟨_, _, _, inside, rfl⟩
  | cut => exact absurd rfl (natural _)

end Inversion

/-- A partial with a sound source is bound without a fault, and nothing else is read. -/
theorem complete_inside {name text : String}
    (course : Course find (r.reserve name) (.ofText text) done ending r')
    (natural : ending.Natural) (closed : Closed find r extra) (known : extra name)
    (found : find name = .ok text) :
    (∃ elements, ending = .complete elements) ∧ ∀ other ∈ done, extra other := by
  obtain ⟨forest, sound, refers⟩ := closed.body known found
  exact course.complete_of_closed natural (closed.reserve name) sound refers

/-- Names with sound sources that are mapped beforehand make no difference. -/
theorem alike_of_ahead (course' : Course find s o done' ending' s')
    (course : Course find r o done ending r') (natural' : ending'.Natural)
    (natural : ending.Natural) (ahead : Ahead find extra r s) :
    ending.Alike (Ahead find extra) r' ending' s' := by
  induction course' generalizing r r' done ending with
  | finish =>
    cases course
    exact .complete ahead
  | flaw =>
    cases course
    exact .broken
  | known mapped _ ih =>
    have mapped' := (ahead.mapped _).mpr (.inl mapped)
    exact ih (course.of_known natural mapped') natural' natural ahead
  | @read s bound _ name _ _ _ _ elements _ _ fresh found inside _ _ ihInside ihRest =>
    cases mapped : r.has name with
    | true =>
      have known := ahead.known mapped fresh
      have read := (inside.complete_inside (Ending.natural_complete _) ahead.closed known found).2
      have caughtUp : Ahead find extra r (bound.fill s.slots.length elements) :=
        ahead.catchUp (fun _ => inside.has_iff.trans (or_congr_left has_reserve)) known read
      exact ihRest (course.of_known natural mapped) natural' natural caughtUp
    | false =>
      rcases course.of_found natural mapped found with
        ⟨_, _, _, _, inside', after⟩ | ⟨_, _, _, inside', rfl⟩
      · cases ihInside inside' (Ending.natural_complete _) (Ending.natural_complete _)
          (ahead.reserve name) with
        | complete bound => exact ihRest after natural' natural (bound.fill _ _ _ _)
      · cases ihInside inside' (Ending.natural_complete _) natural.inside (ahead.reserve name)
  | @missing s name _ _ _ fresh missing =>
    cases mapped : r.has name with
    | true =>
      obtain ⟨_, _, found, _⟩ := ahead.closed name (ahead.known mapped fresh)
      rw [missing] at found
      cases found
    | false =>
      rw [course.of_missing natural mapped missing]
      exact .broken
  | @inside s _ name _ _ _ _ _ _ fresh found inside ih =>
    cases mapped : r.has name with
    | true =>
      obtain ⟨_, impossible⟩ := (inside.complete_inside natural'.inside ahead.closed
        (ahead.known mapped fresh) found).1
      cases impossible
    | false =>
      rcases course.of_found natural mapped found with
        ⟨_, _, _, _, inside', _⟩ | ⟨_, _, _, inside', rfl⟩
      · cases ih inside' natural'.inside (Ending.natural_complete _) (ahead.reserve name)
      · cases ih inside' natural'.inside natural.inside (ahead.reserve name)
        exact .broken
  | cut => exact absurd rfl (natural' _)

/-- References to mapped names can be left out. -/
theorem skip {whole : Outline} (course : Course find r whole done ending r')
    (natural : ending.Natural) (left : Remains whole r o) : Course find r o done ending r' := by
  obtain ⟨before, rfl, mapped⟩ := left
  induction before with
  | nil => exact course
  | cons name before ih =>
    refine ih (fun other member => mapped other (.tail _ member)) ?_
    exact course.of_known natural (mapped name List.mem_cons_self)

/-- A name that has been read completely, and is only reserved elsewhere, puts all that was read
inside it ahead. -/
theorem ahead_of_read {name text : String} {bound : Registry} {elements : Forest PartialRef}
    (inside : Course find (r.reserve name) (.ofText text) done (.complete elements) bound)
    (beside : Beside name r s) : Ahead find (· ∈ done) bound s := by
  have grown (other : String) : bound.has other = true ↔ s.has other = true ∨ other ∈ done := by
    rw [inside.has_iff, has_reserve, beside.mapped, or_comm (a := other = name)]
  refine ⟨grown, fun other member => ?_⟩
  obtain ⟨text', forest, found, sound, mapped⟩ := inside.closed_done member
  exact ⟨text', forest, found, sound, fun third refers => (grown third).mp (mapped third refers)⟩

/-- A name that is mapped beforehand although its source is still being read makes no difference,
unless the source is read a second time and that fails. It makes none even then where it is the
rest of this source that is bound. -/
theorem alike_of_beside {name source : String} (course : Course find r o done ending r')
    (course' : Course find s o done' ending' s') (natural : ending.Natural)
    (natural' : ending'.Natural) (beside : Beside name r s) (found : find name = .ok source)
    (again : name ∉ ending.reading ∨
      name ∉ ending.reading.tail ∧ Remains (.ofText source) r o) :
    ending.Alike (fun r s => Beside name r s ∨ ∃ extra, Ahead find extra r s) r' ending' s' := by
  induction course generalizing s s' done' ending' with
  | finish =>
    cases course'
    exact .complete (.inl beside)
  | flaw =>
    cases course'
    exact .broken
  | @known r _ other _ _ _ _ mapped _ ih =>
    have mapped' := (beside.mapped other).mpr (.inl mapped)
    have later : ∀ third, third = other ∨ r.has third = true → r.has third = true := by
      rintro third (rfl | here)
      · exact mapped
      · exact here
    exact ih (course'.of_known natural' mapped') natural natural' beside
      (again.imp_right (And.imp_right (·.next later)))
  | @read r bound _ other text _ _ _ elements _ _ fresh read inside _ rest ihInside ihRest =>
    by_cases same : other = name
    · subst same
      have mapped' := (beside.mapped other).mpr (.inr rfl)
      have ahead := inside.ahead_of_read beside
      have filled : Ahead find (· ∈ _) (bound.fill r.slots.length elements) s :=
        ⟨ahead.mapped, ahead.closed⟩
      have alike := (course'.of_known natural' mapped').alike_of_ahead rest natural' natural filled
      exact alike.imp fun _ _ later => .inr ⟨_, later⟩
    · have fresh' : s.has other = false := by rw [beside.has_of_ne same, fresh]
      rcases course'.of_found natural' fresh' read with
        ⟨_, _, _, _, inside', after⟩ | ⟨_, _, _, inside', rfl⟩
      · have later : ∀ third, third = other ∨ r.has third = true →
            (bound.fill r.slots.length elements).has third = true :=
          fun third here => inside.has_of_has (has_reserve.mpr here)
        cases ihInside inside' (Ending.natural_complete _) (Ending.natural_complete _)
          (beside.reserve same) (.inl List.not_mem_nil) with
        | complete both =>
          rcases both with beside | ⟨extra, ahead⟩
          · exact ihRest after natural natural' (beside.fill _ _ _ _)
              (again.imp_right (And.imp_right (·.next later)))
          · have alike := after.alike_of_ahead rest natural' natural (ahead.fill _ _ _ _)
            exact alike.imp fun _ _ later => .inr ⟨_, later⟩
      · cases ihInside inside' (Ending.natural_complete _) natural'.inside (beside.reserve same)
          (.inl List.not_mem_nil)
  | @missing r other _ _ _ fresh missing =>
    have different : other ≠ name := by
      rintro rfl
      rw [missing] at found
      cases found
    have fresh' : s.has other = false := by rw [beside.has_of_ne different, fresh]
    rw [course'.of_missing natural' fresh' missing]
    exact .broken
  | @inside r _ other text _ _ _ _ reading fresh read inside ih =>
    by_cases same : other = name
    · subst same
      rw [found] at read
      cases read
      obtain ⟨_, left⟩ := again.resolve_left fun outside => outside List.mem_cons_self
      have mapped' := (beside.mapped other).mpr (.inr rfl)
      have here := inside.skip natural.inside (left.next fun _ => has_reserve.mpr)
      have level : Ahead find (fun _ => False) (r.reserve other) s := by
        refine ⟨fun third => ?_, fun _ => False.elim⟩
        rw [has_reserve, beside.mapped, or_false, or_comm]
      cases (course'.of_known natural' mapped').alike_of_ahead here natural' natural.inside level
      exact .broken
    · have fresh' : s.has other = false := by rw [beside.has_of_ne same, fresh]
      have outside : name ∉ reading := by
        rcases again with outside | ⟨outside, _⟩
        · exact mt (List.mem_cons_of_mem _) outside
        · exact outside
      rcases course'.of_found natural' fresh' read with
        ⟨_, _, _, _, inside', _⟩ | ⟨_, _, _, inside', rfl⟩
      · cases ih inside' natural.inside (Ending.natural_complete _) (beside.reserve same)
          (.inl outside)
      · cases ih inside' natural.inside natural'.inside (beside.reserve same) (.inl outside)
        exact .broken
  | cut => exact absurd rfl (natural _)

end Course

end Binding

end Mustache
