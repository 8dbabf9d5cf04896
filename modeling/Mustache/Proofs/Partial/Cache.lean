import Mustache.Proofs.Partial.Mirror
/-!
Binding with and without names that are known beforehand. A name that is known already is skipped,
while a registry that does not know it binds it from its source. Main statement: as long as the
known names mirror the sources, skipping them neither hides nor reorders a failure, so both ways of
binding succeed, or fail in the same way. How deeply partials nest does not matter, as long as there
is room for every name that texts can mention.
-/
namespace Mustache

namespace Registry

theorem has_add {r : Registry} {name other : String} {content : Option Content} :
    (r.add name content).has other = true ↔ other = name ∨ r.has other = true := by
  unfold has
  rw [index?_add]
  by_cases same : other = name <;> simp [same]

theorem has_reserve {r : Registry} {name other : String} :
    (r.reserve name).has other = true ↔ other = name ∨ r.has other = true :=
  has_add

/-- The number of names in a list that are not mapped. -/
def unmapped (names : List String) (r : Registry) : Nat := names.countP fun name => !r.has name

theorem unmapped_reserve_le (names : List String) (r : Registry) (name : String) :
    unmapped names (r.reserve name) ≤ unmapped names r := by
  refine List.countP_mono_left fun other _ fresh => ?_
  rw [Bool.not_eq_true', Bool.eq_false_iff] at fresh ⊢
  exact mt (fun mapped => has_reserve.mpr (.inr mapped)) fresh

/-- A name that is reserved is mapped from then on. -/
theorem unmapped_reserve_lt {names : List String} {r : Registry} {name : String}
    (member : name ∈ names) (fresh : r.has name = false) :
    unmapped names (r.reserve name) < unmapped names r := by
  obtain ⟨before, after, rfl⟩ := List.append_of_mem member
  have mapped : (r.reserve name).has name = true := has_reserve.mpr (.inl rfl)
  have first := unmapped_reserve_le before r name
  have last := unmapped_reserve_le after r name
  unfold unmapped at first last ⊢
  simp only [List.countP_append, List.countP_cons, mapped, fresh]
  simp only [Bool.not_true, Bool.not_false, Bool.false_eq_true, if_false, if_true]
  omega

end Registry

open Registry

namespace Binding

variable {find : String → Except Fault String} {α β : Type}

/-- Two steps of binding end in the same way: in success, with states that are related, or with the
same failure. -/
inductive EndsAlike (related : Progress → Progress → Prop) :
    EStateM.Result Fault Progress α → EStateM.Result Fault Progress β → Prop where
  | ok {a : α} {b : β} {p q : Progress} : related p q → EndsAlike related (.ok a p) (.ok b q)
  | error {fault : Fault} {p q : Progress} : EndsAlike related (.error fault p) (.error fault q)

section Related

variable {related : Progress → Progress → Prop} {bindOne bindOne' : String → Binding Unit}

theorem each_alike {names : List String} (alike : ∀ name ∈ names, ∀ p q, related p q →
      EndsAlike related (bindOne name p) (bindOne' name q)) {p q : Progress} (start : related p q) :
    EndsAlike related (each bindOne names p) (each bindOne' names q) := by
  induction names generalizing p q with
  | nil => exact .ok start
  | cons name rest ih =>
    have first := alike name List.mem_cons_self p q start
    simp only [each, Bind.bind, EStateM.bind]
    generalize bindOne name p = result, bindOne' name q = result' at first ⊢
    cases first with
    | ok next => exact ih (fun other member => alike other (.tail _ member)) next
    | error => exact .error

theorem outline_alike {o : Outline} (alike : ∀ name ∈ o.references, ∀ p q, related p q →
      EndsAlike related (bindOne name p) (bindOne' name q)) {p q : Progress} (start : related p q) :
    EndsAlike related (outline bindOne o p) (outline bindOne' o q) := by
  have all := each_alike alike start
  simp only [outline, Bind.bind, EStateM.bind]
  generalize each bindOne o.references p = result, each bindOne' o.references q = result' at all ⊢
  cases all with
  | error => exact .error
  | ok last =>
    cases o.result with
    | ok forest => exact .ok last
    | error located => exact .error

end Related

/-- An outline whose references are all mapped is bound as it is. -/
theorem outline_mapped (depth : Nat) {o : Outline} {forest : Forest String}
    (sound : o.result = .ok forest) {p : Progress}
    (mapped : ∀ name ∈ o.references, p.registry.has name = true) :
    outline (Binding.name find (depth + 1)) o p = .ok (forest.map p.registry.refer) p := by
  have all (names : List String) (mapped : ∀ name ∈ names, p.registry.has name = true) :
      each (Binding.name find (depth + 1)) names p = .ok () p := by
    induction names with
    | nil => rfl
    | cons name rest ih =>
      simp only [each, Bind.bind, EStateM.bind, name_mapped depth (mapped name List.mem_cons_self)]
      exact ih fun other member => mapped other (.tail _ member)
  simp only [outline, Bind.bind, EStateM.bind, all _ mapped, sound]
  rfl

/-- A state of binding that knew some names from the beginning, beside one that did not, and room
for binding each of the names that are not mapped inside another one. -/
structure Alike (known : Registry) (names : List String) (depth : Nat) (p q : Progress) : Prop where
  mapped : ∀ name, p.registry.has name = true ↔
    q.registry.has name = true ∨ known.has name = true
  room : unmapped names q.registry < depth

variable {known : Registry} {names : List String} {depth : Nat} {p q : Progress} {name : String}

/-- A known name is reserved by the one that does not know it. -/
theorem Alike.reserve_known (alike : Alike known names (depth + 1) p q)
    (mapped : known.has name = true) (member : name ∈ names) (fresh : q.registry.has name = false)
    (asked : List String) : Alike known names depth p ⟨q.registry.reserve name, asked⟩ where
  mapped other := by
    rw [alike.mapped, has_reserve]
    constructor
    · exact Or.imp_left .inr
    · rintro ((rfl | here) | there)
      · exact .inr mapped
      · exact .inl here
      · exact .inr there
  room := Nat.lt_of_lt_of_le (unmapped_reserve_lt member fresh) (Nat.le_of_lt_succ alike.room)

/-- A name that neither knows is reserved by both. -/
theorem Alike.reserve_both (alike : Alike known names (depth + 1) p q) (member : name ∈ names)
    (fresh : q.registry.has name = false) (asked asked' : List String) :
    Alike known names depth ⟨p.registry.reserve name, asked⟩ ⟨q.registry.reserve name, asked'⟩ where
  mapped other := by rw [has_reserve, has_reserve, alike.mapped, or_assoc]
  room := Nat.lt_of_lt_of_le (unmapped_reserve_lt member fresh) (Nat.le_of_lt_succ alike.room)

/-- Only which names are mapped matters. -/
theorem Alike.of_has {p' q' : Progress} (alike : Alike known names depth p q)
    (same : ∀ name, p'.registry.has name = p.registry.has name)
    (same' : ∀ name, q'.registry.has name = q.registry.has name) :
    Alike known names (depth + 1) p' q' where
  mapped other := by rw [same, same', alike.mapped]
  room := by
    have counted : unmapped names q'.registry = unmapped names q.registry := by
      simp only [unmapped, same']
    rw [counted]
    exact Nat.lt_succ_of_lt alike.room

section Bound

variable (alike : Alike known names (depth + 1) p q) (member : name ∈ names)
  (fresh : q.registry.has name = false)
  (bound : ∀ text, find name = .ok text → ∀ p q, Alike known names depth p q →
    EndsAlike (Alike known names depth) (outline (Binding.name find depth) (.ofText text) p)
      (outline (Binding.name find depth) (.ofText text) q))
include alike member fresh bound

/-- A known name is skipped on one side. On the other it is bound, which cannot fail because its
body mentions known names only. -/
theorem name_alike_known (mirrors : known.Mirrors find) (mapped : known.has name = true) :
    EndsAlike (Alike known names (depth + 1)) (Binding.name find (depth + 1) name p)
      (Binding.name find (depth + 1) name q) := by
  rw [name_mapped depth ((alike.mapped name).mpr (.inr mapped)), name_unmapped depth fresh]
  obtain ⟨text, forest, found, sound, _, closed⟩ := mirrors.content mapped
  have start := alike.reserve_known mapped member fresh (name :: q.asked)
  have ends := bound text found _ _ start
  obtain ⟨room, rfl⟩ := Nat.exists_eq_add_one_of_ne_zero (Nat.ne_zero_of_lt start.room)
  rw [Outline.targets_eq_references sound] at closed
  rw [outline_mapped room sound
    fun other refers => (alike.mapped other).mpr (.inr (closed other refers))] at ends
  simp only [found]
  generalize outline (Binding.name find (room + 1)) (.ofText text)
    ⟨q.registry.reserve name, name :: q.asked⟩ = result at ends ⊢
  cases ends with
  | ok last => exact .ok (last.of_has (fun _ => rfl) fun _ => rfl)

/-- A name that neither side has mapped is bound on both. -/
theorem name_alike_unknown (unknown : known.has name = false) :
    EndsAlike (Alike known names (depth + 1)) (Binding.name find (depth + 1) name p)
      (Binding.name find (depth + 1) name q) := by
  have fresh' : p.registry.has name = false := by
    rw [Bool.eq_false_iff, Ne, alike.mapped, fresh, unknown]
    simp
  rw [name_unmapped depth fresh', name_unmapped depth fresh]
  cases found : find name with
  | error fault => exact .error
  | ok text =>
    have ends := bound text found _ _
      (alike.reserve_both member fresh (name :: p.asked) (name :: q.asked))
    dsimp only
    generalize outline (Binding.name find depth) (.ofText text)
        ⟨p.registry.reserve name, name :: p.asked⟩ = result,
      outline (Binding.name find depth) (.ofText text)
        ⟨q.registry.reserve name, name :: q.asked⟩ = result' at ends ⊢
    cases ends with
    | ok last => exact .ok (last.of_has (fun _ => rfl) fun _ => rfl)
    | error => exact .error

end Bound

/-- A name is bound alike with and without the known names. -/
theorem name_alike (mirrors : known.Mirrors find)
    (mentioned : ∀ name text, find name = .ok text →
      ∀ other ∈ (Outline.ofText text).references, other ∈ names)
    (depth : Nat) : ∀ name ∈ names, ∀ p q, Alike known names depth p q →
      EndsAlike (Alike known names depth) (Binding.name find depth name p)
        (Binding.name find depth name q) := by
  induction depth with
  | zero => exact fun _ _ _ _ alike => absurd alike.room (Nat.not_lt_zero _)
  | succ depth ih =>
    intro name member p q alike
    have bound (text : String) (found : find name = .ok text) (p q : Progress)
        (start : Alike known names depth p q) : EndsAlike (Alike known names depth)
          (outline (Binding.name find depth) (.ofText text) p)
          (outline (Binding.name find depth) (.ofText text) q) :=
      outline_alike (fun other refers => ih other (mentioned name text found other refers)) start
    cases here : q.registry.has name with
    | true =>
      rw [name_mapped depth here, name_mapped depth ((alike.mapped name).mpr (.inl here))]
      exact .ok alike
    | false =>
      cases mapped : known.has name with
      | true => exact name_alike_known alike member here bound mirrors mapped
      | false => exact name_alike_unknown alike member here bound mapped

end Binding

end Mustache
