import Mustache.Proofs.Partial.Binding
/-!
Which sources binding depends on. Main statement: as long as the bound on the nesting is not
reached, a parse depends only on the sources of the names that it asks for, so it is the same for
any other supplier of partials that answers these names in the same way.
-/
namespace Mustache

namespace Binding

variable {α β : Type} {find find' : String → Except Fault String}

/-- The state that a step of binding ends in. -/
def final : EStateM.Result Fault Progress α → Progress
  | .ok _ q => q
  | .error _ q => q

/-- Whether a step of binding ended before it reached the bound on the nesting. -/
def Shallow : EStateM.Result Fault Progress α → Prop
  | .ok _ _ => True
  | .error fault _ => fault ≠ .nestedTooDeep

/-- Two steps of binding are the same if the first one does not reach the bound on the nesting, and
the suppliers answer alike what it asks for. -/
structure Tracks (find find' : String → Except Fault String) (act act' : Binding α) : Prop where
  grows : ∀ p, p.asked ⊆ (final (act p)).asked
  same : ∀ p, Shallow (act p) → (∀ name ∈ (final (act p)).asked, find' name = find name) →
    act' p = act p

namespace Tracks

theorem refl {act : Binding α} (grows : ∀ p, p.asked ⊆ (final (act p)).asked) :
    Tracks find find' act act :=
  ⟨grows, fun _ _ _ => rfl⟩

theorem bind {act act' : Binding α} {next next' : α → Binding β}
    (first : Tracks find find' act act') (rest : ∀ a, Tracks find find' (next a) (next' a)) :
    Tracks find find' (act >>= next) (act' >>= next') where
  grows p := by
    have grown := first.grows p
    simp only [Bind.bind, EStateM.bind]
    cases ran : act p with
    | error fault q =>
      rw [ran] at grown
      exact grown
    | ok a q =>
      rw [ran] at grown
      exact List.Subset.trans grown ((rest a).grows q)
  same p shallow agree := by
    have same := first.same p
    simp only [Bind.bind, EStateM.bind] at shallow agree ⊢
    cases ran : act p with
    | error fault q =>
      rw [ran] at same shallow agree
      rw [same shallow agree]
    | ok a q =>
      rw [ran] at same shallow agree
      rw [same trivial fun name member => agree name ((rest a).grows q member)]
      exact (rest a).same q shallow agree

end Tracks

theorem each_tracks {bindOne bindOne' : String → Binding Unit}
    (tracks : ∀ name, Tracks find find' (bindOne name) (bindOne' name)) (names : List String) :
    Tracks find find' (each bindOne names) (each bindOne' names) := by
  induction names with
  | nil => exact .refl fun p => List.Subset.refl p.asked
  | cons name rest ih => exact (tracks name).bind fun _ => ih

theorem outline_tracks {bindOne bindOne' : String → Binding Unit}
    (tracks : ∀ name, Tracks find find' (bindOne name) (bindOne' name)) (o : Outline) :
    Tracks find find' (outline bindOne o) (outline bindOne' o) := by
  refine (each_tracks tracks o.references).bind fun _ => .refl fun p => ?_
  cases o.result with
  | ok forest => exact List.Subset.refl p.asked
  | error located => exact List.Subset.refl p.asked

/-- Binding a name that is not mapped asks for it. -/
theorem asked_name {depth : Nat} (tracks : ∀ name, Tracks find find
      (Binding.name find depth name) (Binding.name find depth name)) {name : String} {p : Progress}
    (fresh : p.registry.has name = false) :
    name :: p.asked ⊆ (final (Binding.name find (depth + 1) name p)).asked := by
  rw [name_unmapped depth fresh]
  cases find name with
  | error fault => exact List.Subset.refl _
  | ok text =>
    have grown := (outline_tracks tracks (.ofText text)).grows
      ⟨p.registry.reserve name, name :: p.asked⟩
    dsimp only
    generalize outline (Binding.name find depth) (.ofText text)
      ⟨p.registry.reserve name, name :: p.asked⟩ = result at grown ⊢
    cases result with
    | ok elements q => exact grown
    | error fault q => exact grown

theorem name_grows (find : String → Except Fault String) (depth : Nat) (name : String)
    (p : Progress) : p.asked ⊆ (final (Binding.name find depth name p)).asked := by
  induction depth generalizing name p with
  | zero => exact List.Subset.refl p.asked
  | succ depth ih =>
    cases mapped : p.registry.has name with
    | true =>
      rw [name_mapped depth mapped]
      exact List.Subset.refl p.asked
    | false =>
      have asked := asked_name (fun name => .refl (ih name)) mapped
      exact List.Subset.trans (List.subset_cons_self name p.asked) asked

/-- More room makes no difference to a name, unless there was too little. -/
theorem name_tracks (find find' : String → Except Fault String) {depth depth' : Nat}
    (room : depth ≤ depth') (name : String) :
    Tracks find find' (Binding.name find depth name) (Binding.name find' depth' name) := by
  induction depth generalizing depth' name with
  | zero => exact ⟨name_grows find 0 name, fun p shallow => absurd rfl shallow⟩
  | succ depth ih =>
    obtain ⟨depth', rfl⟩ : ∃ more, depth' = more + 1 := ⟨depth' - 1, by omega⟩
    refine ⟨name_grows find (depth + 1) name, fun p shallow agree => ?_⟩
    cases mapped : p.registry.has name with
    | true => rw [name_mapped depth mapped, name_mapped depth' mapped]
    | false =>
      have asked := asked_name (fun name => .refl (name_grows find depth name)) mapped
      have answer := agree name (asked List.mem_cons_self)
      rw [name_unmapped depth mapped, name_unmapped depth' mapped, answer]
      rw [name_unmapped depth mapped] at shallow agree
      cases found : find name with
      | error fault => rfl
      | ok text =>
        have inner := (outline_tracks (ih (Nat.le_of_succ_le_succ room)) (.ofText text)).same
          ⟨p.registry.reserve name, name :: p.asked⟩
        rw [found] at shallow agree
        dsimp only at shallow agree ⊢
        generalize outline (Binding.name find depth) (.ofText text)
          ⟨p.registry.reserve name, name :: p.asked⟩ = result at inner shallow agree
        cases result with
        | ok elements q => rw [inner trivial agree]
        | error fault q => rw [inner shallow agree]

end Binding

namespace Parser

variable {files files' : Files} {p : Parser}

/-- Binding the references of a text, with so many partials inside one another at most. -/
def bindWithin (p : Parser) (depth : Nat) (files : Files) (text : String) :
    EStateM.Result Fault Progress (Forest PartialRef) :=
  Binding.outline (Binding.name (p.resolver.find files ·) depth) (.ofText text) ⟨p.registry, []⟩

/-- What the end of binding leaves behind. -/
def settle (p : Parser) :
    EStateM.Result Fault Progress (Forest PartialRef) → Parsing (Forest PartialRef)
  | .ok elements q => ⟨.ok elements, { p with registry := q.registry }, q.asked.reverse⟩
  | .error fault q => ⟨.error fault, { p with registry := q.registry }, q.asked.reverse⟩

theorem parse_eq_settle (p : Parser) (files : Files) (text : String) :
    p.parse files text = p.settle (p.bindWithin (p.depth files text) files text) := by
  unfold parse bindWithin
  dsimp only
  generalize Binding.outline _ _ _ = result
  cases result <;> rfl

theorem shallow_of_settle {result : EStateM.Result Fault Progress (Forest PartialRef)}
    (ends : (p.settle result).result ≠ .error .nestedTooDeep) : Binding.Shallow result := by
  cases result with
  | ok elements q => trivial
  | error fault q => exact fun deep => ends (congrArg Except.error deep)

theorem mem_asked_settle {result : EStateM.Result Fault Progress (Forest PartialRef)}
    {name : String} (asked : name ∈ (Binding.final result).asked) :
    name ∈ (p.settle result).asked := by
  cases result with
  | ok elements q => exact List.mem_reverse.mpr asked
  | error fault q => exact List.mem_reverse.mpr asked

/-- A parse that has room enough depends only on the sources that it asks for, whatever room
another one has, as long as that is enough, too. -/
theorem parse_congr {text : String} (ends : (p.parse files text).result ≠ .error .nestedTooDeep)
    (ends' : (p.parse files' text).result ≠ .error .nestedTooDeep)
    (agree : ∀ name ∈ (p.parse files text).asked,
      p.resolver.find files' name = p.resolver.find files name) :
    p.parse files' text = p.parse files text := by
  rw [parse_eq_settle] at ends ends' agree ⊢
  rw [parse_eq_settle]
  have shallow := shallow_of_settle ends
  have answers (name : String) (asked : name ∈ (Binding.final
      (p.bindWithin (p.depth files text) files text)).asked) := agree name (mem_asked_settle asked)
  have tracks {files files' : Files} {depth depth' : Nat} (room : depth ≤ depth') :=
    Binding.outline_tracks (Binding.name_tracks (p.resolver.find files ·)
      (p.resolver.find files' ·) room) (.ofText text)
  rcases Nat.le_total (p.depth files text) (p.depth files' text) with wider | narrower
  · have same : p.bindWithin (p.depth files' text) files' text = _ :=
      (tracks wider).same ⟨p.registry, []⟩ shallow answers
    rw [same]
    rfl
  · -- There is less room for the other parse, but enough: it is the same with as much room.
    have level : p.bindWithin (p.depth files text) files' text = _ :=
      (tracks (Nat.le_refl _)).same ⟨p.registry, []⟩ shallow answers
    have same : p.bindWithin (p.depth files text) files' text = _ :=
      (tracks narrower).same ⟨p.registry, []⟩ (shallow_of_settle ends') fun _ _ => rfl
    rw [level] at same
    exact congrArg p.settle same.symm

end Parser

end Mustache
