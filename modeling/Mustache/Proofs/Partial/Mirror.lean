import Mustache.Proofs.Partial.Binding
/-!
Registries that mirror their sources. As long as a supplier of partials does not change, a registry
that has only been filled by binding holds, under each name, what the source of that name comes down
to. Main statements: binding keeps to this; a name that cannot be bound has its slot released; and
so the registry of a parser mirrors its sources after any operations none of which had to release a
slot, whether or not they succeeded.
-/
namespace Mustache

namespace Registry

variable {find : String → Except Fault String} {before after r : Registry}

/-- A body that the source of a name comes down to, with its references bound in the registry. -/
def IsBody (find : String → Except Fault String) (r : Registry) (name : String)
    (content : Content) : Prop :=
  ∃ text forest, find name = .ok text ∧ (Outline.ofText text).result = .ok forest ∧
    content = .parsed (forest.map r.refer) ∧ ∀ other ∈ forest.targets, r.has other = true

/-- Every slot that is filled holds the body of its name. -/
def Reads (find : String → Except Fault String) (r : Registry) : Prop :=
  ∀ (index : Nat) (slot : Slot) (content : Content), r.slots[index]? = some slot →
    slot.content = some content → r.IsBody find slot.name content

/-- A registry in which every mapped name leads to its body. -/
structure Mirrors (find : String → Except Fault String) (r : Registry) : Prop where
  indexed : r.Indexed
  filled : ∀ name index, r.index? name = some index → (r.content? index).isSome
  reads : r.Reads find

theorem has_eq_true_iff {name : String} :
    r.has name = true ↔ ∃ index, r.index? name = some index :=
  Option.isSome_iff_exists

/-- A mapped name is bound in the same way as long as it stays mapped to its slot. -/
theorem refer_eq {name : String} {index : Nat} (mapped : before.index? name = some index)
    (kept : after.index? name = some index) : after.refer name = before.refer name := by
  simp [refer, mapped, kept]

theorem IsBody.mono {name : String} {content : Content} (isBody : before.IsBody find name content)
    (kept : ∀ name index, before.index? name = some index → after.index? name = some index) :
    after.IsBody find name content := by
  obtain ⟨text, forest, found, sound, rfl, mapped⟩ := isBody
  refine ⟨text, forest, found, sound, ?_, fun other member => has_mono kept (mapped other member)⟩
  refine congrArg Content.parsed (Forest.map_congr fun other member => ?_)
  obtain ⟨index, here⟩ := has_eq_true_iff.mp (mapped other member)
  exact (refer_eq here (kept other index here)).symm

theorem empty_reads : empty.Reads find := by
  intro index slot content stands
  cases stands

theorem empty_mirrors : empty.Mirrors find where
  indexed _ _ found := by cases found
  filled _ _ found := by cases found
  reads := empty_reads

theorem Reads.reserve (reads : r.Reads find) {name : String} (unknown : r.index? name = none) :
    (r.reserve name).Reads find := by
  intro index slot content stands held
  rw [reserve_slots, List.getElem?_append] at stands
  split at stands
  · exact (reads index slot content stands held).mono fun _ _ => reserve_kept unknown
  · cases List.mem_singleton.mp (List.mem_of_getElem? stands)
    cases held

/-- Filling an empty slot with the body of its name. -/
theorem Reads.fill (reads : r.Reads find) {name : String} {index : Nat}
    (stands : r.slots[index]? = some ⟨name, none⟩) {elements : Forest PartialRef}
    (isBody : r.IsBody find name (.parsed elements)) : (r.fill index elements).Reads find := by
  intro other slot content stands' held
  have kept : ∀ name index, r.index? name = some index →
      (r.fill index elements).index? name = some index := fun _ _ mapped => mapped
  by_cases same : other = index
  · subst same
    rw [fill_slot_self elements stands rfl] at stands'
    cases stands'
    cases held
    exact isBody.mono kept
  · rw [fill_slot_of_ne r elements same] at stands'
    exact (reads other slot content stands' held).mono kept

/-- Once every slot made on the way is in use, every mapped name has a filled slot. -/
theorem Grows.filled (grown : before.Grows after) (settled : before.Settles after)
    (filled : ∀ name index, before.index? name = some index → (before.content? index).isSome)
    (indexed : before.Indexed) (name : String) (index : Nat)
    (mapped : after.index? name = some index) : (after.content? index).isSome := by
  cases known : before.index? name with
  | some other =>
    have same := grown.kept name other known
    rw [mapped] at same
    cases same
    obtain ⟨slot, stands, _⟩ := indexed name index known
    have old := (List.getElem?_eq_some_iff.mp stands).1
    rw [content?, slot_of_extends grown.slots old]
    exact filled name index known
  | none =>
    obtain ⟨new, slot, stands, _⟩ := grown.fresh name index mapped known
    have inUse := (grown.made index slot new stands).mapped.mpr (settled index slot new stands)
    rwa [content?, stands, Option.bind_some]

/-- What a mapped name stands for. -/
theorem Mirrors.content (mirrors : r.Mirrors find) {name : String} (mapped : r.has name = true) :
    ∃ text forest, find name = .ok text ∧ (Outline.ofText text).result = .ok forest ∧
      r.content? (r.refer name).slot = some (.parsed (forest.map r.refer)) ∧
      ∀ other ∈ forest.targets, r.has other = true := by
  obtain ⟨index, known⟩ := has_eq_true_iff.mp mapped
  have here : (r.refer name).slot = index := by simp [refer, known]
  obtain ⟨slot, stands, rfl⟩ := mirrors.indexed name index known
  obtain ⟨content, holds⟩ := Option.isSome_iff_exists.mp (mirrors.filled slot.name index known)
  have held : slot.content = some content := by rwa [content?, stands] at holds
  obtain ⟨text, forest, found, sound, rfl, mapped⟩ := mirrors.reads index slot content stands held
  exact ⟨text, forest, found, sound, by rw [here, holds], mapped⟩

end Registry

open Registry

namespace Binding

variable {find : String → Except Fault String} {α : Type}

/-- What holds of both kinds holds together. -/
theorem Leaves.and {act : Binding α} {p : Progress} {good good' : α → Registry → Prop}
    (ends : Leaves act p good) (ends' : Leaves act p good') :
    Leaves act p fun a r => good a r ∧ good' a r := by
  unfold Leaves at ends ends' ⊢
  cases ran : act p with
  | ok a q =>
    rw [ran] at ends ends'
    exact ⟨ends.1, ends.2.1, ends.2.2, ends'.2.2⟩
  | error fault q =>
    rw [ran] at ends
    exact ends

/-- A way to bind names that fills slots with the bodies of their names. -/
def Fills (find : String → Except Fault String) (bindOne : String → Binding Unit) : Prop :=
  ∀ name p, p.registry.Indexed → p.registry.Reads find →
    Leaves (bindOne name) p fun _ r => r.Reads find

theorem each_fills {bindOne : String → Binding Unit} (fills : Fills find bindOne)
    (names : List String) (p : Progress) (indexed : p.registry.Indexed)
    (reads : p.registry.Reads find) : Leaves (each bindOne names) p fun _ r => r.Reads find := by
  induction names generalizing p with
  | nil => exact .pure reads
  | cons name rest ih =>
    exact (fills name p indexed reads).bind indexed fun _ q indexed reads => ih q indexed reads

/-- Binding an outline binds its element tree as the registry does in the end. -/
theorem outline_fills {bindOne : String → Binding Unit} (maps : Maps bindOne)
    (fills : Fills find bindOne) (text : String) (p : Progress) (indexed : p.registry.Indexed)
    (reads : p.registry.Reads find) :
    Leaves (outline bindOne (.ofText text)) p fun elements r => r.Reads find ∧
      ∃ forest, (Outline.ofText text).result = .ok forest ∧ elements = forest.map r.refer ∧
        ∀ other ∈ forest.targets, r.has other = true := by
  refine ((each_leaves maps _ p indexed).and (each_fills fills _ p indexed reads)).bind indexed
    fun _ q _ ⟨mapped, reads⟩ => ?_
  cases sound : (Outline.ofText text).result with
  | error located => exact .refl _
  | ok forest =>
    refine ⟨.refl _, .refl _, reads, forest, rfl, rfl, ?_⟩
    rw [Outline.targets_eq_references sound]
    exact mapped

theorem name_fills (find : String → Except Fault String) (depth : Nat) :
    Fills find (Binding.name find depth) := by
  induction depth with
  | zero => exact fun name p indexed reads => .refl _
  | succ depth ih =>
    intro name p indexed reads
    refine name_leaves depth (fun _ => reads) fun text found unknown => ?_
    have reserved : (p.registry.reserve name).Indexed := reserve_indexed indexed name
    have pointing := outline_leaves (name_maps find depth) (.ofText text)
      (fun _ => Outline.targets_eq_references) ⟨_, name :: p.asked⟩ reserved
    have filling := outline_fills (name_maps find depth) ih text ⟨_, name :: p.asked⟩ reserved
      (reads.reserve unknown)
    refine (pointing.and filling).imp
      fun elements r grown ⟨points, reads, names, sound, bound, all⟩ =>
        ⟨points, reads.fill (reserved_slot grown) ?_⟩
    exact ⟨text, names, found, sound, congrArg Content.parsed bound, all⟩

/-- A name that cannot be bound has its slot released. -/
theorem name_fails {depth : Nat} {name : String} {p q : Progress} {fault : Fault}
    (indexed : p.registry.Indexed)
    (failed : Binding.name find (depth + 1) name p = .error fault q) :
    ¬ p.registry.Settles q.registry := by
  have released {bound : Registry} (grown : (p.registry.reserve name).Grows bound) :
      ¬ p.registry.Settles (bound.release name p.registry.slots.length) := by
    intro settles
    have inUse := settles p.registry.slots.length ⟨name, none⟩ (Nat.le_refl _)
      (by rw [release_slots, reserved_slot grown])
    rw [index?_release, if_pos ⟨rfl, reserved_index grown⟩] at inUse
    cases inUse
  cases mapped : p.registry.has name with
  | true =>
    rw [name_mapped depth mapped] at failed
    cases failed
  | false =>
    rw [name_unmapped depth mapped] at failed
    cases found : find name with
    | error fault =>
      rw [found] at failed
      cases failed
      exact released (.refl _)
    | ok text =>
      have ends := outline_leaves (name_maps find depth) (.ofText text)
        (fun _ => Outline.targets_eq_references) ⟨p.registry.reserve name, name :: p.asked⟩
        (reserve_indexed indexed name)
      unfold Leaves at ends
      rw [found] at failed
      cases ran : outline (Binding.name find depth) (.ofText text)
          ⟨p.registry.reserve name, name :: p.asked⟩ with
      | ok elements q =>
        simp only [ran] at failed
        cases failed
      | error fault q =>
        simp only [ran] at failed ends
        cases failed
        exact released ends

theorem each_fails {depth : Nat} {names : List String} {p q : Progress} {fault : Fault}
    (indexed : p.registry.Indexed)
    (failed : each (Binding.name find (depth + 1)) names p = .error fault q) :
    ¬ p.registry.Settles q.registry := by
  induction names generalizing p with
  | nil => cases failed
  | cons name rest ih =>
    have first := name_maps find (depth + 1) name p indexed
    unfold Leaves at first
    simp only [each, Bind.bind, EStateM.bind] at failed
    cases ran : Binding.name find (depth + 1) name p with
    | error fault middle =>
      rw [ran] at failed
      cases failed
      exact name_fails indexed ran
    | ok _ middle =>
      rw [ran] at failed first
      refine mt (fun settles index slot new stands => ?_)
        (ih (first.1.indexed indexed) failed)
      exact settles index slot (Nat.le_trans first.1.slots.length_le new) stands

end Binding

namespace Parser

variable {files : Files} {p : Parser} {text : String}

/-- What a parse makes of a text, in the registry that it leaves. -/
theorem parse_bound (mirrors : p.registry.Mirrors (p.resolver.find files ·))
    {elements : Forest PartialRef} (parsed : (p.parse files text).result = .ok elements) :
    ∃ forest, (Outline.ofText text).result = .ok forest ∧
      elements = forest.map (p.parse files text).parser.registry.refer ∧
      ∀ other ∈ forest.targets, (p.parse files text).parser.registry.has other = true := by
  have ends := Binding.outline_fills (Binding.name_maps _ (p.depth files text))
    (Binding.name_fills (p.resolver.find files ·) (p.depth files text)) text ⟨p.registry, []⟩
    mirrors.indexed mirrors.reads
  unfold Binding.Leaves at ends
  simp only [parse] at parsed ⊢
  split at parsed
  · rename_i tree q ran
    rw [ran] at ends
    cases parsed
    exact ends.2.2.2
  · cases parsed

/-- A parse that releases no slot leaves a registry that mirrors its sources, even if it fails. -/
theorem parse_mirrors (mirrors : p.registry.Mirrors (p.resolver.find files ·))
    (settles : p.registry.Settles (p.parse files text).parser.registry) :
    (p.parse files text).parser.registry.Mirrors (p.resolver.find files ·) := by
  have extended : (p.parse files text).Extends p := parse_extends mirrors.indexed text
  have grown := extended.grows
  refine ⟨grown.indexed mirrors.indexed,
    grown.filled settles mirrors.filled mirrors.indexed, ?_⟩
  have ends := Binding.each_fills (Binding.name_fills (p.resolver.find files ·)
    (p.depth files text)) (Outline.ofText text).references ⟨p.registry, []⟩ mirrors.indexed
    mirrors.reads
  unfold Binding.Leaves at ends
  simp only [parse, Binding.outline, Bind.bind, EStateM.bind] at settles ⊢
  cases ran : Binding.each (Binding.name (p.resolver.find files ·) (p.depth files text))
      (Outline.ofText text).references ⟨p.registry, []⟩ with
  | error fault q =>
    rw [ran] at settles
    exact (Binding.each_fails mirrors.indexed ran settles).elim
  | ok _ q =>
    rw [ran] at ends
    cases (Outline.ofText text).result with
    | error located => exact ends.2.2
    | ok forest => exact ends.2.2

end Parser

end Mustache
