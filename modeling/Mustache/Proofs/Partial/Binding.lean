import Mustache.Parser
import Mustache.Proofs.Partial.Growth
/-!
What binding does to a registry. Main statements: however the binding of a name or of an outline
ends, the registry has grown; if it succeeds, every name asked for is mapped, every slot made on the
way is in use, and the references of the element tree point to slots of their names.
-/
namespace Mustache

open Registry

/-- Replacing references by their names undoes their binding. -/
theorem Forest.map_name_refer (r : Registry) (forest : Forest String) :
    (forest.map r.refer).map (·.name) = forest := by
  have same : (fun ref : PartialRef => ref.name) ∘ r.refer = id := rfl
  rw [Forest.map, Forest.map, Element.mapAll_mapAll, same, Element.mapAll_id]

namespace Binding

variable {α β : Type} {find : String → Except Fault String}

/-- How a step of binding may end: the registry has grown, and in success all slots made are in use
and something holds of the result. -/
def Leaves (act : Binding α) (p : Progress) (good : α → Registry → Prop) : Prop :=
  match act p with
  | .ok a q => p.registry.Grows q.registry ∧ p.registry.Settles q.registry ∧ good a q.registry
  | .error _ q => p.registry.Grows q.registry

theorem Leaves.pure {a : α} {p : Progress} {good : α → Registry → Prop}
    (holds : good a p.registry) : Leaves (Pure.pure a) p good :=
  ⟨.refl _, .refl _, holds⟩

theorem Leaves.imp {act : Binding α} {p : Progress} {good better : α → Registry → Prop}
    (ends : Leaves act p good)
    (implies : ∀ a r, p.registry.Grows r → good a r → better a r) : Leaves act p better := by
  unfold Leaves at ends ⊢
  cases ran : act p with
  | ok a q =>
    rw [ran] at ends
    exact ⟨ends.1, ends.2.1, implies a _ ends.1 ends.2.2⟩
  | error fault q =>
    rw [ran] at ends
    exact ends

/-- One step after another. -/
theorem Leaves.bind {act : Binding α} {next : α → Binding β} {p : Progress}
    {good : α → Registry → Prop} {better : β → Registry → Prop} (ends : Leaves act p good)
    (indexed : p.registry.Indexed)
    (continues : ∀ a q, q.registry.Indexed → good a q.registry → Leaves (next a) q better) :
    Leaves (act >>= next) p better := by
  unfold Leaves at ends ⊢
  simp only [Bind.bind, EStateM.bind]
  cases ran : act p with
  | error fault q =>
    rw [ran] at ends
    exact ends
  | ok a q =>
    rw [ran] at ends
    obtain ⟨grown, settled, holds⟩ := ends
    have rest := continues a q (grown.indexed indexed) holds
    unfold Leaves at rest
    cases later : next a q with
    | error fault last =>
      simp only [later] at rest ⊢
      exact grown.trans rest
    | ok b last =>
      simp only [later] at rest ⊢
      exact ⟨grown.trans rest.1, settled.trans rest.2.1 rest.1, rest.2.2⟩

/-- A way to bind names does what it should. -/
def Maps (bindOne : String → Binding Unit) : Prop :=
  ∀ name p, p.registry.Indexed → Leaves (bindOne name) p fun _ r => r.has name = true

theorem each_leaves {bindOne : String → Binding Unit} (maps : Maps bindOne) (names : List String)
    (p : Progress) (indexed : p.registry.Indexed) :
    Leaves (each bindOne names) p fun _ r => ∀ name ∈ names, r.has name = true := by
  induction names generalizing p with
  | nil => exact .pure fun name member => by cases member
  | cons name rest ih =>
    refine (maps name p indexed).bind indexed fun _ q indexed mapped => ?_
    refine (ih q indexed).imp fun _ r grown all other member => ?_
    rcases List.mem_cons.mp member with same | later
    · subst same
      exact has_mono grown.kept mapped
    · exact all other later

/-- Binding an outline binds all references of its element tree. -/
theorem outline_leaves {bindOne : String → Binding Unit} (maps : Maps bindOne) (o : Outline)
    (faithful : ∀ forest, o.result = .ok forest → forest.targets = o.references) (p : Progress)
    (indexed : p.registry.Indexed) :
    Leaves (outline bindOne o) p fun elements r => ∀ ref ∈ elements.targets, r.Points ref := by
  refine (each_leaves maps o.references p indexed).bind indexed fun _ q indexed mapped => ?_
  cases read : o.result with
  | error located => exact .refl _
  | ok forest =>
    refine ⟨.refl _, .refl _, ?_⟩
    intro ref member
    rw [Forest.targets_map, faithful forest read] at member
    obtain ⟨name, noted, eq⟩ := List.mem_map.mp member
    rw [← eq]
    exact refer_points indexed (mapped name noted)

/-- An outline is bound exactly if it is one of a sound text, and the names stay as they are. -/
theorem outline_names {bindOne : String → Binding Unit} {o : Outline} {p q : Progress}
    {elements : Forest PartialRef} (bound : outline bindOne o p = .ok elements q) :
    o.result = .ok (elements.map (·.name)) := by
  simp only [outline, Bind.bind, EStateM.bind] at bound
  split at bound
  · cases read : o.result with
    | error located =>
      rw [read] at bound
      cases bound
    | ok forest =>
      rw [read] at bound
      cases bound
      rw [Forest.map_name_refer]
  · cases bound

theorem name_succ (depth : Nat) (name : String) (p : Progress) :
    Binding.name find (depth + 1) name p =
      (if p.registry.has name then pure () else do
        let index ← reserve name
        orRelease name index do
          let text ← source find name
          let elements ← outline (Binding.name find depth) (.ofText text)
          fill index elements : Binding Unit) p := rfl

/-- A name that is mapped already is left alone. -/
theorem name_mapped (depth : Nat) {name : String} {p : Progress}
    (mapped : p.registry.has name = true) : Binding.name find (depth + 1) name p = .ok () p := by
  rw [name_succ, if_pos mapped]
  rfl

/-- A name that is not mapped gets a slot, which is filled with its body or released. -/
theorem name_unmapped (depth : Nat) {name : String} {p : Progress}
    (unmapped : p.registry.has name = false) :
    Binding.name find (depth + 1) name p =
      match find name with
      | .error fault => .error fault
        ⟨(p.registry.reserve name).release name p.registry.slots.length, name :: p.asked⟩
      | .ok text =>
        match outline (Binding.name find depth) (.ofText text)
            ⟨p.registry.reserve name, name :: p.asked⟩ with
        | .error fault q =>
          .error fault { q with registry := q.registry.release name p.registry.slots.length }
        | .ok elements q =>
          .ok () { q with registry := q.registry.fill p.registry.slots.length elements } := by
  rw [name_succ, if_neg (by simp [unmapped])]
  simp only [Bind.bind, EStateM.bind, reserve, orRelease, source]
  cases find name with
  | error fault => rfl
  | ok text =>
    dsimp only
    cases outline (Binding.name find depth) (.ofText text)
      ⟨p.registry.reserve name, name :: p.asked⟩ <;> rfl

/-- How binding a name ends, from how binding the references of its source does. -/
theorem name_leaves (depth : Nat) {name : String} {p : Progress} {good : Registry → Prop}
    (kept : p.registry.has name = true → good p.registry)
    (filled : ∀ text, find name = .ok text → p.registry.index? name = none →
      Leaves (outline (Binding.name find depth) (.ofText text))
        ⟨p.registry.reserve name, name :: p.asked⟩ fun elements r =>
          (∀ ref ∈ elements.targets, r.Points ref) ∧
            good (r.fill p.registry.slots.length elements)) :
    Leaves (Binding.name find (depth + 1) name) p fun _ r => good r := by
  unfold Leaves
  cases mapped : p.registry.has name with
  | true =>
    rw [name_mapped depth mapped]
    exact ⟨.refl _, .refl _, kept mapped⟩
  | false =>
    have unknown : p.registry.index? name = none := has_eq_false_iff.mp mapped
    rw [name_unmapped depth mapped]
    cases found : find name with
    | error fault => exact (Grows.refl _).release unknown
    | ok text =>
      have ends := filled text found unknown
      unfold Leaves at ends
      cases ran : outline (Binding.name find depth) (.ofText text)
          ⟨p.registry.reserve name, name :: p.asked⟩ with
      | error fault q =>
        simp only [ran] at ends ⊢
        exact ends.release unknown
      | ok elements q =>
        simp only [ran] at ends ⊢
        obtain ⟨grown, settled, pointing, holds⟩ := ends
        exact ⟨grown.fill pointing unknown, settled.fill grown elements, holds⟩

theorem name_maps (find : String → Except Fault String) (depth : Nat) :
    Maps (Binding.name find depth) := by
  induction depth with
  | zero => exact fun name p indexed => .refl _
  | succ depth ih =>
    intro name p indexed
    refine name_leaves depth id fun text _ _ => ?_
    have ends := outline_leaves ih (.ofText text) (fun _ => Outline.targets_eq_references)
      ⟨p.registry.reserve name, name :: p.asked⟩ (reserve_indexed indexed name)
    refine ends.imp fun elements r grown pointing => ⟨pointing, ?_⟩
    simp [has, reserved_index grown]

end Binding

/-- What a parse leaves of a parser: a grown registry, and for an element tree one in which no slot
was made in vain and in which the references of the tree point to slots of their names. -/
structure Parsing.Extends (before : Parser) (parsing : Parsing (Forest PartialRef)) : Prop where
  grows : before.registry.Grows parsing.parser.registry
  settles : ∀ elements, parsing.result = .ok elements →
    before.registry.Settles parsing.parser.registry
  points : ∀ elements, parsing.result = .ok elements →
    ∀ ref ∈ elements.targets, parsing.parser.registry.Points ref

namespace Parser

variable {files : Files} {p : Parser}

theorem parse_extends (indexed : p.registry.Indexed) (text : String) :
    (p.parse files text).Extends p := by
  have maps : Binding.Maps (Binding.name (p.resolver.find files ·) (p.depth files text)) :=
    Binding.name_maps _ _
  have ends := Binding.outline_leaves maps (.ofText text) (fun _ => Outline.targets_eq_references)
    ⟨p.registry, []⟩ indexed
  unfold Binding.Leaves at ends
  simp only [parse]
  split
  · rename_i elements q ran
    rw [ran] at ends
    refine ⟨ends.1, fun _ _ => ends.2.1, ?_⟩
    intro tree same
    cases same
    exact ends.2.2
  · rename_i fault q ran
    rw [ran] at ends
    exact ⟨ends, nofun, nofun⟩

theorem parse_names {text : String} {elements : Forest PartialRef}
    (parsed : (p.parse files text).result = .ok elements) :
    (Outline.ofText text).result = .ok (elements.map (·.name)) := by
  simp only [parse] at parsed
  split at parsed
  · rename_i bound
    cases parsed
    exact Binding.outline_names bound
  · cases parsed

/-- A failure before any text is read changes nothing. -/
theorem extends_of_error (fault : Fault) (asked : List String) :
    Parsing.Extends p ⟨.error fault, p, asked⟩ :=
  ⟨.refl _, nofun, nofun⟩

theorem parseBytes_extends (indexed : p.registry.Indexed) (bytes : ByteArray) :
    (p.parseBytes files bytes).Extends p := by
  unfold parseBytes
  split
  · exact parse_extends indexed _
  · exact extends_of_error _ _

theorem parseFile_extends (indexed : p.registry.Indexed) (path : String) :
    (p.parseFile files path).Extends p := by
  unfold parseFile
  split
  · exact parse_extends indexed _
  · exact extends_of_error _ _

theorem parseByName_extends (indexed : p.registry.Indexed) (name : String) :
    (p.parseByName files name).Extends p := by
  unfold parseByName
  split
  · rename_i text _
    have parsed : (p.parse files text).Extends p := parse_extends indexed text
    exact ⟨parsed.grows, parsed.settles, parsed.points⟩
  · exact extends_of_error _ _

/-- Parsing a name parses its source, if there is one. -/
theorem parseByName_cases (files : Files) (p : Parser) (name : String) :
    (p.parseByName files name).parser = p ∨
      ∃ text, (p.parseByName files name).parser = (p.parse files text).parser := by
  unfold parseByName
  split
  · exact .inr ⟨_, rfl⟩
  · exact .inl rfl

theorem parseBytes_cases (files : Files) (p : Parser) (bytes : ByteArray) :
    (p.parseBytes files bytes).parser = p ∨
      ∃ text, (p.parseBytes files bytes).parser = (p.parse files text).parser := by
  unfold parseBytes
  split
  · exact .inr ⟨_, rfl⟩
  · exact .inl rfl

theorem parseFile_cases (files : Files) (p : Parser) (path : String) :
    (p.parseFile files path).parser = p ∨
      ∃ text, (p.parseFile files path).parser = (p.parse files text).parser := by
  unfold parseFile
  split
  · exact .inr ⟨_, rfl⟩
  · exact .inl rfl

end Parser

end Mustache
