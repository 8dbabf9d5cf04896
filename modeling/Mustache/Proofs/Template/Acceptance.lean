import Mathlib
import Mustache.Proofs.Partial.Binding
import Mustache.Proofs.Template.Derivation
/-!
The parser accepts exactly its grammar. Main statement: with a resolver that answers every name with
the empty text, parsing succeeds with a forest, and only closing delimiters of two characters or
more come into force, exactly if the text is a template text of the grammar that denotes the forest.
-/
namespace Mustache

/-- A sound text is one that a reader takes in completely. -/
theorem Outline.result_eq_ok_iff {text : String} {forest : Forest String} :
    (Outline.ofText text).result = .ok forest ↔
      ∃ last, Reader.start.run text.toList = .ok last ∧ last.finish = .ok forest := by
  unfold Outline.ofText
  cases ran : Reader.start.run text.toList with
  | error stopped => simp
  | ok last =>
    cases finished : last.finish with
    | error flaw => simp [Reader.outline, Except.mapError, finished]
    | ok tree => simp [Reader.outline, Except.mapError, finished]

/-- The outline of a template text has its forest, and the references of the forest. -/
theorem Outline.ofText_of_topLevel {text : String} {forest : Forest String}
    (topLevel : TopLevel text.toList forest) :
    Outline.ofText text = ⟨forest.targets, .ok forest⟩ := by
  obtain ⟨last, passes, finished⟩ := Reader.topLevel_passes topLevel
  have sound : (Outline.ofText text).result = .ok forest :=
    Outline.result_eq_ok_iff.mpr ⟨last, (Reader.passes_iff.mp passes).1, finished⟩
  have references := Outline.targets_eq_references sound
  generalize Outline.ofText text = o at sound references
  cases o
  cases sound
  cases references
  rfl

namespace Binding

variable {find : String → Except Fault String}

/-- A step of binding that cannot fail. -/
def Succeeds (act : Binding Unit) : Prop := ∀ p, ∃ q, act p = .ok () q

theorem each_succeeds {bindOne : String → Binding Unit} (succeeds : ∀ name, Succeeds (bindOne name))
    (names : List String) : Succeeds (each bindOne names) := by
  induction names with
  | nil => exact fun p => ⟨p, rfl⟩
  | cons name rest ih =>
    intro p
    obtain ⟨middle, first⟩ := succeeds name p
    obtain ⟨last, later⟩ := ih middle
    exact ⟨last, by simp only [each, Bind.bind, EStateM.bind, first, later]⟩

theorem outline_succeeds {bindOne : String → Binding Unit}
    (succeeds : ∀ name, Succeeds (bindOne name)) {o : Outline} {forest : Forest String}
    (sound : o.result = .ok forest) (p : Progress) :
    ∃ elements q, outline bindOne o p = .ok elements q := by
  obtain ⟨q, all⟩ := each_succeeds succeeds o.references p
  refine ⟨forest.map q.registry.refer, q, ?_⟩
  simp only [outline, Bind.bind, EStateM.bind, all, sound]
  rfl

/-- If every source is the empty text, every name can be bound. -/
theorem name_succeeds (blank : ∀ name, find name = .ok "") (depth : Nat) (name : String) :
    Succeeds (Binding.name find (depth + 1) name) := by
  intro p
  cases mapped : p.registry.has name with
  | true => exact ⟨p, name_mapped depth mapped⟩
  | false =>
    rw [name_unmapped depth mapped, blank]
    exact ⟨_, rfl⟩

end Binding

namespace Parser

variable {files : Files} {p : Parser} {text : String}

theorem parse_succeeds (blank : ∀ name, p.resolver.find files name = .ok "")
    {forest : Forest String} (sound : (Outline.ofText text).result = .ok forest) :
    ∃ elements, (p.parse files text).result = .ok elements ∧ elements.map (·.name) = forest := by
  obtain ⟨elements, q, bound⟩ := Binding.outline_succeeds
    (Binding.name_succeeds blank (p.resolver.weight files + text.length)) sound ⟨p.registry, []⟩
  have parsed : (p.parse files text).result = .ok elements := by simp only [parse, depth, bound]
  refine ⟨elements, parsed, ?_⟩
  have same := parse_names parsed
  rw [sound] at same
  exact (Except.ok.inj same).symm

/-- A template text without references needs no partials and leaves the parser as it is. -/
theorem parse_of_topLevel {forest : Forest String} (topLevel : TopLevel text.toList forest)
    (free : forest.targets = []) :
    p.parse files text = ⟨.ok (forest.map p.registry.refer), p, []⟩ := by
  have outlined := Outline.ofText_of_topLevel topLevel
  rw [free] at outlined
  rw [parse, outlined]
  rfl

/-- Whether only closing delimiters of two characters or more are in force while a text is read. -/
def ReadsWide (text : String) : Prop :=
  ∀ before after r, text.toList = before ++ after → Reader.start.run before = .ok r →
    2 ≤ r.delimiters.closing.length

/-- The texts that are parsed under such delimiters, and what they are parsed to, are those that the
grammar derives. -/
theorem parse_iff_topLevel (blank : ∀ name, p.resolver.find files name = .ok "") (text : String)
    (forest : Forest String) :
    ((∃ elements, (p.parse files text).result = .ok elements ∧ elements.map (·.name) = forest) ∧
      ReadsWide text) ↔ TopLevel text.toList forest := by
  constructor
  · rintro ⟨⟨elements, parsed, rfl⟩, wide⟩
    obtain ⟨last, ran, finished⟩ := Outline.result_eq_ok_iff.mp (parse_names parsed)
    exact (Reader.passes_iff.mpr ⟨ran, wide⟩).topLevel finished
  · intro topLevel
    obtain ⟨last, passes, finished⟩ := Reader.topLevel_passes topLevel
    obtain ⟨ran, wide⟩ := Reader.passes_iff.mp passes
    exact ⟨parse_succeeds blank (Outline.result_eq_ok_iff.mpr ⟨last, ran, finished⟩), wide⟩

/-- A change of delimiters ends with the section it stands in. -/
theorem parse_scoped_delimiters :
    ∃ elements, ((ofResolver (.table [] (.text ""))).parse .none
      "{{#s}}{{=<% %>=}}<%a%><%/s%>{{b}}").result = .ok elements ∧
      elements.map (·.name) = [.block "s" [.escaped "a"], .escaped "b"] := by
  let changed : Delimiters := ⟨['<', '%'], ['%', '>']⟩
  have enters : Tagged .standard "{{#s}}".toList [] (.openBlock "s") :=
    @Tagged.plain _ [] ['#', 's'] _ (by decide) (by decide) (by decide)
      (Tag.ofBody_eq_ok_iff.mp (by cbv))
  have changes : Tagged .standard "{{=<% %>=}}".toList [] (.delimiters changed) :=
    @Tagged.plain _ [] ['=', '<', '%', ' ', '%', '>', '='] _ (by decide) (by decide)
      (by decide) (Tag.ofBody_eq_ok_iff.mp (by cbv))
  have inner : Tagged changed "<%a%>".toList [] (.escaped "a") :=
    @Tagged.plain _ [] ['a'] _ (by decide) (by decide) (by decide)
      (Tag.ofBody_eq_ok_iff.mp (by cbv))
  have leaves : Tagged changed "<%/s%>".toList [] (.close "s") :=
    @Tagged.plain _ [] ['/', 's'] _ (by decide) (by decide) (by decide)
      (Tag.ofBody_eq_ok_iff.mp (by cbv))
  have outer : Tagged .standard "{{b}}".toList [] (.escaped "b") :=
    @Tagged.plain _ [] ['b'] _ (by decide) (by decide) (by decide)
      (Tag.ofBody_eq_ok_iff.mp (by cbv))
  have topLevel : TopLevel "{{#s}}{{=<% %>=}}<%a%><%/s%>{{b}}".toList
      [.block "s" [.escaped "a"], .escaped "b"] := by
    refine ⟨_, [], _, .standard, (List.append_nil _).symm, ?_, by decide, (List.append_nil _).symm⟩
    have body : Level .standard ("{{=<% %>=}}".toList ++ "<%a%>".toList) [.escaped "a"] changed :=
      .leaf (.change (.nil _) changes (by decide)) inner (.escaped "a")
    exact .leaf (.nested (.nil _) enters (.block "s") body leaves) outer (.escaped "b")
  exact ((parse_iff_topLevel (fun _ => rfl) _ _).mpr topLevel).1

end Parser

end Mustache
