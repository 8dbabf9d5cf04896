import Mathlib
import Mustache.Proofs.Partial.Cache
import Mustache.Proofs.Partial.Evolution
import Mustache.Proofs.Render.Mirrored
/-!
The partials that a parser has read before make no difference. Main statement: over a table of
sources that does not change, a parser after any parses none of which released a slot, and a parser
that knows nothing yet, parse a text alike. Both succeed or fail with the same fault; the forests
are equal up to slot numbers; and the two templates are rendered and streamed in the same way.
-/
namespace Mustache

open Registry

/-- The names that a source mentions. -/
def Source.mentions : Source → List String
  | .text content => (Outline.ofText content).references
  | _ => []

theorem Source.length_mentions_le (s : Source) : s.mentions.length ≤ s.weight := by
  cases s with
  | text content => exact Outline.length_references_le content
  | missing | failing => exact Nat.le_refl 0

namespace Resolver

variable {entries : List (String × Source)} {otherwise : Source}

/-- The names that the sources of a table mention. -/
def mentions (entries : List (String × Source)) (otherwise : Source) : List String :=
  entries.foldr (fun entry total => entry.2.mentions ++ total) otherwise.mentions

theorem length_mentions_le (files : Files) (entries : List (String × Source)) (otherwise : Source) :
    (mentions entries otherwise).length ≤ (table entries otherwise).weight files := by
  induction entries with
  | nil => exact otherwise.length_mentions_le
  | cons entry rest ih =>
    unfold mentions at ih ⊢
    rw [List.foldr_cons, List.length_append]
    exact Nat.add_le_add entry.2.length_mentions_le ih

theorem mentions_of_lookup {name other : String}
    (refers : other ∈ ((entries.lookup name).getD otherwise).mentions) :
    other ∈ mentions entries otherwise := by
  induction entries with
  | nil => exact refers
  | cons entry rest ih =>
    rw [mentions, List.foldr_cons, List.mem_append]
    rw [List.lookup_cons] at refers
    split at refers
    · exact .inl refers
    · exact .inr (ih refers)

/-- What a source that is found refers to is mentioned in the table. -/
theorem mentions_of_find {files : Files} {name text other : String}
    (found : (table entries otherwise).find files name = .ok text)
    (refers : other ∈ (Outline.ofText text).references) : other ∈ mentions entries otherwise := by
  have read : ((entries.lookup name).getD otherwise).read name = .ok text := found
  have here : other ∈ ((entries.lookup name).getD otherwise).mentions := by
    cases source : (entries.lookup name).getD otherwise with
    | text content =>
      rw [source] at read
      cases read
      exact refers
    | missing | failing =>
      rw [source] at read
      cases read
  exact mentions_of_lookup here

end Resolver

namespace Parser

variable {files : Files} {entries : List (String × Source)} {otherwise : Source} {p : Parser}
  {text : String}

/-- A parser after parses of texts and of names none of which had to release a slot. They may have
failed nevertheless, if the text itself was at fault. -/
inductive Undisturbed (files : Files) (resolver : Resolver) : Parser → Prop where
  | fresh : Undisturbed files resolver (.ofResolver resolver)
  | parse {p : Parser} (text : String) : Undisturbed files resolver p →
      p.registry.Settles (p.parse files text).parser.registry →
      Undisturbed files resolver (p.parse files text).parser
  | parseByName {p : Parser} (name : String) : Undisturbed files resolver p →
      p.registry.Settles (p.parseByName files name).parser.registry →
      Undisturbed files resolver (p.parseByName files name).parser

theorem parse_resolver (p : Parser) (text : String) :
    (p.parse files text).parser.resolver = p.resolver := by
  simp only [parse]
  split <;> rfl

theorem Undisturbed.mirrors {resolver : Resolver} (undisturbed : p.Undisturbed files resolver) :
    p.resolver = resolver ∧ p.registry.Mirrors (resolver.find files ·) := by
  induction undisturbed with
  | fresh => exact ⟨rfl, empty_mirrors⟩
  | @parse p text _ settles ih =>
    obtain ⟨rfl, mirrors⟩ := ih
    exact ⟨parse_resolver p text, parse_mirrors mirrors settles⟩
  | @parseByName p name _ settles ih =>
    obtain ⟨rfl, mirrors⟩ := ih
    rcases parseByName_cases files p name with same | ⟨text, same⟩
    · rw [same]
      exact ⟨rfl, mirrors⟩
    · rw [same] at settles ⊢
      exact ⟨parse_resolver p text, parse_mirrors mirrors settles⟩

/-- A parser whose registry mirrors a table, and one that knows nothing yet, both parse a text, or
fail with the same fault. -/
theorem parse_alike (table : p.resolver = .table entries otherwise)
    (mirrors : p.registry.Mirrors ((Resolver.table entries otherwise).find files ·))
    (text : String) :
    (∃ elements elements', (p.parse files text).result = .ok elements ∧
      ((ofResolver (.table entries otherwise)).parse files text).result = .ok elements') ∨
    ∃ fault, (p.parse files text).result = .error fault ∧
      ((ofResolver (.table entries otherwise)).parse files text).result = .error fault := by
  obtain ⟨resolver, registry⟩ := p
  cases table
  let names := (Outline.ofText text).references ++ Resolver.mentions entries otherwise
  have start : Binding.Alike registry names
      ((ofResolver (.table entries otherwise)).depth files text) ⟨registry, []⟩ ⟨.empty, []⟩ := by
    refine ⟨fun name => ⟨.inr, ?_⟩, ?_⟩
    · rintro (impossible | known)
      · cases impossible
      · exact known
    · have fewer : unmapped names .empty ≤ (Outline.ofText text).references.length +
          (Resolver.mentions entries otherwise).length :=
        Nat.le_trans List.countP_le_length (Nat.le_of_eq List.length_append)
      have written := Outline.length_references_le text
      have listed := Resolver.length_mentions_le files entries otherwise
      simp only [depth, ofResolver]
      omega
  have mentioned (name found : String)
      (here : (Resolver.table entries otherwise).find files name = .ok found) (other : String)
      (refers : other ∈ (Outline.ofText found).references) : other ∈ names :=
    List.mem_append_right _ (Resolver.mentions_of_find here refers)
  have ends := Binding.outline_alike (o := .ofText text) (fun name refers =>
    Binding.name_alike mirrors mentioned _ name (List.mem_append_left _ refers)) start
  simp only [parse, depth, ofResolver] at ends ⊢
  generalize Binding.outline _ _ (Progress.mk registry []) = result,
    Binding.outline _ _ (Progress.mk .empty []) = result' at ends ⊢
  cases ends with
  | ok => exact .inl ⟨_, _, rfl, rfl⟩
  | error => exact .inr ⟨_, rfl, rfl⟩

/-- Over a table that does not change, a parser after any parses that released no slot, and a parser
that knows nothing yet, parse a text alike: both fail with the same fault, or make the same forest
up to slot numbers, which renders and streams in the same way from both, with any fuel. -/
theorem parse_transparent (undisturbed : p.Undisturbed files (.table entries otherwise))
    (text : String) :
    (p.parse files text).result.map (Forest.map (·.name)) =
      ((ofResolver (.table entries otherwise)).parse files text).result.map
        (Forest.map (·.name)) ∧
    ∀ elements elements', (p.parse files text).result = .ok elements →
      ((ofResolver (.table entries otherwise)).parse files text).result = .ok elements' →
      ∀ (lib lib' : Library) (id id' : ParserId),
        lib.parser? id = some (p.parse files text).parser →
        lib'.parser? id' = some ((ofResolver (.table entries otherwise)).parse files text).parser →
        ∀ (fuel : Nat) (context : Context),
          (∀ out, lib.renderOnto fuel out ⟨elements, some id⟩ context =
            lib'.renderOnto fuel out ⟨elements', some id'⟩ context) ∧
          ∀ {σ ε : Type} (sink : Sink σ ε),
            lib.stream fuel sink ⟨elements, some id⟩ context =
              lib'.stream fuel sink ⟨elements', some id'⟩ context := by
  obtain ⟨table, mirrors⟩ := undisturbed.mirrors
  constructor
  · rcases parse_alike table mirrors text with
      ⟨elements, elements', parsed, parsed'⟩ | ⟨fault, failed, failed'⟩
    · have sound := parse_names parsed
      rw [parse_names parsed'] at sound
      rw [parsed, parsed']
      exact congrArg Except.ok (Except.ok.inj sound).symm
    · rw [failed, failed']
  · intro elements elements' parsed parsed' lib lib' id id' found found' fuel context
    have fresh : (ofResolver (.table entries otherwise)).registry.Mirrors
      ((ofResolver (.table entries otherwise)).resolver.find files ·) := empty_mirrors
    have here : p.registry.Mirrors (p.resolver.find files ·) := by rwa [table]
    obtain ⟨names, sound, rfl, mapped⟩ := parse_bound here parsed
    obtain ⟨names', sound', rfl, mapped'⟩ := parse_bound fresh parsed'
    rw [sound] at sound'
    cases sound'
    have after := parse_mirrors here ((parse_extends here.indexed text).settles _ parsed)
    have after' := parse_mirrors fresh ((parse_extends fresh.indexed text).settles _ parsed')
    rw [table] at after
    have mirrored : lib.Mirrored _ lib' (some id) (some id') _ _ :=
      ⟨Library.content?_at found, Library.content?_at found', after, after'⟩
    have walked {σ ε : Type} (sink : Sink σ ε) :=
      Walk.forest_mirrored mirrored sink fuel context names mapped mapped'
    refine ⟨fun out => ?_, fun sink => ?_⟩
    · simp only [Library.renderOnto, walked]
    · simp only [Library.stream, Walk.streamed, walked]

/-- Two partials that refer to each other. -/
def entwined : Resolver :=
  .table [("a", .text "1{{>b}}"), ("b", .text "2{{^stop}}{{>a}}{{/stop}}")] (.missing "unknown")

/-- A parser that has read both for another text gives the second one another slot than a parser
that has not. -/
theorem parse_transparent_entwined :
    (((ofResolver entwined).parse .none "{{>a}}").parser.parse .none "{{>b}}").result =
      .ok [.reference ⟨"b", 1⟩] ∧
    ((ofResolver entwined).parse .none "{{>b}}").result = .ok [.reference ⟨"b", 0⟩] ∧
    ∀ fuel context, (Library.mk
        [(((ofResolver entwined).parse .none "{{>a}}").parser.parse .none "{{>b}}").parser]).render
          fuel ⟨[.reference ⟨"b", 1⟩], some 0⟩ context =
      (Library.mk [((ofResolver entwined).parse .none "{{>b}}").parser]).render
        fuel ⟨[.reference ⟨"b", 0⟩], some 0⟩ context := by
  have first : ((ofResolver entwined).parse .none "{{>a}}").result = .ok [.reference ⟨"a", 0⟩] := by
    cbv
  have warm : (((ofResolver entwined).parse .none "{{>a}}").parser.parse .none "{{>b}}").result =
      .ok [.reference ⟨"b", 1⟩] := by cbv
  have cold : ((ofResolver entwined).parse .none "{{>b}}").result = .ok [.reference ⟨"b", 0⟩] := by
    cbv
  have indexed : (ofResolver entwined).registry.Indexed := fun _ _ mapped => by cases mapped
  have undisturbed :
      ((ofResolver entwined).parse .none "{{>a}}").parser.Undisturbed .none entwined :=
    .parse "{{>a}}" .fresh ((parse_extends indexed "{{>a}}").settles _ first)
  refine ⟨warm, cold, fun fuel context => ?_⟩
  exact ((parse_transparent undisturbed "{{>b}}").2 _ _ warm cold _ _ 0 0 rfl rfl fuel context).1 ""

end Parser

end Mustache
