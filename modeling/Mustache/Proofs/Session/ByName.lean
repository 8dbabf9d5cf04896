import Mathlib
import Mustache.Proofs.Partial.Comparison
import Mustache.Proofs.Render.Agreement
import Mustache.Proofs.Render.Mirrored
import Mustache.Proofs.Session.Resolution
import Mustache.Proofs.Template.Writing
/-!
Parsing a name and parsing a reference to it. The reference reserves the name before its source is
read, while parsing by name leaves the name unmapped, so a source that comes back to its own name is
read a second time. Main statement: over a table, both succeed or both fail. If they succeed, the
templates render alike. If they fail, it is for a fault of some source that the name leads to, and
for the same one unless the second reading of the source fails inside another partial.
-/
namespace Mustache

open Registry

/-- Whether a name can stand in a tag as it is: the closing delimiter does not begin in it. -/
def Referable (name : String) : Prop :=
  IsName name ∧ ¬ ['}', '}'] <:+: name.toList ∧ name.toList.getLast? ≠ some '}'

instance (name : String) : Decidable (Referable name) := instDecidableAnd

/-- The text that refers to a name and has nothing else in it. -/
def referring (name : String) : String := "\x7b\x7b>" ++ name ++ "\x7d\x7d"

section Referring

variable {name : String}

theorem Referable.endsFirst (referable : Referable name) {sigil : Char} (other : sigil ≠ '}') :
    Scan.EndsFirst ['}', '}'] (sigil :: name.toList) := by
  obtain ⟨isName, clear, unbraced⟩ := referable
  apply Scan.endsFirst_pair
  · rw [List.infix_cons_iff, not_or]
    refine ⟨fun start => ?_, clear⟩
    exact other (List.cons_prefix_cons.mp start).1.symm
  · rwa [List.getLast?_cons_of_ne_nil isName.toList_ne_nil]

/-- A literal text, and behind it a tag that consists of a sigil and the name. -/
theorem Referable.tagged (referable : Referable name) {text : List Char}
    (first : Scan.EndsFirst ['{', '{'] text) {sigil : Char} {tag : Tag}
    (plain : Text.isBlank sigil = false) (unbraced : sigil ≠ '{' ∧ sigil ≠ '}')
    (read : Tag.ofBody (sigil :: name.toList) = .ok tag) :
    Tagged .standard (text ++ ['{', '{'] ++ (sigil :: name.toList ++ ['}', '}']))
      (literal text) tag := by
  refine @Tagged.plain .standard text (sigil :: name.toList) tag first (by simpa using unbraced.1)
    (referable.endsFirst unbraced.2) ?_
  rw [referable.1.trim_cons plain]
  exact Tag.ofBody_eq_ok_iff.mp read

theorem referring_topLevel (referable : Referable name) :
    TopLevel (referring name).toList [.reference name] := by
  have tagged := @referable.tagged _ [] (by decide) '>' _ (by decide) (by decide)
    (referable.1.named .reference)
  have level := Level.leaf (.nil .standard) tagged (.reference name)
  exact ⟨_, [], _, _, by simp [referring], level, by decide, rfl⟩

theorem outline_referring (referable : Referable name) :
    Outline.ofText (referring name) = ⟨[name], .ok [.reference name]⟩ :=
  Outline.ofText_of_topLevel (referring_topLevel referable)

end Referring

/-- The source of a name refers to another name. -/
def Refers (find : String → Except Fault String) (name other : String) : Prop :=
  ∃ text, find name = .ok text ∧ other ∈ (Outline.ofText text).references

/-- A fault of the source of a name itself: there is no such source, or it has a flaw. -/
def IsFaultOf (find : String → Except Fault String) (name : String) (fault : Fault) : Prop :=
  find name = .error fault ∨ ∃ text located, find name = .ok text ∧
    (Outline.ofText text).result = .error located ∧ fault = .parse located

/-- A fault of some source that a name leads to. -/
def IsFaultBehind (find : String → Except Fault String) (name : String) (fault : Fault) : Prop :=
  ∃ other, Relation.ReflTransGen (Refers find) name other ∧ IsFaultOf find other fault

namespace Binding

variable {find : String → Except Fault String} {r r' s s' : Registry} {o : Outline}
  {done done' : List String} {ending ending' : Ending}

/-- A fault of the source of a partial is one of the name that refers to it. -/
theorem isFaultBehind_of_source {name text : String} {fault : Fault} (found : find name = .ok text)
    (culprit : (∃ located, (Outline.ofText text).result = .error located ∧
      fault = .parse located) ∨
      ∃ other ∈ (Outline.ofText text).references, IsFaultBehind find other fault) :
    IsFaultBehind find name fault := by
  rcases culprit with ⟨located, flawed, same⟩ | ⟨other, refers, third, leads, fault⟩
  · exact ⟨name, .refl, .inr ⟨text, located, found, flawed, same⟩⟩
  · exact ⟨third, .head ⟨text, found, refers⟩ leads, fault⟩

/-- Where a fault comes from: the text itself, or a source that one of its references leads to. -/
theorem Course.culprit {fault : Fault} {reading : List String}
    (course : Course find r o done (.broken (some fault) reading) r') :
    (∃ located, o.result = .error located ∧ fault = .parse located) ∨
      ∃ name ∈ o.references, IsFaultBehind find name fault := by
  generalize broken : Ending.broken (some fault) reading = ending at course
  induction course generalizing reading with
  | finish | cut => cases broken
  | flaw =>
    cases broken
    exact .inl ⟨_, rfl, rfl⟩
  | known _ _ ih | read _ _ _ _ _ _ ih =>
    exact (ih broken).imp_right fun ⟨name, refers, behind⟩ => ⟨name, .tail _ refers, behind⟩
  | @missing _ name _ _ _ _ missing =>
    cases broken
    exact .inr ⟨name, List.mem_cons_self, name, .refl, .inl missing⟩
  | @inside _ _ name _ _ _ _ _ _ _ found _ ih =>
    cases broken
    exact .inr ⟨name, List.mem_cons_self, isFaultBehind_of_source found (ih rfl)⟩

/-- A source that can be bound while its name is reserved can be bound without that. -/
theorem Course.complete_of_beside {name source : String} {elements : Forest PartialRef}
    (course : Course find r (.ofText source) done ending r') (natural : ending.Natural)
    (course' : Course find s (.ofText source) done' (.complete elements) s')
    (beside : Beside name r s) (found : find name = .ok source) :
    ∃ elements, ending = .complete elements := by
  obtain ⟨forest, sound, _, mentioned⟩ := course'.of_complete
  have known (other : String) (mapped : s'.has other = true) :
      r.has other = true ∨ other = name ∨ other ∈ done' := by
    rwa [course'.has_iff, beside.mapped, or_assoc] at mapped
  have closed : Closed find r fun other => other = name ∨ other ∈ done' := by
    rintro other (rfl | read)
    · exact ⟨source, forest, found, sound, fun third refers => known third (mentioned third refers)⟩
    · obtain ⟨text, forest, found, sound, mapped⟩ := course'.closed_done read
      exact ⟨text, forest, found, sound, fun third refers => known third (mapped third refers)⟩
  have complete := course.complete_of_closed natural closed sound
    fun other refers => known other (mentioned other refers)
  exact complete.1

/-- The course of a reference and nothing else, for a name that is not mapped. -/
theorem Course.of_reference {name text : String} {forest : Forest String}
    (course : Course find r ⟨[name], .ok forest⟩ done ending r') (natural : ending.Natural)
    (fresh : r.has name = false) (found : find name = .ok text) :
    ∃ inner ending' bound, Course find (r.reserve name) (.ofText text) inner ending' bound ∧
      ((∃ elements elements', ending = .complete elements ∧ ending' = .complete elements') ∨
        ∃ cause reading, ending = .broken cause (name :: reading) ∧
          ending' = .broken cause reading) := by
  rcases course.of_found natural fresh found with
    ⟨_, _, _, _, inside, after⟩ | ⟨_, _, _, inside, rfl⟩
  · cases after
    exact ⟨_, _, _, inside, .inl ⟨_, _, rfl, rfl⟩⟩
  · exact ⟨_, _, _, inside, .inr ⟨_, _, rfl, rfl⟩⟩

end Binding

namespace Library

variable {find : String → Except Fault String} {lib lib' : Library} {home home' : Option ParserId}
  {r r' : Registry} {name text : String} {names : Forest String}
  (mirrored : lib.Mirrored find lib' home home' r r') (found : find name = .ok text)
  (sound : (Outline.ofText text).result = .ok names)
  (mapped : ∀ other ∈ names.targets, r.has other = true) (known : r'.has name = true)
include mirrored found sound mapped known

/-- A reference is walked like the body of its partial, with one unit of fuel more. -/
theorem Mirrored.walk_reference {σ ε : Type} (sink : Sink σ ε) (fuel : Nat) (context : Context) :
    Walk.forest lib' (fuel + 1) sink home' context [.reference (r'.refer name)] =
      Walk.forest lib fuel sink home context (names.map r.refer) := by
  obtain ⟨text', body, found', sound', holds, closed⟩ := mirrored.mirrors'.content known
  rw [found] at found'
  cases found'
  rw [sound] at sound'
  cases sound'
  simp only [Walk.forest, Walk.each, Walk.element, mirrored.content', holds, Walk.content]
  rw [Walk.forest_mirrored mirrored sink fuel context names mapped closed]
  exact bind_pure_unit

theorem Mirrored.renders_reference {context : Context} {out output : String} :
    lib.Renders ⟨names.map r.refer, home⟩ context out output ↔
      lib'.Renders ⟨[.reference (r'.refer name)], home'⟩ context out output := by
  have later (fuel : Nat) :=
    mirrored.walk_reference found sound mapped known Sink.string fuel context
  constructor
  · rintro ⟨fuel, rendered⟩
    refine ⟨fuel + 1, renderOnto_eq_some_iff.mpr ?_⟩
    rw [later, renderOnto_eq_some_iff.mp rendered]
  · rintro ⟨fuel, rendered⟩
    cases fuel with
    | zero => cases rendered
    | succ fuel =>
      refine ⟨fuel, renderOnto_eq_some_iff.mpr ?_⟩
      rw [← later, renderOnto_eq_some_iff.mp rendered]

end Library

namespace Parser

variable {files : Files} {resolver : Resolver} {entries : List (String × Source)}
  {otherwise : Source} {name : String}

/-- Whether parsing a name fails while the source of the name is read for a second time, inside
another partial. -/
def FailsRereading (files : Files) (p : Parser) (name : String) : Prop :=
  ∃ text done cause reading, p.resolver.find files name = .ok text ∧
    (p.parseByName files name).Follows (p.resolver.find files ·) p.registry text done
      (.broken cause reading) ∧ name ∈ reading.tail

/-- Whether parsing a name and parsing a reference to it fail for faults behind the name, and for
the same one unless the parse by name fails while it reads the source for a second time. -/
def FailsAlike (files : Files) (p : Parser) (name : String) : Prop :=
  ∃ fault fault', (p.parseByName files name).result = .error fault ∧
    (p.parse files (referring name)).result = .error fault' ∧
    IsFaultBehind (p.resolver.find files ·) name fault ∧
    IsFaultBehind (p.resolver.find files ·) name fault' ∧
    (fault = fault' ∨ p.FailsRereading files name)

theorem parseByName_of_found {p : Parser} {text : String}
    (found : p.resolver.find files name = .ok text) :
    (p.parseByName files name).result = (p.parse files text).result ∧
      (p.parseByName files name).parser = (p.parse files text).parser := by
  simp [parseByName, found]

theorem parseByName_of_missing {p : Parser} {fault : Fault}
    (missing : p.resolver.find files name = .error fault) :
    (p.parseByName files name).result = .error fault := by
  simp [parseByName, missing]

/-- A reference to a name fails for a fault behind the name. -/
theorem isFaultBehind_of_reference {find : String → Except Fault String} {r r' : Registry}
    {done : List String} {forest : Forest String} {fault : Fault} {reading : List String}
    (course : Binding.Course find r ⟨[name], .ok forest⟩ done (.broken (some fault) reading) r') :
    IsFaultBehind find name fault := by
  rcases course.culprit with ⟨_, flawed, _⟩ | ⟨other, refers, behind⟩
  · cases flawed
  · rwa [← List.mem_singleton.mp refers]

section Ends

variable (table : resolver = .table entries otherwise) (referable : Referable name)
include table referable

/-- How the two parses end if the name has a source. -/
theorem parseByName_ends_of_found {text : String} (found : resolver.find files name = .ok text) :
    (∃ elements elements', ((ofResolver resolver).parseByName files name).result = .ok elements ∧
      ((ofResolver resolver).parse files (referring name)).result = .ok elements') ∨
    (ofResolver resolver).FailsAlike files name := by
  have indexed : (ofResolver resolver).registry.Indexed := empty_consistent.indexed
  obtain ⟨done, ending, follows, natural⟩ := parse_ends indexed table files text
  obtain ⟨done', ending', follows', natural'⟩ := parse_ends indexed table files (referring name)
  obtain ⟨same, sameParser⟩ := parseByName_of_found (p := ofResolver resolver) found
  unfold FailsAlike
  have beside : Binding.Beside name Registry.empty (Registry.empty.reserve name) :=
    ⟨fun _ => has_reserve.trans or_comm, rfl⟩
  have course' := follows'.course
  rw [outline_referring referable] at course'
  rw [same, follows.result, follows'.result]
  obtain ⟨_, _, _, inside, ends⟩ := course'.of_reference natural' rfl found
  rcases ends with ⟨elements', _, rfl, rfl⟩ | ⟨cause', reading', rfl, rfl⟩
  · obtain ⟨elements, rfl⟩ := follows.course.complete_of_beside natural inside beside found
    exact .inl ⟨elements, elements', rfl, rfl⟩
  · obtain ⟨fault', rfl⟩ := Binding.Ending.Natural.cause natural'
    have behind' := isFaultBehind_of_reference course'
    by_cases again : name ∈ ending.reading.tail
    · cases ending with
      | complete elements => cases again
      | broken cause reading =>
        obtain ⟨fault, rfl⟩ := Binding.Ending.Natural.cause natural
        have behind := Binding.isFaultBehind_of_source found follows.course.culprit
        have rereading : (ofResolver resolver).FailsRereading files name := by
          refine ⟨text, done, some fault, reading, found, ⟨?_, ?_⟩, again⟩
          · rw [sameParser]
            exact follows.course
          · rw [same, follows.result]
        exact .inr ⟨fault, fault', rfl, rfl, behind, behind', .inr rereading⟩
    · have alike := follows.course.alike_of_beside inside natural
        (Binding.Ending.Natural.inside natural') beside found (.inr ⟨again, .refl _ _⟩)
      cases alike
      have behind := Binding.isFaultBehind_of_source found follows.course.culprit
      exact .inr ⟨fault', fault', rfl, rfl, behind, behind', .inl rfl⟩

/-- How the two parses end. -/
theorem parseByName_ends (files : Files) :
    (∃ elements elements', ((ofResolver resolver).parseByName files name).result = .ok elements ∧
      ((ofResolver resolver).parse files (referring name)).result = .ok elements') ∨
    (ofResolver resolver).FailsAlike files name := by
  cases found : resolver.find files name with
  | ok text => exact parseByName_ends_of_found table referable found
  | error fault =>
    have indexed : (ofResolver resolver).registry.Indexed := empty_consistent.indexed
    obtain ⟨_, ending, follows, natural⟩ := parse_ends indexed table files (referring name)
    have course := follows.course
    rw [outline_referring referable] at course
    have ends := course.of_missing natural rfl found
    subst ends
    have behind := isFaultBehind_of_reference course
    have failed := parseByName_of_missing (p := ofResolver resolver) found
    exact .inr ⟨fault, fault, failed, follows.result, behind, behind, .inl rfl⟩

end Ends

/-- The template of a name and that of a reference to it complete with the same texts. -/
theorem parseByName_renders (referable : Referable name) {elements elements' : Forest PartialRef}
    (parsed : ((ofResolver resolver).parseByName files name).result = .ok elements)
    (parsed' : ((ofResolver resolver).parse files (referring name)).result = .ok elements')
    {lib lib' : Library} {id id' : ParserId}
    (here : lib.parser? id = some ((ofResolver resolver).parseByName files name).parser)
    (here' : lib'.parser? id' = some ((ofResolver resolver).parse files (referring name)).parser)
    (context : Context) (out text : String) :
    lib.Renders ⟨elements, some id⟩ context out text ↔
      lib'.Renders ⟨elements', some id'⟩ context out text := by
  have fresh : (ofResolver resolver).registry.Mirrors (resolver.find files ·) := empty_mirrors
  cases found : resolver.find files name with
  | error fault =>
    rw [parseByName_of_missing found] at parsed
    cases parsed
  | ok source =>
    obtain ⟨same, sameParser⟩ := parseByName_of_found (p := ofResolver resolver) found
    rw [same] at parsed
    rw [sameParser] at here
    obtain ⟨names, sound, rfl, mapped⟩ := parse_bound fresh parsed
    obtain ⟨names', sound', rfl, mapped'⟩ := parse_bound fresh parsed'
    rw [outline_referring referable] at sound'
    cases sound'
    have after := parse_mirrors fresh ((parse_extends fresh.indexed source).settles _ parsed)
    have after' := parse_mirrors fresh
      ((parse_extends fresh.indexed (referring name)).settles _ parsed')
    have mirrored : lib.Mirrored _ lib' (some id) (some id') _ _ :=
      ⟨Library.content?_at here, Library.content?_at here', after, after'⟩
    exact mirrored.renders_reference found sound mapped (mapped' name List.mem_cons_self)

/-- Parsing a name and parsing a reference to it, each by a parser over a table that knows no
partials yet, both succeed or both fail. If they succeed, the two templates complete in the same
contexts, and with the same text. -/
theorem parseByName_agrees (table : resolver = .table entries otherwise)
    (referable : Referable name) (files : Files) :
    (∃ elements elements', ((ofResolver resolver).parseByName files name).result = .ok elements ∧
      ((ofResolver resolver).parse files (referring name)).result = .ok elements' ∧
      ∀ (lib lib' : Library) (id id' : ParserId),
        lib.parser? id = some ((ofResolver resolver).parseByName files name).parser →
        lib'.parser? id' = some ((ofResolver resolver).parse files (referring name)).parser →
        ∀ (context : Context) (out text : String),
          lib.Renders ⟨elements, some id⟩ context out text ↔
            lib'.Renders ⟨elements', some id'⟩ context out text) ∨
    (ofResolver resolver).FailsAlike files name := by
  rcases parseByName_ends table referable files with ⟨elements, elements', parsed, parsed'⟩ | failed
  · refine .inl ⟨elements, elements', parsed, parsed', fun lib lib' id id' here here' => ?_⟩
    exact parseByName_renders referable parsed parsed' here here'
  · exact .inr failed

/-- Partials that come back to themselves directly, through another one and with other delimiters;
the last one also refers to a name without a source. -/
def recurring : Resolver :=
  .table [("n", .text "\x7b\x7b#go\x7d\x7d{{>n}}{{>a}}{{/go}}"),
    ("a", .text "{{=<% %>=}}-<%>n%>"), ("m", .text "{{>m}}{{>x}}")]
    (.missing "unknown")

/-- The first one is parsed in both ways, and rendered alike; the last one fails in both ways. -/
theorem parseByName_agrees_recurring :
    (Referable "n" ∧ ∃ elements elements',
      ((ofResolver recurring).parseByName .none "n").result = .ok elements ∧
      ((ofResolver recurring).parse .none (referring "n")).result = .ok elements' ∧
      ∀ (context : Context) (out text : String),
        (Library.mk [((ofResolver recurring).parseByName .none "n").parser]).Renders
          ⟨elements, some 0⟩ context out text ↔
        (Library.mk [((ofResolver recurring).parse .none (referring "n")).parser]).Renders
          ⟨elements', some 0⟩ context out text) ∧
    Referable "m" ∧ (ofResolver recurring).FailsAlike .none "m" := by
  have sound : ((ofResolver recurring).parseByName .none "n").result.isOk = true := by cbv
  have flawed : ((ofResolver recurring).parseByName .none "m").result.isOk = false := by cbv
  have table : recurring = .table _ _ := rfl
  have first : Referable "n" := by decide
  have last : Referable "m" := by decide
  refine ⟨⟨first, ?_⟩, last, ?_⟩
  · rcases parseByName_agrees table first .none with
      ⟨elements, elements', parsed, parsed', renders⟩ | ⟨fault, _, failed, _⟩
    · exact ⟨elements, elements', parsed, parsed', renders _ _ 0 0 rfl rfl⟩
    · rw [failed] at sound
      cases sound
  · rcases parseByName_agrees table last .none with ⟨_, _, parsed, _⟩ | failed
    · rw [parsed] at flawed
      cases flawed
    · exact failed

/-- Partials that refer to each other, and each to another name without a source. -/
def crossed : Resolver :=
  .table [("n", .text "{{>a}}{{>x}}"),
    ("a", .text "{{>n}}{{>y}}")] (.missing "unknown")

/-- By name, the first one is read again inside the second one, and fails there, before the second
one does. A reference to it only meets the fault of the second one. -/
theorem parseByName_crossed : Referable "n" ∧
    ((ofResolver crossed).parseByName .none "n").result =
      .error (.partialNotFound "x" "unknown") ∧
    ((ofResolver crossed).parse .none (referring "n")).result =
      .error (.partialNotFound "y" "unknown") := by
  refine ⟨by decide, ?_, ?_⟩
  · cbv
  · cbv

end Parser

end Mustache
