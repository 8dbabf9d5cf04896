import Mathlib
import Mustache.Proofs.Session.Consistency
import Mustache.Proofs.Session.Transparency
/-!
Which names a parse asks its resolver for. Main statements: over a table of sources, however they
refer to one another, a parse comes to its end by itself, since partials can be inside one another
only as deeply as there are names in all texts; it asks for every name at most once, and for none
that was mapped before; and a name that is mapped is never asked for again.
-/
namespace Mustache

open Binding

namespace Parser

variable {p : Parser}

/-- The names that a parse asks for are different, and none of them was mapped before. -/
theorem asked_nodup (indexed : p.registry.Indexed) (files : Files) (text : String) :
    (p.parse files text).asked.Nodup ∧
      ∀ name ∈ (p.parse files text).asked, p.hasPartial name = false := by
  obtain ⟨done, ending, follows, asked, _⟩ := parse_follows indexed files text
  refine ⟨asked.nodup_iff.mpr follows.course.nodup, fun name member => ?_⟩
  rw [Bool.eq_false_iff]
  exact fun mapped => follows.course.not_mem_of_has mapped (asked.mem_iff.mp member)

/-- The bound on the nesting is not reached if all sources together mention no more names than the
bound allows for: the partials inside one another have different names, all of them mentioned. -/
theorem parse_ends_of_mentioned {files : Files} {names : List String}
    (indexed : p.registry.Indexed)
    (closed : ∀ name source, p.resolver.find files name = .ok source →
      ∀ other ∈ (Outline.ofText source).references, other ∈ names)
    (few : names.length ≤ p.resolver.weight files) (text : String) : ∃ done ending,
      (p.parse files text).Follows (p.resolver.find files ·) p.registry text done ending ∧
        ∀ reading, ending ≠ .broken none reading := by
  obtain ⟨done, ending, follows, _, deep⟩ := parse_follows indexed files text
  refine ⟨done, ending, follows, ?_⟩
  rintro reading rfl
  have different : reading.Nodup := (List.nodup_append'.mp follows.course.nodup).2.1
  have mentioned : reading ⊆ (Outline.ofText text).references ++ names :=
    follows.course.reading_subset
      (fun name source found other refers =>
        List.mem_append_right _ (closed name source found other refers))
      fun name refers => List.mem_append_left _ refers
  have inside := different.length_le_of_subset mentioned
  have written := Outline.length_references_le text
  rw [List.length_append, deep reading rfl, depth] at inside
  omega

/-- Over a table, the bound on the nesting is never reached. -/
theorem parse_ends {entries : List (String × Source)} {otherwise : Source}
    (indexed : p.registry.Indexed) (table : p.resolver = .table entries otherwise)
    (files : Files) (text : String) : ∃ done ending,
      (p.parse files text).Follows (p.resolver.find files ·) p.registry text done ending ∧
        ∀ reading, ending ≠ .broken none reading := by
  refine @parse_ends_of_mentioned p files (Resolver.mentions entries otherwise) indexed ?_ ?_ text
  · intro name source found other refers
    rw [table] at found
    exact Resolver.mentions_of_find found refers
  · rw [table]
    exact Resolver.length_mentions_le files entries otherwise

end Parser

namespace Session

variable {earlier : List Operation} {id : ParserId} {p : Parser}
  {entries : List (String × Source)} {otherwise : Source}

/-- A name that is mapped is not asked for by any later parse; parsing a name asks for the source of
that name first. -/
theorem not_asked_of_mapped {q : Parser} {name : String}
    (found : (start.run earlier).library.parser? id = some p) (mapped : p.hasPartial name = true)
    (later : List Operation)
    (found' : (start.run (earlier ++ later)).library.parser? id = some q) (files : Files) :
    (∀ text, name ∉ (q.parse files text).asked) ∧
      ∀ other, name ∉ (q.parseByName files other).asked.tail := by
  rw [run_append] at found'
  obtain ⟨q', same, mapped⟩ := hasPartial_run found (parser_consistent found) mapped later
  rw [found'] at same
  cases same
  have indexed : q.registry.Indexed := by
    rw [← run_append] at found'
    exact (parser_consistent found').indexed
  have unasked (text : String) : name ∉ (q.parse files text).asked := by
    intro member
    have fresh := (Parser.asked_nodup indexed files text).2 name member
    rw [mapped] at fresh
    cases fresh
  refine ⟨unasked, fun other => ?_⟩
  unfold Parser.parseByName
  split
  · exact unasked _
  · exact List.not_mem_nil

/-- Over a table of sources, whatever operations came before, parsing any text follows a course to
its end. It asks for no name twice, and for no name that was mapped when it began; and whatever
names are mapped when it has ended are not asked for by any parse from then on. -/
theorem parse_asks_once (found : (start.run earlier).library.parser? id = some p)
    (table : p.resolver = .table entries otherwise) (text : String) :
    (∃ done ending,
      (p.parse (start.run earlier).files text).Follows
        (p.resolver.find (start.run earlier).files ·) p.registry text done ending ∧
      ∀ reading, ending ≠ .broken none reading) ∧
    (p.parse (start.run earlier).files text).asked.Nodup ∧
    (∀ name ∈ (p.parse (start.run earlier).files text).asked, p.hasPartial name = false) ∧
    ∀ name, (p.parse (start.run earlier).files text).parser.hasPartial name = true →
      ∀ later q, (start.run (earlier ++ .parse id text :: later)).library.parser? id = some q →
        ∀ files, (∀ other, name ∉ (q.parse files other).asked) ∧
          ∀ other, name ∉ (q.parseByName files other).asked.tail := by
  have indexed := (parser_consistent found).indexed
  have asked := Parser.asked_nodup indexed (start.run earlier).files text
  refine ⟨Parser.parse_ends indexed table _ text, asked.1, asked.2, ?_⟩
  intro name mapped later q found' files
  have parsed : (start.run (earlier ++ [.parse id text])).library.parser? id =
      some (p.parse (start.run earlier).files text).parser := by
    rw [run_append]
    exact parser?_parse found text
  refine not_asked_of_mapped parsed mapped later ?_ files
  rw [List.append_assoc]
  exact found'

/-- Partials that refer to themselves and to one another; the last one is never closed. -/
def tangled : Resolver :=
  .table [("a", .text "{{>b}}{{>a}}"), ("b", .text "{{>a}}{{>b}}"), ("c", .text "{{>a}}{{^open}}")]
    (.missing "unknown")

/-- A text that refers to some of them, and to a name without a source. -/
def tangledText : String := "{{>b}}{{>c}}{{>d}}"

/-- The parse of the text by a parser that knows no partials. -/
def tangledParsing : Parsing (Forest PartialRef) :=
  (Parser.ofResolver tangled).parse .none tangledText

/-- A parse that fails asks for each of them once, and those that it has read are not asked for
again afterwards. -/
theorem parse_asks_once_tangled :
    (start.run [.newParser tangled]).library.parser? 0 = some (.ofResolver tangled) ∧
    tangledParsing.asked = ["b", "a", "c"] ∧ ["b", "a", "c"].Nodup ∧
    ∀ later q, (start.run (.newParser tangled :: .parse 0 tangledText :: later)).library.parser? 0 =
      some q → ∀ files text, "a" ∉ (q.parse files text).asked := by
  have found : (start.run [.newParser tangled]).library.parser? 0 =
      some (.ofResolver tangled) := rfl
  have asked : tangledParsing.asked = ["b", "a", "c"] := by cbv
  have read : tangledParsing.parser.hasPartial "a" = true := by cbv
  obtain ⟨_, different, _, unasked⟩ := parse_asks_once found rfl tangledText
  have different : tangledParsing.asked.Nodup := different
  rw [asked] at different
  refine ⟨found, asked, different, fun later q found' files => ?_⟩
  exact (unasked "a" read later q found' files).1

end Session

end Mustache
