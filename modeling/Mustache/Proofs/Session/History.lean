import Mustache.Proofs.Partial.Evolution
import Mustache.Proofs.Session.Basic
/-!
What becomes of one parser in a session. An operation leaves the registry of a parser as it is,
parses one text with it, or registers a partial with it. Main statement: what parses and
registrations keep of a registry is kept by every sequence of operations.
-/
namespace Mustache

/-- What an operation makes of the parser with a number: its registry is left as it is, is that of a
parse of a text, or has one more partial registered. -/
inductive Parser.Becomes (files : Files) (id : ParserId) (op : Operation) (before : Parser) :
    Parser → Prop where
  | kept {after : Parser} : after.registry = before.registry → Becomes files id op before after
  | parsed (text : String) : Becomes files id op before (before.parse files text).parser
  | registered {name : String} {value : Partial} : op = .addPartial id name value →
      Becomes files id op before (before.addPartial name value)

namespace Session

variable {s : Session} {id : ParserId} {p q : Parser} {op : Operation}

/-- A change to one parser of a library, and what becomes of the parsers then. -/
theorem replace_becomes {lib : Library} {other : ParserId} {before after : Parser}
    (known : lib.parser? other = some before) (found : lib.parser? id = some p)
    (becomes : id = other → before.Becomes s.files id op after) :
    ∃ q, (lib.replace other after).parser? id = some q ∧ p.Becomes s.files id op q := by
  rw [Library.parser?_replace known]
  by_cases same : id = other
  · subst same
    rw [known] at found
    cases found
    exact ⟨after, if_pos rfl, becomes rfl⟩
  · exact ⟨p, (if_neg same).trans found, .kept rfl⟩

theorem make_becomes (other : ParserId) {act : Parser → Parsing (Forest PartialRef)}
    (cases : ∀ p : Parser, (act p).parser = p ∨
      ∃ text, (act p).parser = (p.parse s.files text).parser)
    (found : s.library.parser? id = some p) :
    ∃ q, (s.library.make other act).library.parser? id = some q ∧ p.Becomes s.files id op q := by
  unfold Library.make
  split
  · exact ⟨p, found, .kept rfl⟩
  · rename_i before known
    refine replace_becomes known found fun _ => ?_
    rcases cases before with same | ⟨text, same⟩
    · rw [same]
      exact .kept rfl
    · rw [same]
      exact .parsed text

theorem update_becomes (other : ParserId) {change : Parser → Parser}
    (becomes : id = other → ∀ p : Parser, p.Becomes s.files id op (change p))
    (found : s.library.parser? id = some p) :
    ∃ q, (s.library.update other change).parser? id = some q ∧ p.Becomes s.files id op q := by
  unfold Library.update
  split
  · exact ⟨p, found, .kept rfl⟩
  · rename_i before known
    exact replace_becomes known found fun same => becomes same before

/-- Every parser survives an operation. -/
theorem step_becomes (op : Operation) (found : s.library.parser? id = some p) :
    ∃ q, (s.step op).library.parser? id = some q ∧ p.Becomes s.files id op q := by
  cases op with
  | newParser resolver => exact ⟨p, Library.parser?_add found _, .kept rfl⟩
  | parse other text => exact make_becomes other (fun _ => .inr ⟨text, rfl⟩) found
  | parseBytes other bytes =>
    exact make_becomes other (fun p => p.parseBytes_cases s.files bytes) found
  | parseFile other path => exact make_becomes other (fun p => p.parseFile_cases s.files path) found
  | parseByName other name =>
    exact make_becomes other (fun p => p.parseByName_cases s.files name) found
  | addPartial other name value =>
    refine update_becomes other (fun same p => ?_) found
    subst same
    exact .registered rfl
  | setExtension other value =>
    refine update_becomes other (fun _ p => .kept ?_) found
    unfold Parser.setExtension
    cases p.resolver.setExtension value <;> rfl
  | setSource other name source => exact update_becomes other (fun _ _ => .kept rfl) found
  | setFiles files => exact ⟨p, found, .kept rfl⟩

theorem parser?_parse {s : Session} (found : s.library.parser? id = some p) (text : String) :
    (s.step (.parse id text)).library.parser? id = some (p.parse s.files text).parser := by
  simp only [step, keep, Library.parse, Library.make, found]
  exact (Library.parser?_replace found _ id).trans (if_pos rfl)

theorem parser?_addPartial {s : Session} (found : s.library.parser? id = some p) (name : String)
    (value : Partial) : (s.step (.addPartial id name value)).library.parser? id =
      some (p.addPartial name value) := by
  simp only [step, update, Library.update, found]
  exact (Library.parser?_replace found _ id).trans (if_pos rfl)

theorem of_parser?_replace {lib : Library} {other : ParserId} {before after : Parser}
    (known : lib.parser? other = some before)
    (found : (lib.replace other after).parser? id = some q) : ∃ p, lib.parser? id = some p := by
  rw [Library.parser?_replace known] at found
  split at found
  · rename_i same
    exact ⟨before, same ▸ known⟩
  · exact ⟨q, found⟩

/-- A parser that an operation leaves was there before it, or knows no partials yet. -/
theorem of_parser?_step (found : (s.step op).library.parser? id = some q) :
    (∃ p, s.library.parser? id = some p) ∨ q.registry = .empty := by
  have made {other : ParserId} {act : Parser → Parsing (Forest PartialRef)}
      (found : (s.library.make other act).library.parser? id = some q) :
      ∃ p, s.library.parser? id = some p := by
    unfold Library.make at found
    split at found
    · exact ⟨q, found⟩
    · rename_i before known
      exact of_parser?_replace known found
  have updated {other : ParserId} {change : Parser → Parser}
      (found : (s.library.update other change).parser? id = some q) :
      ∃ p, s.library.parser? id = some p := by
    unfold Library.update at found
    split at found
    · exact ⟨q, found⟩
    · rename_i before known
      exact of_parser?_replace known found
  cases op with
  | newParser resolver =>
    rcases Library.of_parser?_add found with old | rfl
    · exact .inl ⟨q, old⟩
    · exact .inr rfl
  | parse | parseBytes | parseFile | parseByName => exact .inl (made found)
  | addPartial | setExtension | setSource => exact .inl (updated found)
  | setFiles files => exact .inl ⟨q, found⟩

section Kept

variable (keeps : Registry → Prop) {ops : List Operation}
  (parses : ∀ (p : Parser) (files : Files) (text : String),
    keeps p.registry → keeps (p.parse files text).parser.registry)
include parses

theorem becomes_keeps (becomes : p.Becomes s.files id op q)
    (registers : ∀ name value, op = .addPartial id name value →
      ∀ r, keeps r → keeps (r.register name value)) (holds : keeps p.registry) :
    keeps q.registry := by
  cases becomes with
  | kept same => rwa [same]
  | parsed text => exact parses p s.files text holds
  | registered same => exact registers _ _ same _ holds

/-- What parses of a parser and registrations with it keep is kept by operations. -/
theorem run_keeps (registers : ∀ name value, .addPartial id name value ∈ ops →
      ∀ r, keeps r → keeps (r.register name value))
    (found : s.library.parser? id = some p) (holds : keeps p.registry) :
    ∃ q, (s.run ops).library.parser? id = some q ∧ keeps q.registry := by
  induction ops generalizing s p with
  | nil => exact ⟨p, found, holds⟩
  | cons op rest ih =>
    obtain ⟨q, found, becomes⟩ := step_becomes op found
    refine ih (fun name value member => registers name value (.tail _ member)) found ?_
    refine becomes_keeps keeps parses becomes (fun name value same => ?_) holds
    exact registers name value (same ▸ List.mem_cons_self)

/-- What holds of an empty registry, and is kept by all parses and registrations, is kept of all
parsers by operations. -/
theorem run_keeps_all (registers : ∀ name value r, keeps r → keeps (r.register name value))
    (fresh : keeps .empty) (all : ∀ id p, s.library.parser? id = some p → keeps p.registry)
    (found : (s.run ops).library.parser? id = some q) : keeps q.registry := by
  induction ops generalizing s with
  | nil => exact all id q found
  | cons op rest ih =>
    refine ih (fun id q found => ?_) found
    rcases of_parser?_step found with ⟨p, known⟩ | empty
    · obtain ⟨after, found', becomes⟩ := step_becomes op known
      rw [found] at found'
      cases found'
      have registered (name : String) (value : Partial) (_ : op = .addPartial id name value) :=
        registers name value
      exact becomes_keeps keeps parses becomes registered (all id p known)
    · rw [empty]
      exact fresh

end Kept

end Session

end Mustache
