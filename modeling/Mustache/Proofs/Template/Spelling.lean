import Mustache.Template.Tag
/-!
How the trimmed text of a tag spells its meaning, said without an order in which cases are tried.
Main statements: a text spells exactly the meaning it is read as, and a delimiter tag is an equals
sign, a delimiter, spaces, a delimiter and an equals sign.
-/
namespace Mustache

namespace Delimiters

/-- Whether a text can be a delimiter: not empty, without white space and equals signs. -/
def Usable (cs : List Char) : Prop :=
  cs ≠ [] ∧ ∀ c ∈ cs, Text.isBlank c = false ∧ c ≠ '='

/-- Delimiters with spaces between them. -/
def spaced (d : Delimiters) (spaces : Nat) : List Char :=
  d.opening ++ List.replicate spaces ' ' ++ d.closing

theorem isToken_iff {cs : List Char} :
    isToken cs = true ↔ cs ≠ [] ∧ ∀ c ∈ cs, Text.isBlank c = false := by
  simp [isToken]

theorem ne_space_of_isToken {cs : List Char} (token : isToken cs = true) :
    ∀ c ∈ cs, c ≠ ' ' := by
  rintro c member rfl
  have blank := (isToken_iff.mp token).2 ' ' member
  revert blank
  decide

/-- The delimiters that are read are those that were written. -/
theorem ofInner?_spaced {d : Delimiters} (opening : isToken d.opening = true)
    (closing : isToken d.closing = true) (spaces : Nat) :
    ofInner? (d.spaced (spaces + 1)) = some d := by
  have word : ∀ c ∈ d.opening, decide (c ≠ ' ') = true := by
    simpa using ne_space_of_isToken opening
  obtain ⟨first, rest, shape⟩ := List.exists_cons_of_ne_nil (isToken_iff.mp closing).1
  have different : first ≠ ' ' := ne_space_of_isToken closing first (by simp [shape])
  have head : (d.spaced (spaces + 1)).takeWhile (· ≠ ' ') = d.opening := by
    rw [spaced, List.append_assoc, List.takeWhile_append_of_pos word]
    simp [List.replicate_succ]
  have tail : ((d.spaced (spaces + 1)).dropWhile (· ≠ ' ')).dropWhile (· = ' ') = d.closing := by
    rw [spaced, List.append_assoc, List.dropWhile_append_of_pos word, List.replicate_succ,
      List.cons_append, List.dropWhile_cons_of_neg (by simp), ← List.cons_append,
      ← List.replicate_succ, List.dropWhile_append_of_pos (by simp), shape,
      List.dropWhile_cons_of_neg (by simpa using different)]
  simp only [ofInner?, head, tail, opening, closing, Bool.and_self, if_true]

/-- What was written, given the delimiters that were read. -/
theorem of_ofInner?_eq_some {inner : List Char} {d : Delimiters} (read : ofInner? inner = some d) :
    isToken d.opening = true ∧ isToken d.closing = true ∧
      ∃ spaces, inner = d.spaced (spaces + 1) := by
  unfold ofInner? at read
  simp only [Option.ite_none_right_eq_some, Bool.and_eq_true, Option.some.injEq] at read
  obtain ⟨⟨opening, closing⟩, rfl⟩ := read
  refine ⟨opening, closing, ?_⟩
  generalize shape : inner.dropWhile (· ≠ ' ') = tail at closing
  have whole : inner = inner.takeWhile (· ≠ ' ') ++ tail := by
    rw [← shape, List.takeWhile_append_dropWhile]
  cases tail with
  | nil => simp [isToken] at closing
  | cons first rest =>
    obtain rfl : first = ' ' := by
      have not_word := List.head?_dropWhile_not (fun c => decide (c ≠ ' ')) inner
      rw [shape] at not_word
      simpa using not_word
    have spaces : rest.takeWhile (· = ' ') =
        List.replicate (rest.takeWhile (· = ' ')).length ' ' := by
      refine List.eq_replicate_of_mem fun c member => ?_
      simpa using List.all_eq_true.mp List.all_takeWhile c member
    refine ⟨(rest.takeWhile (· = ' ')).length, ?_⟩
    rw [spaced, List.replicate_succ, ← spaces, List.dropWhile_cons_of_pos (by simp),
      List.append_assoc, List.cons_append, List.takeWhile_append_dropWhile]
    exact whole

/-- A tag text after its first equals sign is read exactly. -/
theorem ofTag?_eq_some_iff {rest : List Char} {d : Delimiters} :
    ofTag? ('=' :: rest) = some d ↔
      Usable d.opening ∧ Usable d.closing ∧ ∃ spaces, rest = d.spaced (spaces + 1) ++ ['='] := by
  have usable_iff (cs : List Char) : Usable cs ↔ isToken cs = true ∧ '=' ∉ cs := by
    rw [isToken_iff, Usable]
    constructor
    · rintro ⟨nonempty, each⟩
      exact ⟨⟨nonempty, fun c member => (each c member).1⟩, fun member => (each '=' member).2 rfl⟩
    · rintro ⟨⟨nonempty, blank⟩, absent⟩
      exact ⟨nonempty, fun c member => ⟨blank c member, fun same => absent (same ▸ member)⟩⟩
  have mem_spaced (spaces : Nat) :
      '=' ∈ d.spaced spaces ↔ '=' ∈ d.opening ∨ '=' ∈ d.closing := by
    simp [spaced]
  simp only [ofTag?, Option.ite_none_right_eq_some, usable_iff]
  constructor
  · rintro ⟨⟨last, absent⟩, read⟩
    obtain ⟨inner, rfl⟩ := List.getLast?_eq_some_iff.mp last
    rw [List.dropLast_concat] at absent read
    obtain ⟨opening, closing, spaces, rfl⟩ := of_ofInner?_eq_some read
    rw [mem_spaced, not_or] at absent
    exact ⟨⟨opening, absent.1⟩, ⟨closing, absent.2⟩, spaces, rfl⟩
  · rintro ⟨⟨opening, noEquals⟩, ⟨closing, noEquals'⟩, spaces, rfl⟩
    rw [List.dropLast_concat, mem_spaced, not_or]
    exact ⟨⟨List.getLast?_concat, noEquals, noEquals'⟩, ofInner?_spaced opening closing spaces⟩

end Delimiters

namespace Tag

/-- The characters that give a tag text a meaning of its own when it starts with them. -/
def sigils : List Char := ['&', '#', '^', '/', '>', '=', '!']

/-- The meaning that a trimmed tag text spells. -/
inductive Spelled : List Char → Tag → Prop where
  | escaped {body : List Char} : body ≠ [] → (∀ c, body.head? = some c → c ∉ sigils) →
      Spelled body (.escaped (String.ofList body))
  | raw {rest : List Char} : Text.trim rest ≠ [] →
      Spelled ('&' :: rest) (.raw (String.ofList (Text.trim rest)))
  | openBlock {rest : List Char} : Text.trim rest ≠ [] →
      Spelled ('#' :: rest) (.openBlock (String.ofList (Text.trim rest)))
  | openInverted {rest : List Char} : Text.trim rest ≠ [] →
      Spelled ('^' :: rest) (.openInverted (String.ofList (Text.trim rest)))
  | close (rest : List Char) : Spelled ('/' :: rest) (.close (String.ofList (Text.trim rest)))
  | reference {rest : List Char} : Text.trim rest ≠ [] →
      Spelled ('>' :: rest) (.reference (String.ofList (Text.trim rest)))
  | delimiters {d : Delimiters} (spaces : Nat) : Delimiters.Usable d.opening →
      Delimiters.Usable d.closing →
      Spelled ('=' :: (d.spaced (spaces + 1) ++ ['='])) (.delimiters d)
  | comment (rest : List Char) : Spelled ('!' :: rest) .comment

theorem Spelled.ne_nil {body : List Char} {tag : Tag} (spelled : Spelled body tag) : body ≠ [] := by
  cases spelled with
  | escaped nonempty _ => exact nonempty
  | raw | openBlock | openInverted | close | reference | delimiters | comment =>
    exact List.cons_ne_nil _ _

theorem named_eq_ok_iff {make : String → Tag} {rest : List Char} {tag : Tag} :
    named make rest = .ok tag ↔
      Text.trim rest ≠ [] ∧ make (String.ofList (Text.trim rest)) = tag := by
  unfold named
  split
  · rename_i empty
    simp [empty]
  · rename_i nonempty
    simp only [Except.ok.injEq, ne_eq, iff_and_self]
    exact fun _ => nonempty

/-- A trimmed tag text is read as what it spells. -/
theorem ofBody_eq_ok_iff {body : List Char} {tag : Tag} :
    ofBody body = .ok tag ↔ Spelled body tag := by
  constructor
  · intro read
    unfold ofBody at read
    split at read
    · cases read
    · obtain ⟨nonempty, rfl⟩ := named_eq_ok_iff.mp read
      exact .raw nonempty
    · obtain ⟨nonempty, rfl⟩ := named_eq_ok_iff.mp read
      exact .openBlock nonempty
    · obtain ⟨nonempty, rfl⟩ := named_eq_ok_iff.mp read
      exact .openInverted nonempty
    · cases read
      exact .close _
    · obtain ⟨nonempty, rfl⟩ := named_eq_ok_iff.mp read
      exact .reference nonempty
    · split at read
      · rename_i pair found
        cases read
        obtain ⟨opening, closing, spaces, rfl⟩ := Delimiters.ofTag?_eq_some_iff.mp found
        exact .delimiters spaces opening closing
      · cases read
    · cases read
      exact .comment _
    · rename_i nonempty amp hash caret slash angle equals bang
      cases read
      refine .escaped nonempty fun c head sigil => ?_
      obtain ⟨rest, rfl⟩ := List.head?_eq_some_iff.mp head
      simp only [sigils, List.mem_cons, List.not_mem_nil, or_false] at sigil
      rcases sigil with rfl | rfl | rfl | rfl | rfl | rfl | rfl
      · exact amp rest rfl
      · exact hash rest rfl
      · exact caret rest rfl
      · exact slash rest rfl
      · exact angle rest rfl
      · exact equals rest rfl
      · exact bang rest rfl
  · intro spelled
    cases spelled with
    | @escaped body nonempty plain =>
      unfold ofBody
      split
      case h_1 => exact (nonempty rfl).elim
      case h_9 => rfl
      all_goals exact (plain _ rfl (by decide)).elim
    | raw nonempty | openBlock nonempty | openInverted nonempty | reference nonempty =>
      exact named_eq_ok_iff.mpr ⟨nonempty, rfl⟩
    | close rest | comment rest => rfl
    | delimiters spaces opening closing =>
      simp only [ofBody, Delimiters.ofTag?_eq_some_iff.mpr ⟨opening, closing, spaces, rfl⟩]

end Tag

end Mustache
