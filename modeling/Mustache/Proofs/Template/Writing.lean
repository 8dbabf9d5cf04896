import Mathlib
import Mustache.Proofs.Template.Acceptance
import Mustache.Proofs.Template.Formation
/-!
Writing a forest as a template text. The text puts delimiters in force that are longer than every
text and name of the forest: one character, followed by a run of another one. Such a delimiter
cannot begin inside a text and end outside of it, so it occurs only where it was written. Main
statement: the forests that texts are parsed to are exactly the well-formed ones.
-/
namespace Mustache

namespace Scan

/-- A delimiter whose first character does not occur in a text ends first behind it. -/
theorem endsFirst_of_not_mem {first : Char} {rest text : List Char} (absent : first ∉ text) :
    EndsFirst (first :: rest) text := by
  intro before after whole
  by_contra more
  have lengths := congrArg List.length whole
  have nonempty : 0 < after.length := List.length_pos_iff.mpr more
  simp only [List.length_append, List.length_cons] at lengths
  have inside : before.length < text.length := by omega
  have here := congrArg (·[before.length]?) whole
  simp only [List.append_assoc, List.getElem?_append_right (Nat.le_refl _),
    List.getElem?_append_left inside] at here
  rw [Nat.sub_self, List.cons_append, List.getElem?_cons_zero] at here
  exact absent (List.mem_of_getElem? here)

/-- A delimiter that is longer than a text, with a first character that does not occur in it again,
ends first behind the text. -/
theorem endsFirst_of_length_le {first last : Char} (different : first ≠ last) {count : Nat}
    {text : List Char} (short : text.length ≤ count) :
    EndsFirst (first :: List.replicate count last) text := by
  intro before after whole
  by_contra more
  have lengths := congrArg List.length whole
  have nonempty : 0 < after.length := List.length_pos_iff.mpr more
  simp only [List.length_append, List.length_cons, List.length_replicate] at lengths
  obtain ⟨offset, place⟩ : ∃ offset, text.length = before.length + (offset + 1) :=
    ⟨text.length - before.length - 1, by omega⟩
  have inside : offset < count := by omega
  -- the place where the delimiter was written lies inside its earlier occurrence
  have here := congrArg (·[text.length]?) whole
  simp only [List.append_assoc] at here
  rw [List.getElem?_append_right (Nat.le_refl _), Nat.sub_self, List.getElem?_cons_zero, place,
    List.getElem?_append_right (Nat.le_add_right _ _), Nat.add_sub_cancel_left,
    List.cons_append, List.getElem?_cons_succ,
    List.getElem?_append_left (by simpa using inside)] at here
  simp [inside] at here
  exact different here

/-- A delimiter of two equal characters ends first behind a text in which it does not occur and that
does not end with its character. -/
theorem endsFirst_pair {c : Char} {text : List Char} (clear : ¬ [c, c] <:+: text)
    (open_end : text.getLast? ≠ some c) : EndsFirst [c, c] text := by
  have last : text ++ [c, c] = text ++ [c] ++ [c] := by simp
  rw [endsFirst_iff last, List.infix_concat_iff, not_or]
  refine ⟨?_, clear⟩
  rintro ⟨before, whole⟩
  rw [List.append_cons] at whole
  have ends : before ++ [c] = text := List.append_cancel_right whole
  rw [← ends, List.getLast?_concat] at open_end
  exact open_end rfl

end Scan

theorem Text.trim_cons_of_isBlank {c : Char} (blank : isBlank c = true) (cs : List Char) :
    trim (c :: cs) = trim cs := by
  have dropped : trimLeft (c :: cs) = trimLeft cs := by simp [trimLeft, blank]
  rw [trim, dropped, trim]

namespace IsName

variable {name : String}

theorem toList_ne_nil (isName : IsName name) : name.toList ≠ [] := by
  simpa using isName.1

theorem trim_toList (isName : IsName name) : Text.trim name.toList = name.toList :=
  Text.trim_eq_self isName.2

/-- A name behind a character that is no white space. -/
theorem trim_cons (isName : IsName name) {c : Char} (plain : Text.isBlank c = false) :
    Text.trim (c :: name.toList) = c :: name.toList := by
  apply Text.trim_eq_self
  constructor
  · simpa using plain
  · have last := isName.2.2
    obtain ⟨first, rest, shape⟩ := List.exists_cons_of_ne_nil isName.toList_ne_nil
    rw [shape] at last ⊢
    rwa [List.getLast?_cons_cons]

/-- A tag that applies to a name, whatever its sigil. -/
theorem named (isName : IsName name) (make : String → Tag) :
    Tag.named make name.toList = .ok (make name) := by
  refine Tag.named_eq_ok_iff.mpr ⟨?_, ?_⟩
  · rw [isName.trim_toList]
    exact isName.toList_ne_nil
  · rw [isName.trim_toList, String.ofList_toList]

end IsName

namespace Delimiters

/-- A tag with the given body. -/
def tag (d : Delimiters) (body : List Char) : List Char := d.opening ++ (body ++ d.closing)

/-- Delimiters behind one character each, as long as wanted. -/
def fence (count : Nat) : Delimiters :=
  ⟨'<' :: List.replicate count '-', '>' :: List.replicate count '-'⟩

/-- Whether both delimiters end first behind every text up to a length. -/
def Outlasts (d : Delimiters) (length : Nat) : Prop :=
  ∀ text : List Char, text.length ≤ length →
    Scan.EndsFirst d.opening text ∧ Scan.EndsFirst d.closing text

theorem fence_outlasts (count : Nat) : (fence count).Outlasts count := fun _ short =>
  ⟨Scan.endsFirst_of_length_le (by decide) short, Scan.endsFirst_of_length_le (by decide) short⟩

theorem fence_usable (count : Nat) :
    Usable (fence count).opening ∧ Usable (fence count).closing := by
  have line (c : Char) (member : c ∈ List.replicate count '-') :
      Text.isBlank c = false ∧ c ≠ '=' := by
    obtain rfl := List.eq_of_mem_replicate member
    decide
  constructor
  · exact ⟨List.cons_ne_nil _ _, List.forall_mem_cons.mpr ⟨by decide, line⟩⟩
  · exact ⟨List.cons_ne_nil _ _, List.forall_mem_cons.mpr ⟨by decide, line⟩⟩

/-- The body of the tag that puts delimiters in force. -/
def change (d : Delimiters) : List Char := '=' :: (d.spaced 1 ++ ['='])

theorem fence_change (count : Nat) :
    Tagged standard (standard.tag (fence count).change) [] (.delimiters (fence count)) := by
  have trimmed : Text.trim (fence count).change = (fence count).change :=
    Text.trim_eq_self ⟨by simp [change]; decide, by
      rw [change, ← List.cons_append, List.getLast?_concat]
      simp
      decide⟩
  have unbraced : '}' ∉ (fence count).change := by simp [change, spaced, fence]
  have usable := fence_usable count
  refine @Tagged.plain standard [] (fence count).change _ (by decide) (by simp [change])
    (Scan.endsFirst_of_not_mem unbraced) ?_
  rw [trimmed]
  exact .delimiters 0 usable.1 usable.2

end Delimiters

namespace Element

mutual

/-- An element written with the given delimiters. A comment keeps literal texts apart. -/
def written (d : Delimiters) : Element String → List Char
  | .text content => content.toList ++ d.tag ['!']
  | .escaped path => d.tag (' ' :: path.toList)
  | .raw path => d.tag ('&' :: path.toList)
  | .block path children =>
    d.tag ('#' :: path.toList) ++ (writtenAll d children ++ d.tag ('/' :: path.toList))
  | .inverted path children =>
    d.tag ('^' :: path.toList) ++ (writtenAll d children ++ d.tag ('/' :: path.toList))
  | .reference name => d.tag ('>' :: name.toList)

/-- A forest written with the given delimiters. -/
def writtenAll (d : Delimiters) : Forest String → List Char
  | [] => []
  | element :: rest => element.written d ++ writtenAll d rest

end

mutual

/-- The length of the longest text or name of an element. -/
def longest : Element String → Nat
  | .text content => content.length
  | .escaped path | .raw path | .reference path => path.length
  | .block path children | .inverted path children => max path.length (longestAll children)

/-- The length of the longest text or name of a forest. -/
def longestAll : Forest String → Nat
  | [] => 0
  | element :: rest => max element.longest (longestAll rest)

end

section Written

variable {d d₀ : Delimiters} {length : Nat} (outlasts : d.Outlasts length)
include outlasts

/-- A tag that stands behind nothing. -/
theorem tag_tagged {body : List Char} {tag : Tag} (short : body.length ≤ length)
    (unbraced : body.head? ≠ some '{') (spelled : Tag.Spelled (Text.trim body) tag) :
    Tagged d (d.tag body) [] tag :=
  @Tagged.plain d [] body tag (outlasts [] (Nat.zero_le _)).1 unbraced (outlasts body short).2
    spelled

/-- A tag that consists of a sigil and a name. -/
theorem sigil_tagged {name : String} (isName : IsName name) (short : name.length < length)
    {sigil : Char} {tag : Tag} (plain : Text.isBlank sigil = false) (unbraced : sigil ≠ '{')
    (spelled : Tag.Spelled (sigil :: name.toList) tag) :
    Tagged d (d.tag (sigil :: name.toList)) [] tag := by
  have fits : (sigil :: name.toList).length ≤ length := by
    rw [List.length_cons, String.length_toList]
    omega
  refine tag_tagged outlasts fits (by simpa using unbraced) ?_
  rwa [isName.trim_cons plain]

section Level

variable {cs : List Char} {forest : Forest String} (level : Level d₀ cs forest d)
include level

/-- A literal text, and a comment that ends it. -/
theorem text_level {content : String} (nonempty : content ≠ "") (short : content.length < length) :
    Level d₀ (cs ++ (content.toList ++ d.tag ['!'])) (forest ++ [.text content]) d := by
  have fits : content.toList.length ≤ length := by
    rw [String.length_toList]
    omega
  have present : content.toList.isEmpty = false := by simpa using nonempty
  have comment : Tagged d (content.toList ++ d.opening ++ (['!'] ++ d.closing))
      (literal content.toList) .comment :=
    .plain (outlasts _ fits).1 (by decide) (outlasts _ (by simp; omega)).2
      (Tag.ofBody_eq_ok_iff.mp (by decide))
  have written := Level.leaf level comment .comment
  simpa [Delimiters.tag, literal, present] using written

/-- An escaped value. The space in front keeps a brace from changing the meaning of its tag. -/
theorem escaped_level {path : String} (isName : IsName path)
    (plain : ∀ c ∈ path.toList.head?, c ∉ Tag.sigils) (short : path.length < length) :
    Level d₀ (cs ++ d.tag (' ' :: path.toList)) (forest ++ [.escaped path]) d := by
  have fits : (' ' :: path.toList).length ≤ length := by
    rw [List.length_cons, String.length_toList]
    omega
  have spelled : Tag.Spelled (Text.trim (' ' :: path.toList)) (.escaped path) := by
    have escaped := Tag.Spelled.escaped isName.toList_ne_nil plain
    rw [String.ofList_toList] at escaped
    rwa [Text.trim_cons_of_isBlank (by decide), isName.trim_toList]
  have tagged := tag_tagged outlasts fits (by simp) spelled
  have written := Level.leaf level tagged (.escaped path)
  simpa using written

/-- An element whose tag consists of a sigil and a name. -/
theorem sigil_level {name : String} (isName : IsName name) (short : name.length < length)
    {sigil : Char} {tag : Tag} {element : Element String} (plain : Text.isBlank sigil = false)
    (unbraced : sigil ≠ '{') (spelled : Tag.Spelled (sigil :: name.toList) tag)
    (denotes : tag.Denotes [element]) :
    Level d₀ (cs ++ d.tag (sigil :: name.toList)) (forest ++ [element]) d := by
  have tagged := sigil_tagged outlasts isName short plain unbraced spelled
  have written := Level.leaf level tagged denotes
  simpa using written

/-- A section whose children add themselves to an empty level. -/
theorem section_level {path : String} {children : Forest String} (isName : IsName path)
    (short : path.length < length) {sigil : Char} {tag : Tag}
    {make : Forest String → Element String} (plain : Text.isBlank sigil = false)
    (unbraced : sigil ≠ '{') (spelled : Tag.Spelled (sigil :: path.toList) tag)
    (opens : tag.Opens path make) {inside : List Char} (inner : Level d inside children d) :
    Level d₀ (cs ++ (d.tag (sigil :: path.toList) ++ (inside ++ d.tag ('/' :: path.toList))))
      (forest ++ [make children]) d := by
  have opening := sigil_tagged outlasts isName short plain unbraced spelled
  have named : Tag.Spelled ('/' :: path.toList) (.close path) := by
    have close := Tag.Spelled.close path.toList
    rwa [isName.trim_toList, String.ofList_toList] at close
  have closing := sigil_tagged outlasts isName short (by decide) (by decide) named
  have nested := Level.nested level opening opens inner closing
  simpa using nested

end Level

end Written

mutual

/-- A well-formed element adds itself to the level that it is written behind. -/
theorem written_level {d : Delimiters} {length : Nat} (outlasts : d.Outlasts length) :
    ∀ element : Element String, element.WellFormed → element.longest < length →
    ∀ {d₀ : Delimiters} {cs : List Char} {forest : Forest String}, Level d₀ cs forest d →
    Level d₀ (cs ++ element.written d) (forest ++ [element]) d
  | .text content, formed, short, _, cs, forest, level => by
    rw [WellFormed] at formed
    rw [longest] at short
    exact text_level outlasts level formed short
  | .escaped path, formed, short, _, cs, forest, level => by
    rw [WellFormed] at formed
    rw [longest] at short
    exact escaped_level outlasts level formed.1 formed.2 short
  | .raw path, formed, short, _, cs, forest, level => by
    rw [WellFormed] at formed
    rw [longest] at short
    have spelled : Tag.Spelled ('&' :: path.toList) (.raw path) :=
      Tag.ofBody_eq_ok_iff.mp (formed.named .raw)
    exact sigil_level outlasts level formed short (by decide) (by decide) spelled (.raw path)
  | .reference name, formed, short, _, cs, forest, level => by
    rw [WellFormed] at formed
    rw [longest] at short
    have spelled : Tag.Spelled ('>' :: name.toList) (.reference name) :=
      Tag.ofBody_eq_ok_iff.mp (formed.named .reference)
    exact sigil_level outlasts level formed short (by decide) (by decide) spelled
      (.reference name)
  | .block path children, formed, short, _, cs, forest, level => by
    obtain ⟨isName, wellFormed⟩ := wellFormed_block.mp formed
    rw [longest] at short
    have spelled : Tag.Spelled ('#' :: path.toList) (.openBlock path) :=
      Tag.ofBody_eq_ok_iff.mp (isName.named .openBlock)
    have inner := writtenAll_level outlasts children wellFormed (by omega) (.nil d)
    exact section_level outlasts level isName (by omega) (by decide) (by decide) spelled
      (.block path) inner
  | .inverted path children, formed, short, _, cs, forest, level => by
    obtain ⟨isName, wellFormed⟩ := wellFormed_inverted.mp formed
    rw [longest] at short
    have spelled : Tag.Spelled ('^' :: path.toList) (.openInverted path) :=
      Tag.ofBody_eq_ok_iff.mp (isName.named .openInverted)
    have inner := writtenAll_level outlasts children wellFormed (by omega) (.nil d)
    exact section_level outlasts level isName (by omega) (by decide) (by decide) spelled
      (.inverted path) inner

/-- A well-formed forest adds itself to the level that it is written behind. -/
theorem writtenAll_level {d : Delimiters} {length : Nat} (outlasts : d.Outlasts length) :
    ∀ elements : Forest String, elements.WellFormed → longestAll elements < length →
    ∀ {d₀ : Delimiters} {cs : List Char} {forest : Forest String}, Level d₀ cs forest d →
    Level d₀ (cs ++ writtenAll d elements) (forest ++ elements) d
  | [], _, _, _, cs, forest, level => by
    simpa [writtenAll] using level
  | element :: rest, formed, short, _, cs, forest, level => by
    rw [longestAll] at short
    have first := written_level outlasts element formed.1 (by omega) level
    have all := writtenAll_level outlasts rest formed.2 (by omega) first
    simpa [writtenAll] using all

end

end Element

/-- A text that denotes a forest, if the forest is well-formed. -/
def Forest.written (forest : Forest String) : List Char :=
  let d := Delimiters.fence (Element.longestAll forest + 1)
  Delimiters.standard.tag d.change ++ Element.writtenAll d forest

theorem Forest.written_topLevel {forest : Forest String} (formed : forest.WellFormed) :
    TopLevel forest.written forest := by
  let d := Delimiters.fence (Element.longestAll forest + 1)
  have changed : Level .standard ([] ++ Delimiters.standard.tag d.change) ([] ++ []) d :=
    .change (.nil _) (Delimiters.fence_change _) (by simp [d, Delimiters.fence])
  have level := Element.writtenAll_level (Delimiters.fence_outlasts _) forest formed
    (Nat.lt_succ_self _) changed
  refine ⟨forest.written, [], forest, d, (List.append_nil _).symm, level, ?_, ?_⟩
  · simp [d, Delimiters.fence]
  · simp [literal]

namespace Parser

variable {files : Files} {p : Parser}

/-- The forests that texts are parsed to, if every partial is the empty text, are exactly the
well-formed ones. -/
theorem exists_parse_iff_wellFormed (blank : ∀ name, p.resolver.find files name = .ok "")
    (forest : Forest String) :
    (∃ text elements, (p.parse files text).result = .ok elements ∧
      elements.map (·.name) = forest) ↔ forest.WellFormed := by
  constructor
  · rintro ⟨text, elements, parsed, rfl⟩
    obtain ⟨last, ran, finished⟩ := Outline.result_eq_ok_iff.mp (parse_names parsed)
    exact (Reader.start_formed.run ran).finish finished
  · intro formed
    obtain ⟨last, passes, finished⟩ := Reader.topLevel_passes (forest.written_topLevel formed)
    have ran := (Reader.passes_iff.mp passes).1
    have sound : (Outline.ofText (String.ofList forest.written)).result = .ok forest :=
      Outline.result_eq_ok_iff.mpr ⟨last, by rwa [String.toList_ofList], finished⟩
    exact ⟨String.ofList forest.written, parse_succeeds blank sound⟩

/-- Texts and names full of delimiters, two texts side by side, and a name with a brace in front. -/
def braced : Forest String :=
  [.text "\x7b\x7ba\x7d\x7d\n", .text "\x7b", .escaped "\x7bb",
    .block "\x7d\x7d" [.raw "=<% %>=", .text "\x7d"], .inverted "&" [.reference "\x7b\x7b>c"]]

/-- Some text is parsed to that forest, and none to a forest with an empty text in it. -/
theorem exists_parse_braced :
    (∃ text elements, ((ofResolver (.table [] (.text ""))).parse .none text).result =
      .ok elements ∧ elements.map (·.name) = braced) ∧
    ¬ ∃ text elements, ((ofResolver (.table [] (.text ""))).parse .none text).result =
      .ok elements ∧ elements.map (·.name) = [.text "a", .text ""] := by
  constructor
  · exact (exists_parse_iff_wellFormed (fun _ => rfl) braced).mpr (by decide)
  · rw [exists_parse_iff_wellFormed fun _ => rfl]
    decide

end Parser

end Mustache
