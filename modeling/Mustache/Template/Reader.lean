import Mustache.Template.Element
import Mustache.Template.Scan
import Mustache.Template.Tag
/-!
Reading a template text, one character at a time and never backwards. The state of the reader is
what has been understood so far: the place in the text, the elements of the innermost section and
the sections around it. Each open section remembers the delimiters that were in force around it, so
a change of delimiters ends with the section it stands in.

The result of a reading is an outline: the partial names the text refers to, in reading order, and
either its element tree or the first flaw. The names are kept beside a flaw because references are
bound as they are read, before the rest of the text is known to be sound.
-/
namespace Mustache

/-- A flaw and the line on which it was noticed. -/
structure Located where
  flaw : Flaw
  line : Nat
deriving DecidableEq, Repr

/-- What reading a text yields. -/
structure Outline where
  /-- The partial names referred to, in reading order, up to the flaw if there is one. -/
  references : List String
  /-- The element tree, or the first flaw. -/
  result : Except Located (Forest String)

/-- A reading that a flaw ended, with the names read before, last first. -/
structure Stop where
  references : List String
  located : Located

/-- Where in the text a reader stands. -/
inductive Place where
  /-- In literal text. -/
  | text
  /-- Directly behind an opening delimiter. -/
  | opened
  /-- Inside a tag. -/
  | tag
  /-- Inside a tag that was opened with an additional brace. -/
  | rawTag
deriving DecidableEq, Repr

/-- A section that has been opened and not closed, with what surrounds it. -/
structure OpenSection where
  path : String
  isInverted : Bool
  /-- The elements before the section, last first. -/
  before : List (Element String)
  /-- The delimiters in force around the section. -/
  delimiters : Delimiters

/-- The section with its children. -/
def OpenSection.element (s : OpenSection) (children : Forest String) : Element String :=
  if s.isInverted then .inverted s.path children else .block s.path children

/-- The state of a reading. -/
structure Reader where
  place : Place
  /-- The characters of the current text or tag, last first. -/
  back : List Char
  delimiters : Delimiters
  line : Nat
  /-- The elements of the innermost section, last first. -/
  siblings : List (Element String)
  /-- The open sections, innermost first. -/
  sections : List OpenSection
  /-- The partial names read so far, last first. -/
  references : List String

namespace Reader

/-- A reader before the first character. -/
def start : Reader := ⟨.text, [], .standard, 1, [], [], []⟩

/-- The reading ends with a flaw. -/
def stop (r : Reader) (flaw : Flaw) : Stop := ⟨r.references, ⟨flaw, r.line⟩⟩

/-- The elements, last first, with a text before them unless it is empty. -/
def withText (back : List Char) (siblings : List (Element String)) : List (Element String) :=
  if back.isEmpty then siblings else .text (String.ofList back.reverse) :: siblings

/-- Back in literal text with one more element. -/
def add (r : Reader) (element : Element String) : Reader :=
  { r with place := .text, back := [], siblings := element :: r.siblings }

/-- Back in literal text at the start of a section. -/
def enter (r : Reader) (path : String) (isInverted : Bool) : Reader :=
  { r with
    place := .text, back := [], siblings := []
    sections := ⟨path, isInverted, r.siblings, r.delimiters⟩ :: r.sections }

/-- Back in literal text after the innermost section, which must have the given name. -/
def leave (r : Reader) (name : String) : Except Stop Reader :=
  match r.sections with
  | s :: sections =>
    if s.path = name then
      .ok { r with
        place := .text, back := [], delimiters := s.delimiters
        siblings := s.element r.siblings.reverse :: s.before
        sections := sections }
    else .error (r.stop (.unmatchedClose name))
  | [] => .error (r.stop (.unmatchedClose name))

/-- A section that has been left was the innermost one, and what it held is one element. -/
theorem exists_of_leave {r next : Reader} {name : String} (left : r.leave name = .ok next) :
    ∃ s sections, r.sections = s :: sections ∧ s.path = name ∧
      next = { r with
        place := .text, back := [], delimiters := s.delimiters
        siblings := s.element r.siblings.reverse :: s.before
        sections := sections } := by
  unfold leave at left
  split at left
  · rename_i s sections stack
    split at left
    · rename_i same
      cases left
      exact ⟨s, sections, stack, same, rfl⟩
    · cases left
  · cases left

/-- Acts on a complete tag. -/
def apply (r : Reader) : Tag → Except Stop Reader
  | .escaped path => .ok (r.add (.escaped path))
  | .raw path => .ok (r.add (.raw path))
  | .openBlock path => .ok (r.enter path false)
  | .openInverted path => .ok (r.enter path true)
  | .close name => r.leave name
  | .reference name =>
    .ok { r.add (.reference name) with references := name :: r.references }
  | .delimiters pair => .ok { r with place := .text, back := [], delimiters := pair }
  | .comment => .ok { r with place := .text, back := [] }

/-- Acts on the characters of a complete tag, last first. -/
def closeTag (r : Reader) (back : List Char) : Except Stop Reader :=
  match Tag.ofBody (Text.trim back.reverse) with
  | .ok tag => r.apply tag
  | .error flaw => .error (r.stop flaw)

/-- Acts on the characters of a complete tag with an additional brace, last first. -/
def closeRaw (r : Reader) (back : List Char) : Except Stop Reader :=
  match Text.trim back.reverse with
  | [] => .error (r.stop .emptyRaw)
  | path => .ok (r.add (.raw (String.ofList path)))

/-- Takes in a character whose line has been counted. -/
def take (r : Reader) (c : Char) : Except Stop Reader :=
  match r.place with
  | .text =>
    match Scan.push r.delimiters.opening r.back c with
    | .found back =>
      .ok { r with place := .opened, back := [], siblings := withText back r.siblings }
    | .pending back => .ok { r with back := back }
  | .opened =>
    if c = '{' then .ok { r with place := .rawTag, back := [] }
    else .ok { r with place := .tag, back := [c] }
  | .tag =>
    match Scan.push r.delimiters.closing r.back c with
    | .found back => r.closeTag back
    | .pending back => .ok { r with back := back }
  | .rawTag =>
    match Scan.push r.delimiters.rawClosing r.back c with
    | .found back => r.closeRaw back
    | .pending back => .ok { r with back := back }

theorem exists_of_closeTag {r next : Reader} {back : List Char}
    (closed : r.closeTag back = .ok next) :
    ∃ tag, Tag.ofBody (Text.trim back.reverse) = .ok tag ∧ r.apply tag = .ok next := by
  unfold closeTag at closed
  split at closed
  · rename_i tag read
    exact ⟨tag, read, closed⟩
  · cases closed

theorem eq_of_closeRaw {r next : Reader} {back : List Char} (closed : r.closeRaw back = .ok next) :
    Text.trim back.reverse ≠ [] ∧
      next = r.add (.raw (String.ofList (Text.trim back.reverse))) := by
  unfold closeRaw at closed
  split at closed
  · cases closed
  · rename_i nonempty
    cases closed
    exact ⟨nonempty, rfl⟩

/-- Taking in a character completes a tag, or an opening delimiter, or goes on with a buffer of
characters taken in last. -/
theorem take_cases {r next : Reader} {c : Char} (taken : r.take c = .ok next) :
    (∃ back, r.closeTag back = .ok next) ∨ (∃ back, r.closeRaw back = .ok next) ∨
      (∃ back, next =
        { r with place := .opened, back := [], siblings := withText back r.siblings }) ∨
      ∃ place back, next = { r with place := place, back := back } ∧
        back.reverse <:+ r.back.reverse ++ [c] := by
  have buffered {delimiter back : List Char}
      (pending : Scan.push delimiter r.back c = .pending back) :
      back.reverse <:+ r.back.reverse ++ [c] := by
    unfold Scan.push at pending
    split at pending <;> cases pending
    simp
  unfold take at taken
  split at taken
  · split at taken <;> cases taken
    · exact .inr (.inr (.inl ⟨_, rfl⟩))
    · rename_i pending
      exact .inr (.inr (.inr ⟨_, _, rfl, buffered pending⟩))
  · split at taken <;> cases taken
    · exact .inr (.inr (.inr ⟨_, _, rfl, List.nil_suffix⟩))
    · exact .inr (.inr (.inr ⟨_, _, rfl, List.suffix_append _ _⟩))
  · split at taken
    · exact .inl ⟨_, taken⟩
    · rename_i pending
      cases taken
      exact .inr (.inr (.inr ⟨_, _, rfl, buffered pending⟩))
  · split at taken
    · exact .inr (.inl ⟨_, taken⟩)
    · rename_i pending
      cases taken
      exact .inr (.inr (.inr ⟨_, _, rfl, buffered pending⟩))

/-- Takes in a character. -/
def step (r : Reader) (c : Char) : Except Stop Reader :=
  ({ r with line := if c = '\n' then r.line + 1 else r.line } : Reader).take c

/-- Takes in characters one after another up to the first flaw. -/
def run (r : Reader) : List Char → Except Stop Reader
  | [] => .ok r
  | c :: rest =>
    match r.step c with
    | .ok next => next.run rest
    | .error stopped => .error stopped

/-- What every step keeps, a run keeps. -/
theorem run_induction {P : Reader → Prop}
    (keeps : ∀ {r next : Reader} {c : Char}, P r → r.step c = .ok next → P next)
    {r last : Reader} {cs : List Char} (holds : P r) (ran : r.run cs = .ok last) : P last := by
  induction cs generalizing r with
  | nil =>
    cases ran
    exact holds
  | cons c rest ih =>
    simp only [run] at ran
    split at ran
    · rename_i next stepped
      exact ih (keeps holds stepped) ran
    · cases ran

/-- The element tree of a text that ends here. -/
def finish (r : Reader) : Except Flaw (Forest String) :=
  match r.place with
  | .text =>
    if r.sections.isEmpty then .ok (withText r.back r.siblings).reverse
    else .error .unclosedSection
  | .opened | .tag => .error .unclosedTag
  | .rawTag => .error .unclosedRaw

/-- The outline of a text that ends here. -/
def outline (r : Reader) : Outline :=
  { references := r.references.reverse
    result := r.finish.mapError fun flaw => ⟨flaw, r.line⟩ }

end Reader

/-- The outline of a template text. -/
def Outline.ofText (text : String) : Outline :=
  match Reader.start.run text.toList with
  | .ok r => r.outline
  | .error stopped => ⟨stopped.references.reverse, .error stopped.located⟩

end Mustache
