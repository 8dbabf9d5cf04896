import Mustache.Proofs.Template.Scan
import Mustache.Proofs.Template.Spelling
import Mustache.Template.Element
/-!
The grammar of template texts, independent of how they are read. A level is a sequence of literal
texts and tags for the delimiters in force; a section holds a level of its own, is closed by a tag
with its name, and ends every change of delimiters within it. A template text is a level for the
standard delimiters with literal text behind it.
-/
namespace Mustache

/-- What a literal text denotes: nothing if it is empty. -/
def literal (text : List Char) : Forest String :=
  if text.isEmpty then [] else [.text (String.ofList text)]

namespace Tag

/-- What a tag that is complete in itself adds to a level. -/
inductive Denotes : Tag → Forest String → Prop where
  | escaped (path : String) : Denotes (.escaped path) [.escaped path]
  | raw (path : String) : Denotes (.raw path) [.raw path]
  | reference (name : String) : Denotes (.reference name) [.reference name]
  | comment : Denotes .comment []

/-- The name that the close tag of a section must have, and what the section denotes. -/
inductive Opens : Tag → String → (Forest String → Element String) → Prop where
  | block (path : String) : Opens (.openBlock path) path (.block path)
  | inverted (path : String) : Opens (.openInverted path) path (.inverted path)

end Tag

/-- A literal text and a tag behind it: the text up to the leftmost opening delimiter, and the tag
up to the leftmost closing delimiter. The forest is what the literal text denotes. -/
inductive Tagged (d : Delimiters) : List Char → Forest String → Tag → Prop where
  | plain {text body : List Char} {tag : Tag} : Scan.EndsFirst d.opening text →
      body.head? ≠ some '{' → Scan.EndsFirst d.closing body → Tag.Spelled (Text.trim body) tag →
      Tagged d (text ++ d.opening ++ (body ++ d.closing)) (literal text) tag
  | braced {text body : List Char} : Scan.EndsFirst d.opening text →
      Scan.EndsFirst d.rawClosing body → Text.trim body ≠ [] →
      Tagged d (text ++ d.opening ++ ('{' :: (body ++ d.rawClosing))) (literal text)
        (.raw (String.ofList (Text.trim body)))

/-- A level: the delimiters in force before it, its text, what it denotes, and the delimiters in
force behind it. -/
inductive Level : Delimiters → List Char → Forest String → Delimiters → Prop where
  | nil (d : Delimiters) : Level d [] [] d
  | leaf {d d₁ : Delimiters} {cs piece : List Char} {forest text elements : Forest String}
      {tag : Tag} : Level d cs forest d₁ → Tagged d₁ piece text tag → tag.Denotes elements →
      Level d (cs ++ piece) (forest ++ text ++ elements) d₁
  | change {d d₁ d₂ : Delimiters} {cs piece : List Char} {forest text : Forest String} :
      Level d cs forest d₁ → Tagged d₁ piece text (.delimiters d₂) → 2 ≤ d₂.closing.length →
      Level d (cs ++ piece) (forest ++ text) d₂
  | nested {d d₁ d₂ : Delimiters} {cs piece inside last : List Char}
      {forest text children rest : Forest String} {tag : Tag} {path : String}
      {make : Forest String → Element String} : Level d cs forest d₁ → Tagged d₁ piece text tag →
      tag.Opens path make → Level d₁ inside children d₂ → Tagged d₂ last rest (.close path) →
      Level d (cs ++ (piece ++ (inside ++ last))) (forest ++ text ++ [make (children ++ rest)]) d₁

/-- A template text: a level for the standard delimiters, and literal text behind it in which the
opening delimiter then in force does not occur. -/
def TopLevel (cs : List Char) (forest : Forest String) : Prop :=
  ∃ level trailing elements d, cs = level ++ trailing ∧ Level .standard level elements d ∧
    ¬ d.opening <:+: trailing ∧ forest = elements ++ literal trailing

/-- Delimiters under which a tag is read up to the leftmost closing delimiter: the first character
of a tag alone is never taken for its end. -/
def Delimiters.Wide (d : Delimiters) : Prop := d.opening ≠ [] ∧ 2 ≤ d.closing.length

theorem Delimiters.standard_wide : standard.Wide := ⟨by decide, by decide⟩

theorem Tagged.usable {d pair : Delimiters} {piece : List Char} {text : Forest String}
    (tagged : Tagged d piece text (.delimiters pair)) :
    Delimiters.Usable pair.opening ∧ Delimiters.Usable pair.closing := by
  cases tagged with
  | plain _ _ _ spelled =>
    generalize Text.trim _ = body at spelled
    cases spelled with
    | delimiters spaces opening closing => exact ⟨opening, closing⟩

theorem Level.wide {d d' : Delimiters} {cs : List Char} {forest : Forest String}
    (level : Level d cs forest d') (start : d.Wide) : d'.Wide := by
  induction level with
  | nil d => exact start
  | leaf _ _ _ ih => exact ih start
  | change _ tagged long _ => exact ⟨tagged.usable.1.1, long⟩
  | nested _ _ _ _ _ ih _ => exact ih start

end Mustache
