/-!
What can be wrong with the text of a template, and how it is reported.
-/
namespace Mustache

/-- The ways in which a template text can be malformed. -/
inductive Flaw where
  /-- The text ends inside a tag. -/
  | unclosedTag
  /-- The text ends inside a tag that was opened with an additional brace. -/
  | unclosedRaw
  /-- The text ends inside a section. -/
  | unclosedSection
  /-- A tag holds nothing, or nothing after its sigil. -/
  | emptyTag
  /-- A tag with an additional brace holds nothing. -/
  | emptyRaw
  /-- A close tag names something other than the innermost open section. -/
  | unmatchedClose (name : String)
  /-- A tag that starts with an equals sign does not give two delimiters. -/
  | badDelimiters
deriving DecidableEq, Repr

namespace Flaw

/-- The wording of a flaw. -/
def message : Flaw → String
  | .unclosedTag => "Unclosed tag at end of document"
  | .unclosedRaw => "Unclosed literal tag at end of document"
  | .unclosedSection => "Unclosed section at end of document"
  | .emptyTag => "Illegal empty tag"
  | .emptyRaw => "Illegal empty literal tag"
  | .unmatchedClose name => "Unmatched section close tag - " ++ name
  | .badDelimiters => "Incorrect delimiter tag"

/-- Whether the flaw lies in what is missing at the end of the text. -/
def isUnclosed : Flaw → Bool
  | .unclosedTag | .unclosedRaw | .unclosedSection => true
  | _ => false

end Flaw

end Mustache
