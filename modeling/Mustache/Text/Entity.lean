/-!
Escaping for HTML: the four characters that could end a text or a double-quoted attribute are
written as entities, all others stand for themselves.
-/
namespace Mustache.Text

/-- The escaped form of one character. -/
def entity : Char → List Char
  | '&' => ['&', 'a', 'm', 'p', ';']
  | '<' => ['&', 'l', 't', ';']
  | '>' => ['&', 'g', 't', ';']
  | '\"' => ['&', 'q', 'u', 'o', 't', ';']
  | c => [c]

/-- A text with every character escaped. -/
def escape (s : String) : String := String.ofList (s.toList.flatMap entity)

@[simp] theorem toList_escape (s : String) : (escape s).toList = s.toList.flatMap entity := by
  simp [escape]

end Mustache.Text
