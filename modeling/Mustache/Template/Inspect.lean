import Mustache.Template.Basic
import Mustache.Text.Quoted
/-!
The inspected form of templates.
-/
namespace Mustache

namespace PartialRef

/-- The inspected form of a reference. -/
def inspect (r : PartialRef) : String :=
  "PartialRef \x7b name: " ++ Text.quoted r.name ++ ", slot: " ++ r.slot.repr ++ " \x7d"

end PartialRef

namespace Element

mutual

/-- The inspected form of an element. -/
def inspect : Element PartialRef → String
  | .text content => "Text(" ++ Text.quoted content ++ ")"
  | .escaped path => "Variable(" ++ Text.quoted path ++ ")"
  | .raw path => "LiteralVariable(" ++ Text.quoted path ++ ")"
  | .block path children => inspectSection "Section" path (inspectAll children)
  | .inverted path children => inspectSection "InvertedSection" path (inspectAll children)
  | .reference target => "Partial(" ++ target.inspect ++ ")"

/-- The inspected forms of the elements of a forest. -/
def inspectAll : Forest PartialRef → List String
  | [] => []
  | element :: rest => element.inspect :: inspectAll rest

/-- The inspected form of a section of either kind. -/
def inspectSection (kind path : String) (children : List String) : String :=
  kind ++ " \x7b path: " ++ Text.quoted path ++ ", children: [" ++ ", ".intercalate children ++
    "] \x7d"

end

end Element

namespace Template

/-- The inspected form of a template. -/
def inspect (t : Template) : String :=
  "Template \x7b elements: [" ++ ", ".intercalate (Element.inspectAll t.elements) ++ "], .. \x7d"

end Template

end Mustache
