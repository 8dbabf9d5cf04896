import Mustache.Partial.Custom
import Mustache.Template.Inspect
/-!
The inspected form of partials.
-/
namespace Mustache.Partial

/-- The inspected form of a partial; code shows nothing. -/
def inspect : Partial → String
  | .template t => "Template(" ++ t.inspect ++ ")"
  | .custom _ => "Custom(..)"

end Mustache.Partial
