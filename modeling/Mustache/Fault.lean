import Mustache.Files.Basic
import Mustache.Template.Reader
/-!
Why an operation on templates fails, and how the failure is reported.
-/
namespace Mustache

/-- The causes of failure. -/
inductive Fault where
  /-- A template text is malformed. -/
  | parse (located : Located)
  /-- A supplier of partials reports a malformed text in its own words. -/
  | reported (message : String) (line : Nat)
  /-- A text cannot serve as a file extension. -/
  | invalidExtension (value : String)
  /-- A partial has no source. -/
  | partialNotFound (name reason : String)
  /-- Data cannot be taken over. -/
  | data (message : String)
  /-- A file cannot be read. -/
  | io (cause : FileError)
  /-- Partials refer to one another more deeply than all sources together allow. -/
  | nestedTooDeep
  /-- A library has no parser of that number. -/
  | unknownParser (number : Nat)
deriving DecidableEq, Repr

namespace Fault

/-- The wording of a parse failure. -/
def parseMessage (message : String) (line : Nat) : String :=
  "TEMPLATE_PARSE_ERROR: " ++ message ++ " (line " ++ line.repr ++ ")"

/-- The wording of a failure. -/
def message : Fault → String
  | .parse located => parseMessage located.flaw.message located.line
  | .reported text line => parseMessage text line
  | .invalidExtension value => "TEMPLATE_INVALID_EXTENSION: invalid extension - " ++ value
  | .partialNotFound name reason =>
    "PARTIAL_NOT_FOUND: partial '" ++ name ++ "' could not be resolved: " ++ reason
  | .data text => "DATA_CONVERSION_ERROR: " ++ text
  | .io cause => "IO_ERROR: " ++ cause.message
  | .nestedTooDeep => "PARTIAL_NESTING_ERROR: partials are nested too deeply"
  | .unknownParser number => "UNKNOWN_PARSER: no parser has the number " ++ number.repr

end Fault

end Mustache
