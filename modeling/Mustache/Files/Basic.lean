/-!
The files a program sees: what reading a path yields, and how a failed reading is reported.
-/
namespace Mustache

/-- Why a file could not be read. -/
inductive FileError where
  | notFound
  | notDirectory
  | isDirectory
  | nameTooLong
  /-- The path holds a NUL character. -/
  | nulInName
  /-- The content is not a UTF-8 text. -/
  | notUtf8
  /-- A failure described by whoever supplies the files. -/
  | other (message : String)
deriving DecidableEq, Repr

namespace FileError

/-- The wording of a failure. -/
def message : FileError → String
  | .notFound => "No such file or directory (os error 2)"
  | .notDirectory => "Not a directory (os error 20)"
  | .isDirectory => "Is a directory (os error 21)"
  | .nameTooLong => "File name too long (os error 36)"
  | .nulInName => "file name contained an unexpected NUL byte"
  | .notUtf8 => "stream did not contain valid UTF-8"
  | .other message => message

end FileError

/-- The files a program can read. -/
structure Files where
  /-- The content of the file at a path. -/
  read : String → Except FileError ByteArray
  /-- At least the number of bytes in all files together. -/
  weight : Nat

namespace Files

/-- No files at all. -/
def none : Files := ⟨fun _ => .error .notFound, 0⟩

/-- The text that bytes encode. -/
def decode (bytes : ByteArray) : Except FileError String :=
  match String.fromUTF8? bytes with
  | some text => .ok text
  | .none => .error .notUtf8

/-- The text of the file at a path. -/
def readText (files : Files) (path : String) : Except FileError String :=
  (files.read path).bind decode

end Files

end Mustache
