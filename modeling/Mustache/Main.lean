import Mustache.CommandLine.Run
/-!
The program. A run is tried with the files read so far; the paths it asks for are read, and it is
tried again until it asks for nothing new. Then its report is printed, with the events of the log in
words and without their times. A filter that the environment sets for the log is not read.
-/
namespace Mustache.CommandLine

/-- How deeply a render may nest. -/
def renderFuel : Nat := 1000000

/-- The paths read so far, and what came of reading them. -/
abbrev Answers := List (String × Except FileError ByteArray)

namespace Answers

/-- The number of bytes read. -/
def weight : Answers → Nat
  | [] => 0
  | (_, .ok content) :: rest => content.size + weight rest
  | (_, .error _) :: rest => weight rest

/-- The files read so far; no other path is found. -/
def files (answers : Answers) : Files :=
  ⟨fun path => (answers.lookup path).getD (.error .notFound), answers.weight⟩

end Answers

/-- The number of a failure; some calls of the system negate it. -/
def number (code : UInt32) : Nat := min code.toNat (0 - code).toNat

/-- The reason for a failure that the system reports. -/
def failure : IO.Error → FileError
  | .noFileOrDirectory .. => .notFound
  | .inappropriateType _ code _ => if number code = 20 then .notDirectory else .isDirectory
  | .invalidArgument _ code details =>
    if number code = 36 then .nameTooLong else .other details
  | .permissionDenied .. => .other "Permission denied (os error 13)"
  | e => .other (toString e)

/-- Reads the file at a path. -/
def readPath (path : String) : IO (Except FileError ByteArray) := do
  if path.contains (Char.ofNat 0) then
    return .error .nulInName
  try
    return .ok (← IO.FS.readBinFile path)
  catch e =>
    return .error (failure e)

/-- The report of a run that is given every file it asks for. -/
partial def supply (environment : Environment) (args : List String) (answers : Answers) :
    IO Report := do
  let (report, consulted) := run answers.files renderFuel environment args
  match consulted.filter fun path => (answers.lookup path).isNone with
  | [] => return report
  | missing =>
    let more ← missing.eraseDups.mapM fun path => return (path, ← readPath path)
    supply environment args (more ++ answers)

end Mustache.CommandLine

open Mustache.CommandLine in
/-- Runs the command line and exits with its code. -/
def main (args : List String) : IO UInt32 := do
  let report ← supply ⟨← IO.getEnv "STACHE_CONFIG", none⟩ args []
  IO.print report.out
  IO.eprint (report.stderr fun _ e => e.words ++ "\n")
  return UInt32.ofNat report.code
