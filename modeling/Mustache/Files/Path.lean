/-!
Paths as texts: parts between slashes. Slashes at the end of a path do not count, nor does a last
part that is a single dot behind a slash.
-/
namespace Mustache.Path

/-- A path inside a directory; an absolute path stands for itself. -/
def join (directory path : String) : String :=
  if path.startsWith "/" || directory.isEmpty then path
  else if directory.endsWith "/" then directory ++ path
  else directory ++ "/" ++ path

/-- A path, last character first, without what does not count at its end. -/
def trimBack : List Char → List Char
  | '/' :: rest => if rest.isEmpty then ['/'] else trimBack rest
  | '.' :: '/' :: rest => trimBack ('/' :: rest)
  | cs => cs

/-- The last part of a path, last character first, and what stands before it; there is none in an
empty path and at the root. -/
def splitBack? (path : String) : Option (List Char × List Char) :=
  match trimBack path.toList.reverse with
  | [] | ['/'] => none
  | back => some (back.takeWhile (· ≠ '/'), trimBack (back.dropWhile (· ≠ '/')))

/-- The directory part of a path; it is empty if the path is a single part. -/
def parent? (path : String) : Option String :=
  (splitBack? path).map fun split => String.ofList split.2.reverse

/-- The directory a file stands in, the current one if its path does not tell. -/
def beside (path : String) : String :=
  match parent? path with
  | some directory => if directory.isEmpty then "." else directory
  | none => "."

/-- What follows the last dot of the last part; a dot at its start does not count. -/
def extension? (path : String) : Option String :=
  match splitBack? path with
  | none => none
  | some (name, _) =>
    match name.dropWhile (· ≠ '.') with
    | _ :: _ :: _ =>
      if name = ['.', '.'] then none
      else some (String.ofList (name.takeWhile (· ≠ '.')).reverse)
    | _ => none

end Mustache.Path
