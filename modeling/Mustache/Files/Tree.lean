import Mustache.Files.Basic
/-!
Files in memory: a directory tree and how paths are followed in it. Paths are relative to the top of
the tree; what lies outside of it is unknown, and nothing is found there.
-/
namespace Mustache

/-- What stands at a place of a tree. -/
inductive FileNode where
  | directory
  | file (content : ByteArray)

/-- The number of bytes at a place. -/
def FileNode.size : FileNode → Nat
  | .directory => 0
  | .file content => content.size

/-- Nodes by the names that lead to them; the top is a directory. -/
structure FileTree where
  entries : List (List String × FileNode)

/-- How far a path has been followed. -/
inductive FilePlace where
  /-- At the end of these names from the top; it may not exist. -/
  | inside (names : List String)
  /-- Somewhere above the top. -/
  | outside

namespace FileTree

/-- A tree with nothing but its top. -/
def empty : FileTree := ⟨[]⟩

/-- The longest name of a file, in bytes. -/
def longestName : Nat := 255

/-- The longest path, in bytes. -/
def longestPath : Nat := 4095

/-- The node at the end of some names. -/
def node? (t : FileTree) : List String → Option FileNode
  | [] => some .directory
  | names => t.entries.lookup names

/-- The parts of a path between slashes, empty ones left out. -/
def parts (path : String) : List String :=
  (path.splitToList (· == '/')).filter (!·.isEmpty)

/-- Follows one part of a path. -/
def step (t : FileTree) (part : String) : FilePlace → Except FileError FilePlace
  | .outside => if part = "." ∨ part = ".." then .ok .outside else .error .notFound
  | .inside names =>
    match t.node? names with
    | none => .error .notFound
    | some (.file _) => .error .notDirectory
    | some .directory =>
      if part = "." then .ok (.inside names)
      else if part = ".." then
        .ok (if names.isEmpty then .outside else .inside names.dropLast)
      else if longestName < part.utf8ByteSize then .error .nameTooLong
      else .ok (.inside (names ++ [part]))

/-- Follows parts of a path one after another. -/
def follow (t : FileTree) (place : FilePlace) : List String → Except FileError FilePlace
  | [] => .ok place
  | part :: rest => (t.step part place).bind fun next => follow t next rest

/-- The content of the file at a path. -/
def read (t : FileTree) (path : String) : Except FileError ByteArray :=
  if path.contains (Char.ofNat 0) then .error .nulInName
  else if path.isEmpty then .error .notFound
  else if longestPath < path.utf8ByteSize then .error .nameTooLong
  else
    let start : FilePlace := if path.startsWith "/" then .outside else .inside []
    match t.follow start (parts path) with
    | .error e => .error e
    | .ok .outside => .error .isDirectory
    | .ok (.inside names) =>
      match t.node? names with
      | none => .error .notFound
      | some .directory => .error .isDirectory
      | some (.file content) =>
        if path.endsWith "/" then .error .notDirectory else .ok content

/-- The tree with a node put at the end of some names. -/
def put (t : FileTree) (names : List String) (node : FileNode) : FileTree :=
  ⟨(names, node) :: t.entries.filter (·.1 != names)⟩

/-- The tree with directories at the end of some names and at the beginnings of them, where nothing
stands yet. -/
def makeDirectories (t : FileTree) (names : List String) : FileTree :=
  (List.range names.length).foldl
    (fun t n => if (t.node? (names.take (n + 1))).isSome then t
      else t.put (names.take (n + 1)) .directory) t

/-- The tree with a directory at a path. -/
def addDirectory (t : FileTree) (path : String) : FileTree := t.makeDirectories (parts path)

/-- The tree with a file at a path, in directories made for it if need be. -/
def addFile (t : FileTree) (path : String) (content : ByteArray) : FileTree :=
  let names := (parts path).filter (· != ".")
  (t.makeDirectories names.dropLast).put names (.file content)

/-- The number of bytes in all files. -/
def weight (t : FileTree) : Nat := t.entries.foldr (fun entry total => entry.2.size + total) 0

/-- The tree as files to read. -/
def files (t : FileTree) : Files := ⟨t.read, t.weight⟩

end FileTree

end Mustache
