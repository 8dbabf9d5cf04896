import Mathlib
import Mustache.Files.Tree
import Mustache.Proofs.Partial.Dependence
import Mustache.Proofs.Session.ByName
/-!
Partials in the files of a directory. How deeply they may be nested is bounded by the number of
bytes in all files. Main statements: the bound is never reached; so what a text is parsed to depends
only on the files of the partials that are asked for, and not on what other files there are.
-/
namespace Mustache

namespace Text

theorem length_le_size_utf8Encode (cs : List Char) : cs.length ≤ cs.utf8Encode.size := by
  induction cs with
  | nil => exact Nat.zero_le _
  | cons c rest ih =>
    have positive := c.utf8Size_pos
    rw [List.utf8Encode_cons, List.utf8Encode_singleton, ByteArray.size_append,
      List.size_toByteArray, String.length_utf8EncodeChar, List.length_cons]
    omega

end Text

namespace Files

variable {files files' : Files} {content : ByteArray} {path text : String}

/-- Whether the weight of files is at least the number of bytes in all of them together. -/
def Weighed (files : Files) : Prop :=
  ∃ contents : List ByteArray,
    (∀ path content, files.read path = .ok content → content ∈ contents) ∧
    (contents.map ByteArray.size).sum ≤ files.weight

/-- A text has no more characters than bytes. -/
theorem length_le_of_decode (decoded : decode content = .ok text) : text.length ≤ content.size := by
  have valid : String.fromUTF8? content = some text := by
    unfold decode at decoded
    split at decoded
    · next valid => rwa [← Except.ok.inj decoded]
    · cases decoded
  have same : text.toByteArray = content := by
    unfold String.fromUTF8? at valid
    split at valid
    · cases valid
      rfl
    · cases valid
  have short := Text.length_le_size_utf8Encode text.toList
  rwa [String.utf8Encode_toList, same, String.length_toList] at short

theorem readText_eq_ok_iff : files.readText path = .ok text ↔
    ∃ content, files.read path = .ok content ∧ decode content = .ok text := by
  unfold readText
  cases files.read path with
  | ok content => simp [Except.bind]
  | error e => simp [Except.bind]

/-- The names that the content of a file mentions. -/
def mentions (content : ByteArray) : List String :=
  match decode content with
  | .ok text => (Outline.ofText text).references
  | .error _ => []

theorem length_mentions_le (content : ByteArray) : (mentions content).length ≤ content.size := by
  unfold mentions
  split
  · next text decoded =>
    exact Nat.le_trans (Outline.length_references_le text) (length_le_of_decode decoded)
  · exact Nat.zero_le _

/-- All files together mention no more names than there are bytes. -/
theorem Weighed.mentions (weighed : files.Weighed) : ∃ names : List String,
    names.length ≤ files.weight ∧ ∀ path text, files.readText path = .ok text →
      ∀ name ∈ (Outline.ofText text).references, name ∈ names := by
  obtain ⟨contents, all, bound⟩ := weighed
  refine ⟨contents.flatMap Files.mentions, Nat.le_trans ?_ bound, ?_⟩
  · rw [List.length_flatMap]
    exact List.sum_le_sum fun content _ => length_mentions_le content
  · intro path text read name refers
    obtain ⟨content, here, decoded⟩ := readText_eq_ok_iff.mp read
    refine List.mem_flatMap.mpr ⟨content, all path content here, ?_⟩
    simpa only [Files.mentions, decoded] using refers

end Files

namespace FileTree

variable {t : FileTree} {content : ByteArray} {path : String}

/-- The contents of the files in a tree. -/
def contents (t : FileTree) : List ByteArray :=
  t.entries.filterMap fun entry =>
    match entry.2 with
    | .file content => some content
    | .directory => none

theorem mem_contents {names : List String} (here : t.node? names = some (.file content)) :
    content ∈ t.contents := by
  cases names with
  | nil => cases here
  | cons name rest =>
    have found : t.entries.lookup (name :: rest) = some (.file content) := here
    obtain ⟨before, after, entries, _⟩ := List.lookup_eq_some_iff.mp found
    exact List.mem_filterMap.mpr ⟨_, by rw [entries]; exact List.mem_append_cons_self, rfl⟩

theorem mem_contents_of_read (read : t.read path = .ok content) : content ∈ t.contents := by
  unfold FileTree.read at read
  split at read
  · cases read
  split at read
  · cases read
  split at read
  · cases read
  dsimp only at read
  split at read
  · cases read
  · cases read
  · next names _ =>
    cases here : t.node? names with
    | none => simp [here] at read
    | some node =>
      cases node with
      | directory => simp [here] at read
      | file found =>
        simp only [here] at read
        split at read
        · cases read
        · cases read
          exact mem_contents here

/-- The weight of a tree counts every file in it. -/
theorem files_weighed (t : FileTree) : t.files.Weighed := by
  refine ⟨t.contents, fun path content => mem_contents_of_read, ?_⟩
  have counted : (t.contents.map ByteArray.size).sum = t.weight := by
    unfold contents weight
    induction t.entries with
    | nil => rfl
    | cons entry rest ih =>
      obtain ⟨names, node⟩ := entry
      cases node with
      | directory => simpa [FileNode.size] using ih
      | file content => simpa [FileNode.size] using ih
  exact Nat.le_of_eq counted

end FileTree

namespace Parser

variable {files files' : Files} {p : Parser} {root extension : String}

/-- Over the files of a directory, the bound on the nesting is never reached. -/
theorem parse_ne_nestedTooDeep (weighed : files.Weighed)
    (directory : p.resolver = .directory root extension) (indexed : p.registry.Indexed)
    (text : String) : (p.parse files text).result ≠ .error .nestedTooDeep := by
  obtain ⟨names, few, all⟩ := weighed.mentions
  have missing (name : String) (fault : Fault)
      (failed : p.resolver.find files name = .error fault) : fault ≠ .nestedTooDeep := by
    rw [directory, Resolver.find] at failed
    split at failed
    · cases failed
    · cases failed
      simp
  have closed (name source : String) (found : p.resolver.find files name = .ok source) :
      ∀ other ∈ (Outline.ofText source).references, other ∈ names := by
    rw [directory, Resolver.find] at found
    split at found
    · next read =>
      cases found
      exact all _ _ read
    · cases found
  have room : names.length ≤ p.resolver.weight files := by
    rw [directory]
    exact few
  obtain ⟨done, ending, follows, natural⟩ := parse_ends_of_mentioned indexed closed room text
  rw [follows.result]
  cases ending with
  | complete elements => simp [Binding.Ending.result]
  | broken cause reading =>
    obtain ⟨fault, rfl⟩ := Binding.Ending.Natural.cause natural
    have different : fault ≠ .nestedTooDeep := by
      rcases follows.course.culprit with
        ⟨_, _, rfl⟩ | ⟨_, _, other, _, failed | ⟨_, _, _, _, rfl⟩⟩
      · simp
      · exact missing other fault failed
      · simp
    exact fun same => different (Except.error.inj same)

/-- Over the files of a directory, a parse depends only on the files of the partials it asks for. -/
theorem parse_directory_congr {text : String} (weighed : files.Weighed)
    (weighed' : files'.Weighed) (directory : p.resolver = .directory root extension)
    (indexed : p.registry.Indexed) (agree : ∀ name ∈ (p.parse files text).asked,
      files'.read (Resolver.path root extension name) =
        files.read (Resolver.path root extension name)) :
    p.parse files' text = p.parse files text := by
  refine parse_congr (parse_ne_nestedTooDeep weighed directory indexed text)
    (parse_ne_nestedTooDeep weighed' directory indexed text) fun name asked => ?_
  have answer := agree name asked
  simp only [directory, Resolver.find, Files.readText, answer]

end Parser

end Mustache
