import Mathlib
import Mustache.CommandLine.Run
import Mustache.Proofs.Session.Directory
/-!
What the steps of a run come to. A step adds to what has been printed and read before, and neither
what it adds nor its result depends on that. Main statements: what each step adds; and every step
depends only on the files that it reads, so a run is the same over any other files that agree on
these.
-/
namespace Mustache.CommandLine

/-- What a step of a run comes to. -/
structure Effect (α : Type) where
  /-- The result, or the message to end with. -/
  result : Except String α
  /-- What is printed. -/
  out : String
  err : List Entry
  /-- The paths read, last first. -/
  consulted : List String

namespace Effect

variable {α : Type}

/-- What is left of a run after one more step. -/
def after (e : Effect α) (p : Progress) : EStateM.Result String Progress α :=
  match e.result with
  | .ok a => .ok a ⟨p.out ++ e.out, p.err ++ e.err, e.consulted ++ p.consulted⟩
  | .error message =>
    .error message ⟨p.out ++ e.out, p.err ++ e.err, e.consulted ++ p.consulted⟩

/-- The report of a run that consists of one step, and the paths that it reads. -/
def report (e : Effect Unit) : Report × List String :=
  match e.result with
  | .ok _ => (⟨0, e.out, e.err⟩, e.consulted.reverse)
  | .error message =>
    (⟨1, e.out, e.err ++ [.text ("Error: " ++ message ++ "\n")]⟩, e.consulted.reverse)

theorem report_paths (e : Effect Unit) : e.report.2 = e.consulted.reverse := by
  unfold report
  cases e.result <;> rfl

end Effect

namespace Run

variable {α β : Type}

/-- A step has an effect, whatever was done before. -/
def Does (act : Run α) (e : Effect α) : Prop := ∀ p, act p = e.after p

/-- A step has one effect only. -/
theorem Does.unique {act : Run α} {e e' : Effect α} (does : act.Does e) (does' : act.Does e') :
    e = e' := by
  have same := (does ⟨"", [], []⟩).symm.trans (does' ⟨"", [], []⟩)
  obtain ⟨result, out, err, consulted⟩ := e
  obtain ⟨result', out', err', consulted'⟩ := e'
  cases result <;> cases result' <;> simp_all [Effect.after]

theorem Does.of_eq {act : Run α} {e e' : Effect α} (does : act.Does e) (same : e = e') :
    act.Does e' := same ▸ does

theorem does_pure (a : α) : Does (pure a) ⟨.ok a, "", [], []⟩ := by
  intro p
  simp [Effect.after, Pure.pure, EStateM.pure]

theorem does_throw (message : String) :
    Does (throw message : Run α) ⟨.error message, "", [], []⟩ := by
  intro p
  have unchanged : Effect.after ⟨.error message, "", [], []⟩ p = .error (α := α) message p := by
    simp [Effect.after]
  rw [unchanged]
  rfl

/-- A step that only adds to what has been printed and read. -/
theorem does_modify {f : Progress → Progress} {out : String} {err : List Entry}
    {consulted : List String}
    (adds : ∀ p, f p = ⟨p.out ++ out, p.err ++ err, consulted ++ p.consulted⟩) :
    Does (modify f : Run Unit) ⟨.ok (), out, err, consulted⟩ :=
  fun p => congrArg (EStateM.Result.ok ()) (adds p)

/-- One step after another. -/
theorem Does.bind {act : Run α} {next : α → Run β} {a : α} {out out' : String}
    {err err' : List Entry} {consulted consulted' : List String} {result : Except String β}
    (does : act.Does ⟨.ok a, out, err, consulted⟩)
    (continues : (next a).Does ⟨result, out', err', consulted'⟩) :
    Does (act >>= next) ⟨result, out ++ out', err ++ err', consulted' ++ consulted⟩ := by
  intro p
  simp only [Bind.bind, EStateM.bind, does p, Effect.after, continues _]
  cases result <;> simp [String.append_assoc]

/-- A step behind one that prints nothing. -/
theorem Does.behind {act : Run α} {next : α → Run β} {a : α} {out : String} {err : List Entry}
    {consulted consulted' : List String} {result : Except String β}
    (does : act.Does ⟨.ok a, "", [], consulted⟩)
    (continues : (next a).Does ⟨result, out, err, consulted'⟩) :
    Does (act >>= next) ⟨result, out, err, consulted' ++ consulted⟩ := by
  simpa using does.bind continues

/-- A step behind one that prints to the standard error only. -/
theorem Does.telling {act : Run α} {next : α → Run β} {a : α} {out : String}
    {told err : List Entry} {consulted : List String} {result : Except String β}
    (does : act.Does ⟨.ok a, "", told, []⟩)
    (continues : (next a).Does ⟨result, out, err, consulted⟩) :
    Does (act >>= next) ⟨result, out, told ++ err, consulted⟩ := by
  simpa using does.bind continues

/-- A step behind one that only gives a result. -/
theorem Does.first {act : Run α} {next : α → Run β} {a : α} {e : Effect β}
    (does : act.Does ⟨.ok a, "", [], []⟩) (continues : (next a).Does e) :
    Does (act >>= next) e :=
  does.telling continues

/-- A step that reads nothing behind one that prints nothing. -/
theorem Does.last {act : Run α} {next : α → Run β} {a : α} {out : String} {err : List Entry}
    {consulted : List String} {result : Except String β}
    (does : act.Does ⟨.ok a, "", [], consulted⟩)
    (continues : (next a).Does ⟨result, out, err, []⟩) :
    Does (act >>= next) ⟨result, out, err, consulted⟩ := by
  simpa using does.behind continues

/-- A step that fails is the last one. -/
theorem Does.stop {act : Run α} {next : α → Run β} {message out : String} {err : List Entry}
    {consulted : List String} (does : act.Does ⟨.error message, out, err, consulted⟩) :
    Does (act >>= next) ⟨.error message, out, err, consulted⟩ := by
  intro p
  simp only [Bind.bind, EStateM.bind, does p, Effect.after]

theorem print_does (line : String) : (print line).Does ⟨.ok (), line ++ "\n", [], []⟩ :=
  does_modify fun p => by simp [String.append_assoc]

theorem complain_does (line : String) :
    (complain line).Does ⟨.ok (), "", [.text (line ++ "\n")], []⟩ :=
  does_modify fun p => by simp

theorem note_does (log : Event → Bool) (events : List Event) :
    (note log events).Does ⟨.ok (), "", logged log events, []⟩ :=
  does_modify fun p => by simp

/-- What a line of the trace adds. -/
def traced (verbose : Bool) (line : String) : List Entry :=
  if verbose then [.text (line ++ "\n")] else []

theorem trace_does (verbose : Bool) (line : String) :
    (trace verbose line).Does ⟨.ok (), "", traced verbose line, []⟩ := by
  unfold trace traced
  split
  · exact complain_does line
  · exact does_pure ()

/-- A step behind a line of the trace. -/
theorem Does.traced {act : Run α} {result : Except String α} {out : String} {err : List Entry}
    {consulted : List String} (verbose : Bool) (line : String)
    (does : act.Does ⟨result, out, err, consulted⟩) :
    Does (trace verbose line >>= fun _ => act)
      ⟨result, out, Run.traced verbose line ++ err, consulted⟩ :=
  (trace_does verbose line).telling does

theorem readText_does (files : Files) (path : String) :
    (readText files path).Does ⟨.ok (files.readText path), "", [], [path]⟩ := by
  have noted : Does (modify fun p => { p with consulted := path :: p.consulted })
      ⟨.ok (), "", [], [path]⟩ := does_modify fun p => by simp
  exact noted.last (does_pure (files.readText path))

/-- A step that prints nothing, and of whose result something holds. -/
def Gives (act : Run α) (good : α → Prop) : Prop :=
  ∃ result consulted, act.Does ⟨result, "", [], consulted⟩ ∧ ∀ a, result = .ok a → good a

section Gives

variable {good : α → Prop} {better : β → Prop}

theorem gives_pure {a : α} (holds : good a) : Gives (pure a) good :=
  ⟨.ok a, [], does_pure a, by rintro _ ⟨⟩; exact holds⟩

theorem gives_throw (message : String) (good : α → Prop) : Gives (throw message) good :=
  ⟨.error message, [], does_throw message, nofun⟩

theorem Gives.bind {act : Run α} {next : α → Run β} (gives : act.Gives good)
    (continues : ∀ a, good a → (next a).Gives better) : Gives (act >>= next) better := by
  obtain ⟨result, consulted, does, holds⟩ := gives
  cases result with
  | error message => exact ⟨.error message, consulted, does.stop, nofun⟩
  | ok a =>
    obtain ⟨result', consulted', does', holds'⟩ := continues a (holds a rfl)
    exact ⟨result', consulted' ++ consulted, does.behind does', holds'⟩

end Gives

section Texts

variable {files : Files} {path : String}

theorem requireText_of_ok (what : String) {text : String} (read : files.readText path = .ok text) :
    (requireText files what path).Does ⟨.ok text, "", [], [path]⟩ := by
  have reading := readText_does files path
  rw [read] at reading
  exact reading.last (does_pure text)

theorem requireText_of_error (what : String) {e : FileError}
    (failed : files.readText path = .error e) : ∃ message,
      (requireText files what path).Does ⟨.error message, "", [], [path]⟩ := by
  have reading := readText_does files path
  rw [failed] at reading
  exact ⟨_, reading.last (does_throw _)⟩

theorem requireText_gives (files : Files) (what path : String) :
    (requireText files what path).Gives fun text => files.readText path = .ok text := by
  cases read : files.readText path with
  | ok text => exact ⟨_, _, requireText_of_ok what read, by rintro _ ⟨⟩; rfl⟩
  | error e =>
    obtain ⟨message, does⟩ := requireText_of_error what read
    exact ⟨_, _, does, nofun⟩

/-- A configuration file that is well-formed is in force. -/
theorem configIn_of_some {text : String} {c : Config} (read : files.readText path = .ok text)
    (formed : Config.ofText? path text = some c) :
    (configIn files path).Does ⟨.ok c, "", [], [path]⟩ := by
  refine (requireText_of_ok "config file" read).last ?_
  rw [formed]
  exact does_pure c

theorem configIn_does (files : Files) (path : String) :
    ∃ result, (configIn files path).Does ⟨result, "", [], [path]⟩ := by
  cases read : files.readText path with
  | error e =>
    obtain ⟨message, does⟩ := requireText_of_error "config file" read
    exact ⟨_, does.stop⟩
  | ok text =>
    cases formed : Config.ofText? path text with
    | some c => exact ⟨_, configIn_of_some read formed⟩
    | none =>
      refine ⟨.error ("Invalid config file " ++ path ++ ": it is not well-formed"), ?_⟩
      refine (requireText_of_ok "config file" read).last ?_
      rw [formed]
      exact does_throw _

end Texts

/-- The path of the configuration file. -/
def configPath (path : Option String) : String := path.getD Config.defaultFile

/-- Without a file named, the run goes on with the one of the current directory or without any. -/
theorem config_none (files : Files) :
    ((config files none).Does ⟨.ok .standard, "", [], [Config.defaultFile]⟩ ∧
      ∀ text, files.readText Config.defaultFile ≠ .ok text) ∨
      ∀ result, (configIn files Config.defaultFile).Does
          ⟨result, "", [], [Config.defaultFile]⟩ →
        (config files none).Does ⟨result, "", [], [Config.defaultFile, Config.defaultFile]⟩ := by
  have reading := readText_does files Config.defaultFile
  cases read : files.readText Config.defaultFile with
  | ok text =>
    rw [read] at reading
    exact .inr fun result does => .of_eq (reading.behind does) rfl
  | error e =>
    rw [read] at reading
    cases e with
    | notFound | isDirectory | notDirectory => exact .inl ⟨reading.last (does_pure _), nofun⟩
    | nameTooLong | nulInName | notUtf8 | other =>
      exact .inr fun result does => .of_eq (reading.behind does) rfl

/-- Reading the configuration prints nothing and reads nothing else. -/
theorem config_does (files : Files) (path : Option String) :
    ∃ result consulted, (config files path).Does ⟨result, "", [], consulted⟩ ∧
      ∀ other ∈ consulted, other = configPath path := by
  cases path with
  | some path =>
    obtain ⟨result, does⟩ := configIn_does files path
    exact ⟨result, _, does, fun other => List.mem_singleton.mp⟩
  | none =>
    rcases config_none files with ⟨standard, _⟩ | further
    · exact ⟨_, _, standard, fun other => List.mem_singleton.mp⟩
    · obtain ⟨result, does⟩ := configIn_does files Config.defaultFile
      exact ⟨result, _, further result does, by simp [configPath]⟩

/-- The configuration depends on its file only. -/
theorem config_congr {files files' : Files} {path : Option String}
    (same : files'.readText (configPath path) = files.readText (configPath path)) :
    config files' path = config files path := by
  have reading : readText files' (configPath path) = readText files (configPath path) := by
    rw [readText, readText, same]
  cases path with
  | some path =>
    simp only [configPath, Option.getD_some] at reading
    simp only [config, configIn, requireText, reading]
  | none =>
    simp only [configPath, Option.getD_none] at reading
    simp only [config, configIn, requireText, reading]

/-- How often the configuration file is read if there is one. -/
def configReads : Option String → List String
  | some path => [path]
  | none => [Config.defaultFile, Config.defaultFile]

theorem config_of_some {files : Files} {path : Option String} {text : String} {c : Config}
    (read : files.readText (configPath path) = .ok text)
    (formed : Config.ofText? (configPath path) text = some c) :
    (config files path).Does ⟨.ok c, "", [], configReads path⟩ := by
  have does := configIn_of_some read formed
  cases path with
  | some path => exact does
  | none =>
    rcases config_none files with ⟨_, unread⟩ | further
    · exact absurd read (unread text)
    · exact further _ does

/-- The value that the text of a data file stands for. -/
def valueOf? (path text : String) : Option Value :=
  if isJson path then Json.read? text else Toml.Document.readValue? text

/-- A value that a file holds. -/
def Holds (files : Files) (path : String) (value : Value) : Prop :=
  ∃ text, files.readText path = .ok text ∧ valueOf? path text = some value

theorem loadData_gives (files : Files) (path : String) :
    (loadData files path).Gives (Holds files path) := by
  refine (requireText_gives files "data file" path).bind fun text read => ?_
  unfold Holds valueOf?
  split
  · cases parsed : Json.read? text with
    | some value => exact gives_pure ⟨text, read, parsed⟩
    | none => exact gives_throw _ _
  · cases parsed : Toml.Document.readValue? text with
    | some value => exact gives_pure ⟨text, read, parsed⟩
    | none => exact gives_throw _ _

/-- What a step reads decides what it comes to. -/
def Tracks (act : Files → Run α) : Prop :=
  ∀ files, files.Weighed → ∃ e, (act files).Does e ∧ ∀ files', files'.Weighed →
    (∀ path ∈ e.consulted, files'.read path = files.read path) → (act files').Does e

namespace Tracks

theorem const {act : Run α} {e : Effect α} (does : act.Does e) : Tracks fun _ => act :=
  fun _ _ => ⟨e, does, fun _ _ _ => does⟩

theorem bind {act : Files → Run α} {next : Files → α → Run β} (first : Tracks act)
    (rest : ∀ a, Tracks fun files => next files a) :
    Tracks fun files => act files >>= next files := by
  intro files weighed
  obtain ⟨⟨result, out, err, consulted⟩, does, same⟩ := first files weighed
  cases result with
  | error message =>
    exact ⟨_, does.stop, fun files' weighed' agree => (same files' weighed' agree).stop⟩
  | ok a =>
    obtain ⟨⟨result', out', err', consulted'⟩, does', same'⟩ := rest a files weighed
    refine ⟨_, does.bind does', fun files' weighed' agree => ?_⟩
    have before := same files' weighed' fun path member =>
      agree path (List.mem_append_right _ member)
    have after := same' files' weighed' fun path member =>
      agree path (List.mem_append_left _ member)
    exact before.bind after

/-- A step that depends on no files has one result only, if it has any. -/
theorem behind {act : Run α} {next : Files → α → Run β} {result : Except String α}
    {out : String} {err : List Entry} {consulted : List String}
    (does : act.Does ⟨result, out, err, consulted⟩)
    (rest : ∀ a, result = .ok a → Tracks fun files => next files a) :
    Tracks fun files => act >>= next files := by
  cases result with
  | error message => exact fun _ _ => ⟨_, does.stop, fun _ _ _ => does.stop⟩
  | ok a =>
    intro files weighed
    obtain ⟨⟨result', out', err', consulted'⟩, does', same'⟩ := rest a rfl files weighed
    refine ⟨_, does.bind does', fun files' weighed' agree => ?_⟩
    exact does.bind (same' files' weighed' fun path member =>
      agree path (List.mem_append_left _ member))

end Tracks

theorem readText_tracks (path : String) : Tracks fun files => readText files path := by
  intro files _
  refine ⟨_, readText_does files path, fun files' _ agree => ?_⟩
  have same : files'.readText path = files.readText path := by
    rw [Files.readText, Files.readText, agree path List.mem_cons_self]
  rw [← same]
  exact readText_does files' path

theorem requireText_tracks (what path : String) :
    Tracks fun files => requireText files what path := by
  refine (readText_tracks path).bind fun read => ?_
  cases read with
  | ok text => exact .const (does_pure text)
  | error e => exact .const (does_throw _)

theorem loadData_tracks (path : String) : Tracks fun files => loadData files path := by
  refine (requireText_tracks "data file" path).bind fun text => ?_
  split
  · split
    · exact .const (does_pure _)
    · exact .const (does_throw _)
  · split
    · exact .const (does_pure _)
    · exact .const (does_throw _)

/-- Parsing a file never ends a run; what comes of it is the result. -/
theorem parseFile_does (files : Files) (log : Event → Bool) (parser : Parser) (path : String) :
    (parseFile files log parser path).Does
      ⟨.ok ((Library.empty.add parser).parseFile files Library.empty.next path), "",
        logged log (parseEvents files path ((Library.empty.add parser).parseFile files
          Library.empty.next path).asked),
        (partialPaths parser ((Library.empty.add parser).parseFile files Library.empty.next
          path).asked).reverse ++ [path]⟩ := by
  let outcome := (Library.empty.add parser).parseFile files Library.empty.next path
  let asked := (partialPaths parser outcome.asked).reverse
  have read : Does (modify fun p => { p with consulted := asked ++ path :: p.consulted })
      ⟨.ok (), "", [], asked ++ [path]⟩ := does_modify fun p => by simp
  exact .of_eq ((note_does log _).telling (read.last (does_pure outcome)))
    (by simp [outcome, asked])

section Directory

variable {root extension : String}

/-- A file is parsed alike if it and the partials asked for are read alike. -/
theorem parseFile_congr {files files' : Files} {path : String} (weighed : files.Weighed)
    (weighed' : files'.Weighed) (same : files'.readText path = files.readText path)
    (partials : ∀ other ∈ partialPaths (.ofResolver (.directory root extension))
        ((Parser.ofResolver (.directory root extension)).parseFile files path).asked,
      files'.read other = files.read other) :
    (Parser.ofResolver (.directory root extension)).parseFile files' path =
      (Parser.ofResolver (.directory root extension)).parseFile files path := by
  have indexed : (Parser.ofResolver (.directory root extension)).registry.Indexed :=
    Registry.empty_consistent.indexed
  unfold Parser.parseFile at partials ⊢
  rw [same]
  cases read : files.readText path with
  | error cause => rfl
  | ok text =>
    rw [read] at partials
    exact Parser.parse_directory_congr weighed weighed' rfl indexed fun name asked =>
      partials _ (List.mem_map_of_mem asked)

theorem parseFile_tracks (log : Event → Bool) (root extension path : String) :
    Tracks fun files => parseFile files log (.ofResolver (.directory root extension)) path := by
  intro files weighed
  refine ⟨_, parseFile_does files log _ path, fun files' weighed' agree => ?_⟩
  let parser := Parser.ofResolver (.directory root extension)
  have text : files'.readText path = files.readText path := by
    rw [Files.readText, Files.readText, agree path (by simp)]
  have same : parser.parseFile files' path = parser.parseFile files path := by
    refine parseFile_congr weighed weighed' text fun other member => agree other ?_
    exact List.mem_append_left _ (List.mem_reverse.mpr member)
  have outcome : (Library.empty.add parser).parseFile files' Library.empty.next path =
      (Library.empty.add parser).parseFile files Library.empty.next path := by
    simp only [Library.parseFile, Library.make, same, Library.empty, Library.add, Library.next,
      Library.parser?, List.nil_append, List.length_nil, List.getElem?_cons_zero]
  have events (asked : List String) : parseEvents files' path asked =
      parseEvents files path asked := by
    rw [parseEvents, parseEvents, text]
  have does := parseFile_does files' log parser path
  rwa [outcome, events] at does

end Directory

end Run

end Mustache.CommandLine
