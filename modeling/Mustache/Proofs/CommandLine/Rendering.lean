import Mathlib
import Mustache.Main
import Mustache.Proofs.CommandLine.Effect
import Mustache.Proofs.Render.Encoding
import Mustache.Proofs.Session.Abandonment
/-!
Runs that render a template. Main statement: two runs that differ only in whether the output is
streamed, by a flag or by a setting in the configuration file, read the same, print the same and end
the same. A run that fails prints nothing to the standard output; one that succeeds prints what its
template renders against its data, and a stream into a writer leaves the UTF-8 encoding of that.
-/
namespace Mustache.CommandLine

/-- Two configurations that look up partials in the same way; they may write the output
differently. -/
structure Config.Alike (c c' : Config) : Prop where
  directory : c'.directory = c.directory
  extension : c'.extension = c.extension

/-- Files whose configuration file is read alike, or sets the same apart from how output is
written. -/
def ConfiguredAlike (files files' : Files) (path : String) : Prop :=
  files'.readText path = files.readText path ∨
    ∃ text text' config config', files.readText path = .ok text ∧
      files'.readText path = .ok text' ∧ Config.ofText? path text = some config ∧
      Config.ofText? path text' = some config' ∧ config.Alike config'

namespace Run

variable {files files' : Files} {fuel : Nat} {log : Event → Bool} {config config' : Config}
  {verbose stream : Bool} {template : String} {data : Option String} {lookup : Lookup}

/-- The output is the same whether it is written at once or piece by piece. -/
theorem output_eq_render (stream : Bool) (fuel : Nat) (lib : Library) (t : Template)
    (value : Value) : output stream fuel lib t value = lib.render fuel t (.root value) := by
  unfold output
  split
  · rcases lib.stream_unlimited fuel t (.root value) with
      ⟨text, w, rendered, streamed, bytes⟩ | ⟨w, rendered, streamed⟩
    · have decoded : String.fromUTF8? text.toUTF8 = some text := by
        rw [String.fromUTF8?, dif_pos (by exact text.isValidUTF8)]
        rfl
      rw [streamed, rendered]
      dsimp only
      rw [bytes, decoded]
    · rw [streamed, rendered]
  · rfl

/-- Loads the data that a template is rendered against. -/
def dataFor (files : Files) (verbose : Bool) : Option String → Run Value
  | some path => do
    trace verbose ("→ Loading data from " ++ path)
    loadData files path
  | none => pure .null

/-- Prints the output of a template, if there is any. -/
def deliver (verbose : Bool) (template : String) : Option String → Run Unit
  | none => throw "Rendering does not end"
  | some text => do
    modify fun p => { p with out := p.out ++ text }
    trace verbose ("✓ Rendered " ++ template)

/-- A render in steps. How the output is written makes no difference. -/
theorem render_eq (files : Files) (fuel : Nat) (log : Event → Bool) (config : Config)
    (verbose : Bool) (template : String) (data : Option String) (lookup : Lookup) (stream : Bool) :
    render files fuel log config verbose template data lookup stream = (do
      let parser ← parserFor log template lookup config
      trace verbose ("→ Parsing " ++ template)
      let outcome ← parseFile files log parser template
      match outcome.result with
      | .error fault => throw (parseFailure template fault)
      | .ok parsed =>
        let value ← dataFor files verbose data
        deliver verbose template (outcome.library.render fuel parsed (.root value))) := by
  unfold render
  simp only [output_eq_render]
  cases data with
  | none => rfl
  | some path =>
    congr 1
    funext parser
    congr 1
    funext _
    congr 1
    funext outcome
    cases outcome.result with
    | error fault => rfl
    | ok parsed => exact (bind_assoc _ _ _).symm

/-- The options and the configuration lead to a parser over a directory, if to any. -/
theorem exists_directory_of_parserOf {parser : Parser}
    (made : parserOf template lookup config = .ok parser) :
    ∃ root extension, parser = .ofResolver (.directory root extension) := by
  unfold parserOf at made
  dsimp only at made
  cases given : lookup.extension.or config.extension with
  | none =>
    rw [given] at made
    cases made
    exact ⟨_, _, rfl⟩
  | some value =>
    simp only [given, Parser.setExtension, Resolver.setExtension] at made
    cases read : Resolver.readExtension value with
    | ok extension =>
      rw [read] at made
      cases made
      exact ⟨_, _, rfl⟩
    | error fault =>
      rw [read] at made
      cases made

theorem parserFor_of_ok (log : Event → Bool) {parser : Parser}
    (made : parserOf template lookup config = .ok parser) :
    (parserFor log template lookup config).Does
      ⟨.ok parser, "", logged log (lookupEvents template lookup config parser), []⟩ := by
  unfold parserFor
  rw [made]
  exact .of_eq ((note_does log _).telling (does_pure parser)) (by simp)

theorem parserFor_of_error (log : Event → Bool) {message : String}
    (refused : parserOf template lookup config = .error message) :
    (parserFor log template lookup config).Does ⟨.error message, "", [], []⟩ := by
  unfold parserFor
  rw [refused]
  exact does_throw message

/-- What is rendered against: the value that the data file holds, or nothing. -/
def Against (files : Files) : Option String → Value → Prop
  | some path, value => Holds files path value
  | none, value => value = .null

theorem dataFor_does (files : Files) (verbose : Bool) (data : Option String) :
    ∃ result err consulted, (dataFor files verbose data).Does ⟨result, "", err, consulted⟩ ∧
      ∀ value, result = .ok value → Against files data value := by
  cases data with
  | none => exact ⟨_, _, _, does_pure _, by rintro _ ⟨⟩; rfl⟩
  | some path =>
    obtain ⟨result, consulted, does, holds⟩ := loadData_gives files path
    exact ⟨result, _, consulted, does.traced verbose _, holds⟩

theorem deliver_does (verbose : Bool) (template : String) (rendered : Option String) :
    ∃ e, (deliver verbose template rendered).Does e ∧
      (rendered = none ∧ e.result = .error "Rendering does not end" ∧ e.out = "" ∨
        rendered = some e.out ∧ e.result = .ok ()) := by
  cases rendered with
  | none => exact ⟨_, does_throw _, .inl ⟨rfl, rfl, rfl⟩⟩
  | some text =>
    have write : Does (modify fun p => { p with out := p.out ++ text })
        ⟨.ok (), text, [], []⟩ := does_modify fun p => by simp
    have both := @Does.bind _ _ _ (fun _ => trace verbose ("✓ Rendered " ++ template))
      _ _ _ _ _ _ _ _ write (trace_does verbose _)
    exact ⟨_, both, .inr ⟨by simp, rfl⟩⟩

section Ways

variable (fuel : Nat) (log : Event → Bool) (verbose : Bool) (data : Option String) (stream : Bool)

/-- A render without a parser ends with the message about that. -/
theorem render_of_refused {message : String}
    (refused : parserOf template lookup config = .error message) :
    (render files fuel log config verbose template data lookup stream).Does
      ⟨.error message, "", [], []⟩ := by
  rw [render_eq]
  exact (parserFor_of_error log refused).stop

variable {parser : Parser} {asked : List String} {lib : Library}
  (made : parserOf template lookup config = .ok parser)
include made

/-- A render of a template that cannot be parsed ends with the wording of the fault. -/
theorem render_of_fault {fault : Fault}
    (read : (Library.empty.add parser).parseFile files Library.empty.next template =
      ⟨.error fault, lib, asked⟩) :
    (render files fuel log config verbose template data lookup stream).Does
      ⟨.error (parseFailure template fault), "",
        logged log (lookupEvents template lookup config parser) ++
          (traced verbose ("→ Parsing " ++ template) ++
            logged log (parseEvents files template asked)),
        (partialPaths parser asked).reverse ++ [template]⟩ := by
  have parsing := parseFile_does files log parser template
  rw [read] at parsing
  rw [render_eq]
  refine (parserFor_of_ok log made).telling (.traced verbose _ ?_)
  exact .of_eq (parsing.bind (does_throw _)) (by simp)

/-- A render of a template that is parsed goes on with the data and the output. -/
theorem render_of_parsed {parsed : Template}
    (read : (Library.empty.add parser).parseFile files Library.empty.next template =
      ⟨.ok parsed, lib, asked⟩) {e : Effect Unit}
    (rest : Does (do
      let value ← dataFor files verbose data
      deliver verbose template (lib.render fuel parsed (.root value))) e) :
    (render files fuel log config verbose template data lookup stream).Does
      ⟨e.result, e.out,
        logged log (lookupEvents template lookup config parser) ++
          (traced verbose ("→ Parsing " ++ template) ++
            (logged log (parseEvents files template asked) ++ e.err)),
        e.consulted ++ ((partialPaths parser asked).reverse ++ [template])⟩ := by
  have parsing := parseFile_does files log parser template
  rw [read] at parsing
  rw [render_eq]
  refine (parserFor_of_ok log made).telling (.traced verbose _ ?_)
  exact .of_eq (parsing.bind rest) (by simp)

end Ways

/-- What a run that renders has found: a template, the library that it lives in, and the value to
render it against. -/
structure Prepared (files : Files) (config : Config) (template : String) (data : Option String)
    (lookup : Lookup) (lib : Library) (parsed : Template) (value : Value) : Prop where
  parsed : ∃ parser asked, parserOf template lookup config = .ok parser ∧
    (Library.empty.add parser).parseFile files Library.empty.next template =
      ⟨.ok parsed, lib, asked⟩
  against : Against files data value

/-- A partial of the template is always there. -/
theorem Prepared.fullyBound {lib : Library} {parsed : Template} {value : Value}
    (prepared : Prepared files config template data lookup lib parsed value) :
    lib.FullyBound parsed := by
  obtain ⟨parser, asked, made, read⟩ := prepared.parsed
  obtain ⟨root, extension, rfl⟩ := exists_directory_of_parserOf made
  exact Session.fullyBound_of_parseFile read

/-- A render prints nothing until it succeeds, and then all of its output. The template is what it
reads first. -/
theorem render_does (files : Files) (fuel : Nat) (log : Event → Bool) (config : Config)
    (verbose : Bool) (template : String) (data : Option String) (lookup : Lookup) (stream : Bool) :
    ∃ e, (render files fuel log config verbose template data lookup stream).Does e ∧
      (∀ first ∈ e.consulted.getLast?, first = template) ∧
      ((∃ message, e.result = .error message ∧ e.out = "") ∨
        e.result = .ok () ∧ ∃ lib parsed value,
          Prepared files config template data lookup lib parsed value ∧
          lib.render fuel parsed (.root value) = some e.out) := by
  cases made : parserOf template lookup config with
  | error message =>
    have whole : (render files fuel log config verbose template data lookup stream).Does _ :=
      render_of_refused fuel log verbose data stream made
    exact ⟨_, whole, by simp, .inl ⟨message, rfl, rfl⟩⟩
  | ok parser =>
    cases read : (Library.empty.add parser).parseFile files Library.empty.next template with
    | mk result lib asked =>
    cases result with
    | error fault =>
      have whole := render_of_fault fuel log verbose data stream made read
      exact ⟨_, whole, by simp, .inl ⟨_, rfl, rfl⟩⟩
    | ok parsed =>
      obtain ⟨loaded, err, consulted, loading, against⟩ := dataFor_does files verbose data
      cases loaded with
      | error message =>
        have whole := render_of_parsed fuel log verbose data stream made read loading.stop
        exact ⟨_, whole, by simp, .inl ⟨message, rfl, rfl⟩⟩
      | ok value =>
        obtain ⟨e, delivering, ends⟩ :=
          deliver_does verbose template (lib.render fuel parsed (.root value))
        have whole := render_of_parsed fuel log verbose data stream made read
          (loading.bind delivering)
        refine ⟨_, whole, by simp, ?_⟩
        rcases ends with ⟨_, failed, nothing⟩ | ⟨rendered, succeeded⟩
        · exact .inl ⟨_, failed, by simp [nothing]⟩
        · have prepared := Prepared.mk ⟨parser, asked, made, read⟩ (against value rfl)
          exact .inr ⟨succeeded, lib, parsed, value, prepared, by simpa using rendered⟩

theorem dataFor_tracks (verbose : Bool) (data : Option String) :
    Tracks fun files => dataFor files verbose data := by
  cases data with
  | none => exact .const (does_pure _)
  | some path =>
    exact (Tracks.const (trace_does verbose _)).bind fun _ => loadData_tracks path

theorem render_tracks (fuel : Nat) (log : Event → Bool) (config : Config) (verbose : Bool)
    (template : String) (data : Option String) (lookup : Lookup) (stream : Bool) :
    Tracks fun files => render files fuel log config verbose template data lookup stream := by
  simp only [render_eq]
  cases made : parserOf template lookup config with
  | error message => exact .behind (parserFor_of_error log made) nofun
  | ok parser =>
  obtain ⟨root, extension, rfl⟩ := exists_directory_of_parserOf made
  refine .behind (parserFor_of_ok log made) fun _ same => ?_
  cases same
  refine (Tracks.const (trace_does verbose _)).bind fun _ => ?_
  refine (parseFile_tracks log root extension template).bind fun outcome => ?_
  cases outcome.result with
  | error fault => exact .const (does_throw _)
  | ok parsed =>
    refine (dataFor_tracks verbose data).bind fun value => ?_
    obtain ⟨_, does, _⟩ :=
      deliver_does verbose template (outcome.library.render fuel parsed (.root value))
    exact .const does

/-- A render depends on the configuration only through where partials are looked up. -/
theorem render_congr (alike : config.Alike config') (stream stream' : Bool) :
    render files fuel log config' verbose template data lookup stream' =
      render files fuel log config verbose template data lookup stream := by
  have directory : directoryOf template lookup config' = directoryOf template lookup config := by
    rw [directoryOf, directoryOf, alike.directory]
  have same : parserFor log template lookup config' = parserFor log template lookup config := by
    unfold parserFor parserOf lookupEvents
    rw [directory, alike.extension]
  rw [render_eq, render_eq, same]

/-- Files that are configured alike end the run with the same message, or lead to configurations
that differ at most in how output is written. -/
theorem config_alike {path : Option String}
    (alike : ConfiguredAlike files files' (configPath path)) :
    ∃ result result' consulted, (Run.config files path).Does ⟨result, "", [], consulted⟩ ∧
      (Run.config files' path).Does ⟨result', "", [], consulted⟩ ∧
      (∀ other ∈ consulted, other = configPath path) ∧
      ((∃ message, result = .error message ∧ result' = .error message) ∨
        ∃ c c', result = .ok c ∧ result' = .ok c' ∧ c.Alike c') := by
  rcases alike with same | ⟨text, text', c, c', read, read', formed, formed', alike⟩
  · obtain ⟨result, consulted, does, all⟩ := config_does files path
    refine ⟨result, result, consulted, does, by rwa [config_congr same], all, ?_⟩
    cases result with
    | error message => exact .inl ⟨message, rfl, rfl⟩
    | ok c => exact .inr ⟨c, c, rfl, rfl, rfl, rfl⟩
  · have does := config_of_some read formed
    have does' := config_of_some read' formed'
    refine ⟨_, _, _, does, does', ?_, .inr ⟨c, c', rfl, rfl, alike⟩⟩
    cases path <;> simp [configReads, configPath]

end Run

/-- The effect behind a configuration that has been read. -/
def Effect.behind {α : Type} (e : Effect α) (consulted : List String) : Effect α :=
  { e with consulted := e.consulted ++ consulted }

theorem Effect.report_behind (e : Effect Unit) (consulted : List String) :
    (e.behind consulted).report.1 = e.report.1 := by
  unfold report behind
  cases e.result <;> rfl

section Runs

variable {files : Files} {fuel : Nat} {environment : Environment} {args : List String}

theorem run_of_does {i : Invocation} (recognised : readArguments environment.config args = .ok i)
    {e : Effect Unit} (does : (Run.invoke files fuel environment i).Does e) :
    run files fuel environment args = e.report := by
  have ran := does ⟨"", [], []⟩
  unfold run
  simp only [recognised, ran, Effect.after, Effect.report]
  cases e.result <;> simp

/-- A run without a valid configuration ends before it does anything. -/
theorem run_of_invalid {i : Invocation}
    (recognised : readArguments environment.config args = .ok i)
    {message : String} {consulted : List String}
    (invalid : (Run.config files i.config).Does ⟨.error message, "", [], consulted⟩) :
    run files fuel environment args = Effect.report ⟨.error message, "", [], consulted⟩ := by
  have whole : (Run.invoke files fuel environment i).Does _ := invalid.stop
  exact run_of_does recognised whole

variable {template : String} {templates : List String} {data path : Option String}
  {lookup : Lookup} {verbose stream : Bool} {config : Config} {consulted : List String}
  {e : Effect Unit} (configuring : (Run.config files path).Does ⟨.ok config, "", [], consulted⟩)
include configuring

theorem run_render_of_does
    (recognised : readArguments environment.config args =
      .ok ⟨.render template data lookup stream, path, verbose⟩)
    (rendering : (Run.render files fuel (environment.logs verbose) config verbose template data
      lookup stream).Does e) :
    run files fuel environment args = (e.behind consulted).report := by
  have whole : (Run.invoke files fuel environment
      ⟨.render template data lookup stream, path, verbose⟩).Does (e.behind consulted) :=
    configuring.behind rendering
  exact run_of_does recognised whole

theorem run_check_of_does
    (recognised : readArguments environment.config args =
      .ok ⟨.check templates lookup, path, verbose⟩)
    (checking : (Run.check files (environment.logs verbose) config verbose templates lookup).Does
      e) :
    run files fuel environment args = (e.behind consulted).report := by
  have whole : (Run.invoke files fuel environment ⟨.check templates lookup, path, verbose⟩).Does
      (e.behind consulted) := configuring.behind checking
  exact run_of_does recognised whole

end Runs

section Streaming

variable {files files' : Files} {fuel : Nat} {environment environment' : Environment}
  {args args' : List String}

/-- What is read behind the configuration file is the template or is read later. -/
theorem mem_after_config {path template other : String} {consulted later : List String}
    (all : ∀ x ∈ consulted, x = path) (first : ∀ x ∈ later.getLast?, x = template)
    (member : other ∈ later) :
    other ∈ template :: (later ++ consulted).reverse.dropWhile (· = path) := by
  rcases List.eq_nil_or_concat' later with rfl | ⟨rest, last, rfl⟩
  · cases member
  obtain rfl : last = template := first last (by simp)
  have config : ∀ x ∈ consulted.reverse, decide (x = path) = true := by simpa using all
  have member : other ∈ last :: rest.reverse := by simpa [or_comm] using member
  have shape : (rest ++ [last] ++ consulted).reverse =
      consulted.reverse ++ (last :: rest.reverse) := by simp
  rw [shape, List.dropWhile_append_of_pos config]
  by_cases same : last = path
  · rw [← List.takeWhile_append_dropWhile (p := (· = path)) (l := last :: rest.reverse)] at member
    rcases List.mem_append.mp member with here | later
    · have taken : other = path := by simpa using List.mem_takeWhile_imp here
      rw [taken, same]
      exact List.mem_cons_self
    · exact .tail _ later
  · rw [List.dropWhile_cons_of_neg (by simpa using same)]
    exact .tail _ member

/-- How the output is written makes no difference to a run that renders: neither the flag for that
nor the setting in the configuration file, as long as the other files that are read stay the same.
The standard errors have the same entries, so with the same filter of the log and the same clock
they are the same text; all events of the log come before the output begins. The standard output is
empty unless the run succeeds; then it is what the template renders against the data, and what a
stream into a writer leaves is the encoding of that. No partial of the template is missing, so the
walk over it has nothing to tell the log. -/
theorem run_render_streaming {template : String} {data path : Option String} {lookup : Lookup}
    {verbose stream stream' : Bool}
    (recognised : readArguments environment.config args =
      .ok ⟨.render template data lookup stream, path, verbose⟩)
    (recognised' : readArguments environment'.config args' =
      .ok ⟨.render template data lookup stream', path, verbose⟩)
    (filtered : environment'.filter = environment.filter)
    (weighed : files.Weighed) (weighed' : files'.Weighed)
    (configured : ConfiguredAlike files files' (Run.configPath path))
    (agree : ∀ other ∈ template ::
        (run files fuel environment args).2.dropWhile (· = Run.configPath path),
      files'.read other = files.read other) :
    run files' fuel environment' args' = run files fuel environment args ∧
    ((run files fuel environment args).1.code ≠ 0 → (run files fuel environment args).1.out = "") ∧
    ((run files fuel environment args).1.code = 0 → ∃ config consulted lib parsed value,
      (Run.config files path).Does ⟨.ok config, "", [], consulted⟩ ∧
      Run.Prepared files config template data lookup lib parsed value ∧
      lib.FullyBound parsed ∧
      lib.render fuel parsed (.root value) = some (run files fuel environment args).1.out ∧
      ∃ w, lib.stream fuel (Writer.sink {}) parsed (.root value) {} = .ok () w ∧
        w.bytes = (run files fuel environment args).1.out.toUTF8) := by
  obtain ⟨result, result', consulted, configuring, configuring', all, ends⟩ :=
    Run.config_alike configured
  rcases ends with ⟨message, rfl, rfl⟩ | ⟨c, c', rfl, rfl, alike⟩
  · rw [run_of_invalid recognised configuring, run_of_invalid recognised' configuring']
    exact ⟨rfl, fun _ => rfl, nofun⟩
  · obtain ⟨e, rendering, first, ends⟩ :=
      Run.render_does files fuel (environment.logs verbose) c verbose template data lookup stream
    have log : environment'.logs verbose = environment.logs verbose := by
      funext e
      rw [Environment.logs, Environment.logs, filtered]
    rw [run_render_of_does configuring recognised rendering] at agree ⊢
    have same : (Run.render files' fuel (environment'.logs verbose) c' verbose template data lookup
        stream').Does e := by
      obtain ⟨e', rendering', tracks⟩ := Run.render_tracks fuel (environment.logs verbose) c verbose
        template data lookup stream files weighed
      rw [← rendering.unique rendering'] at tracks
      rw [log, Run.render_congr alike stream stream']
      refine tracks files' weighed' fun other member => agree other ?_
      rw [Effect.report_paths]
      exact mem_after_config all first member
    rw [run_render_of_does configuring' recognised' same, Effect.report_behind]
    refine ⟨rfl, ?_, ?_⟩
    · intro failed
      rcases ends with ⟨message, broken, nothing⟩ | ⟨succeeded, _⟩
      · simp only [Effect.report, broken, nothing]
      · simp [Effect.report, succeeded] at failed
    · intro exited
      rcases ends with ⟨message, broken, _⟩ | ⟨succeeded, lib, parsed, value, prepared, rendered⟩
      · simp [Effect.report, broken] at exited
      · have printed : e.report.1.out = e.out := by simp only [Effect.report, succeeded]
        rw [printed]
        exact ⟨c, consulted, lib, parsed, value, configuring, prepared, prepared.fullyBound,
          rendered, Library.stream_of_render rendered⟩

end Streaming

/-- The files read so far have a bound on their weight, as the theorem asks for. -/
theorem Answers.files_weighed (answers : Answers) : answers.files.Weighed := by
  refine ⟨answers.filterMap (·.2.toOption), fun path content read => ?_, ?_⟩
  · cases found : answers.lookup path with
    | none => simp [Answers.files, found] at read
    | some answer =>
      obtain rfl : answer = .ok content := by simpa [Answers.files, found] using read
      obtain ⟨before, after, listed, _⟩ := List.lookup_eq_some_iff.mp found
      exact List.mem_filterMap.mpr ⟨_, by rw [listed]; exact List.mem_append_cons_self, rfl⟩
  · have counted :
        ((answers.filterMap (·.2.toOption)).map ByteArray.size).sum = answers.weight := by
      induction answers with
      | nil => rfl
      | cons answer rest ih =>
        obtain ⟨path, content | e⟩ := answer
        · simpa [Answers.weight, Except.toOption] using ih
        · simpa [Answers.weight, Except.toOption] using ih
    exact Nat.le_of_eq counted

/-- A template, its data, and a configuration file. -/
def greeting (config : String) : Answers :=
  [("stache.toml", .ok config.toUTF8), ("t", .ok "Hi {{x}}!\n".toUTF8),
    ("d.json", .ok "\x7b\"x\": \"you\"\x7d".toUTF8)]

/-- Nothing is set: neither a configuration file nor a filter for the log. -/
def unset : Environment := ⟨none, none⟩

/-- What a verbose run tells of the greeting. -/
def greetingTold : List Entry :=
  [.event (.lookupConfigured "." "mustache"), .text "→ Parsing t\n",
    .text "→ Loading data from d.json\n", .text "✓ Rendered t\n"]

/-- With the flag and the setting, or without either, the run is the same. -/
theorem run_render_streaming_greeting :
    run (greeting "[render]\nstream = true\n").files 3 unset
        ["-v", "render", "t", "-d", "d.json", "--stream"] =
      run (greeting "").files 3 unset ["-v", "render", "t", "-d", "d.json"] ∧
    run (greeting "").files 3 unset ["-v", "render", "t", "-d", "d.json"] =
      (⟨0, "Hi you!\n", greetingTold⟩, ["stache.toml", "stache.toml", "t", "d.json"]) := by
  have ran : run (greeting "").files 3 unset ["-v", "render", "t", "-d", "d.json"] =
      (⟨0, "Hi you!\n", greetingTold⟩, ["stache.toml", "stache.toml", "t", "d.json"]) := by cbv
  have recognised : readArguments unset.config ["-v", "render", "t", "-d", "d.json"] =
      .ok ⟨.render "t" (some "d.json") ⟨none, none⟩ false, none, true⟩ := by cbv
  have recognised' :
      readArguments unset.config ["-v", "render", "t", "-d", "d.json", "--stream"] =
        .ok ⟨.render "t" (some "d.json") ⟨none, none⟩ true, none, true⟩ := by cbv
  have configured : ConfiguredAlike (greeting "").files
      (greeting "[render]\nstream = true\n").files (Run.configPath none) := by
    refine .inr ⟨"", "[render]\nstream = true\n", ⟨none, none, false⟩, ⟨none, none, true⟩,
      ?_, ?_, ?_, ?_, rfl, rfl⟩
    · cbv
    · cbv
    · cbv
    · cbv
  have agree : ∀ other ∈ "t" :: (run (greeting "").files 3 unset
      ["-v", "render", "t", "-d", "d.json"]).2.dropWhile (· = Run.configPath none),
      (greeting "[render]\nstream = true\n").files.read other =
        (greeting "").files.read other := by
    rw [ran]
    simp [greeting, Answers.files, Run.configPath, Config.defaultFile, List.lookup]
  exact ⟨(run_render_streaming recognised recognised' rfl (Answers.files_weighed _)
    (Answers.files_weighed _) configured agree).1, ran⟩

end Mustache.CommandLine
