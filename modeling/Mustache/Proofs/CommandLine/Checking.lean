import Mathlib
import Mustache.Proofs.CommandLine.Rendering
/-!
Runs that check templates. Main statements: a check of one template succeeds exactly if a render of
it without data does, and both tell of the same fault; a check of a list reports on each template
what a check of that template alone reports, in the order of the list, and then how many of them
have faults.
-/
namespace Mustache.CommandLine

namespace Run

variable {files : Files} {fuel : Nat} {log : Event → Bool} {config : Config}
  {verbose stream : Bool} {template : String} {lookup : Lookup} {templates : List String}

/-- Whether the extension in force can be one. -/
def UsableExtension (lookup : Lookup) (config : Config) : Prop :=
  ∀ extension ∈ lookup.extension.or config.extension,
    ∃ value, Resolver.readExtension extension = .ok value

/-- With an extension that can be one, every template has its parser. -/
theorem parserOf_of_usable (usable : UsableExtension lookup config) (template : String) :
    ∃ parser, parserOf template lookup config = .ok parser := by
  unfold parserOf
  dsimp only
  cases given : lookup.extension.or config.extension with
  | none => exact ⟨_, rfl⟩
  | some extension =>
    obtain ⟨value, read⟩ := usable extension given
    simp only [Parser.setExtension, Resolver.setExtension, read, Except.map]
    exact ⟨_, rfl⟩

/-- What is wrong with the template in a file. -/
def fault? (files : Files) (parser : Parser) (template : String) : Option Fault :=
  match ((Library.empty.add parser).parseFile files Library.empty.next template).result with
  | .ok _ => none
  | .error fault => some fault

/-- What the log is told while the parser for a template is made. -/
def toldByLookup (config : Config) (lookup : Lookup) (template : String) : List Event :=
  match parserOf template lookup config with
  | .ok parser => lookupEvents template lookup config parser
  | .error _ => []

/-- What the log is told while a template is parsed by its parser. -/
def toldByParse (files : Files) (config : Config) (lookup : Lookup) (template : String) :
    List Event :=
  match parserOf template lookup config with
  | .ok parser => parseEvents files template
      ((Library.empty.add parser).parseFile files Library.empty.next template).asked
  | .error _ => []

/-- What the log is told while a template is checked. -/
def told (files : Files) (config : Config) (lookup : Lookup) (template : String) : List Event :=
  toldByLookup config lookup template ++ toldByParse files config lookup template

@[simp] theorem logged_append (log : Event → Bool) (first second : List Event) :
    logged log (first ++ second) = logged log first ++ logged log second := by
  simp [logged]

/-- Without a filter nothing gets into the log of a run that is not verbose. -/
theorem logged_quiet {environment : Environment} (unfiltered : environment.filter = none)
    (events : List Event) : logged (environment.logs false) events = [] := by
  have silent (e : Event) : environment.logs false e = false := by
    rw [Environment.logs, unfiltered, Bool.false_and]
  simp [logged, silent]

section Told

variable {parser : Parser} (made : parserOf template lookup config = .ok parser)
include made

theorem toldByLookup_of_ok :
    toldByLookup config lookup template = lookupEvents template lookup config parser := by
  rw [toldByLookup, made]

theorem toldByParse_of_ok : toldByParse files config lookup template = parseEvents files template
    ((Library.empty.add parser).parseFile files Library.empty.next template).asked := by
  rw [toldByParse, made]

end Told

/-- The line for a template without a fault. -/
def approval (template : String) : Option Fault → String
  | none => "✓ " ++ template ++ " is a valid template\n"
  | some _ => ""

/-- The line for a template with a fault. -/
def objection (template : String) : Option Fault → List Entry
  | none => []
  | some fault => [.text ("✗ " ++ template ++ ": " ++ fault.message ++ "\n")]

/-- The report of a check, from what is wrong with each of the templates and what the log is told of
each. -/
def checked (log : Event → Bool) (verbose : Bool) (told : String → List Event)
    (fault? : String → Option Fault) (templates : List String) : Report :=
  let failed := templates.countP fun t => (fault? t).isSome
  { code := if failed = 0 then 0 else 1
    out := String.join (templates.map fun t => approval t (fault? t))
    err := (templates.flatMap fun t => traced verbose ("→ Checking " ++ t) ++
        (logged log (told t) ++ objection t (fault? t))) ++
      if failed = 0 then [] else [.text ("Error: " ++ failed.repr ++ " of " ++
        templates.length.repr ++ " template(s) failed to parse\n")] }

/-- A check succeeds exactly if nothing is wrong with any template. -/
theorem checked_code {told : String → List Event} {fault? : String → Option Fault} :
    (checked log verbose told fault? templates).code = 0 ↔ ∀ t ∈ templates, fault? t = none := by
  have none_fail : templates.countP (fun t => (fault? t).isSome) = 0 ↔
      ∀ t ∈ templates, fault? t = none := by
    simp [List.countP_eq_zero]
  rw [← none_fail]
  simp only [checked]
  split <;> simp_all

/-- Without a filter, a check that is not verbose complains of the templates that have faults, in
the order of the list, and then tells how many they are. -/
theorem checked_quiet {environment : Environment} (unfiltered : environment.filter = none)
    {told : String → List Event} {fault? : String → Option Fault} :
    (checked (environment.logs false) false told fault? templates).err =
      (templates.flatMap fun t => objection t (fault? t)) ++
        if templates.countP (fun t => (fault? t).isSome) = 0 then []
        else [.text ("Error: " ++ (templates.countP fun t => (fault? t).isSome).repr ++ " of " ++
          templates.length.repr ++ " template(s) failed to parse\n")] := by
  have alone (t : String) : traced false ("→ Checking " ++ t) ++
      (logged (environment.logs false) (told t) ++ objection t (fault? t)) =
        objection t (fault? t) := by
    rw [logged_quiet unfiltered]
    rfl
  simp only [checked, alone]

/-- What a check of one more template adds. -/
theorem checkEach_cons {parser : Parser} {failed : Nat} {out : String} {err : List Entry}
    {consulted : List String} (made : parserOf template lookup config = .ok parser)
    (later : (checkEach files log config verbose lookup templates).Does
      ⟨.ok failed, out, err, consulted⟩) :
    ∃ consulted', (checkEach files log config verbose lookup (template :: templates)).Does
      ⟨.ok (failed + (fault? files parser template).isSome.toNat),
        approval template (fault? files parser template) ++ out,
        traced verbose ("→ Checking " ++ template) ++
          (logged log (told files config lookup template) ++
            (objection template (fault? files parser template) ++ err)), consulted'⟩ := by
  have looking := parserFor_of_ok log made
  have parsing := parseFile_does files log parser template
  rw [told, toldByLookup_of_ok made, toldByParse_of_ok made]
  unfold fault?
  generalize (Library.empty.add parser).parseFile files Library.empty.next template = outcome
    at parsing ⊢
  obtain ⟨result, lib, asked⟩ := outcome
  cases result with
  | ok parsed =>
    have printing := print_does ("✓ " ++ template ++ " is a valid template")
    have whole : (checkEach files log config verbose lookup (template :: templates)).Does _ :=
      .traced verbose _ (looking.telling (parsing.bind (printing.bind later)))
    exact ⟨_, Does.of_eq whole (by simp [approval, objection, String.append_assoc]; rfl)⟩
  | error fault =>
    have complaining := complain_does ("✗ " ++ template ++ ": " ++ fault.message)
    have whole : (checkEach files log config verbose lookup (template :: templates)).Does _ :=
      .traced verbose _ (looking.telling (parsing.bind
        (complaining.bind (later.bind (does_pure (failed + 1))))))
    exact ⟨_, Does.of_eq whole (by simp [approval, objection, String.append_assoc]; rfl)⟩

/-- Each template of a list is checked for itself. -/
theorem checkEach_does {parser : String → Parser} (made : ∀ template ∈ templates,
      parserOf template lookup config = .ok (parser template)) :
    ∃ consulted, (checkEach files log config verbose lookup templates).Does
      ⟨.ok (templates.countP fun t => (fault? files (parser t) t).isSome),
        String.join (templates.map fun t => approval t (fault? files (parser t) t)),
        templates.flatMap fun t => traced verbose ("→ Checking " ++ t) ++
          (logged log (told files config lookup t) ++ objection t (fault? files (parser t) t)),
        consulted⟩ := by
  induction templates with
  | nil => exact ⟨[], does_pure 0⟩
  | cons template rest ih =>
    obtain ⟨consulted, later⟩ := ih fun t member => made t (.tail _ member)
    obtain ⟨consulted', whole⟩ := checkEach_cons (made template List.mem_cons_self) later
    refine ⟨consulted', Does.of_eq whole ?_⟩
    simp [List.countP_cons, Bool.toNat, Bool.cond_eq_ite]

/-- A check of a list reports each template for itself, and how many of them have faults. -/
theorem check_does {parser : String → Parser} (made : ∀ template ∈ templates,
      parserOf template lookup config = .ok (parser template)) :
    ∃ e, (check files log config verbose templates lookup).Does e ∧
      e.report.1 = checked log verbose (told files config lookup)
        (fun t => fault? files (parser t) t) templates := by
  obtain ⟨consulted, checking⟩ : ∃ consulted,
      (checkEach files log config verbose lookup templates).Does ⟨_, _, _, consulted⟩ :=
    checkEach_does made
  cases failed : templates.countP fun t => (fault? files (parser t) t).isSome with
  | zero =>
    rw [failed] at checking
    have whole : (check files log config verbose templates lookup).Does _ :=
      checking.bind (does_pure ())
    exact ⟨_, whole, by simp [Effect.report, checked, failed]⟩
  | succ count =>
    rw [failed] at checking
    have whole : (check files log config verbose templates lookup).Does _ :=
      checking.bind (does_throw ((count + 1).repr ++ " of " ++ templates.length.repr ++
        " template(s) failed to parse"))
    exact ⟨_, whole, by simp [Effect.report, checked, failed, String.append_assoc]⟩

/-- A check without a parser ends with the message about that. -/
theorem check_of_refused {message : String}
    (refused : parserOf template lookup config = .error message) :
    (check files log config verbose (template :: templates) lookup).Does
      ⟨.error message, "", traced verbose ("→ Checking " ++ template), []⟩ := by
  have checking : (checkEach files log config verbose lookup (template :: templates)).Does
      ⟨.error message, "", traced verbose ("→ Checking " ++ template) ++ [], []⟩ :=
    .traced verbose _ (parserFor_of_error log refused).stop
  rw [List.append_nil] at checking
  exact checking.stop

/-- Whether rendering a template without data comes to its end. -/
def Ends (files : Files) (fuel : Nat) (config : Config) (template : String) (lookup : Lookup) :
    Prop :=
  ∀ lib parsed value, Prepared files config template none lookup lib parsed value →
    ∃ text, lib.render fuel parsed (.root value) = some text

/-- A fault of a template itself, or of a partial behind it. -/
def IsFaultIn (files : Files) (config : Config) (template : String) (lookup : Lookup)
    (fault : Fault) : Prop :=
  ∃ parser, parserOf template lookup config = .ok parser ∧
    fault? files parser template = some fault

/-- A render without data of a template without a fault, if it ends. -/
theorem render_of_fine {parser : Parser} (made : parserOf template lookup config = .ok parser)
    (fine : fault? files parser template = none) (ends : Ends files fuel config template lookup) :
    ∃ e, (render files fuel log config verbose template none lookup stream).Does e ∧
      e.result = .ok () := by
  cases read : (Library.empty.add parser).parseFile files Library.empty.next template with
  | mk result lib asked =>
  cases result with
  | error fault => simp [fault?, read] at fine
  | ok parsed =>
    obtain ⟨text, rendered⟩ := ends lib parsed .null ⟨⟨parser, asked, made, read⟩, rfl⟩
    obtain ⟨e, delivering, ways⟩ :=
      deliver_does verbose template (lib.render fuel parsed (.root .null))
    have whole := render_of_parsed fuel log verbose none stream made read
      ((does_pure Value.null).first delivering)
    rcases ways with ⟨none, _⟩ | ⟨_, succeeded⟩
    · rw [rendered] at none
      cases none
    · exact ⟨_, whole, succeeded⟩

/-- A render of a template with a fault ends with its wording. -/
theorem render_of_broken {parser : Parser} {fault : Fault}
    (made : parserOf template lookup config = .ok parser)
    (broken : fault? files parser template = some fault) (data : Option String) :
    ∃ consulted, (render files fuel log config verbose template data lookup stream).Does
      ⟨.error (parseFailure template fault), "",
        logged log (toldByLookup config lookup template) ++
          (traced verbose ("→ Parsing " ++ template) ++
            logged log (toldByParse files config lookup template)), consulted⟩ := by
  rw [toldByLookup_of_ok made, toldByParse_of_ok made]
  cases read : (Library.empty.add parser).parseFile files Library.empty.next template with
  | mk result lib asked =>
  cases result with
  | ok parsed => simp [fault?, read] at broken
  | error other =>
    obtain rfl : other = fault := by simpa [fault?, read] using broken
    exact ⟨_, render_of_fault fuel log verbose data stream made read⟩

end Run

section Agreement

variable {files : Files} {fuel : Nat} {environment : Environment} {path : Option String}
  {lookup : Lookup} {verbose stream : Bool} {args args' : List String}
  {template : String} {templates : List String} {config : Config} {consulted : List String}

/-- With a valid configuration and usable parsers, the report of a check is made up of what is wrong
with each of the templates. -/
theorem run_check {parser : String → Parser}
    (recognised : readArguments environment.config args =
      .ok ⟨.check templates lookup, path, verbose⟩)
    (configuring : (Run.config files path).Does ⟨.ok config, "", [], consulted⟩)
    (made : ∀ template ∈ templates,
      Run.parserOf template lookup config = .ok (parser template)) :
    (run files fuel environment args).1 =
      Run.checked (environment.logs verbose) verbose (Run.told files config lookup)
        (fun t => Run.fault? files (parser t) t) templates := by
  obtain ⟨e, checking, reported⟩ : ∃ e,
      (Run.check files (environment.logs verbose) config verbose templates lookup).Does e ∧
        e.report.1 = _ := Run.check_does made
  rw [run_check_of_does configuring recognised checking, Effect.report_behind, reported]

section One

variable (recognised : readArguments environment.config args =
    .ok ⟨.check [template] lookup, path, verbose⟩)
include recognised

/-- The report of a check of one template. -/
theorem run_check_one {parser : Parser}
    (configuring : (Run.config files path).Does ⟨.ok config, "", [], consulted⟩)
    (made : Run.parserOf template lookup config = .ok parser) :
    (run files fuel environment args).1 =
      Run.checked (environment.logs verbose) verbose (Run.told files config lookup)
        (fun t => Run.fault? files parser t) [template] := by
  have each : ∀ t ∈ [template],
      Run.parserOf t lookup config = .ok (Function.const String parser t) := by
    simpa using made
  exact run_check recognised configuring each

variable (recognised' : readArguments environment.config args' =
    .ok ⟨.render template none lookup stream, path, verbose⟩)
include recognised'

/-- A template with a fault is reported with the same fault by a check and by a render. -/
theorem reports_of_fault {parser : Parser} {fault : Fault}
    (configuring : (Run.config files path).Does ⟨.ok config, "", [], consulted⟩)
    (made : Run.parserOf template lookup config = .ok parser)
    (broken : Run.fault? files parser template = some fault) :
    (run files fuel environment args).1 =
      ⟨1, "", Run.traced verbose ("→ Checking " ++ template) ++
        (Run.logged (environment.logs verbose) (Run.told files config lookup template) ++
          [.text ("✗ " ++ template ++ ": " ++ fault.message ++ "\n"),
            .text "Error: 1 of 1 template(s) failed to parse\n"])⟩ ∧
    (run files fuel environment args').1 =
      ⟨1, "", Run.logged (environment.logs verbose) (Run.toldByLookup config lookup template) ++
        (Run.traced verbose ("→ Parsing " ++ template) ++
          (Run.logged (environment.logs verbose) (Run.toldByParse files config lookup template) ++
            [.text ("Error: " ++ Run.parseFailure template fault ++ "\n")]))⟩ := by
  constructor
  · rw [run_check_one recognised configuring made]
    simp [Run.checked, Run.approval, Run.objection, broken]
    rfl
  · obtain ⟨_, rendering⟩ : ∃ consulted,
        (Run.render files fuel (environment.logs verbose) config verbose template none lookup
          stream).Does ⟨.error (Run.parseFailure template fault), "", _, consulted⟩ :=
      Run.render_of_broken made broken none
    rw [run_render_of_does configuring recognised' rendering, Effect.report_behind]
    simp [Effect.report]

/-- A check of one template succeeds exactly if a render of it does, provided that this ends. -/
theorem check_iff_render
    (ends : ∀ config consulted, (Run.config files path).Does ⟨.ok config, "", [], consulted⟩ →
      Run.Ends files fuel config template lookup) :
    (run files fuel environment args).1.code = 0 ↔
      (run files fuel environment args').1.code = 0 := by
  obtain ⟨result, consulted, configuring, _⟩ := Run.config_does files path
  cases result with
  | error message =>
    rw [run_of_invalid recognised configuring, run_of_invalid recognised' configuring]
  | ok config =>
    cases made : Run.parserOf template lookup config with
    | error message =>
      have checking : (Run.check files (environment.logs verbose) config verbose [template]
          lookup).Does _ := Run.check_of_refused made
      have rendering : (Run.render files fuel (environment.logs verbose) config verbose template
          none lookup stream).Does _ := Run.render_of_refused fuel _ verbose none stream made
      rw [run_check_of_does configuring recognised checking,
        run_render_of_does configuring recognised' rendering]
      simp [Effect.report, Effect.behind]
    | ok parser =>
      cases broken : Run.fault? files parser template with
      | some fault =>
        obtain ⟨checked, rendered⟩ : (run files fuel environment args).1 = _ ∧
            (run files fuel environment args').1 = _ :=
          reports_of_fault recognised recognised' configuring made broken
        rw [checked, rendered]
      | none =>
        obtain ⟨e, rendering, succeeded⟩ : ∃ e, (Run.render files fuel (environment.logs verbose)
            config verbose template none lookup stream).Does e ∧ e.result = .ok () :=
          Run.render_of_fine made broken (ends config consulted configuring)
        rw [run_check_one recognised configuring made,
          run_render_of_does configuring recognised' rendering]
        simp [Effect.report, Effect.behind, succeeded, Run.checked, broken]

end One

/-- Checking a template succeeds exactly if rendering it without data does, provided that this
ends, and both tell of the same fault. A check of a list consists of the checks of its templates,
each for itself, in the order of the list; what the log is told of a template does not depend on the
other ones either. -/
theorem run_check_agrees {alone rendering : String → List String}
    (recognised : readArguments environment.config args =
      .ok ⟨.check templates lookup, path, verbose⟩)
    (recognisedAlone : ∀ t ∈ templates,
      readArguments environment.config (alone t) = .ok ⟨.check [t] lookup, path, verbose⟩)
    (recognisedRender : ∀ t ∈ templates, readArguments environment.config (rendering t) =
      .ok ⟨.render t none lookup stream, path, verbose⟩) :
    (∀ t ∈ templates,
      ((∀ config consulted, (Run.config files path).Does ⟨.ok config, "", [], consulted⟩ →
          Run.Ends files fuel config t lookup) →
        ((run files fuel environment (alone t)).1.code = 0 ↔
          (run files fuel environment (rendering t)).1.code = 0)) ∧
      ∀ config consulted fault, (Run.config files path).Does ⟨.ok config, "", [], consulted⟩ →
        Run.IsFaultIn files config t lookup fault →
        (run files fuel environment (alone t)).1 =
          ⟨1, "", Run.traced verbose ("→ Checking " ++ t) ++
            (Run.logged (environment.logs verbose) (Run.told files config lookup t) ++
              [.text ("✗ " ++ t ++ ": " ++ fault.message ++ "\n"),
                .text "Error: 1 of 1 template(s) failed to parse\n"])⟩ ∧
        (run files fuel environment (rendering t)).1 =
          ⟨1, "", Run.logged (environment.logs verbose) (Run.toldByLookup config lookup t) ++
            (Run.traced verbose ("→ Parsing " ++ t) ++
              (Run.logged (environment.logs verbose) (Run.toldByParse files config lookup t) ++
                [.text ("Error: " ++ Run.parseFailure t fault ++ "\n")]))⟩) ∧
    ∀ config consulted, (Run.config files path).Does ⟨.ok config, "", [], consulted⟩ →
      Run.UsableExtension lookup config →
      ∃ fault? : String → Option Fault,
        (∀ t fault, fault? t = some fault ↔ Run.IsFaultIn files config t lookup fault) ∧
        (∀ t ∈ templates, (run files fuel environment (alone t)).1 =
          Run.checked (environment.logs verbose) verbose (Run.told files config lookup) fault?
            [t]) ∧
        (run files fuel environment args).1 =
          Run.checked (environment.logs verbose) verbose (Run.told files config lookup) fault?
            templates ∧
        ((run files fuel environment args).1.code = 0 ↔
          ∀ t ∈ templates, (run files fuel environment (alone t)).1.code = 0) := by
  constructor
  · intro t member
    refine ⟨check_iff_render (recognisedAlone t member) (recognisedRender t member), ?_⟩
    rintro config consulted fault configuring ⟨parser, made, broken⟩
    exact reports_of_fault (recognisedAlone t member) (recognisedRender t member) configuring
      made broken
  · intro config consulted configuring valid
    choose parser made using Run.parserOf_of_usable valid
    have listed : (run files fuel environment args).1 =
        Run.checked (environment.logs verbose) verbose (Run.told files config lookup)
          (fun t => Run.fault? files (parser t) t) templates :=
      run_check recognised configuring fun t _ => made t
    have each (t : String) (member : t ∈ templates) :
        (run files fuel environment (alone t)).1 =
          Run.checked (environment.logs verbose) verbose (Run.told files config lookup)
            (fun t => Run.fault? files (parser t) t) [t] :=
      run_check (recognisedAlone t member) configuring fun t _ => made t
    refine ⟨fun t => Run.fault? files (parser t) t, ?_, each, listed, ?_⟩
    · intro t fault
      constructor
      · exact fun broken => ⟨parser t, made t, broken⟩
      · rintro ⟨parser', made', broken⟩
        cases (made t).symm.trans made'
        exact broken
    · have alone_code (t : String) (member : t ∈ templates) :
          (run files fuel environment (alone t)).1.code = 0 ↔
            Run.fault? files (parser t) t = none := by
        rw [each t member, Run.checked_code]
        simp
      rw [listed, Run.checked_code]
      exact forall₂_congr fun t member => (alone_code t member).symm

end Agreement

/-- Two templates with a partial in common; the second one leaves a section open. -/
def sharing : Files :=
  { read := fun path =>
      if path = "a" then .ok "{{>p}}".toUTF8
      else if path = "b" then .ok "{{>p}}\x7b\x7b#s\x7d\x7d".toUTF8
      else if path = "./p.mustache" then .ok "p".toUTF8
      else .error .notFound
    weight := 30 }

theorem sharing_config :
    (Run.config sharing none).Does ⟨.ok .standard, "", [], [Config.defaultFile]⟩ := by
  have read : sharing.readText Config.defaultFile = .error .notFound := rfl
  have reading := Run.readText_does sharing Config.defaultFile
  rw [read] at reading
  exact reading.last (Run.does_pure _)

theorem sharing_parserOf {template : String} (beside : Path.beside template = ".") :
    Run.parserOf template ⟨none, none⟩ .standard = .ok (.ofResolver (.ofDirectory ".")) := by
  have directory : Run.directoryOf template ⟨none, none⟩ .standard = "." := beside
  unfold Run.parserOf
  rw [directory]
  rfl

theorem sharing_ends : Run.Ends sharing 3 .standard "a" ⟨none, none⟩ := by
  have parsed : (Library.empty.add (.ofResolver (.ofDirectory "."))).parseFile sharing
      Library.empty.next "a" = ⟨.ok ⟨[.reference ⟨"p", 0⟩], some 0⟩,
        ⟨[⟨.ofDirectory ".", ⟨[("p", 0)], [⟨"p", some (.parsed [.text "p"])⟩]⟩⟩]⟩, ["p"]⟩ := by cbv
  rintro lib _ value ⟨⟨parser, asked, made, read⟩, against⟩
  cases against
  cases made.symm.trans (sharing_parserOf (by cbv))
  rw [parsed] at read
  cases read
  exact ⟨"p", by cbv⟩

/-- The first one passes and is rendered, however often it is listed and whatever is wrong with the
other one. -/
theorem run_check_agrees_sharing :
    ((run sharing 3 unset ["check", "a"]).1.code = 0 ↔
      (run sharing 3 unset ["render", "a"]).1.code = 0) ∧
    ∃ fault? : String → Option Fault, fault? "a" = none ∧
      fault? "b" = some (.parse ⟨.unclosedSection, 1⟩) ∧
      (run sharing 3 unset ["check", "a"]).1 =
        Run.checked (unset.logs false) false (Run.told sharing .standard ⟨none, none⟩) fault?
          ["a"] ∧
      (run sharing 3 unset ["check", "a", "b", "a"]).1 =
        Run.checked (unset.logs false) false (Run.told sharing .standard ⟨none, none⟩) fault?
          ["a", "b", "a"] ∧
      (run sharing 3 unset ["check", "a", "b", "a"]).1.err =
        [.text "✗ b: TEMPLATE_PARSE_ERROR: Unclosed section at end of document (line 1)\n",
          .text "Error: 1 of 3 template(s) failed to parse\n"] := by
  have recognised : readArguments unset.config ["check", "a", "b", "a"] =
      .ok ⟨.check ["a", "b", "a"] ⟨none, none⟩, none, false⟩ := by cbv
  have alone : ∀ t ∈ ["a", "b", "a"], readArguments unset.config ["check", t] =
      .ok ⟨.check [t] ⟨none, none⟩, none, false⟩ := by
    have first : readArguments unset.config ["check", "a"] =
      .ok ⟨.check ["a"] ⟨none, none⟩, none, false⟩ := by cbv
    have second : readArguments unset.config ["check", "b"] =
      .ok ⟨.check ["b"] ⟨none, none⟩, none, false⟩ := by cbv
    simp [first, second]
  have rendering : ∀ t ∈ ["a", "b", "a"], readArguments unset.config ["render", t] =
      .ok ⟨.render t none ⟨none, none⟩ false, none, false⟩ := by
    have first : readArguments unset.config ["render", "a"] =
      .ok ⟨.render "a" none ⟨none, none⟩ false, none, false⟩ := by cbv
    have second : readArguments unset.config ["render", "b"] =
      .ok ⟨.render "b" none ⟨none, none⟩ false, none, false⟩ := by cbv
    simp [first, second]
  obtain ⟨one, list⟩ := @run_check_agrees sharing 3 _ _ _ _ _ _ _ (fun t => ["check", t])
    (fun t => ["render", t]) recognised alone rendering
  have valid : Run.UsableExtension ⟨none, none⟩ .standard := by
    intro extension given
    cases given
  obtain ⟨fault?, faults, each, listed, _⟩ := list .standard _ sharing_config valid
  have fine : Run.fault? sharing (.ofResolver (.ofDirectory ".")) "a" = none := by cbv
  have broken : Run.fault? sharing (.ofResolver (.ofDirectory ".")) "b" =
    some (.parse ⟨.unclosedSection, 1⟩) := by cbv
  have passes : fault? "a" = none := by
    rw [Option.eq_none_iff_forall_ne_some]
    intro fault here
    obtain ⟨parser, made, found⟩ := (faults "a" fault).mp here
    cases made.symm.trans (sharing_parserOf (by cbv))
    rw [fine] at found
    cases found
  have fails : fault? "b" = some (.parse ⟨.unclosedSection, 1⟩) :=
    (faults "b" _).mpr ⟨_, sharing_parserOf (by cbv), broken⟩
  refine ⟨(one "a" List.mem_cons_self).1 ?_, fault?, passes, fails, each "a" List.mem_cons_self,
    listed, ?_⟩
  · intro config consulted configuring
    cases configuring.unique sharing_config
    exact sharing_ends
  · have quiet : unset.filter = none := rfl
    rw [listed, Run.checked_quiet quiet]
    simp only [List.flatMap_cons, List.flatMap_nil, List.countP_cons, List.countP_nil, passes,
      fails]
    rfl

end Mustache.CommandLine
