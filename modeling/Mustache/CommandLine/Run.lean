import Mustache.CommandLine.Arguments
import Mustache.CommandLine.Config
import Mustache.CommandLine.Log
import Mustache.Data.Json.Reader
import Mustache.Render.Basic
import Mustache.Render.Writer
/-!
Running a command: rendering a template to the standard output, or checking that templates can be
parsed. The outcome of a run is what it prints and its exit code, and also the paths it has read, in
order, so that files can be supplied as they are asked for.

The events of the log stand in their places among the lines of the standard error. A walk has none
to tell: a run parses its template with a parser of its own and goes no further than its first
fault, so no reference of what it renders stands for nothing. Left out are colours, which a run that
does not print to a terminal uses only if it is told to, the words of the library that reads the
arguments, and what the readers of JSON and TOML say about a text that is not well-formed.
-/
namespace Mustache.CommandLine

/-- What a run finds beside its arguments and files. -/
structure Environment where
  /-- The configuration file that is named. -/
  config : Option String
  /-- The filter that is set for the log, if one is set and it is well-formed. -/
  filter : Option (Event → Bool)

/-- Whether an event gets into the log. Unless a filter is set, a verbose run leaves out traces, and
any other run everything below a warning. -/
def Environment.logs (environment : Environment) (verbose : Bool) (e : Event) : Bool :=
  match environment.filter with
  | some admits => admits e
  | none => verbose && e.level == .debug

/-- What a run prints and how it ends. -/
structure Report where
  code : Nat
  out : String
  err : List Entry
deriving DecidableEq, Repr

/-- The text of the standard error, given the line of each event by the number of events before it;
that is where the clock of the log comes in. -/
def Report.stderr (line : Nat → Event → String) (r : Report) : String :=
  String.join (Entry.texts line 0 r.err)

/-- What a run has done so far. -/
structure Progress where
  out : String
  err : List Entry
  /-- The paths read, last first. -/
  consulted : List String

/-- A step of a run; it fails with the message to end with. -/
abbrev Run := EStateM String Progress

namespace Run

/-- Prints a line to the standard output. -/
def print (line : String) : Run Unit := modify fun p => { p with out := p.out ++ line ++ "\n" }

/-- Prints a line to the standard error. -/
def complain (line : String) : Run Unit :=
  modify fun p => { p with err := p.err ++ [.text (line ++ "\n")] }

/-- Prints a line to the standard error if the run is verbose. -/
def trace (verbose : Bool) (line : String) : Run Unit := if verbose then complain line else pure ()

/-- The entries of those events that get into the log. -/
def logged (log : Event → Bool) (events : List Event) : List Entry :=
  (events.filter log).map .event

/-- Tells the log of events. -/
def note (log : Event → Bool) (events : List Event) : Run Unit :=
  modify fun p => { p with err := p.err ++ logged log events }

/-- Reads the text of a file. -/
def readText (files : Files) (path : String) : Run (Except FileError String) := do
  modify fun p => { p with consulted := path :: p.consulted }
  return files.readText path

/-- The text of a file, or a failure of the run. -/
def requireText (files : Files) (what path : String) : Run String := do
  match ← readText files path with
  | .ok text => return text
  | .error e => throw ("Failed to read " ++ what ++ " " ++ path ++ ": " ++ e.message)

/-- The configuration in a file. -/
def configIn (files : Files) (path : String) : Run Config := do
  match Config.ofText? path (← requireText files "config file" path) with
  | some config => return config
  | none => throw ("Invalid config file " ++ path ++ ": it is not well-formed")

/-- The configuration in force. The file of the current directory need not exist. -/
def config (files : Files) : Option String → Run Config
  | some path => configIn files path
  | none => do
    match ← readText files Config.defaultFile with
    | .error .notFound | .error .isDirectory | .error .notDirectory => return .standard
    | _ => configIn files Config.defaultFile

/-- The directory of the partials of a template; options win over the configuration, and partials
stand beside the template unless either tells otherwise. -/
def directoryOf (template : String) (lookup : Lookup) (config : Config) : String :=
  (lookup.partials.or config.directory).getD (Path.beside template)

/-- The parser for a template, or what is wrong with the extension of its partials. -/
def parserOf (template : String) (lookup : Lookup) (config : Config) : Except String Parser :=
  let parser := Parser.ofResolver (.ofDirectory (directoryOf template lookup config))
  match lookup.extension.or config.extension with
  | none => .ok parser
  | some extension =>
    match parser.setExtension extension with
    | .ok parser => .ok parser
    | .error fault =>
      .error ("Invalid partial extension '" ++ extension ++ "': " ++ fault.message)

/-- What the log is told once the parser for a template is made. -/
def lookupEvents (template : String) (lookup : Lookup) (config : Config) (parser : Parser) :
    List Event :=
  [.lookupConfigured (directoryOf template lookup config) parser.resolver.extension]

/-- Makes the parser for a template. -/
def parserFor (log : Event → Bool) (template : String) (lookup : Lookup) (config : Config) :
    Run Parser := do
  match parserOf template lookup config with
  | .error message => throw message
  | .ok parser =>
    note log (lookupEvents template lookup config parser)
    return parser

/-- The paths of partials that a parser was asked for. -/
def partialPaths (parser : Parser) (names : List String) : List String :=
  match parser.resolver with
  | .directory root extension => names.map (Resolver.path root extension)
  | .table _ _ => []

/-- What the log is told by the parse of a file: that it begins, if the file could be read, and then
each name that a source is asked for. -/
def parseEvents (files : Files) (path : String) (asked : List String) : List Event :=
  match files.readText path with
  | .ok text => .parsing text :: asked.map .resolving
  | .error _ => []

/-- Parses the file of a template in a library with that parser alone. -/
def parseFile (files : Files) (log : Event → Bool) (parser : Parser) (path : String) :
    Run (Outcome Template) := do
  let lib := Library.empty.add parser
  let outcome := lib.parseFile files Library.empty.next path
  note log (parseEvents files path outcome.asked)
  modify fun p =>
    { p with consulted := (partialPaths parser outcome.asked).reverse ++ path :: p.consulted }
  return outcome

/-- The wording of a failure to parse a file; the cause of a failure to read it is repeated. -/
def parseFailure (path : String) (fault : Fault) : String :=
  let cause := match fault with
    | .io cause => ": " ++ cause.message
    | _ => ""
  "Failed to parse " ++ path ++ ": " ++ fault.message ++ cause

/-- Whether a data file holds JSON. -/
def isJson (path : String) : Bool :=
  match Path.extension? path with
  | some extension => extension.toList.map Char.toLower == "json".toList
  | none => false

/-- The value of a data file. -/
def loadData (files : Files) (path : String) : Run Value := do
  let text ← requireText files "data file" path
  if isJson path then
    match Json.read? text with
    | some value => return value
    | none => throw ("Invalid JSON in " ++ path ++ ": it is not well-formed")
  else
    match Toml.Document.readValue? text with
    | some value => return value
    | none => throw ("Invalid TOML in " ++ path ++ ": it is not well-formed")

/-- The output of a template, written at once or piece by piece. -/
def output (stream : Bool) (fuel : Nat) (lib : Library) (template : Template) (data : Value) :
    Option String :=
  if stream then
    match lib.stream fuel (Writer.sink {}) template (.root data) {} with
    | .ok _ writer => String.fromUTF8? writer.bytes
    | .error _ _ => none
  else lib.render fuel template (.root data)

/-- Renders a template to the standard output. -/
def render (files : Files) (fuel : Nat) (log : Event → Bool) (config : Config) (verbose : Bool)
    (template : String) (data : Option String) (lookup : Lookup) (stream : Bool) : Run Unit := do
  let parser ← parserFor log template lookup config
  trace verbose ("→ Parsing " ++ template)
  let outcome ← parseFile files log parser template
  match outcome.result with
  | .error fault => throw (parseFailure template fault)
  | .ok parsed =>
    let value ← match data with
      | some path => do
        trace verbose ("→ Loading data from " ++ path)
        loadData files path
      | none => pure .null
    match output (stream || config.stream) fuel outcome.library parsed value with
    | none => throw "Rendering does not end"
    | some text =>
      modify fun p => { p with out := p.out ++ text }
      trace verbose ("✓ Rendered " ++ template)

/-- Parses one template after another and counts those that fail. -/
def checkEach (files : Files) (log : Event → Bool) (config : Config) (verbose : Bool)
    (lookup : Lookup) : List String → Run Nat
  | [] => return 0
  | template :: rest => do
    trace verbose ("→ Checking " ++ template)
    let parser ← parserFor log template lookup config
    let outcome ← parseFile files log parser template
    match outcome.result with
    | .ok _ =>
      print ("✓ " ++ template ++ " is a valid template")
      checkEach files log config verbose lookup rest
    | .error fault =>
      complain ("✗ " ++ template ++ ": " ++ fault.message)
      return (← checkEach files log config verbose lookup rest) + 1

/-- Checks that templates can be parsed. -/
def check (files : Files) (log : Event → Bool) (config : Config) (verbose : Bool)
    (templates : List String) (lookup : Lookup) : Run Unit := do
  let failed ← checkEach files log config verbose lookup templates
  if 0 < failed then
    throw (failed.repr ++ " of " ++ templates.length.repr ++ " template(s) failed to parse")

/-- Runs a command. -/
def invoke (files : Files) (fuel : Nat) (environment : Environment) (i : Invocation) :
    Run Unit := do
  let log := environment.logs i.verbose
  let config ← config files i.config
  match i.command with
  | .render template data lookup stream =>
    render files fuel log config i.verbose template data lookup stream
  | .check templates lookup => check files log config i.verbose templates lookup

end Run

/-- The line that tells the version. -/
def versionLine : String := "stache 0.1.0\n"

/-- The usage, in short. -/
def usageLine : String :=
  "Usage: stache [--config FILE] [-v] render TEMPLATE [-d FILE] [-p DIR] [-e EXT] [--stream]\n" ++
  "       stache [--config FILE] [-v] check TEMPLATE... [-p DIR] [-e EXT]\n"

/-- Runs the command line; also gives the paths that were read, in order. -/
def run (files : Files) (fuel : Nat) (environment : Environment) (args : List String) :
    Report × List String :=
  match readArguments environment.config args with
  | .error .version => (⟨0, versionLine, []⟩, [])
  | .error .help => (⟨0, usageLine, []⟩, [])
  | .error .usage => (⟨2, "", [.text usageLine]⟩, [])
  | .ok invocation =>
    match Run.invoke files fuel environment invocation ⟨"", [], []⟩ with
    | .ok _ p => (⟨0, p.out, p.err⟩, p.consulted.reverse)
    | .error message p =>
      (⟨1, p.out, p.err ++ [.text ("Error: " ++ message ++ "\n")]⟩, p.consulted.reverse)

end Mustache.CommandLine
