/-!
The arguments of the command line. Options may stand before and behind the name of the command; each
may be given once on either side, and the side behind wins. A value of an option follows it or is
attached to it, and it may not look like an option itself.
-/
namespace Mustache.CommandLine

/-- The options. -/
inductive Name where
  | config
  | verbose
  | data
  | partials
  | extension
  | stream
  | version
  | help
deriving DecidableEq, Repr

namespace Name

/-- Whether an option takes a value. -/
def takesValue : Name → Bool
  | .config | .data | .partials | .extension => true
  | _ => false

/-- Whether a text can be the value of an option; paths may not be empty. -/
def accepts (name : Name) (value : String) : Bool := name == .extension || !value.isEmpty

end Name

/-- The spellings of options at one place, and how many words may stand there. -/
structure Level where
  long : List (String × Name)
  short : List (Char × Name)
  words : Option Nat

namespace Level

/-- What may stand in front of the command. -/
def top : Level :=
  { long := [("config", .config), ("verbose", .verbose), ("version", .version), ("help", .help)]
    short := [('v', .verbose), ('V', .version), ('h', .help)]
    words := none }

/-- What may stand behind the command that renders. -/
def render : Level :=
  { long := [("config", .config), ("verbose", .verbose), ("data", .data), ("partials", .partials),
      ("extension", .extension), ("stream", .stream), ("help", .help)]
    short := [('v', .verbose), ('d', .data), ('p', .partials), ('e', .extension), ('h', .help)]
    words := some 1 }

/-- What may stand behind the command that checks. -/
def check : Level :=
  { long := [("config", .config), ("verbose", .verbose), ("partials", .partials),
      ("extension", .extension), ("help", .help)]
    short := [('v', .verbose), ('p', .partials), ('e', .extension), ('h', .help)]
    words := none }

end Level

/-- Why no command is run. -/
inductive Exit where
  | version
  | help
  /-- The arguments cannot be understood. -/
  | usage
deriving DecidableEq, Repr

/-- What has been given at one place, last first. -/
structure Given where
  values : List (Name × String)
  flags : List Name
  words : List String

namespace Given

/-- Nothing yet. -/
def empty : Given := ⟨[], [], []⟩

/-- One more option without a value. -/
def addFlag (g : Given) (name : Name) : Except Exit Given :=
  if name = .version then .error .version
  else if name = .help then .error .help
  else if name ∈ g.flags then .error .usage
  else .ok { g with flags := name :: g.flags }

/-- One more option with a value. -/
def addValue (g : Given) (name : Name) (value : String) : Except Exit Given :=
  if (g.values.lookup name).isSome || !name.accepts value then .error .usage
  else .ok { g with values := (name, value) :: g.values }

/-- One more word. -/
def addWord (level : Level) (g : Given) (word : String) : Except Exit Given :=
  if word.isEmpty || level.words.any (· ≤ g.words.length) then .error .usage
  else .ok { g with words := word :: g.words }

/-- More words. -/
def addWords (level : Level) (g : Given) : List String → Except Exit Given
  | [] => .ok g
  | word :: rest => do addWords level (← addWord level g word) rest

end Given

/-- Whether an argument is no option; a single dash is none. -/
def isWord (arg : String) : Bool := !arg.startsWith "-" || arg == "-"

/-- Takes in options of one letter that stand together. If the last of them still needs its value,
the option is given back. -/
def cluster (level : Level) (g : Given) : List Char → Except Exit (Given × Option Name)
  | [] => .ok (g, none)
  | c :: rest =>
    match level.short.lookup c with
    | none => .error .usage
    | some name =>
      if name.takesValue then
        match rest with
        | [] => .ok (g, some name)
        | '=' :: value => (g.addValue name (String.ofList value)).map (·, none)
        | value => (g.addValue name (String.ofList value)).map (·, none)
      else do cluster level (← g.addFlag name) rest

/-- Takes in an option with a long name. If it still needs its value, it is given back. -/
def longOption (level : Level) (g : Given) (cs : List Char) : Except Exit (Given × Option Name) :=
  match level.long.lookup (String.ofList (cs.takeWhile (· ≠ '='))) with
  | none => .error .usage
  | some name =>
    match cs.dropWhile (· ≠ '=') with
    | [] =>
      if name.takesValue then .ok (g, some name) else (g.addFlag name).map (·, none)
    | _ :: value =>
      if name.takesValue then (g.addValue name (String.ofList value)).map (·, none)
      else .error .usage

/-- Takes in an argument that is an option. -/
def takeOption (level : Level) (g : Given) (arg : String) : Except Exit (Given × Option Name) :=
  match arg.toList with
  | '-' :: '-' :: cs => longOption level g cs
  | '-' :: cs => cluster level g cs
  | _ => .error .usage

/-- Takes in arguments in front of the command; gives the command and what stands behind it. -/
def takeTop (g : Given) : List String → Except Exit (Given × String × List String)
  | [] => .error .usage
  | arg :: rest =>
    if isWord arg then .ok (g, arg, rest)
    else if arg = "--" then .error .usage
    else match takeOption .top g arg with
      | .error exit => .error exit
      | .ok (g, none) => takeTop g rest
      | .ok (g, some name) =>
        match rest with
        | value :: rest =>
          if isWord value then do takeTop (← g.addValue name value) rest else .error .usage
        | [] => .error .usage

/-- Takes in arguments behind the command. -/
def takeRest (level : Level) (g : Given) : List String → Except Exit Given
  | [] => .ok g
  | arg :: rest =>
    if isWord arg then do takeRest level (← g.addWord level arg) rest
    else if arg = "--" then g.addWords level rest
    else match takeOption level g arg with
      | .error exit => .error exit
      | .ok (g, none) => takeRest level g rest
      | .ok (g, some name) =>
        match rest with
        | value :: rest =>
          if isWord value then do takeRest level (← g.addValue name value) rest else .error .usage
        | [] => .error .usage

/-- Where partials are looked up, as far as options tell. -/
structure Lookup where
  partials : Option String
  extension : Option String
deriving DecidableEq, Repr

/-- A command. -/
inductive Command where
  | render (template : String) (data : Option String) (lookup : Lookup) (stream : Bool)
  | check (templates : List String) (lookup : Lookup)
deriving DecidableEq, Repr

/-- A command with what applies to every command. -/
structure Invocation where
  command : Command
  config : Option String
  verbose : Bool
deriving DecidableEq, Repr

/-- The options for looking up partials. -/
def Given.lookup (g : Given) : Lookup :=
  ⟨g.values.lookup .partials, g.values.lookup .extension⟩

/-- The configuration file in force on one side of the command: the one given there, else the one
that the environment names, which may not be empty then. -/
def Given.config (g : Given) (environment : Option String) : Except Exit (Option String) :=
  match g.values.lookup .config with
  | some path => .ok (some path)
  | none => if environment = some "" then .error .usage else .ok environment

/-- The invocation of a command with what was given in front of it and behind it, and the
configuration file that the environment names. Any argument wins over the environment. -/
def invocation (top rest : Given) (environment : Option String) (command : Command) :
    Except Exit Invocation := do
  let inFront ← top.config environment
  let behind ← rest.config environment
  return {
    command := command
    config := if (rest.values.lookup .config).isSome then behind else inFront
    verbose := Name.verbose ∈ top.flags ∨ Name.verbose ∈ rest.flags }

/-- Reads the arguments. -/
def readArguments (environment : Option String) (args : List String) :
    Except Exit Invocation := do
  let (top, command, rest) ← takeTop .empty args
  if command = "render" then
    let g ← takeRest .render .empty rest
    match g.words with
    | [template] =>
      invocation top g environment
        (.render template (g.values.lookup .data) g.lookup (Name.stream ∈ g.flags))
    | _ => .error .usage
  else if command = "check" then
    let g ← takeRest .check .empty rest
    if g.words.isEmpty then .error .usage
    else invocation top g environment (.check g.words.reverse g.lookup)
  else if command = "help" then
    match rest with
    | [] | ["render"] | ["check"] | ["help"] => .error .help
    | _ => .error .usage
  else .error .usage

end Mustache.CommandLine
