import Transclude.GitHub
import Transclude.Run
import Transclude.Settings
import Transclude.Text.Screen
import Transclude.Tool

/-! # The command line

Two commands take the same options: `run` renders the documents below a
directory and writes those that change, `check` only says which ones would.

A usage error ends with exit code 2 before anything else happens.  Any other
failure that the program knows is told and ends with exit code 1. -/

namespace Transclude.CommandLine

/-! ## Arguments -/

/-- The commands. -/
inductive Command where
  | run
  | check
deriving Repr, DecidableEq

/-- The command with the given name. -/
def Command.ofString? : String → Option Command
  | "run" => some .run
  | "check" => some .check
  | _ => none

/-- The options of a command. -/
inductive Flag where
  | directory
  | timeout
  | baseDir
  | goBackend
  | verbose
  | help
deriving Repr, DecidableEq

namespace Flag

/-- The option with the given long name. -/
def ofLong? (name : String) : Option Flag :=
  [("--dir", directory), ("--timeout", timeout), ("--base-dir", baseDir),
    ("--go-extractor", goBackend), ("--verbose", verbose), ("--help", help)].lookup name

/-- The option with the given letter. -/
def ofLetter? (letter : Char) : Option Flag :=
  [('d', directory), ('t', timeout), ('v', verbose), ('h', help)].lookup letter

/-- The option has a value. -/
def takesValue : Flag → Bool
  | verbose | help => false
  | _ => true

end Flag

/-- What the arguments of a command say, as it is written. -/
structure Arguments where
  directory : Option String := none
  timeout : Option String := none
  baseDir : Option String := none
  goBackend : Option String := none
  help : Bool := false
  /-- Arguments that belong to no option. -/
  extra : List String := []
deriving Repr, DecidableEq

namespace Arguments

/-- Set an option to a value; the last value counts. -/
def set (a : Arguments) (value : String) : Flag → Arguments
  | .directory => { a with directory := some value }
  | .timeout => { a with timeout := some value }
  | .baseDir => { a with baseDir := some value }
  | .goBackend => { a with goBackend := some value }
  | .verbose => a
  | .help => { a with help := true }

end Arguments

/-- What one argument says. -/
inductive Word where
  /-- Options, of which the last one may have its value attached. -/
  | options (flags : List Flag) (last : Flag) (value : Option String)
  /-- Only arguments that belong to no option follow. -/
  | stop
  | plain
  | bad
deriving Repr, DecidableEq

/-- Options that are written as letters behind a hyphen. -/
def readLetters (flags : List Flag) : List Char → Word
  | [] => .bad
  | c :: rest =>
    match Flag.ofLetter? c with
    | none => .bad
    | some flag =>
      if flag.takesValue then
        .options flags flag (if rest.isEmpty then none else some (String.ofList rest))
      else if rest.isEmpty then .options flags flag none
      else readLetters (flags ++ [flag]) rest

/-- What an argument says.  A long option may have its value behind an equals sign. -/
def Word.ofString (text : String) : Word :=
  let (name, value) := match Text.findWord ['='] text.toList with
    | some (name, value) => (String.ofList name, some (String.ofList value))
    | none => (text, none)
  match text.toList with
  | ['-', '-'] => .stop
  | '-' :: '-' :: _ =>
    match Flag.ofLong? name with
    | none => .bad
    | some flag => if value.isSome && !flag.takesValue then .bad else .options [] flag value
  | '-' :: c :: rest => readLetters [] (c :: rest)
  | _ => .plain

/-- Read the arguments behind a command. -/
def readArguments (a : Arguments) : List String → Option Arguments
  | [] => some a
  | text :: rest =>
    match Word.ofString text with
    | .bad => none
    | .stop => some { a with extra := a.extra ++ rest }
    | .plain => readArguments { a with extra := a.extra ++ [text] } rest
    | .options flags last value =>
      let a := flags.foldl (fun a flag => a.set "" flag) a
      match value with
      | some value => readArguments (a.set value last) rest
      | none =>
        if last.takesValue then
          match rest with
          | [] => none
          | value :: rest => readArguments (a.set value last) rest
        else readArguments (a.set "" last) rest

/-- What is to be done. -/
structure Job where
  command : Command
  directory : Path
  timeout : Option Float
  baseDir : Option Path
  goBackend : Option String

/-- What a call of the program asks for. -/
inductive Request where
  | job (job : Job)
  | help
  | usageError

/-- What the arguments of a command ask for. -/
def Request.ofArguments (command : Command) (a : Arguments) : Request :=
  if a.help then .help
  else
    match a.directory with
    | none => .usageError
    | some directory =>
      let timeout := a.timeout.map Numeral.readReal?
      if !a.extra.isEmpty || timeout = some none then .usageError
      else .job
        { command, directory := Path.ofString directory, timeout := timeout.bind id,
          baseDir := a.baseDir.map Path.ofString, goBackend := a.goBackend }

/-- What a call of the program with these arguments asks for. -/
def Request.ofStrings (arguments : List String) : Request :=
  let command (name : String) (rest : List String) : Request :=
    match Command.ofString? name with
    | none => .usageError
    | some command =>
      match readArguments {} rest with
      | none => .usageError
      | some a => ofArguments command a
  match arguments with
  | [] => .usageError
  | text :: rest =>
    match Word.ofString text with
    | .plain => command text rest
    | .stop =>
      match rest with
      | [] => .usageError
      | name :: rest => command name rest
    | .options _ .help none => .help
    | _ => .usageError

/-- How the program is called. -/
def usage : String :=
  "usage: (run | check) --dir DIR [--timeout SECONDS] [--base-dir DIR] [--go-extractor NAME]"
    ++ " [--verbose]"

/-! ## Doing it -/

/-- Where the program runs. -/
structure Surroundings where
  environment : Settings.Environment
  client : Web.Client
  /-- What reads Go. -/
  go : Go.Library
  /-- What reads and writes YAML. -/
  yaml : Yaml.Library
  /-- The external tool, if it is installed. -/
  tool : Option Tool

/-- How a call of the program ends. -/
structure Outcome where
  exitCode : Nat
  /-- What is printed, without usage texts. -/
  lines : List String := []
  /-- A failure that the program does not know. -/
  unforeseen : Option Failure := none

/-- The files and the requests sent so far, last first. -/
abbrev State := World (List Web.Request)

/-- The fetcher that asks GitHub. -/
def gitHubFetcher (client : Web.Client) (token : Option String) : Fetcher (List Web.Request) :=
  fun uri sent =>
    let (result, requests) := GitHub.fetch client token uri
    Action.ofExcept result (requests.reverse ++ sent)

/-- What documents are rendered with. -/
def processor (around : Surroundings) (settings : Settings) : Except Failure (Processor State) := do
  let go ← match settings.goBackend with
    | .builtIn => .ok (Extractor.go around.go)
    | .tool => (Tool.require toolCommand around.tool).map (Tool.extractor around.go)
  return {
    extractors := fun
      | .go => some go
      | .yaml => some (Extractor.yaml around.yaml)
    fetchers := [fun uri => World.beyond (gitHubFetcher around.client settings.token uri),
      World.diskFetcher settings.baseDir] }

/-- The settings for a job: those of the environment, unless the job says otherwise. -/
def settingsFor (around : Surroundings) (workingDirectory : Path) (job : Job) :
    Except String Settings :=
  match Settings.load around.environment workingDirectory with
  | .error fault => .error fault.text
  | .ok settings =>
    let settings :=
      { settings with
        timeout := job.timeout.getD settings.timeout
        baseDir := job.baseDir.getD settings.baseDir }
    match job.goBackend with
    | none => .ok settings
    | some name =>
      match GoBackend.ofString? name with
      | some goBackend => .ok { settings with goBackend }
      | none => .error (GoBackend.complaint name)

/-- What is printed about a failure. -/
def complaint (failure : Failure) : List String :=
  let cause := match failure.hint with
    | some hint =>
      if hint.isEmpty || hint = failure.text then [] else Text.screenLines ("  cause: " ++ hint)
    | none => []
  Text.screenLines ("Failed: " ++ failure.text) ++ cause

/-- What is printed about the files that changed or would change. -/
def report (command : Command) (paths : List Path) : Outcome :=
  match command with
  | .run =>
    { exitCode := 0
      lines := paths.flatMap (fun path => Text.screenLines ("Updated " ++ path.text))
        ++ [toString paths.length ++ " file(s) updated"] }
  | .check =>
    if paths.isEmpty then { exitCode := 0, lines := ["All snippets are up to date"] }
    else
      { exitCode := 1, lines := paths.flatMap fun path => Text.screenLines ("Stale " ++ path.text) }

/-- The outcome of a failure. -/
def failed : Failure → Outcome
  | .error problem context => { exitCode := 1, lines := complaint (.error problem context) }
  | failure => { exitCode := 1, unforeseen := some failure }

/-- The directories that a call of the program looks at: that of the documents, and that of the
    sources. -/
def reach? (around : Surroundings) (workingDirectory : Path) (arguments : List String) :
    Option (Path × Path) :=
  match Request.ofStrings arguments with
  | .job job =>
    match settingsFor around workingDirectory job with
    | .ok settings => some (job.directory, settings.baseDir)
    | .error _ => none
  | _ => none

/-- Do a job. -/
def execute (around : Surroundings) (job : Job) (state : State) : Outcome × State :=
  let workingDirectory : Path := ⟨.slash, state.tree.workingDirectory⟩
  match settingsFor around workingDirectory job with
  | .error text => ({ exitCode := 1, lines := Text.screenLines text }, state)
  | .ok settings =>
    match processor around settings with
    | .error failure => (failed failure, state)
    | .ok p =>
      let options : Run.Options :=
        { timeout := some (.real settings.timeout), write := job.command = .run }
      match Run.run p job.directory options state with
      | .error failure state => (failed failure, state)
      | .ok paths state => (report job.command paths, state)

/-- Call the program. -/
def call (around : Surroundings) (arguments : List String) (state : State) : Outcome × State :=
  match Request.ofStrings arguments with
  | .usageError => ({ exitCode := 2 }, state)
  | .help => ({ exitCode := 0 }, state)
  | .job job => execute around job state

end Transclude.CommandLine
