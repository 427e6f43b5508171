import Transclude.Failure

/-! # Settings

What the environment of the program sets.  Everything has a default; numbers of
seconds are read as they are written, whatever their sign and size.

The variables are looked at in a fixed order, and the first bad one is
reported. -/

namespace Transclude

/-- What excerpts of Go are cut with. -/
inductive GoBackend where
  /-- This library. -/
  | builtIn
  /-- The external tool. -/
  | tool
deriving Repr, DecidableEq

namespace GoBackend

/-- The name of a backend. -/
def name : GoBackend → String
  | .builtIn => "tree-sitter"
  | .tool => toolCommand

/-- All backends. -/
def all : List GoBackend := [.builtIn, .tool]

/-- The backend with the given name. -/
def ofString? (name : String) : Option GoBackend := all.find? fun backend => backend.name == name

/-- The complaint about a name that no backend has. -/
def complaint (name : String) : String :=
  "Unsupported Go extractor '" ++ name ++ "'. Supported: "
    ++ Text.quotedList (all.map GoBackend.name)

end GoBackend

/-- What the environment of the program sets. -/
structure Settings where
  /-- How many seconds a run may take. -/
  timeout : Float
  /-- Where relative sources are looked for. -/
  baseDir : Path
  goBackend : GoBackend
  /-- How many seconds a request may take. -/
  httpTimeout : Float
  /-- What requests to GitHub are authorized with. -/
  token : Option String

namespace Settings

/-- The variables of an environment. -/
abbrev Environment := String → Option String

/-- The names of the variables that are looked at. -/
def keys : List String :=
  ["PLUCKMD_GO_EXTRACTOR", "PLUCKMD_TIMEOUT", "PLUCKMD_BASE_DIR", "PLUCKMD_HTTP_TIMEOUT",
    "GITHUB_TOKEN"]

/-- A variable that is not empty. -/
def filled? (env : Environment) (key : String) : Option String :=
  (env key).filter fun value => !value.isEmpty

/-- A number of seconds. -/
def readSeconds (value : String) : Except Fault Float :=
  match Numeral.readReal? value with
  | some x => .ok x
  | none => .error ⟨.value, "could not convert string to float: " ++ Text.quoted value⟩

/-- The settings of an environment in a working directory. -/
def load (env : Environment) (workingDirectory : Path) : Except Fault Settings := do
  let backend := (env "PLUCKMD_GO_EXTRACTOR").getD GoBackend.builtIn.name
  let goBackend ← match GoBackend.ofString? backend with
    | some backend => .ok backend
    | none => .error ⟨.value, GoBackend.complaint backend⟩
  let timeout ← readSeconds ((env "PLUCKMD_TIMEOUT").getD "60")
  let baseDir := ((filled? env "PLUCKMD_BASE_DIR").map Path.ofString).getD workingDirectory
  let httpTimeout ← readSeconds ((env "PLUCKMD_HTTP_TIMEOUT").getD "30")
  return { timeout, baseDir, goBackend, httpTimeout, token := filled? env "GITHUB_TOKEN" }

end Settings

end Transclude
