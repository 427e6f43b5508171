import Transclude.Failure.Category
import Transclude.Failure.Fault
import Transclude.Failure.Trail
import Transclude.Language
import Transclude.Numeral.Integer
import Transclude.Numeral.Real
import Transclude.Path

/-! # Failures

A `Failure` is an error, a fault or a call that never ends.  An error is a
`Problem`, which says what went wrong and with what, and a `Context`, which
says where: the locator, the file and the line.  Outer layers add to the
context and never replace what is there.

The wording of all problems is `Problem.message`.  `Failure.text` puts the
reporting component in front of it and the context behind. -/

namespace Transclude

/-- The two ends of a range of lines. -/
inductive Bound where
  | start
  | stop
deriving Repr, DecidableEq

/-- The extractors that report errors in their own name. -/
inductive Extracting where
  | go
  | tool
  | yaml
deriving Repr, DecidableEq

/-- A number of seconds, as it was given. -/
inductive Seconds where
  | whole (n : Int)
  | real (x : Float)
deriving Repr

/-- What went wrong.  `φ` is the type of failures that a problem may be made of. -/
inductive Problem (φ : Type) where
  | notADirective (line : String)
  | malformedFields (line : String)
  | unknownLanguage (name : String)
  | unknownKind (name : String)
  | invalidIndex (bound : Bound) (value line : String) (fault : Numeral.IntegerFault)
  | notStored (uri : String)
  | unreadableCache (cause : φ)
  | notGitHub (url : String)
  | httpStatus (url : String) (status : Nat)
  | transport (url text : String)
  | unreadableSource (path : Path) (reason : String)
  | allFetchersFailed (causes : List φ)
  | sourceNotUtf8 (fault : Text.Utf8Fault)
  | noExtractor (language : Language)
  | kindOutsideLanguage (kind : Kind) (language : Language)
  | kindOutsideExtractor (extracting : Extracting) (kind : Kind)
  | invalidGo
  | noOpeningBrace (name : String)
  | noDeclaration (kind : Kind) (name : String)
  | toolNotInstalled (command : String)
  | toolFoundNothing (kind : Kind) (name output : String)
  | toolFailed (output : String)
  | invalidYaml
  | emptyYaml
  | notAMapping (key found : String)
  | keyNotFound (key : String)
  | aliasTarget
  | sequenceTarget
  | invalidRange (start stop : Int) (count : Nat)
  | unterminatedBlock
  | notADirectory (path : Path)
  | unreadableDocument (reason : String)
  | unwritableDocument (reason : String)
  | deadline (limit : Seconds)
  /-- A problem told by a fetcher or store from outside, in its own words. -/
  | reported (category : Category) (component : Option String) (message : String)
deriving Repr

/-- Where something went wrong. -/
structure Context where
  uri : Option String := none
  path : Option Path := none
  line : Option Int := none
deriving Repr, DecidableEq

/-- How something may fail. -/
inductive Failure where
  | error (problem : Problem Failure) (context : Context)
  | fault (fault : Fault)
  /-- The call never ends. -/
  | stalled
deriving Repr

instance : Inhabited Failure := ⟨.stalled⟩

/-- The first `n` characters of a text. -/
def clip (n : Nat) (text : String) : String := String.ofList (text.toList.take n)

/-- The words for a bad numeral. -/
def Numeral.IntegerFault.message (value : String) : Numeral.IntegerFault → String
  | .notANumeral => "invalid literal for int() with base 10: " ++ clip 200 (Text.quoted value)
  | .tooLong digits =>
    "Exceeds the limit (" ++ toString Numeral.maxDigits
      ++ " digits) for integer string conversion: value has " ++ toString digits
      ++ " digits; use sys.set_int_max_str_digits() to increase the limit"

/-- The name of a bound. -/
def Bound.name : Bound → String
  | .start => "start"
  | .stop => "end"

/-- The text of a number of seconds. -/
def Seconds.text : Seconds → String
  | .whole n => toString n
  | .real x => Numeral.showReal x

/-- The name under which an extractor reports. -/
def Extracting.component : Extracting → String
  | .go => "go plucker"
  | .tool => "command plucker"
  | .yaml => "yaml plucker"

/-- Where the external tool comes from. -/
def toolSource : String := "github.com/blocky/pluck/cmd/pluck@v0.1.1"

/-- The name of the external tool. -/
def toolCommand : String := "pluck"

namespace Problem

variable {φ : Type}

/-- The category of a problem. -/
def category : Problem φ → Category
  | notADirective _ | malformedFields _ => .malformedDirective
  | unknownLanguage _ => .invalidLanguage
  | unknownKind _ => .invalidKind
  | invalidIndex .. => .invalidIndex
  | notStored _ => .notStored
  | unreadableCache _ => .unreadableCache
  | notGitHub _ => .unrecognizedSource
  | httpStatus .. | transport .. | unreadableSource .. => .fetch
  | allFetchersFailed _ => .allFetchersFailed
  | sourceNotUtf8 _ | invalidGo | noOpeningBrace _ | toolFailed _ | invalidYaml => .parseFailure
  | noExtractor _ => .unsupportedLanguage
  | kindOutsideLanguage .. | kindOutsideExtractor .. => .unsupportedKind
  | noDeclaration .. | toolFoundNothing .. => .declarationNotFound
  | toolNotInstalled _ => .toolUnavailable
  | emptyYaml | notAMapping .. | keyNotFound _ => .pathNotFound
  | aliasTarget | sequenceTarget => .unsupportedNode
  | invalidRange .. => .invalidRange
  | unterminatedBlock => .unterminatedBlock
  | notADirectory _ | unreadableDocument _ | unwritableDocument _ => .run
  | deadline _ => .deadline
  | reported category _ _ => category

/-- The component that reports a problem. -/
def component : Problem φ → String
  | notStored _ => "in-memory cache"
  | notGitHub _ | httpStatus .. | transport .. => "github fetcher"
  | unreadableSource .. => "local fetcher"
  | sourceNotUtf8 _ => "processor"
  | kindOutsideExtractor extracting _ => extracting.component
  | invalidGo | noOpeningBrace _ | noDeclaration .. => Extracting.go.component
  | toolNotInstalled _ | toolFoundNothing .. | toolFailed _ => Extracting.tool.component
  | invalidYaml | emptyYaml | notAMapping .. | keyNotFound _ | aliasTarget | sequenceTarget =>
    Extracting.yaml.component
  | reported category component _ => component.getD category.component
  | problem => problem.category.component

/-- The words for a problem, where `told` are the texts of the failures that it is made of. -/
def message (told : List String) : Problem φ → String
  | notADirective line => "not a pluck directive: " ++ Text.stripped line
  | malformedFields line =>
    "directive must have 6 fields (4 quoted strings, 2 integers): " ++ Text.stripped line
  | unknownLanguage name =>
    "unsupported language '" ++ name ++ "'. Supported: "
      ++ Text.quotedList (Language.aliases.map (·.1))
  | unknownKind name =>
    "unsupported kind '" ++ name ++ "'. Supported: " ++ Text.quotedList (Kind.all.map Kind.tag)
  | invalidIndex bound value line _ =>
    "invalid " ++ bound.name ++ " index '" ++ value ++ "': " ++ Text.stripped line
  | notStored _ => "uri not found"
  | unreadableCache _ => "retrieving cached bytes: " ++ String.join told
  | notGitHub url => "'" ++ url ++ "' is not a GitHub URL"
  | httpStatus url status => "fetching " ++ url ++ ": HTTP " ++ toString status
  | transport url text => "fetching " ++ url ++ ": " ++ text
  | unreadableSource path reason => "reading file '" ++ path.text ++ "': " ++ reason
  | allFetchersFailed _ =>
    let joined := "; ".intercalate told
    "all fetchers failed: " ++ if joined.isEmpty then "no fetchers registered" else joined
  | sourceNotUtf8 fault => "source is not valid UTF-8: " ++ fault.message
  | noExtractor language => "no extractor registered for '" ++ language.tag ++ "'"
  | kindOutsideLanguage kind language =>
    kind.tag ++ " kind not supported for " ++ language.tag
  | kindOutsideExtractor _ kind => kind.tag ++ " kind not supported"
  | invalidGo => "source is not valid Go"
  | noOpeningBrace name => "finding opening brace of '" ++ name ++ "'"
  | noDeclaration kind name => "no " ++ kind.tag ++ " named '" ++ name ++ "'"
  | toolNotInstalled command =>
    "pluck command '" ++ command ++ "' not found: install it via 'go install " ++ toolSource ++ "'"
  | toolFoundNothing kind name output =>
    "no " ++ kind.tag ++ " named '" ++ name ++ "': " ++ output
  | toolFailed output => "running " ++ toolCommand ++ ": " ++ output
  | invalidYaml => "unmarshaling: <yaml>"
  | emptyYaml => "document has no content"
  | notAMapping key found => "expected mapping node at key '" ++ key ++ "', got " ++ found
  | keyNotFound key => "key '" ++ key ++ "' not found in YAML"
  | aliasTarget => "alias nodes are not supported"
  | sequenceTarget => "sequence nodes are not supported"
  | invalidRange start stop count =>
    "invalid range [start: " ++ toString start ++ ", end: " ++ toString stop ++ ") for "
      ++ toString count ++ " body lines"
  | unterminatedBlock => "finding end of code block"
  | notADirectory path =>
    "listing markdown files: '" ++ path.text ++ "' is not a directory"
  | unreadableDocument reason => "reading file: " ++ reason
  | unwritableDocument reason => "writing file: " ++ reason
  | deadline limit => "run did not finish within " ++ limit.text ++ " seconds"
  | reported _ _ message => message

end Problem

/-- What a context adds to the text of an error. -/
def Context.text (context : Context) : String :=
  let place := match context.path, context.line with
    | some path, some line => ["file: " ++ path.text ++ ":" ++ toString line]
    | some path, none => ["file: " ++ path.text]
    | none, some line => ["line: " ++ toString line]
    | none, none => []
  let locator := match context.uri with
    | some uri => if uri.isEmpty then [] else ["uri: " ++ uri]
    | none => []
  let parts := place ++ locator
  if parts.isEmpty then "" else " (" ++ ", ".intercalate parts ++ ")"

/-- `context` where what it leaves open is taken from `outer`. -/
def Context.or (context outer : Context) : Context :=
  ⟨context.uri.or outer.uri, context.path.or outer.path, context.line.or outer.line⟩

namespace Failure

/-- An error without context. -/
def of (problem : Problem Failure) : Failure := .error problem {}

/-- An error about a locator. -/
def about (uri : String) (problem : Problem Failure) : Failure := .error problem ⟨uri, none, none⟩

/-- The text of an error, where `told` are the texts of the failures that it is made of. -/
def phrase (problem : Problem Failure) (told : List String) (context : Context) : String :=
  problem.component ++ ": " ++ problem.message told ++ context.text

mutual

/-- The full text of a failure. -/
def text : Failure → String
  | .error (.unreadableCache cause) context =>
    phrase (.unreadableCache cause) [text cause] context
  | .error (.allFetchersFailed causes) context =>
    phrase (.allFetchersFailed causes) (texts causes) context
  | .error problem context => phrase problem [] context
  | .fault f => f.text
  | .stalled => ""

/-- The full texts of several failures. -/
def texts : List Failure → List String
  | [] => []
  | failure :: rest => text failure :: texts rest

end

/-- The texts of the failures that a problem is made of. -/
def toldBy : Problem Failure → List String
  | .unreadableCache cause => [text cause]
  | .allFetchersFailed causes => texts causes
  | _ => []

/-- The message of an error, without its component and context. -/
def message : Failure → String
  | .error problem _ => problem.message (toldBy problem)
  | failure => failure.text

/-- Fill in what the context of an error leaves open. -/
def withContext (outer : Context) : Failure → Failure
  | .error problem context => .error problem (context.or outer)
  | failure => failure

/-- The error lets the next fetcher try. -/
def isFetch : Failure → Bool
  | .error problem _ => problem.category.isFetch
  | _ => false

/-- The error means that nothing is stored under a locator. -/
def isMiss : Failure → Bool
  | .error problem _ => problem.category.isMiss
  | _ => false

/-- The texts of what lies behind a failure, the nearest first. -/
def behind : Failure → List String
  | .error problem _ =>
    match problem with
    | .unknownKind name =>
      [Text.quoted (Text.lowercase (Text.stripped name)) ++ " is not a valid Kind"]
    | .invalidIndex _ value _ why => [why.message (Text.stripped value)]
    | .notStored uri => [Text.quoted uri]
    | .unreadableCache cause => cause.text :: cause.behind
    | .sourceNotUtf8 why => [why.message]
    | .unreadableDocument reason => [reason]
    | .unwritableDocument reason => [reason]
    | _ => []
  | _ => []

/-- A failure and what lies behind it as a trail. -/
def trail (failure : Failure) : Trail :=
  let texts := failure.text :: failure.behind
  (texts.mapIdx fun i text =>
    { text, cause := if i + 1 < texts.length then some (i + 1) else none }).toArray

/-- The most telling message about a failure. -/
def hint (failure : Failure) : Option String := failure.trail.hint 0

end Failure

end Transclude
