import Transclude.Snippet
import Transclude.Yaml.Graph.Inline
import Transclude.Yaml.Library

/-! # Extracting YAML nodes

The name of a node is the path of keys that leads to it, with points between the
keys.  A scalar is shown as `key: value`, a mapping as `key:` with its entries
indented below.  Aliases in the node are replaced by what they refer to. -/

namespace Transclude.Yaml

/-- The mark behind a document whose last scalar has no end of its own. -/
def closingMark : String := "...\n"

/-- A text without a closing mark on a line of its own behind it. -/
def withoutMark (text : String) : String :=
  if ('\n' :: closingMark.toList).isSuffixOf text.toList then
    String.ofList (text.toList.take (text.toList.length - closingMark.length))
  else text

/-- The text of a node. -/
def renderNode (lib : Library) (g : Graph) (i : Nat) : Except Failure String :=
  match g.inlinedFrom lib.callDepth i with
  | none => .error (.fault Fault.tooDeep)
  | some g =>
    match lib.serialize g i with
    | .ok text => .ok (withoutMark text)
    | .error f => .error (.fault f)

/-- A mapping below its key: its lines indented, empty lines left out. -/
def belowKey (key text : String) : String :=
  let lines := (Text.split '\n' text).filter (· ≠ "")
  key ++ ":\n" ++ String.join (lines.map fun line => "  " ++ line ++ "\n")

/-- The failure of a text without a meaning. -/
def Flaw.failure : Flaw → Failure
  | .invalid => .of .invalidYaml
  | .fault f => .fault f

/-- The failure of a path. -/
def Graph.Lost.failure : Graph.Lost → Failure
  | .notAMapping key kind => .of (.notAMapping key kind)
  | .noKey key => .of (.keyNotFound key)

/-- The text of a node with its key in front. -/
def showNode (lib : Library) (g : Graph) (i : Nat) (key : String) : Except Failure String :=
  match g[i]? with
  | some (.aliasOf _) => .error (.of .aliasTarget)
  | some (.sequence ..) => .error (.of .sequenceTarget)
  | some (.scalar ..) => return key ++ ": " ++ (← renderNode lib g i)
  | some (.mapping ..) => return belowKey key (← renderNode lib g i)
  | none => .error (.of .emptyYaml)

/-- The node of `source` that the path `name` leads to. -/
def extractNode (lib : Library) (source name : String) : Except Failure Snippet := do
  let (root, g) ← match lib.compose source with
    | .error flaw => .error flaw.failure
    | .ok none => .error (.of .emptyYaml)
    | .ok (some composed) => .ok composed
  let keys := Text.split '.' name
  match g.walk root keys with
  | .error lost => .error lost.failure
  | .ok i =>
    let body ← showNode lib g i (keys.getLastD "")
    return { name, body }

/-- The excerpt of `source` with the given name and kind. -/
def extract (lib : Library) (source name : String) : Kind → Except Failure Snippet
  | .file => .ok { name, body := source }
  | .node => extractNode lib source name
  | kind => .error (.of (.kindOutsideExtractor .yaml kind))

/-- The text under which an excerpt is stored. -/
def serialize (s : Snippet) : String := s.definition ++ s.body

/-- The excerpt that is stored as a text. -/
def restore (name text : String) : Except Failure Snippet := .ok { name, body := text }

end Transclude.Yaml
