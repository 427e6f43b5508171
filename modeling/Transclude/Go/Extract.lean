import Transclude.Go.Declaration

/-! # Excerpts of Go

An excerpt is a whole file or a declaration with a body in braces.  Methods go
by the type of their receiver and their name.

A declaration is stored as its text.  `restore` takes that text apart again by
reading it as a file of its own. -/

namespace Transclude.Go

/-- The text ends in a newline, so that the end of the text ends a statement too. -/
def terminated (text : String) : String :=
  if text.toList.getLast? = some '\n' then text else text ++ "\n"

/-- The excerpt of `source` with the given name and kind. -/
def extract (lib : Library) (source name : String) (kind : Kind) : Except Failure Snippet :=
  match kind with
  | .file => .ok { name, body := source }
  | .node => .error (.of (.kindOutsideExtractor .go kind))
  | .type | .function => do
    let bytes := Text.encode (terminated source)
    match (← declarations lib bytes).find? fun d => d.kind = kind && d.name = name with
    | some d => d.snippet bytes name
    | none => .error (.of (.noDeclaration kind name))

/-- The text under which an excerpt is stored. -/
def serialize (s : Snippet) : String :=
  if s.braced then s.definition ++ "\x7b\n" ++ s.body ++ "\x7d" else s.definition ++ s.body

/-- The text of a declaration as a file of its own. -/
def packaged (text : String) : String := "package dummy\n" ++ terminated text

/-- The excerpt that the first declaration of a text is. -/
def split (lib : Library) (name text : String) : Except Failure Snippet := do
  let bytes := Text.encode (packaged text)
  match ← declarations lib bytes with
  | d :: _ => d.snippet bytes name
  | [] => .error (.of (.noOpeningBrace name))

/-- The excerpt that is stored as a text. -/
def restore (lib : Library) (name : String) (kind : Kind) (text : String) :
    Except Failure Snippet :=
  match kind with
  | .type | .function => split lib name text
  | _ => .ok { name, body := text }

end Transclude.Go
