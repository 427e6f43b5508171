import Transclude.Failure
import Transclude.Text.Line

/-! # Snippets

A snippet is an excerpt of a source: a definition and a body.  The body of a
braced snippet stands between braces that belong to neither.

`Snippet.window` cuts lines out of the body.  Two ranges have a meaning of their
own: `(-1, -1)` shows the definition with the body left out, `(0, 0)` shows the
body as it is.  Any other range counts the lines of the body from zero, its end
excluded; a line that stands for what was left out is put at each end where
lines are missing.  Ranges are never clamped. -/

namespace Transclude

/-- An excerpt of a source. -/
structure Snippet where
  name : String
  definition : String := ""
  body : String
  braced : Bool := false
deriving Repr, DecidableEq

namespace Snippet

/-- The lines of a body: its pieces between `\n`, without an empty one at either end. -/
def bodyLines (body : String) : List String :=
  let pieces := Text.split '\n' body
  let pieces := match pieces with
    | "" :: rest => rest
    | pieces => pieces
  if pieces.getLast? = some "" then pieces.dropLast else pieces

/-- What a range of lines shows of a body. -/
def shown (body : String) (start stop : Int) (ellipsis : String) : Except Failure String :=
  if start = -1 && stop = -1 then .ok ellipsis
  else if start = 0 && stop = 0 then .ok body
  else
    let lines := bodyLines body
    if start < 0 || stop < 0 || stop < start || lines.length < stop then
      .error (.of (.invalidRange start stop lines.length))
    else
      let chosen := (lines.take stop.toNat).drop start.toNat
      let front := if start = 0 then "" else ellipsis
      let back := if stop = lines.length then "" else ellipsis
      .ok (front ++ Text.unlines chosen ++ back)

/-- The text of a snippet with a range of the lines of its body. -/
def window (s : Snippet) (start stop : Int) (ellipsis : String) : Except Failure String := do
  let middle ← shown s.body start stop ellipsis
  return if s.braced then s.definition ++ "\x7b\n" ++ middle ++ "\x7d\n" else s.definition ++ middle

end Snippet

end Transclude
