import Transclude.Language
import Transclude.Failure

/-! # Code blocks

A code block is what a directive leaves in the document: an opening fence with
the tag of the language, the code, and a closing fence.  `render` writes it with
the indentation and the line ending of the directive line, `skip` finds where a
block ends that starts at a given line. -/

namespace Transclude.CodeBlock

/-- Three backticks. -/
def fence : String := "```"

/-- The blanks at the head of a line. -/
def indentation (line : String) : String := String.ofList (Text.leadingBlanks line.toList)

/-- Put `indentation` in front of every line of `code`, each of which then ends in `\n`.  Without
    indentation the code stays as it is. -/
def indent (code indentation : String) : String :=
  if indentation.isEmpty then code
  else String.join ((Text.lines code).map fun line => indentation ++ line ++ "\n")

/-- Every `\r\n` becomes `\n`. -/
def dropReturns : List Char → List Char
  | '\r' :: '\n' :: cs => '\n' :: dropReturns cs
  | c :: cs => c :: dropReturns cs
  | [] => []

/-- Every `\n` becomes `\r\n`. -/
def addReturns (cs : List Char) : List Char :=
  cs.flatMap fun c => if c = '\n' then ['\r', '\n'] else [c]

/-- A block under a directive line that does not end in `\r`. -/
def renderPlain (line : String) (language : Language) (code : String) : String :=
  let margin := indentation line
  let code := String.ofList (Text.terminated code.toList)
  margin ++ fence ++ language.tag ++ "\n" ++ indent code margin ++ margin ++ fence ++ "\n"

/-- A block under the directive line that is `line` followed by `returns` carriage returns: each
    of them is taken off the code and given back to the block. -/
def renderUnder (line : String) (language : Language) : Nat → String → String
  | 0, code => renderPlain line language code
  | returns + 1, code =>
    let block := renderUnder line language returns (String.ofList (dropReturns code.toList))
    String.ofList (addReturns block.toList)

/-- The carriage returns at the end of a line. -/
def finalReturns (line : String) : Nat := (line.toList.reverse.takeWhile (· = '\r')).length

/-- A line without the carriage returns at its end. -/
def withoutReturns (line : String) : String :=
  String.ofList (line.toList.reverse.dropWhile (· = '\r')).reverse

/-- The block that shows `code` under the directive line `line`. -/
def render (line : String) (language : Language) (code : String) : String :=
  renderUnder (withoutReturns line) language (finalReturns line) code

/-- The block under a directive line can be written.  Each carriage return at the end of the line
    takes a call inside of the one before. -/
def fits (line : String) : Bool := finalReturns line < Fault.callDepth

/-- Write the block that shows `code` under the directive line `line`. -/
def write (line : String) (language : Language) (code : String) : Except Failure String :=
  if fits line then .ok (render line language code) else .error (.fault Fault.tooDeepInCall)

/-- `line` opens a block: three backticks stand behind its indentation. -/
def opens (line : String) : Bool := fence.toList.isPrefixOf (Text.trimLeft line.toList)

/-- `line` closes a block: it holds three backticks and blanks around them, nothing else. -/
def closes (line : String) : Bool := Text.trim line.toList == fence.toList

/-- The number of lines of the block at the head of `lines`, none if there is no block there. -/
def length? (lines : List String) : Option Nat :=
  match lines with
  | [] => some 0
  | line :: rest =>
    if !opens line then some 0
    else (rest.findIdx? closes).map (· + 2)

/-- The place of the first line behind the block that starts at `start`, if one does. -/
def skip (lines : List String) (start : Nat) (uri : String) : Except Failure Nat :=
  match length? (lines.drop start) with
  | some n => .ok (start + n)
  | none => .error (.about uri .unterminatedBlock)

end Transclude.CodeBlock
