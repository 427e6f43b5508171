import Transclude.Go.Library
import Transclude.Snippet

/-! # Go declarations

The declarations of a Go text that have a body in braces: functions, methods,
structs and interfaces, also those inside of functions.  A declaration is taken
apart at its braces. -/

namespace Transclude.Go

open Syntax (Node Located Pattern Query Match slice)

/-! ## Finding -/

/-- A declaration with a body in braces, by positions in the bytes of a text. -/
structure Declaration where
  kind : Kind
  name : String
  start : Nat
  /-- The opening brace. -/
  opening : Node
  /-- The closing brace. -/
  closing : Node
  /-- What goes in front of the definition: the keyword that stands in front of a group. -/
  lead : String := ""

/-- A pattern for the name of a declaration. -/
def namePattern (type : String) : Pattern := .mk type (some "name") (some "name") []

/-- A pattern for the body of a function. -/
def blockPattern : Pattern := .mk "block" (some "body") (some "body") []

/-- A pattern for a declaration with certain parts. -/
def declarationPattern (type : String) (parts : List Pattern) : Pattern :=
  .mk type none (some "declaration") parts

/-- Functions, methods, structs and interfaces with a body. -/
def declarationQuery : Query :=
  [declarationPattern "function_declaration" [namePattern "identifier", blockPattern],
    declarationPattern "method_declaration"
      [.mk "parameter_list" (some "receiver") (some "receiver") [], namePattern "field_identifier",
        blockPattern],
    declarationPattern "type_spec"
      [namePattern "type_identifier",
        .mk "struct_type" (some "type") none [.mk "field_declaration_list" none (some "body") []]],
    declarationPattern "type_spec"
      [namePattern "type_identifier", .mk "interface_type" (some "type") (some "body") []]]

/-- The first opening and the last closing brace directly below a node. -/
def braces? (node : Node) : Option (Node × Node) :=
  match node.children.filter (·.type = "\x7b"), node.children.filter (·.type = "\x7d") with
  | opening :: _, closing :: more => some (opening, (closing :: more).getLast (by simp))
  | _, _ => none

/-- A text without the given characters at either end. -/
def stripped (unwanted text : String) : String :=
  let drop := List.dropWhile fun c => unwanted.toList.contains c
  String.ofList (drop (drop text.toList).reverse).reverse

/-- The name of the type of a receiver: the first type that it names.  A receiver that names none
    stands for itself, without parentheses, stars and spaces around it. -/
def receiverName (lib : Library) (bytes : ByteArray) (receiver : Node) : Except Failure String := do
  match ← receiver.findBelow "type_identifier" lib.callDepth with
  | some node => node.text bytes
  | none => return stripped "()* " (← receiver.text bytes)

/-- Where the declaration of a type starts, and what goes in front of it.  It starts at the keyword,
    unless that stands in front of a group. -/
def typeStart (spec : Located) : Nat × String :=
  match spec.parent with
  | some parent =>
    if parent.type = "type_declaration" && !parent.children.any (·.type = "(") then
      (parent.start, "")
    else (spec.node.start, "type ")
  | none => (spec.node.start, "type ")

/-- The declaration that has been found. -/
def ofMatch (lib : Library) (bytes : ByteArray) (m : Match) :
    Except Failure (Option Declaration) := do
  let declaration ← m.captured "declaration"
  let body ← m.captured "body"
  match braces? body.node with
  | none => return none
  | some (opening, closing) =>
    let name ← (← m.captured "name").node.text bytes
    match m.pattern with
    | 0 =>
      return some { kind := .function, name, start := declaration.node.start, opening, closing }
    | 1 =>
      let receiver ← receiverName lib bytes (← m.captured "receiver").node
      return some { kind := .function, name := receiver ++ "." ++ name,
                    start := declaration.node.start, opening, closing }
    | _ =>
      let (start, lead) := typeStart declaration
      return some { kind := .type, name, start, opening, closing, lead }

/-- The declarations that have been found, those without braces left out. -/
def ofMatches (lib : Library) (bytes : ByteArray) :
    List Match → Except Failure (List Declaration)
  | [] => return []
  | m :: rest => do
    let declaration ← ofMatch lib bytes m
    let declarations ← ofMatches lib bytes rest
    return declaration.toList ++ declarations

/-- The declarations of a text, in order, if it is Go. -/
def declarations (lib : Library) (bytes : ByteArray) : Except Failure (List Declaration) :=
  let tree := lib.parse bytes
  if tree.hasError then .error (.of .invalidGo)
  else do
    let found ← ofMatches lib bytes (lib.findings declarationQuery tree)
    return found.mergeSort fun d e => d.start ≤ e.start

/-! ## Taking apart -/

namespace Declaration

/-- The text in front of the body. -/
def definition (bytes : ByteArray) (d : Declaration) : Except Failure String := do
  return d.lead ++ (← slice bytes d.start d.opening.start)

/-- The text between the braces, without a newline at its start. -/
def body (bytes : ByteArray) (d : Declaration) : Except Failure String := do
  let body ← slice bytes d.opening.stop d.closing.start
  return if body.startsWith "\n" then String.ofList (body.toList.drop 1) else body

/-- The declaration as a snippet. -/
def snippet (bytes : ByteArray) (name : String) (d : Declaration) : Except Failure Snippet := do
  return { name, definition := ← d.definition bytes, body := ← d.body bytes, braced := true }

end Declaration

end Transclude.Go
