import Transclude.Failure

/-! # Directives

A directive is a line of a document that asks for an excerpt:

    <!-- pluck("language", "kind", "name", "source", start, end) -->

Blanks may stand before and after every token.  The fields are cut at the
commas outside quotation marks; a quoted field holds no quotation mark and has
no other way to write one.

`marked` recognises the frame around the fields and never fails; `parse` reads
the fields and says what is wrong with them.  The checks come in a fixed order:
frame, number and quoting of the fields, language, kind, start, end. -/

namespace Transclude

/-- A request for an excerpt. -/
structure Directive where
  language : Language
  kind : Kind
  name : String
  source : String
  start : Int
  stop : Int
deriving Repr, DecidableEq

namespace Directive

/-- The locator of the source. -/
def sourceUri (d : Directive) : String := d.source

/-- The locator of the excerpt: source, kind and name, with points between them. -/
def snippetUri (d : Directive) : String := d.source ++ "." ++ d.kind.tag ++ "." ++ d.name

/-! ## The frame -/

/-- What follows `word` at the head of `cs`. -/
def after? (word cs : List Char) : Option (List Char) :=
  if word.isPrefixOf cs then some (cs.drop word.length) else none

/-- What stands before `word` at the end of `cs`. -/
def ahead? (word cs : List Char) : Option (List Char) :=
  (after? word.reverse cs.reverse).map List.reverse

/-- The text between the parentheses of a directive, if `line` is one. -/
def arguments? (line : List Char) : Option (List Char) := do
  let rest ← after? ['<', '!', '-', '-'] (Text.trimLeft line)
  let rest ← after? ['p', 'l', 'u', 'c', 'k'] (Text.trimLeft rest)
  let rest ← after? ['('] (Text.trimLeft rest)
  let rest ← ahead? ['-', '-', '>'] (Text.trimRight rest)
  let rest ← ahead? [')'] (Text.trimRight rest)
  if rest.contains '\n' then none else some rest

/-- `line` is a directive. -/
def marked (line : String) : Bool := (arguments? line.toList).isSome

/-! ## The fields -/

/-- A field without the blanks around it, and without its quotation marks if it has them. -/
structure Field where
  text : String
  quoted : Bool
deriving Repr, DecidableEq

/-- The pieces of `cs` between the commas outside quotation marks; `inside` says that a mark is
    open. -/
def pieces (inside : Bool) : List Char → List (List Char)
  | [] => [[]]
  | c :: cs =>
    let inside := if c = '"' then !inside else inside
    if c = ',' && !inside then [] :: pieces inside cs
    else match pieces inside cs with
      | [] => [[c]]
      | piece :: rest => (c :: piece) :: rest

/-- The text between the quotation marks of `cs`, if `cs` is a quoted text. -/
def unquote? : List Char → Option (List Char)
  | '"' :: cs =>
    match cs.reverse with
    | '"' :: inner => if inner.contains '"' then none else some inner.reverse
    | _ => none
  | _ => none

/-- Read a piece as a field. -/
def Field.ofPiece (piece : List Char) : Field :=
  let piece := Text.trim piece
  match unquote? piece with
  | some inner => ⟨String.ofList inner, true⟩
  | none => ⟨String.ofList piece, false⟩

/-- The fields between the parentheses of a directive. -/
def fields (arguments : List Char) : List Field := (pieces false arguments).map Field.ofPiece

/-- The integer that a field stands for. -/
def parseIndex (bound : Bound) (line value : String) : Except Failure Int :=
  match Numeral.parseInt (Text.trim value.toList) with
  | .ok n => .ok n
  | .error fault => .error (.of (.invalidIndex bound value line fault))

/-- The directive that `line` is. -/
def parse (line : String) : Except Failure Directive :=
  match arguments? line.toList with
  | none => .error (.of (.notADirective line))
  | some arguments =>
    match fields arguments with
    | [⟨language, true⟩, ⟨kind, true⟩, ⟨name, true⟩, ⟨source, true⟩, start, stop] => do
      let language ← match Language.ofString? language with
        | some language => .ok language
        | none => .error (.of (.unknownLanguage language))
      let kind ← match Kind.ofString? kind with
        | some kind => .ok kind
        | none => .error (.of (.unknownKind kind))
      let start ← parseIndex .start line start.text
      let stop ← parseIndex .stop line stop.text
      return { language, kind, name, source, start, stop }
    | _ => .error (.of (.malformedFields line))

/-- The locators of the sources that a document asks for. -/
def sources (document : String) : List String :=
  (Text.lines document).filterMap fun line =>
    match parse line with
    | .ok d => some d.sourceUri
    | .error _ => none

end Directive

end Transclude
