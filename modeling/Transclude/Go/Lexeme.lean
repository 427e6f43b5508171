import Transclude.Go.Letter
import Transclude.Text.Pattern

/-! # Lexemes

The smallest pieces of a Go text, and the blanks and comments between them.

Lexemes are not cut out in advance.  Which lexeme stands at a place depends on
what may stand there: `<-` is one sign where a value can be sent, and the two
operators `<` and `-` where it cannot.  So a lexeme is asked for, together with
its rivals, the signs that may stand at the same place; the longest one wins.

A NUL stands in no comment, character or string. -/

namespace Transclude.Go

open Transclude.Text (Pattern)
open Transclude.Text.Pattern

/-! ## Blanks and comments -/

/-- A blank. -/
def isBlank (c : Char) : Bool := c = ' ' || ('\t' ≤ c && c ≤ '\r')

/-- A `*/` stands in the text, and no NUL in front of it. -/
def hasCommentEnd : List Char → Bool
  | '*' :: '/' :: _ => true
  | c :: rest => c ≠ '\x00' && hasCommentEnd rest
  | [] => false

/-- Where a scan of blanks and comments is. -/
inductive Gap where
  | between
  | lineComment
  | blockComment
deriving Repr, DecidableEq

/-- The number of characters of the blanks and comments at the start of a text.  Unless
    `newlines` is set, a newline outside of comments ends them. -/
def gapLength (newlines : Bool) : Gap → List Char → Nat
  | _, [] => 0
  | .lineComment, c :: rest =>
    if c = '\n' then if newlines then gapLength newlines .between rest + 1 else 0
    else if c = '\x00' then 0
    else gapLength newlines .lineComment rest + 1
  | .blockComment, '*' :: '/' :: rest => gapLength newlines .between rest + 2
  | .blockComment, _ :: rest => gapLength newlines .blockComment rest + 1
  | .between, '/' :: '/' :: rest => gapLength newlines .lineComment rest + 2
  | .between, '/' :: '*' :: rest =>
    if hasCommentEnd rest then gapLength newlines .blockComment rest + 2 else 0
  | .between, c :: rest =>
    if isBlank c && (newlines || c ≠ '\n') then gapLength newlines .between rest + 1 else 0

/-! ## Numbers, characters and strings -/

/-- A hexadecimal digit. -/
def isHexDigit (c : Char) : Bool := c.isDigit || ('a' ≤ c && c ≤ 'f') || ('A' ≤ c && c ≤ 'F')

/-- An octal digit. -/
def isOctalDigit (c : Char) : Bool := '0' ≤ c && c ≤ '7'

/-- Digits, with single underscores between them. -/
def digits (isDigit : Char → Bool) : Pattern :=
  inTurn [one isDigit, star (inTurn [optional (oneOf "_"), one isDigit])]

/-- The digits of an integer with a prefix. -/
def prefixed (letters : Pattern) (isDigit : Char → Bool) : Pattern :=
  inTurn [oneOf "0", letters, optional (oneOf "_"), digits isDigit]

/-- An integer. -/
def integer : Pattern :=
  anyOf [
    prefixed (oneOf "bB") fun c => c = '0' || c = '1',
    oneOf "0",
    inTurn [one fun c => '1' ≤ c && c ≤ '9',
      optional (inTurn [optional (oneOf "_"), digits Char.isDigit])],
    prefixed (optional (oneOf "oO")) isOctalDigit,
    prefixed (oneOf "xX") isHexDigit]

/-- The exponent of a number. -/
def exponent (letters : String) : Pattern :=
  inTurn [oneOf letters, optional (oneOf "+-"), digits Char.isDigit]

/-- A number with a fraction or an exponent. -/
def real : Pattern :=
  anyOf [
    inTurn [digits Char.isDigit, oneOf ".", optional (digits Char.isDigit),
      optional (exponent "eE")],
    inTurn [digits Char.isDigit, exponent "eE"],
    inTurn [oneOf ".", digits Char.isDigit, optional (exponent "eE")],
    inTurn [oneOf "0", oneOf "xX",
      anyOf [
        inTurn [optional (oneOf "_"), digits isHexDigit, oneOf ".", optional (digits isHexDigit)],
        inTurn [optional (oneOf "_"), digits isHexDigit],
        inTurn [oneOf ".", digits isHexDigit]],
      exponent "pP"]]

/-- A number of any kind. -/
def number : Pattern :=
  anyOf [integer, real, inTurn [anyOf [digits Char.isDigit, integer, real], oneOf "i"]]

/-- An escape that names a character by its number. -/
def numericEscape (letter : String) (count : Nat) : Pattern :=
  inTurn (oneOf letter :: List.replicate count (one isHexDigit))

/-- The escapes that name a character by hexadecimal digits. -/
def hexEscape : Pattern := anyOf [numericEscape "x" 2, numericEscape "u" 4, numericEscape "U" 8]

/-- A character in single quotes. -/
def character : Pattern :=
  inTurn [oneOf "'",
    anyOf [
      one fun c => c ≠ '\'' && c ≠ '\\' && c ≠ '\x00',
      inTurn [oneOf "\\",
        anyOf [hexEscape, inTurn (List.replicate 3 (one isOctalDigit)), oneOf "abfnrtv\\'\""]]],
    oneOf "'"]

/-- A string: in back quotes, or in double quotes on one line.  After a backslash stands any
    character, or a number. -/
def string : Pattern :=
  anyOf [
    inTurn [oneOf "\x60", star (one fun c => c ≠ '\x60' && c ≠ '\x00'), oneOf "\x60"],
    inTurn [oneOf "\"",
      star (anyOf [
        one fun c => c ≠ '"' && c ≠ '\n' && c ≠ '\\' && c ≠ '\x00',
        inTurn [oneOf "\\",
          anyOf [one fun c => c ≠ 'x' && c ≠ 'u' && c ≠ 'U' && c ≠ '\x00', hexEscape]]]),
      oneOf "\""]]

/-! ## Words -/

/-- The words that are no identifiers. -/
def keywords : List String :=
  ["break", "case", "chan", "const", "continue", "default", "defer", "else", "fallthrough", "for",
   "func", "go", "goto", "if", "import", "interface", "map", "package", "range", "return", "select",
   "struct", "switch", "type", "var"]

/-- The identifiers that mean a constant where a value may stand. -/
def constants : List String := ["nil", "true", "false", "iota"]

/-- The functions whose first argument is a type. -/
def typeFunctions : List String := ["new", "make"]

/-- The word at the start of a text, which may be a keyword. -/
def wordAt : List Char → List Char
  | [] => []
  | c :: rest => if startsIdentifier c then c :: rest.takeWhile continuesIdentifier else []

/-! ## Lexemes -/

/-- What may be asked for at a place. -/
inductive Lexeme where
  /-- An identifier. -/
  | identifier
  /-- An identifier with no special meaning in an expression. -/
  | plainIdentifier
  /-- The given word. -/
  | word (text : String)
  /-- One of the chosen signs; it must be longer than any rival that stands here. -/
  | sign (chosen rivals : List String)
  | number
  | character
  | string
deriving Repr, DecidableEq

namespace Lexeme

/-- The length of a word, if it is one and has the property `p`. -/
def wordLength? (p : String → Bool) (text : List Char) : Option Nat :=
  match wordAt text with
  | [] => none
  | w => if p (String.ofList w) then some w.length else none

/-- The length of the longest of several signs that the text starts with. -/
def signLength (signs : List String) (text : List Char) : Nat :=
  signs.foldl (fun n sign => if sign.toList.isPrefixOf text then max n sign.length else n) 0

/-- The length of a lexeme at the start of a text, if it stands there. -/
def length? : Lexeme → List Char → Option Nat
  | .identifier, text => wordLength? (fun w => !keywords.contains w) text
  | .plainIdentifier, text =>
    wordLength? (fun w => !(keywords ++ constants ++ typeFunctions).contains w) text
  | .word w, text => wordLength? (· == w) text
  | .sign chosen rivals, text =>
    let n := signLength chosen text
    if 0 < n && signLength rivals text ≤ n then some n else none
  | .number, text => Go.number.longest? text
  | .character, text => Go.character.longest? text
  | .string, text => Go.string.longest? text

end Lexeme

end Transclude.Go
