import Transclude.Text.Pattern
import Transclude.Yaml.Content

/-! # Tags

A node without a tag gets one.  A collection gets the tag of its kind, a scalar
in quotes or in a block is a string, and the tag of a plain scalar is read off
its content.

`Tag.detect` is that last rule.  Patterns match up to the end of the content or
up to one line feed at its end. -/

namespace Transclude.Yaml

/-- The common beginning of the standard tags. -/
def standardTag (name : String) : String := "tag:yaml.org,2002:" ++ name

namespace Tag

open Transclude.Text (Pattern)
open Transclude.Text.Pattern

/-- A string. -/
def str : String := standardTag "str"

/-- A sequence. -/
def seq : String := standardTag "seq"

/-- A mapping. -/
def map : String := standardTag "map"

/-- The tag that leaves the choice to the rules for plain scalars. -/
def unspecific : String := "!"

/-! ## Patterns of plain scalars -/

/-- A decimal digit. -/
def digit : Pattern := one Char.isDigit

/-- Decimal digits and underscores, the first of them a digit. -/
def number : Pattern := Text.Pattern.seq digit (star (oneOf "0123456789_"))

/-- A sign or none. -/
def sign : Pattern := optional (oneOf "-+")

/-- The exponent of a number or none. -/
def exponent : Pattern := optional (inTurn [oneOf "eE", oneOf "-+", many digit])

/-- Sixtieths behind a number. -/
def sixtieths : Pattern := many (inTurn [word ":", optional (oneOf "012345"), digit])

/-- A truth value. -/
def boolPattern : Pattern :=
  anyWord ["yes", "Yes", "YES", "no", "No", "NO", "true", "True", "TRUE", "false", "False",
    "FALSE", "on", "On", "ON", "off", "Off", "OFF"]

/-- A floating-point number. -/
def floatPattern : Pattern :=
  anyOf [
    inTurn [sign, number, word ".", star (oneOf "0123456789_"), exponent],
    inTurn [word ".", number, exponent],
    inTurn [sign, number, sixtieths, word ".", star (oneOf "0123456789_")],
    inTurn [sign, word ".", anyWord ["inf", "Inf", "INF"]],
    inTurn [word ".", anyWord ["nan", "NaN", "NAN"]]]

/-- An integer. -/
def intPattern : Pattern :=
  let decimal := Text.Pattern.seq (oneOf "123456789") (star (oneOf "0123456789_"))
  anyOf [
    inTurn [sign, word "0b", many (oneOf "01_")],
    inTurn [sign, word "0", many (oneOf "01234567_")],
    inTurn [sign, either (word "0") decimal],
    inTurn [sign, word "0x", many (oneOf "0123456789abcdefABCDEF_")],
    inTurn [sign, decimal, sixtieths]]

/-- A point in time. -/
def timestampPattern : Pattern :=
  let two := both digit digit
  let year := both two two
  let short := both digit (optional digit)
  let blanks := star (oneOf " \t")
  let zone := either (word "Z") (inTurn [oneOf "-+", short, optional (both (word ":") two)])
  anyOf [
    inTurn [year, word "-", two, word "-", two],
    inTurn [year, word "-", short, word "-", short, either (oneOf "Tt") (many (oneOf " \t")),
      short, word ":", two, word ":", two, optional (both (word ".") (star digit)),
      optional (both blanks zone)]]

/-- A rule for plain scalars: the tag that it gives, the characters that start a content for which
    it is tried, and what the content looks like. -/
structure Rule where
  name : String
  heads : String
  pattern : Pattern

/-- The rules for plain scalars, in the order in which they are tried. -/
def rules : List Rule :=
  [⟨"bool", "yYnNtTfFoO", boolPattern⟩, ⟨"float", "-+0123456789.", floatPattern⟩,
   ⟨"int", "-+0123456789", intPattern⟩, ⟨"merge", "<", word "<<"⟩,
   ⟨"null", "~nN", either (word "~") (anyWord ["null", "Null", "NULL"])⟩,
   ⟨"timestamp", "0123456789", timestampPattern⟩, ⟨"value", "=", word "="⟩,
   ⟨"yaml", "!&*", oneOf "!&*"⟩]

/-- The content as characters; nothing if it holds a surrogate. -/
def chars? (content : Content) : Option (List Char) :=
  if content.all fun n => n.isValidChar then some (content.map Char.ofNat) else none

/-- A pattern matches a text up to its end, or up to a line feed at its end. -/
def fits (pattern : Pattern) (cs : List Char) : Bool :=
  pattern.matchesAll cs || (cs.getLast? = some '\n' && pattern.matchesAll cs.dropLast)

/-- The tag of a plain scalar.  Where nothing is written there is nothing. -/
def detect (content : Content) : String :=
  match chars? content with
  | none => str
  | some [] => standardTag "null"
  | some (c :: cs) =>
    match rules.find? fun rule => rule.heads.toList.contains c && fits rule.pattern (c :: cs) with
    | some rule => standardTag rule.name
    | none => str

/-- The tag of a scalar with the tag `tag?` and the style `style` in the text. -/
def ofScalar (tag? : Option String) (content : Content) (style : Style) : String :=
  match tag? with
  | none => if style = .plain then detect content else str
  | some tag => if tag = unspecific then detect content else tag

/-- The tag of a collection with the tag `tag?` in the text, where `default` is that of its kind. -/
def ofCollection (tag? : Option String) (default : String) : String :=
  match tag? with
  | none => default
  | some tag => if tag = unspecific then default else tag

end Tag

end Transclude.Yaml
