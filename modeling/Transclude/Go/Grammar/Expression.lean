import Transclude.Go.Grammar.Type

/-! # Expressions

An expression is read as a sequence of operands and operators: how tightly the
operators bind makes no difference to what is declared where.

In the header of a block, a name followed by a brace is not a literal: the brace
starts the block. -/

namespace Transclude.Go.Grammar

open Form

/-! ## Operators -/

/-- The operators between two operands. -/
def binaryOperators : List String :=
  ["*", "/", "%", "<<", ">>", "&", "&^", "+", "-", "|", "^", "==", "!=", "<", "<=", ">", ">=",
   "&&", "||"]

/-- The operators of assignments. -/
def assignmentOperators : List String :=
  ["=", "*=", "/=", "%=", "<<=", ">>=", "&=", "&^=", "+=", "-=", "|=", "^="]

/-- The other signs that may stand behind the first expression of a statement. -/
def statementSigns : List String := ["++", "--", "<-", ":="]

/-- The signs that may stand behind an expression at a site. -/
def signsAt (site : Site) : List String :=
  if site.assigns then binaryOperators ++ assignmentOperators ++ statementSigns
  else binaryOperators

/-- One of the chosen signs behind an expression. -/
def operator (site : Site) (chosen : List String) : GoForm :=
  seq (connected site.breaks) (lexeme (.sign chosen (signsAt site)))

/-- An operator in front of an operand. -/
def unaryOperator : GoForm := lexeme (.sign ["+", "-", "!", "^", "*", "&", "<-"] [])

/-! ## Operands -/

/-- The type in front of a conversion is followed by its operand. -/
def conversion : GoForm := inTurn [sign "(", expression .closed, optional (sign ","), sign ")"]

/-- The body of a literal. -/
def literalBody : GoForm := phrase .literalBody

/-- An element of a literal: a value, perhaps with a key. -/
def element : GoForm :=
  let part := either (expression .closed) literalBody
  seq part (optional (seq colon part))

/-- Elements in braces. -/
def elements : GoForm := bracketed "\x7b" "\x7d" element

/-- The arguments of a function. -/
def arguments : GoForm :=
  bracketed "(" ")" (seq (expression .closed) (optional (sign "...")))

/-- Arguments of which the first one is a type. -/
def typeFirstArguments : GoForm :=
  inTurn [sign "(",
    optional (inTurn [type false, repeated (seq (sign ",") (expression .closed)),
      optional (sign ",")]),
    sign ")"]

/-- An operand that starts with a name. -/
def namedOperand (site : Site) : GoForm :=
  let instantiated := seq typeArguments (optional literalBody)
  anyOf [
    seq (lexeme .plainIdentifier)
      (optional (seq (connected site.breaks)
        (if site.headed then instantiated else either literalBody instantiated))),
    inTurn [lexeme .plainIdentifier, connected site.breaks, sign ".", identifier,
      either literalBody instantiated]]

/-- An operand that starts with a function whose first argument is a type. -/
def typeFunctionOperand (site : Site) (w : String) : GoForm :=
  seq (word w)
    (either (seq (connected site.breaks) typeFirstArguments)
      (absent (seq (connected site.breaks) (sign "("))))

/-- An operand that starts with a type. -/
def typedOperand : GoForm :=
  anyOf [
    seq
      (anyOf [
        inTurn [dimension, type false],
        inTurn [word "map", sign "[", type false, sign "]", type false],
        structType])
      (either literalBody conversion),
    inTurn [sign "[", sign "...", sign "]", type false, literalBody],
    seq
      (anyOf [
        inTurn [word "chan", optional (sign "<-"), type false],
        inTurn [sign "~", type false],
        interfaceType,
        enclosedType])
      conversion,
    inTurn [word "func", signature false, either block conversion]]

/-- An operand without what may follow it. -/
def operandStart (site : Site) : GoForm :=
  anyOf [
    namedOperand site,
    anyOf (constants.map word),
    anyOf (typeFunctions.map (typeFunctionOperand site)),
    lexeme .number,
    lexeme .character,
    string,
    inTurn [sign "(", expression .closed, sign ")"],
    typedOperand]

/-- What stands in the brackets behind an operand: an index, or the bounds of a slice. -/
def bounds : GoForm :=
  let e := expression .closed
  either (seq e (optional (seq (sign ":") (optional (seq e (optional (seq (sign ":") e)))))))
    (seq (sign ":") (optional (seq e (optional (seq (sign ":") e)))))

/-- What may follow an operand. -/
def suffix : GoForm :=
  anyOf [
    seq (sign ".")
      (either identifier (inTurn [sign "(", type false, sign ")"])),
    inTurn [sign "[", bounds, sign "]"],
    arguments,
    seq typeArguments arguments]

/-- An operand with the operators in front and what follows it. -/
def operand (site : Site) : GoForm :=
  inTurn [repeated unaryOperator, operandStart site,
    repeated (seq (connected site.breaks) suffix)]

/-- Operands with operators between. -/
def operation (site : Site) : GoForm :=
  seq (operand site) (repeated (seq (operator site binaryOperators) (operand site)))

end Transclude.Go.Grammar
