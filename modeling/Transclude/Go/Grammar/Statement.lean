import Transclude.Go.Grammar.Expression

/-! # Statements and declarations -/

namespace Transclude.Go.Grammar

open Form

/-! ## Simple statements -/

/-- What may follow the first expression of a simple statement: nothing, or the rest of an
    assignment, of a step by one, or of the sending of a value.  The expressions on the right stand
    at site `right`. -/
def simpleRest (site right : Site) : GoForm :=
  anyOf [
    nothing,
    operator site ["++", "--"],
    seq (operator site ["<-"]) (expression right),
    inTurn [repeated (inTurn [connected site.breaks, sign ",", expression site]),
      operator site (":=" :: assignmentOperators), expressions right]]

/-- A simple statement. -/
def simple (site right : Site) : GoForm := seq (expression site) (simpleRest site right)

/-! ## Headers of blocks -/

/-- The header of a conditional: a condition, perhaps behind a simple statement. -/
def condition : GoForm :=
  seq (expression .head)
    (optional (inTurn [simpleRest .head .closed, sign ";", expression .tail]))

/-- A range behind its word. -/
def rangeClause : GoForm := seq (word "range") (expression .tail)

/-- A condition and a step, each of which may be missing. -/
def conditionAndStep : GoForm :=
  inTurn [sign ";", optional (expression .closed), sign ";", optional (simple .head .tail)]

/-- The header of a loop. -/
def loopHeader : GoForm :=
  anyOf [
    seq (expression .head)
      (anyOf [
        nothing,
        seq (simpleRest .head .closed) conditionAndStep,
        inTurn [repeated (seq (sign ",") (expression .head)), operator .head [":=", "="],
          rangeClause]]),
    rangeClause,
    conditionAndStep,
    nothing]

/-- A simple statement in front of what a switch looks at. -/
def setup : GoForm := optional (seq (simple .head .closed) (sign ";"))

/-- The header of a switch. -/
def switchHeader : GoForm := seq setup (optional (expression .tail))

/-- The header of a switch on the type of a value. -/
def typeSwitchHeader : GoForm :=
  inTurn [setup,
    either (expression .tail)
      (inTurn [commaList false (expression .head), operator .head [":="], expression .closed]),
    sign ".", sign "(", word "type", sign ")"]

/-! ## Cases -/

/-- The statements of a case. -/
def caseBody : GoForm := seq colon (optional (phrase .statements))

/-- Cases in braces, where `a` is what a case is for. -/
def cases (a : GoForm) : GoForm :=
  inTurn [sign "\x7b", repeated (seq (either (seq (word "case") a) (word "default")) caseBody),
    sign "\x7d"]

/-- A switch. -/
def switchStatement : GoForm :=
  seq (word "switch")
    (either (seq switchHeader (cases (expressions .closed)))
      (seq typeSwitchHeader (cases (commaList false (type false)))))

/-- The sending or the receiving of a value. -/
def communication : GoForm :=
  either (inTurn [expression .closed, sign "<-", expression .closed])
    (seq (optional (seq (expressions .closed) (lexeme (.sign [":=", "="] ["=="]))))
      (expression .closed))

/-! ## Declarations -/

/-- The name that a declaration declares. -/
def declaredName (type : String) : GoForm := playing "name" (node type identifier)

/-- Constants with a value, perhaps with a type, or constants alone. -/
def constantsDeclared : GoForm :=
  let values := seq (sign "=") (expressions .line)
  seq (commaList true identifier)
    (optional (seq unbroken (either values (seq (type false) values))))

/-- Variables with a type or a value or both. -/
def variablesDeclared : GoForm :=
  let values := seq (sign "=") (expressions .line)
  seq (commaList false identifier)
    (either (seq (type true) (optional (seq unbroken values))) values)

/-- The parameters of a generic type or function. -/
def typeParameters : GoForm :=
  node "type_parameter_list"
    (inTurn [sign "[", items (seq (commaList false identifier) (typeUnion false)), sign "]"])

/-- What declares a type, behind the keyword.  An array type goes before type parameters that look
    the same. -/
def typeSpecification : GoForm :=
  let name := declaredName "type_identifier"
  let braced := playing "type" (phrase .braced)
  let unbraced := playing "type" (unbracedType true)
  anyOf [
    node "type_spec" (inTurn [name, braced]),
    node "type_spec" (inTurn [name, unbraced]),
    node "type_spec" (inTurn [name, typeParameters, braced]),
    node "type_spec" (inTurn [name, typeParameters, unbraced]),
    node "type_alias" (inTurn [name, optional typeParameters, sign "=", type true])]

/-- A declaration that may stand in a block. -/
def declaration : GoForm :=
  anyOf [
    seq (word "const") (either constantsDeclared (group constantsDeclared)),
    seq (word "var") (either variablesDeclared (group variablesDeclared)),
    node "type_declaration"
      (seq (keyword "type") (either typeSpecification (group typeSpecification)))]

/-- The parts of a function behind its name. -/
def functionRest : GoForm :=
  seq (signature true) (possibly (seq unbroken (playing "body" block)))

/-- The declaration of a function. -/
def functionDeclaration : GoForm :=
  node "function_declaration"
    (inTurn [keyword "func", declaredName "identifier", optional typeParameters, functionRest])

/-- The declaration of a method. -/
def methodDeclaration : GoForm :=
  node "method_declaration"
    (inTurn [keyword "func", playing "receiver" (phrase .parameters),
      declaredName "field_identifier", functionRest])

/-- The import of a package, perhaps under a name. -/
def imported : GoForm := seq (optional (either (sign ".") identifier)) string

/-- A declaration that stands outside of all blocks only. -/
def outerDeclaration : GoForm :=
  anyOf [
    seq (word "package") identifier,
    functionDeclaration,
    methodDeclaration,
    seq (word "import") (either imported (group imported))]

/-! ## Statements -/

/-- A label. -/
def label : GoForm := inTurn [lexeme .plainIdentifier, unbroken, colon]

/-- A statement. -/
def statement : GoForm :=
  anyOf [
    declaration,
    simple .start .line,
    seq (word "return") (possibly (seq unbroken (expressions .line))),
    seq (either (word "go") (word "defer")) (expression .line),
    phrase .ifStatement,
    inTurn [word "for", loopHeader, block],
    switchStatement,
    seq (word "select") (cases communication),
    seq label (phrase .statement),
    word "fallthrough",
    seq (either (word "break") (word "continue")) (possibly (seq unbroken identifier)),
    seq (word "goto") identifier,
    block,
    sign ";"]

/-- The statements of a block, the last of which may be a label alone. -/
def statements : GoForm :=
  either
    (inTurn [phrase .statement, repeated (seq terminator (phrase .statement)),
      optional (seq terminator (optional label))])
    label

/-- A conditional. -/
def ifStatement : GoForm :=
  inTurn [word "if", condition, block,
    possibly (inTurn [unbroken, word "else", either block (phrase .ifStatement)])]

/-! ## The grammar -/

/-- What each phrase looks like. -/
def rules : Phrase → GoForm
  | .file => repeated (seq (either outerDeclaration (phrase .statement)) terminator)
  | .statement => statement
  | .statements => statements
  | .block => node "block" (inTurn [token "\x7b", optional (phrase .statements), token "\x7d"])
  | .ifStatement => ifStatement
  | .expression site => operation site
  | .literalBody => elements
  | .parameters => parameters
  | .type breaks => either (unbracedType breaks) (phrase .braced)
  | .braced => either structType interfaceType

end Transclude.Go.Grammar
