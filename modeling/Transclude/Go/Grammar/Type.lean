import Transclude.Go.Grammar.Phrase

/-! # Types -/

namespace Transclude.Go.Grammar

open Form

/-- The name of a type. -/
def typeIdentifier : GoForm := node "type_identifier" identifier

/-- Alternatives with bars between. -/
def typeUnion (breaks : Bool) : GoForm :=
  seq (type breaks) (repeated (inTurn [connected breaks, bar, type breaks]))

/-- The arguments of a generic type or function. -/
def typeArguments : GoForm :=
  node "type_arguments" (inTurn [sign "[", items (typeUnion false), sign "]"])

/-- The name of a type, perhaps of another package and perhaps with arguments.  A newline counts as
    `breaks` says. -/
def namedType (breaks : Bool) : GoForm :=
  let withArguments (name : GoForm) :=
    either (node "generic_type" (seq name (seq (connected breaks) typeArguments))) name
  either (withArguments typeIdentifier)
    (withArguments (node "qualified_type"
      (inTurn [identifier, connected breaks, sign ".", typeIdentifier])))

/-- Names and a type, or any number of arguments of a type, or a type alone. -/
def parameter : GoForm :=
  node "parameter_declaration"
    (orElse (seq (commaList false identifier) (type false))
      (orElse (inTurn [optional identifier, sign "...", type false]) (type false)))

/-- The parameters of a function. -/
def parameters : GoForm := node "parameter_list" (bracketed "(" ")" parameter)

/-- The brackets in front of the elements of an array or a slice. -/
def dimension : GoForm := inTurn [sign "[", optional (expression .closed), sign "]"]

/-- The types that need neither braces nor parentheses. -/
def openType (breaks : Bool) : GoForm :=
  anyOf [
    namedType breaks,
    node "pointer_type" (inTurn [sign "*", type breaks]),
    node "array_type" (inTurn [dimension, type breaks]),
    node "map_type" (inTurn [word "map", sign "[", type false, sign "]", type breaks]),
    node "channel_type" (inTurn [word "chan", optional (sign "<-"), type breaks]),
    node "channel_type" (inTurn [sign "<-", word "chan", type breaks]),
    node "negated_type" (inTurn [sign "~", type breaks])]

/-- A type in parentheses. -/
def enclosedType : GoForm := node "parenthesized_type" (inTurn [sign "(", type false, sign ")"])

/-- The result of a function: its parameters, or a type without parentheses. -/
def result (breaks : Bool) : GoForm :=
  playing "result" (either (phrase .parameters) (seq (absent (sign "(")) (type breaks)))

/-- The parameters of a function and its result, if it has one. -/
def signature (breaks : Bool) : GoForm :=
  seq (playing "parameters" (phrase .parameters))
  (possibly (seq (connected breaks) (result breaks)))

/-- The type of a function. -/
def functionType (breaks : Bool) : GoForm :=
  node "function_type" (seq (word "func") (signature breaks))

/-- A type that is not directly a struct or an interface. -/
def unbracedType (breaks : Bool) : GoForm :=
  anyOf [openType breaks, functionType breaks, enclosedType]

/-- The fields of a struct: names and a type, or an embedded type, perhaps with a tag. -/
def fields : GoForm :=
  seq
    (either
      (seq identifier
        (either (seq unbroken (type true))
          (inTurn [unbroken, sign ",", commaList false identifier, type true])))
      (seq (optional (sign "*")) (namedType true)))
    (possibly (seq unbroken string))

/-- What an interface demands: a method, or one of several types. -/
def demand : GoForm :=
  either (inTurn [identifier, unbroken, signature true]) (typeUnion true)

/-- Lines between braces. -/
def inBraces (a : GoForm) : GoForm := inTurn [token "\x7b", lines a, token "\x7d"]

/-- A struct. -/
def structType : GoForm :=
  node "struct_type" (seq (keyword "struct") (node "field_declaration_list" (inBraces fields)))

/-- An interface. -/
def interfaceType : GoForm :=
  node "interface_type" (seq (keyword "interface") (inBraces demand))

end Transclude.Go.Grammar
