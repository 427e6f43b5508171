import Transclude.Text.Blank
import Transclude.Text.Lowercase

/-! # Languages and kinds

A directive names the language of its source and the kind of excerpt that it
wants.  Both are read without regard to case and to blanks around them; a
language has a second name. -/

namespace Transclude

/-- The language of a source. -/
inductive Language where
  | go
  | yaml
deriving Repr, DecidableEq

/-- What an excerpt is. -/
inductive Kind where
  | type
  | function
  | node
  | file
deriving Repr, DecidableEq

namespace Language

/-- The tag of a language, also the tag of its code blocks. -/
def tag : Language → String
  | .go => "go"
  | .yaml => "yaml"

/-- The names under which a language is known. -/
def aliases : List (String × Language) :=
  [("go", .go), ("golang", .go), ("yaml", .yaml), ("yml", .yaml)]

/-- The language with the given name, in any case and with blanks around it. -/
def ofString? (name : String) : Option Language :=
  aliases.lookup (Text.lowercase (Text.stripped name))

/-- The line that stands for lines left out. -/
def ellipsis : Language → String
  | .go => "\t// ...\n"
  | .yaml => "# ...\n"

end Language

namespace Kind

/-- The name of a kind. -/
def tag : Kind → String
  | .type => "type"
  | .function => "function"
  | .node => "node"
  | .file => "file"

/-- All kinds, by name. -/
def all : List Kind := [.file, .function, .node, .type]

/-- The kind with the given name, in any case and with blanks around it. -/
def ofString? (name : String) : Option Kind :=
  let name := Text.lowercase (Text.stripped name)
  all.find? fun kind => kind.tag == name

end Kind

/-- The kinds of excerpt that a language has. -/
def Language.supports : Language → Kind → Bool
  | .go, kind => kind = .file || kind = .type || kind = .function
  | .yaml, kind => kind = .file || kind = .node

end Transclude
