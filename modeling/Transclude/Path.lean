import Transclude.Text.Line
import Transclude.Text.Lowercase

/-! # Paths

A path is a root, if it has one, and the names on the way.  Empty names and `.`
are dropped when a path is read; `..` is kept, because what it leads to depends
on the files.  Two slashes in front are a root of their own, three or more are
one slash.

The text of a path is its normal form, and the empty path is written `.`.
Paths are ordered name by name, each name by code point, so `b/z` comes before
`b-c`. -/

namespace Transclude

/-- Where a path starts. -/
inductive Path.Root where
  /-- At the working directory. -/
  | none
  /-- At `/`. -/
  | slash
  /-- At `//`. -/
  | doubleSlash
deriving Repr, DecidableEq

/-- A path in normal form. -/
structure Path where
  root : Path.Root
  names : List String
deriving Repr, DecidableEq

namespace Path

/-- The text of a root. -/
def Root.text : Root → String
  | .none => ""
  | .slash => "/"
  | .doubleSlash => "//"

/-- Read a path. -/
def ofString (text : String) : Path :=
  let names := (Text.split '/' text).filter fun name => name ≠ "" && name ≠ "."
  match text.toList with
  | '/' :: '/' :: '/' :: _ => ⟨.slash, names⟩
  | '/' :: '/' :: _ => ⟨.doubleSlash, names⟩
  | '/' :: _ => ⟨.slash, names⟩
  | _ => ⟨.none, names⟩

/-- The text of a path. -/
def text (path : Path) : String :=
  if path.root = .none && path.names.isEmpty then "."
  else path.root.text ++ "/".intercalate path.names

/-- A path with a root does not depend on the working directory. -/
def isAbsolute (path : Path) : Bool := path.root ≠ .none

/-- `path` seen from `base`: an absolute path stands for itself. -/
def under (base path : Path) : Path :=
  if path.isAbsolute then path else ⟨base.root, base.names ++ path.names⟩

/-- The file or directory `name` in the directory `path`. -/
def child (path : Path) (name : String) : Path := ⟨path.root, path.names ++ [name]⟩

/-- The last name of a path, empty if there is none. -/
def name (path : Path) : String := path.names.getLast?.getD ""

/-- The part of a name from its last point on, if something stands before and behind that point. -/
def suffixOf (name : List Char) : List Char :=
  let tail := (name.reverse.takeWhile (· ≠ '.')).reverse
  if tail.isEmpty || name.length < tail.length + 2 then [] else '.' :: tail

/-- The suffix of the last name. -/
def suffix (path : Path) : String := String.ofList (suffixOf path.name.toList)

/-- What the order of paths compares: the root, if there is one, and the names. -/
def orderKey (path : Path) : List String :=
  if path.root = .none then path.names else path.root.text :: path.names

/-- The order of paths. -/
def before (p q : Path) : Bool := p.orderKey < q.orderKey

/-- Files with these suffixes, in any case, are Markdown. -/
def markdownSuffixes : List String := [".md", ".markdown"]

/-- `path` names a Markdown file. -/
def isMarkdown (path : Path) : Bool :=
  markdownSuffixes.contains (Text.lowercase path.suffix)

end Path

end Transclude
