/-! # Categories of errors

The errors of this library form a tree of categories.  A category is a special
case of its parent, and what catches the parent catches it too. -/

namespace Transclude

/-- A category of errors. -/
inductive Category where
  | any
  | directive
  | malformedDirective
  | invalidIndex
  | invalidLanguage
  | invalidKind
  | cache
  | notStored
  | unreadableCache
  | fetch
  | unrecognizedSource
  | allFetchersFailed
  | extraction
  | declarationNotFound
  | unsupportedKind
  | parseFailure
  | pathNotFound
  | unsupportedNode
  | toolUnavailable
  | unsupportedLanguage
  | invalidRange
  | unterminatedBlock
  | run
  | deadline
deriving Repr, DecidableEq

namespace Category

/-- The category that a category is a special case of. -/
def parent? : Category → Option Category
  | any => none
  | malformedDirective | invalidIndex | invalidLanguage | invalidKind => some directive
  | notStored | unreadableCache => some cache
  | unrecognizedSource => some fetch
  | declarationNotFound | unsupportedKind | parseFailure | pathNotFound | unsupportedNode
  | toolUnavailable | unsupportedLanguage => some extraction
  | deadline => some run
  | directive | cache | fetch | allFetchersFailed | extraction | invalidRange
  | unterminatedBlock | run => some any

/-- A category and all that it is a special case of, the most special first. -/
def lineage (c : Category) : List Category :=
  match c.parent? with
  | none => [c]
  | some p =>
    match p.parent? with
    | none => [c, p]
    | some q => [c, p, q]

/-- The part of the program that reports errors of a category, unless it names itself. -/
def component : Category → String
  | any => "pluckmd"
  | directive | malformedDirective | invalidIndex | invalidLanguage | invalidKind => "directive"
  | cache | notStored | unreadableCache => "cache"
  | fetch | unrecognizedSource => "fetcher"
  | allFetchersFailed => "resolver"
  | extraction | declarationNotFound | unsupportedKind | parseFailure | pathNotFound
  | unsupportedNode | toolUnavailable | unsupportedLanguage => "plucker"
  | invalidRange => "snipper"
  | unterminatedBlock => "processor"
  | run | deadline => "runner"

/-- The error lets the next fetcher try. -/
def isFetch (c : Category) : Bool := c.lineage.contains fetch

/-- The error means that nothing is stored under a locator. -/
def isMiss (c : Category) : Bool := c.lineage.contains notStored

end Category

end Transclude
