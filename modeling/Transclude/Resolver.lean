import Transclude.Action
import Transclude.Store

/-! # Resolving locators

A locator is looked up in the store first.  What is not there is produced once
and stored: a source by the first fetcher that has it, an excerpt from its
source.  Nothing is stored when that fails. -/

namespace Transclude

/-- Something that gets the bytes behind a locator. -/
abbrev Fetcher (σ : Type) := String → Action σ ByteArray

/-- A session in a world of type `σ`. -/
structure Session (σ : Type) where
  store : Store
  world : σ

namespace Session

variable {σ α : Type}

/-- An action on the world of a session. -/
def outside (action : Action σ α) : Action (Session σ) α :=
  Action.within world (fun w s => { s with world := w }) action

end Session

namespace Resolver

variable {σ : Type}

/-- What is stored under a locator, if anything is. -/
def lookup (store : Store) (uri : String) : Except Failure (Option ByteArray) :=
  match store.retrieve uri with
  | .ok data => .ok (some data)
  | .error e => if e.isMiss then .ok none else .error (.about uri (.unreadableCache e))

/-- What `produce` gives, stored under the locator, unless something is stored there. -/
def derive (uri : String) (produce : Action (Session σ) ByteArray) :
    Action (Session σ) ByteArray := fun s =>
  match lookup s.store uri with
  | .error e => .error e s
  | .ok (some data) => .ok data s
  | .ok none =>
    match produce s with
    | .error e s => .error e s
    | .ok data s => .ok data { s with store := s.store.store uri data }

/-- The bytes that the first fetcher with the source has, where `causes` are the errors of the
    fetchers before, last first. -/
def fetchFrom (uri : String) : List Failure → List (Fetcher σ) → Action σ ByteArray
  | causes, [] => fun w => .error (.about uri (.allFetchersFailed causes.reverse)) w
  | causes, fetcher :: rest => fun w =>
    match fetcher uri w with
    | .ok data w => .ok data w
    | .error e w => if e.isFetch then fetchFrom uri (e :: causes) rest w else .error e w

/-- The source behind a locator. -/
def resolve (fetchers : List (Fetcher σ)) (uri : String) : Action (Session σ) ByteArray :=
  derive uri (Session.outside (fetchFrom uri [] fetchers))

end Resolver

end Transclude
