import Transclude.Failure

/-! # The store

What has been fetched and excerpted in a session, by locator.  Entries keep the
order in which their locators came; storing under a known locator replaces the
bytes and not the place. -/

namespace Transclude

/-- The bytes stored under locators. -/
structure Store where
  entries : List (String × ByteArray) := []
  /-- What every reading fails with, if the store cannot be read. -/
  broken : Option Failure := none

namespace Store

/-- Put bytes under a locator in a list of entries. -/
def put (uri : String) (data : ByteArray) :
    List (String × ByteArray) → List (String × ByteArray)
  | [] => [(uri, data)]
  | (u, d) :: rest => if u = uri then (u, data) :: rest else (u, d) :: put uri data rest

/-- Store bytes under a locator. -/
def store (s : Store) (uri : String) (data : ByteArray) : Store :=
  { s with entries := put uri data s.entries }

/-- The bytes under a locator, if there are any. -/
def find? (s : Store) (uri : String) : Option ByteArray := s.entries.lookup uri

/-- The bytes under a locator. -/
def retrieve (s : Store) (uri : String) : Except Failure ByteArray :=
  match s.broken with
  | some failure => .error failure
  | none =>
    match s.find? uri with
    | some data => .ok data
    | none => .error (.about uri (.notStored uri))

/-- The locators in use, in order. -/
def uris (s : Store) : List String := s.entries.map (·.1)

/-- The store without its entries. -/
def close (s : Store) : Store := { s with entries := [] }

end Store

end Transclude
