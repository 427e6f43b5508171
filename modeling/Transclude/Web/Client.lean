import Transclude.Failure.Fault

/-! # Requests

A client from outside sends requests.  It is asked for an address with an
authorization, if there is one, and may send several requests for it, since a
server may answer that what is asked for is elsewhere.  Nothing is said here of
how it does that. -/

namespace Transclude.Web

/-- What is sent to a server. -/
structure Request where
  url : String
  authorization : Option String
deriving Repr, DecidableEq

/-- How asking for an address ends. -/
inductive Outcome where
  | response (status : Nat) (body : ByteArray)
  /-- The exchange failed, and why. -/
  | failed (reason : String)
  /-- The client failed in another way. -/
  | raised (fault : Fault)

/-- Asks for an address with an authorization.  The requests sent are part of the result. -/
abbrev Client := (authorization : Option String) → (url : String) → Outcome × List Request

end Transclude.Web
