import Transclude.Text.Utf8

/-! # Faults

A fault is a failure that no layer of this library expects: it is passed on as
it is, and ends whatever was being done. -/

namespace Transclude

/-- What kind of fault it is. -/
inductive Fault.Kind where
  | value
  | operatingSystem
  | key
  | type
  | decoding
  | encoding
  | overflow
  | address
  | recursion
  /-- A fault of a class of its own. -/
  | other (name : String)
deriving Repr, DecidableEq

/-- A failure from outside, with its text. -/
structure Fault where
  kind : Fault.Kind
  text : String
deriving Repr, DecidableEq

namespace Fault

/-- A path that holds a NUL cannot be handed to the operating system. -/
def embeddedNul : Fault := ⟨.value, "embedded null byte"⟩

/-- Bytes that were to be text are not. -/
def undecodable (fault : Text.Utf8Fault) : Fault := ⟨.decoding, fault.message⟩

/-- Characters that were to be sent in a header cannot be. -/
def unsendable (complaint : String) : Fault := ⟨.encoding, complaint⟩

/-- A signal to a process that is not there any more. -/
def noProcess : Fault := ⟨.operatingSystem, ""⟩

/-- A number beyond the last code point. -/
def noCodePoint : Fault := ⟨.value, "chr() arg not in range(0x110000)"⟩

/-- A number so large that it is not even compared with the last code point. -/
def noNumber : Fault := ⟨.overflow, "Python int too large to convert to C int"⟩

/-- About how many calls may stand inside of each other. -/
def callDepth : Nat := 960

/-- Calls inside of each other go deeper than they can. -/
def tooDeep : Fault := ⟨.recursion, "maximum recursion depth exceeded"⟩

/-- The same, seen by a call that does nothing but call others. -/
def tooDeepInCall : Fault := ⟨.recursion, tooDeep.text ++ " while calling a Python object"⟩

/-- A missing key is shown quoted. -/
def missingKey (key : String) : Fault := ⟨.key, Text.quoted key⟩

end Fault

end Transclude
