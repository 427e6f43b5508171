import Transclude.Text.Quoted

/-! # UTF-8

`decode` accepts exactly the well-formed byte sequences.  For any other it
names the first fault: where it starts, how many bytes it covers, and what is
wrong there.  A fault covers the longest beginning of a well-formed sequence
that can be read at its place, and at least one byte.

`decodeLossy` reads every sequence and writes U+FFFD for each fault. -/

namespace Transclude.Text

/-- What is wrong with a sequence of bytes. -/
inductive Utf8Reason where
  | invalidStart
  | invalidContinuation
  | unexpectedEnd
deriving Repr, DecidableEq

/-- The first fault of a byte sequence. -/
structure Utf8Fault where
  /-- The first byte of the fault. -/
  byte : UInt8
  /-- Where the fault starts. -/
  start : Nat
  /-- The number of bytes that it covers. -/
  size : Nat
  reason : Utf8Reason
deriving Repr, DecidableEq

/-- What stands at the head of a byte sequence. -/
inductive Utf8Head where
  /-- A character, and the number of bytes behind the first that belong to it. -/
  | char (c : Char) (more : Nat)
  /-- A fault, and the number of bytes behind the first that it covers. -/
  | fault (reason : Utf8Reason) (more : Nat)

/-- `b` may follow the first byte of a character. -/
def isContinuation (b : UInt8) : Bool := 0x80 ≤ b && b < 0xC0

/-- The bytes that may stand second, after the first byte `b`, in a character of three or four. -/
def secondBounds (b : UInt8) : UInt8 × UInt8 :=
  if b == 0xE0 then (0xA0, 0xC0)
  else if b == 0xED then (0x80, 0xA0)
  else if b == 0xF0 then (0x90, 0xC0)
  else if b == 0xF4 then (0x80, 0x90)
  else (0x80, 0xC0)

/-- `c` may stand second in a character that starts with `b`. -/
def isSecond (b c : UInt8) : Bool := (secondBounds b).1 ≤ c && c < (secondBounds b).2

/-- Append the six bits of a continuation byte to a code. -/
def joinBits (code : Nat) (b : UInt8) : Nat := code * 64 + b.toNat % 64

/-- The character or the fault that starts with `b` and goes on with `rest`. -/
def utf8Head (b : UInt8) (rest : List UInt8) : Utf8Head :=
  if b < 0x80 then .char (Char.ofNat b.toNat) 0
  else if b < 0xC2 then .fault .invalidStart 0
  else if b < 0xE0 then
    match rest with
    | [] => .fault .unexpectedEnd 0
    | c :: _ =>
      if isContinuation c then .char (Char.ofNat (joinBits (b.toNat % 32) c)) 1
      else .fault .invalidContinuation 0
  else if b < 0xF0 then
    match rest with
    | [] => .fault .unexpectedEnd 0
    | c :: rest =>
      if !isSecond b c then .fault .invalidContinuation 0
      else match rest with
        | [] => .fault .unexpectedEnd 1
        | d :: _ =>
          if isContinuation d then .char (Char.ofNat (joinBits (joinBits (b.toNat % 16) c) d)) 2
          else .fault .invalidContinuation 1
  else if b < 0xF5 then
    match rest with
    | [] => .fault .unexpectedEnd 0
    | c :: rest =>
      if !isSecond b c then .fault .invalidContinuation 0
      else match rest with
        | [] => .fault .unexpectedEnd 1
        | d :: rest =>
          if !isContinuation d then .fault .invalidContinuation 1
          else match rest with
            | [] => .fault .unexpectedEnd 2
            | e :: _ =>
              if isContinuation e then
                .char (Char.ofNat (joinBits (joinBits (joinBits (b.toNat % 8) c) d) e)) 3
              else .fault .invalidContinuation 2
  else .fault .invalidStart 0

/-- The first fault of `bytes`, which start at position `start`. -/
def firstFault? (start : Nat) (bytes : List UInt8) : Option Utf8Fault :=
  match bytes with
  | [] => none
  | b :: rest =>
    match utf8Head b rest with
    | .char _ more => firstFault? (start + 1 + more) (rest.drop more)
    | .fault reason more => some ⟨b, start, more + 1, reason⟩
termination_by bytes.length
decreasing_by simp only [List.length_drop, List.length_cons]; omega

/-- The characters of `bytes`, with U+FFFD for each fault. -/
def readLossy (bytes : List UInt8) : List Char :=
  match bytes with
  | [] => []
  | b :: rest =>
    match utf8Head b rest with
    | .char c more => c :: readLossy (rest.drop more)
    | .fault _ more => Char.ofNat 0xFFFD :: readLossy (rest.drop more)
termination_by bytes.length
decreasing_by all_goals (simp only [List.length_drop, List.length_cons]; omega)

/-- The text of a byte sequence, or its first fault. -/
def decode (bytes : ByteArray) : Except Utf8Fault String :=
  match String.fromUTF8? bytes with
  | some text => .ok text
  | none => .error ((firstFault? 0 bytes.data.toList).getD ⟨0, 0, 0, .invalidStart⟩)

/-- The bytes of a text. -/
def encode (text : String) : ByteArray := text.toUTF8

/-- The text of a byte sequence, with U+FFFD for each fault. -/
def decodeLossy (bytes : ByteArray) : String := String.ofList (readLossy bytes.data.toList)

/-- The words for a reason. -/
def Utf8Reason.message : Utf8Reason → String
  | .invalidStart => "invalid start byte"
  | .invalidContinuation => "invalid continuation byte"
  | .unexpectedEnd => "unexpected end of data"

/-- A fault of one byte shows the byte, a longer one shows its first and last position. -/
def Utf8Fault.message (f : Utf8Fault) : String :=
  let place :=
    if f.size = 1 then
      "byte 0x" ++ String.ofList (hex 2 f.byte.toNat) ++ " in position " ++ toString f.start
    else "bytes in position " ++ toString f.start ++ "-" ++ toString (f.start + f.size - 1)
  "'utf-8' codec can't decode " ++ place ++ ": " ++ f.reason.message

/-- Reading what was written gives the text back. -/
theorem decode_encode (text : String) : decode (encode text) = .ok text := by
  have h : String.fromUTF8? text.toUTF8 = some text := by
    simp only [String.fromUTF8?]
    exact dif_pos text.isValidUTF8
  simp only [decode, encode, h]

/-- A sequence that can be read is the written form of its text. -/
theorem eq_encode_of_decode {bytes : ByteArray} {text : String} (h : decode bytes = .ok text) :
    bytes = encode text := by
  unfold decode at h
  split at h
  · rename_i t ht
    simp only [Except.ok.injEq] at h
    subst h
    simp only [String.fromUTF8?] at ht
    split at ht
    · simp only [Option.some.injEq] at ht
      subst ht
      rfl
    · simp at ht
  · simp at h

/-- Bytes decode to a text exactly if they encode it. -/
theorem decode_eq_ok_iff {bytes : ByteArray} {text : String} :
    decode bytes = .ok text ↔ bytes = encode text := by
  constructor
  · exact eq_encode_of_decode
  · rintro rfl
    exact decode_encode text

/-- Texts that are written the same are the same. -/
theorem encode_inj {text text' : String} : encode text = encode text' ↔ text = text' := by
  constructor
  · intro h
    have hdecoded := decode_encode text
    rw [h, decode_encode] at hdecoded
    exact (Except.ok.inj hdecoded).symm
  · rintro rfl
    rfl

end Transclude.Text
