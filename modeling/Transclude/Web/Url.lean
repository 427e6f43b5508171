import Transclude.Numeral.Integer
import Transclude.Text.Line
import Transclude.Text.Lowercase
import Transclude.Text.Quoted
import Transclude.Text.Search
import Transclude.Text.Utf8

/-! # Addresses on the web

An address is taken apart at its marks, and each part is brought to a normal
form: scheme and host in lower case, no needless port number, no `.` and `..` in
the path, and an escape for every character that may not stand in its part.
What is an escape already stays as it is. -/

namespace Transclude.Web

/-- An address in normal form. -/
structure Url where
  scheme : String := ""
  /-- What stands in front of the host and an `@`. -/
  userInfo : String := ""
  host : String := ""
  portNumber : Option Int := none
  path : String := ""
  query : Option String := none
  fragment : Option String := none
deriving Repr, DecidableEq

namespace Url

/-! ## Escapes -/

/-- The letters, digits and marks that never need an escape. -/
def isUnreserved (c : Char) : Bool := c.isAlphanum || "-._~".toList.contains c

/-- The printable ASCII characters without the given ones. -/
def printableBut (excluded : String) (c : Char) : Bool :=
  ' ' ≤ c && c ≤ '~' && !excluded.toList.contains c

/-- The characters that stand for themselves in a fragment. -/
def safeInFragment : Char → Bool := printableBut " \"<>\x60"

/-- The characters that stand for themselves in a query. -/
def safeInQuery : Char → Bool := printableBut " \"#<>"

/-- The characters that stand for themselves in a path. -/
def safeInPath : Char → Bool := printableBut " \"#<>?\x60\x7b\x7d"

/-- The characters that stand for themselves in front of a host. -/
def safeInUserInfo : Char → Bool := printableBut " \"#<>?\x60\x7b\x7d/;=@[\\]^|"

/-- The characters that stand for themselves in a host. -/
def safeInHost (c : Char) : Bool := "!$&'()*+,;=\"\x60\x7b\x7d%|\\".toList.contains c

/-- A hexadecimal digit. -/
def isHexDigit (c : Char) : Bool := c.isDigit || ('a' ≤ c && c ≤ 'f') || ('A' ≤ c && c ≤ 'F')

/-- The escapes of a character, one for each of its bytes. -/
def escaped (c : Char) : List Char :=
  (String.singleton c).toUTF8.data.toList.flatMap fun b =>
    '%' :: (Text.hex 2 b.toNat).map Char.toUpper

/-- A text in which every character has an escape that is not safe and not in an escape. -/
def quoteChars (safe : Char → Bool) : List Char → List Char
  | '%' :: a :: b :: rest =>
    if isHexDigit a && isHexDigit b then '%' :: a :: b :: quoteChars safe rest
    else (if safe '%' then ['%'] else escaped '%') ++ quoteChars safe (a :: b :: rest)
  | c :: rest =>
    (if isUnreserved c || safe c then [c] else escaped c) ++ quoteChars safe rest
  | [] => []

/-- A text with escapes where it needs them. -/
def quote (safe : Char → Bool) (text : List Char) : String := String.ofList (quoteChars safe text)

/-- The value of a hexadecimal digit. -/
def hexValue (c : Char) : Nat := if c.isDigit then c.toNat - 48 else c.toLower.toNat - 87

/-- The bytes of a text whose escapes stand for bytes. -/
def unquoteBytes : List Char → List UInt8
  | '%' :: a :: b :: rest =>
    if isHexDigit a && isHexDigit b then
      UInt8.ofNat (hexValue a * 16 + hexValue b) :: unquoteBytes rest
    else '%'.toUInt8 :: unquoteBytes (a :: b :: rest)
  | c :: rest => (String.singleton c).toUTF8.data.toList ++ unquoteBytes rest
  | [] => []

/-! ## Parts -/

/-- The path without `.` and `..`. -/
def normalSegments (done : List (List Char)) : List (List Char) → List (List Char)
  | [] => done.reverse
  | segment :: rest =>
    if segment = ['.'] then normalSegments done rest
    else if segment = ['.', '.'] then
      normalSegments (if done.isEmpty || done = [[]] then done else done.drop 1) rest
    else normalSegments (segment :: done) rest

/-- Texts with a slash between them. -/
def joinSegments (segments : List (List Char)) : List Char := List.intercalate ['/'] segments

/-- A path in normal form. -/
def normalPath (path : List Char) : List Char :=
  joinSegments (normalSegments [] (Text.cut '/' path))

/-- A host of four numbers, which must be bytes without needless zeros. -/
def isBadIpv4 (host : List Char) : Bool :=
  let parts := Text.cut '.' host
  let numbers := parts.length = 4 && parts.all fun part => !part.isEmpty && part.all Char.isDigit
  let byte (part : List Char) : Bool :=
    part.length ≤ 3 && (part.length = 1 || part.head? ≠ some '0')
      && part.foldl (fun n c => 10 * n + (c.toNat - 48)) 0 ≤ 255
  numbers && !parts.all byte

/-- A host in normal form. -/
def readHost (host : List Char) : Except String String :=
  let shown := Text.quoted (String.ofList host)
  if host.isEmpty then .ok ""
  else if isBadIpv4 host then .error ("Invalid IPv4 address: " ++ shown)
  else if host.all (fun c => c.toNat < 0x80) then
    .ok (quote safeInHost (host.map Char.toLower))
  else .error ("Invalid IDNA hostname: " ++ shown)

/-- The port number that a scheme has when no other is named. -/
def defaultPort? (scheme : String) : Option Int :=
  [("ftp", 21), ("http", 80), ("https", 443), ("ws", 80), ("wss", 443)].lookup scheme

/-- A port number, which is not named if the scheme has it anyway. -/
def readPortNumber (scheme : String) (digits : List Char) : Except String (Option Int) :=
  if digits.isEmpty then .ok none
  else match Numeral.parseInt (Text.trim digits) with
    | .ok n => .ok (if some n = defaultPort? scheme then none else some n)
    | .error _ => .error ("Invalid port: " ++ Text.quoted (String.ofList digits))

/-- The part of a text up to the last `@`, if there is one, and the rest. -/
def splitUserInfo (authority : List Char) : List Char × List Char :=
  let behind := (authority.reverse.takeWhile (· ≠ '@')).reverse
  (authority.take (authority.length - behind.length - 1), behind)

/-- A host, perhaps in brackets, and what stands behind it and a colon. -/
def splitPort (text : List Char) : List Char × List Char :=
  let inBrackets := match text with
    | '[' :: _ => (text.reverse.dropWhile (· ≠ ']')).reverse
    | _ => []
  let host := if inBrackets.isEmpty then text.takeWhile (· ≠ ':') else inBrackets
  let behind := text.drop host.length
  (host, if behind.head? = some ':' then behind.drop 1 else behind)

/-- A host in brackets without these. -/
def withoutBrackets (host : List Char) : List Char :=
  if host.head? = some '[' then (host.drop 1).dropLast else host

/-- The scheme in front of a colon, if a text starts with one, and the rest. -/
def splitScheme (text : List Char) : List Char × List Char :=
  let isPart := fun c : Char => c.isAlphanum || "+.-".toList.contains c
  let scheme := text.takeWhile isPart
  match text.drop scheme.length with
  | ':' :: rest =>
    match scheme with
    | [] => ([], rest)
    | c :: _ => if c.isAlpha then (scheme, rest) else ([], text)
  | _ => ([], text)

/-- A text up to a mark, and what stands behind the mark if there is one. -/
def splitAt (mark : Char) (text : List Char) : List Char × Option (List Char) :=
  let front := text.takeWhile (· ≠ mark)
  (front, if front.length < text.length then some (text.drop (front.length + 1)) else none)

/-- The authority behind two slashes, if a text starts with these, and the path behind it. -/
def splitAuthority : List Char → List Char × List Char
  | '/' :: '/' :: rest =>
    let authority := rest.takeWhile (· ≠ '/')
    (authority, rest.drop authority.length)
  | rest => ([], rest)

/-- The complaint about a control character in an address. -/
def controlComplaint? (text : List Char) : Option String :=
  (text.findIdx? fun c => c.toNat < 0x20 || c.toNat = 0x7F).bind fun i =>
    (text[i]?).map fun c =>
      "Invalid non-printable ASCII character in URL, " ++ Text.quoted (String.singleton c)
        ++ " at position " ++ toString i ++ "."

/-- The longest address. -/
def lengthLimit : Nat := 65536

/-- Read an address; the error is a complaint about it. -/
def parse (text : String) : Except String Url := do
  let cs := text.toList
  if lengthLimit < cs.length then throw "URL too long"
  if let some complaint := controlComplaint? cs then throw complaint
  let (scheme, rest) := splitScheme cs
  let scheme := String.ofList (scheme.map Char.toLower)
  let (rest, fragment) := splitAt '#' rest
  let (rest, query) := splitAt '?' rest
  let (authority, path) := splitAuthority rest
  let (userInfo, hostAndNumber) := splitUserInfo authority
  let (host, digits) := splitPort hostAndNumber
  let host ← readHost (withoutBrackets host)
  let portNumber ← readPortNumber scheme digits
  let userInfo := quote safeInUserInfo userInfo
  let located := scheme ≠ "" || userInfo ≠ "" || host ≠ "" || portNumber.isSome
  if !located && ['/', '/'].isPrefixOf path then
    throw "Relative URLs cannot have a path starting with '//'"
  if !located && [':'].isPrefixOf path then
    throw "Relative URLs cannot have a path starting with ':'"
  let path := if located then normalPath path else path
  return { scheme, userInfo, host, portNumber, path := quote safeInPath path,
           query := query.map (quote safeInQuery), fragment := fragment.map (quote safeInFragment) }

/-- User, host and port number of an address. -/
def authority (u : Url) : String :=
  let user := if u.userInfo.isEmpty then "" else u.userInfo ++ "@"
  let host := if u.host.toList.contains ':' then "[" ++ u.host ++ "]" else u.host
  let number := match u.portNumber with
    | some n => ":" ++ toString n
    | none => ""
  user ++ host ++ number

/-- The text of an address. -/
def text (u : Url) : String :=
  let scheme := if u.scheme.isEmpty then "" else u.scheme ++ ":"
  let authority := if u.authority.isEmpty then "" else "//" ++ u.authority
  let query := match u.query with
    | some query => "?" ++ query
    | none => ""
  let fragment := match u.fragment with
    | some fragment => "#" ++ fragment
    | none => ""
  scheme ++ authority ++ u.path ++ query ++ fragment

/-- Two addresses have the same scheme, host and port number. -/
def sameOrigin (u v : Url) : Bool :=
  let number (u : Url) := u.portNumber.or (defaultPort? u.scheme)
  u.scheme = v.scheme && u.host = v.host && number u = number v

/-! ## Relative addresses -/

/-- Segments without the empty ones between the first and the last. -/
def withoutGaps (segments : List (List Char)) : List (List Char) :=
  match segments with
  | first :: second :: rest =>
    let tail := second :: rest
    first :: tail.dropLast.filter (fun segment => !segment.isEmpty) ++ tail.drop rest.length
  | segments => segments

/-- The segments of a path as it stands below the path `base`. -/
def segmentsBelow (base path : List Char) : List (List Char) :=
  let segments := Text.cut '/' base
  let directory := if segments.getLast? = some [] then segments else segments.dropLast
  withoutGaps (directory ++ Text.cut '/' path)

/-- Segments without `.` and `..`.  One of these at the end stands for a directory. -/
def resolveSegments (segments : List (List Char)) : List (List Char) :=
  let resolved := (segments.foldl (fun done segment =>
    if segment = ['.', '.'] then done.drop 1
    else if segment = ['.'] then done
    else segment :: done) []).reverse
  let ending := segments.getLast?.getD []
  if ending = ['.'] || ending = ['.', '.'] then resolved ++ [[]] else resolved

/-- The path that `path` names when it stands in an address with the path `base`.  It starts with a
    slash, also if `path` leads out of the topmost directory. -/
def joinedPath (base path : List Char) : String :=
  let segments := if path.head? = some '/' then Text.cut '/' path else segmentsBelow base path
  let joined := joinSegments (resolveSegments segments)
  String.ofList (if joined.head? = some '/' then joined else '/' :: joined)

/-- The text of the address that `v` names when it stands in `u`.  An empty query or fragment is
    none. -/
def joined (u v : Url) : String :=
  let filled (part : Option String) := part.filter fun text => text ≠ ""
  let query := filled v.query
  let fragment := filled v.fragment
  if v.host ≠ "" || v.userInfo ≠ "" || v.portNumber.isSome then
    let scheme := if v.scheme.isEmpty then u.scheme else v.scheme
    { v with scheme, query, fragment : Url }.text
  else if v.path.isEmpty then { u with query := query.or (filled u.query), fragment : Url }.text
  else { u with path := joinedPath u.path.toList v.path.toList, query, fragment : Url }.text

end Url

end Transclude.Web
