import Transclude.Web.Client
import Transclude.Web.Url

/-! # Sending requests here

A client of our own.  A request asks a server for an address.  Redirects are
followed, a limited number of them.  The authorization goes along only as long as neither scheme nor
host nor port number changes, save that it may move from `http` to `https` on the
same host. -/

namespace Transclude.Web

/-- What a server answers. -/
inductive Reply where
  | response (status : Nat) (body : ByteArray) (location : Option String)
  /-- No connection, and why. -/
  | failed (reason : String)

/-- What a server answers to each address. -/
abbrev Server := String → Reply

/-! ## Authorization -/

/-- A character by its number in a complaint. -/
def characterNumber (c : Char) : String :=
  String.ofList (if c.toNat < 0x100 then '\\' :: 'x' :: Text.hex 2 c.toNat
    else if c.toNat < 0x10000 then '\\' :: 'u' :: Text.hex 4 c.toNat
    else '\\' :: 'U' :: Text.hex 8 c.toNat)

/-- The complaint about a header that is not ASCII: about the first characters that are not. -/
def headerComplaint? (header : String) : Option String :=
  let isForeign := fun c : Char => 0x80 ≤ c.toNat
  let front := header.toList.takeWhile fun c => !isForeign c
  let start := front.length
  let what := match (header.toList.drop start).takeWhile isForeign with
    | [] => none
    | [c] => some ("character '" ++ characterNumber c ++ "' in position " ++ toString start)
    | cs => some ("characters in position " ++ toString start ++ "-"
        ++ toString (start + cs.length - 1))
  what.map fun what =>
    "'ascii' codec can't encode " ++ what ++ ": ordinal not in range(128)"

/-- The digits of base 64. -/
def base64Digits : List Char :=
  "ABCDEFGHIJKLMNOPQRSTUVWXYZabcdefghijklmnopqrstuvwxyz0123456789+/".toList

/-- The digit with a value. -/
def base64Digit (n : Nat) : Char := base64Digits.getD (n % 64) '='

/-- Bytes in base 64. -/
def base64 : List UInt8 → List Char
  | a :: b :: c :: rest =>
    let n := a.toNat * 65536 + b.toNat * 256 + c.toNat
    [base64Digit (n / 262144), base64Digit (n / 4096), base64Digit (n / 64), base64Digit n]
      ++ base64 rest
  | [a, b] =>
    let n := a.toNat * 1024 + b.toNat * 4
    [base64Digit (n / 4096), base64Digit (n / 64), base64Digit n, '=']
  | [a] => [base64Digit (a.toNat / 4), base64Digit (a.toNat * 16), '=', '=']
  | [] => []

/-- The authorization of the user that an address names, if it names one. -/
def userAuthorization? (u : Url) : Option String :=
  let (user, password) := Url.splitAt ':' u.userInfo.toList
  let password := password.getD []
  if user.isEmpty && password.isEmpty then none
  else
    let bytes := Url.unquoteBytes user ++ [':'.toUInt8] ++ Url.unquoteBytes password
    some ("Basic " ++ String.ofList (base64 bytes))

/-! ## Redirects -/

/-- The answers that send a request somewhere else. -/
def isRedirect (status : Nat) : Bool := [301, 302, 303, 307, 308].contains status

/-- How many redirects are followed. -/
def redirectLimit : Nat := 20

/-- Where a redirect from `u` leads. -/
inductive Target where
  | at (url : Url)
  | malformed (complaint : String)
  | badAddress (complaint : String)

/-- The address without a host gets one. -/
def withHost (u : Url) (host : String) : Except String Url :=
  if u.path.isEmpty || u.path.startsWith "/" then .ok { u with host }
  else .error "For absolute URLs, path must be empty or begin with '/'"

/-- Where a redirect from `u` to `location` leads.  The fragment goes along. -/
def target (u : Url) (location : String) : Target :=
  match Url.parse location with
  | .error complaint => .malformed complaint
  | .ok v =>
    match if v.scheme ≠ "" && v.host = "" then withHost v u.host else .ok v with
    | .error complaint => .badAddress complaint
    | .ok v =>
      match if v.scheme ≠ "" && v.host ≠ "" then .ok v else Url.parse (u.joined v) with
      | .error complaint => .badAddress complaint
      | .ok v =>
        .at { v with fragment :=
          if (v.fragment.getD "").isEmpty then u.fragment.or v.fragment else v.fragment }

/-- The authorization may go along from `u` to `v`. -/
def keepsAuthorization (u v : Url) : Bool :=
  u.sameOrigin v || (u.host = v.host && u.scheme = "http" && v.scheme = "https"
    && u.portNumber.isNone && v.portNumber.isNone)

/-- Ask for an address, where `redirects` more redirects may be followed.  The requests sent are
    part of the result. -/
def send (server : Server) (authorization : Option String) :
    (redirects : Nat) → Url → Outcome × List Request
  | redirects, u =>
    let request : Request := ⟨u.text, authorization⟩
    match server u.text with
    | .failed reason => (.failed reason, [request])
    | .response status body none => (.response status body, [request])
    | .response status body (some location) =>
      if !isRedirect status then (.response status body, [request])
      else match target u location with
        | .malformed complaint =>
          (.failed ("Invalid URL in location header: " ++ complaint ++ "."), [request])
        | .badAddress complaint => (.raised ⟨.address, complaint⟩, [request])
        | .at v =>
          match redirects with
          | 0 => (.failed "Exceeded maximum allowed redirects.", [request])
          | redirects + 1 =>
            let (outcome, requests) :=
              send server (if keepsAuthorization u v then authorization else none) redirects v
            (outcome, request :: requests)

/-- Ask for an address.  A user in the address takes the place of the authorization. -/
def get (server : Server) : Client := fun authorization address =>
  match Url.parse address with
  | .error complaint => (.raised ⟨.address, complaint⟩, [])
  | .ok u =>
    match authorization.bind headerComplaint? with
    | some complaint => (.raised (Fault.unsendable complaint), [])
    | none => send server ((userAuthorization? u).or authorization) redirectLimit u

end Transclude.Web
