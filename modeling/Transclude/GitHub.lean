import Transclude.Failure
import Transclude.Text.Search
import Transclude.Web.Client

/-! # Sources on GitHub

A locator that names the host of GitHub anywhere is an address there, whatever
stands in front.  What it shows in a browser has another address as a file:
another host, and no `blob` or `tree` in the path. -/

namespace Transclude.GitHub

/-- The host that shows files. -/
def host : String := "github.com"

/-- The host that has the files themselves. -/
def rawHost : String := "raw.githubusercontent.com"

/-- A text without one slash at its end. -/
def withoutFinalSlash (text : List Char) : List Char :=
  if text.getLast? = some '/' then text.dropLast else text

/-- The text behind the first place where a word stands. -/
def behind? (word : String) (text : List Char) : Option (List Char) :=
  (Text.findWord word.toList text).map (·.2)

/-- The address of the file that a locator names. -/
def rawUrl (uri : String) : Except Failure String :=
  let text := withoutFinalSlash (Text.trim uri.toList)
  match (behind? host text).or (behind? rawHost text) with
  | none => .error (.about uri (.notGitHub (String.ofList text)))
  | some path =>
    let url := ("https://" ++ rawHost).toList ++ path
    let url := Text.replaceFirst "/blob/".toList ['/'] url
    .ok (String.ofList (Text.replaceFirst "/tree/".toList ['/'] url))

/-- The authorization by a token. -/
def authorization (token : Option String) : Option String :=
  (token.filter fun t => !t.isEmpty).map fun t => "Bearer " ++ t

/-- The bytes of the file that a locator names, and the requests sent for it. -/
def fetch (client : Web.Client) (token : Option String) (uri : String) :
    Except Failure ByteArray × List Web.Request :=
  match rawUrl uri with
  | .error e => (.error e, [])
  | .ok url =>
    let (outcome, requests) := client (authorization token) url
    let result : Except Failure ByteArray := match outcome with
      | .response status body =>
        if status / 100 = 2 then .ok body else .error (.about uri (.httpStatus url status))
      | .failed reason => .error (.about uri (.transport url reason))
      | .raised fault => .error (.fault fault)
    (result, requests)

end Transclude.GitHub
