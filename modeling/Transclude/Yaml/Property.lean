import Transclude.Text.Utf8
import Transclude.Yaml.Cursor

/-! # Anchors, tags and directives

What may stand in front of a node or a document.  Every reader here takes the
cursor at the mark that announces its token. -/

namespace Transclude.Yaml

/-- The name behind the mark of an anchor or alias, and the cursor behind it. -/
def anchorName (c : Cursor) : Except Flaw (String × Cursor) :=
  let (name, c) := c.next.span isNameChar
  let behind := c.peek
  if name.isEmpty then .error .invalid
  else if isGap behind || "?:,]\x7d%@`".toList.contains behind then .ok (String.ofList name, c)
  else .error .invalid

/-- The bytes of the `%` escapes at the cursor. -/
def addressBytes : Nat → Cursor → Except Flaw (List UInt8 × Cursor)
  | 0, _ => .error .invalid
  | fuel + 1, c =>
    if c.peek = '%' then
      let digits := c.next.rest.take 2
      if digits.length = 2 && digits.all isHexDigit then
        (addressBytes fuel (c.skip 3)).map fun (bytes, c) =>
          (UInt8.ofNat (hexNumber digits) :: bytes, c)
      else .error .invalid
    else .ok ([], c)

/-- The address of a tag, with its escapes read. -/
def tagAddressRest : Nat → Cursor → Except Flaw (String × Cursor)
  | 0, _ => .error .invalid
  | fuel + 1, c =>
    if c.peek = '%' then do
      let (bytes, c) ← addressBytes (fuel + 1) c
      match Text.decode (ByteArray.mk bytes.toArray) with
      | .error _ => .error .invalid
      | .ok text => (tagAddressRest fuel c).map fun (rest, c) => (text ++ rest, c)
    else if isAddressChar c.peek then
      let (run, c) := c.span fun ch => isAddressChar ch && ch ≠ '%'
      (tagAddressRest fuel c).map fun (rest, c) => (String.ofList run ++ rest, c)
    else .ok ("", c)

/-- The address of a tag, which is not empty. -/
def tagAddress (c : Cursor) : Except Flaw (String × Cursor) :=
  if isAddressChar c.peek then tagAddressRest (c.rest.length + 1) c else .error .invalid

/-- The handle of a tag: `!`, or a name between two of them. -/
def tagHandle (c : Cursor) : Except Flaw (String × Cursor) :=
  if c.peek ≠ '!' then .error .invalid
  else
    let (name, behind) := c.next.span isNameChar
    if behind.peek = '!' then .ok ("!" ++ String.ofList name ++ "!", behind.next)
    else if name.isEmpty && behind.peek = ' ' then .ok ("!", behind)
    else .error .invalid

/-- A second exclamation mark follows in the word at the cursor. -/
def hasHandle (c : Cursor) : Bool :=
  let (_, behind) := c.span fun ch => !endsWord ch && ch ≠ '!'
  behind.peek = '!'

/-- The tag at the cursor, and the cursor behind it. -/
def tagToken (c : Cursor) : Except Flaw (Token × Cursor) := do
  let (token, c) ←
    if c.peekAt 1 = '<' then do
      let (suffix, c) ← tagAddress (c.skip 2)
      if c.peek = '>' then pure (Token.tag none suffix, c.next) else .error .invalid
    else if isGap (c.peekAt 1) then pure (Token.tag none "!", c.next)
    else do
      let (handle, c) ← if hasHandle c.next then tagHandle c else pure ("!", c.next)
      let (suffix, c) ← tagAddress c
      pure (Token.tag (some handle) suffix, c)
  if endsWord c.peek then return (token, c) else .error .invalid

/-- The decimal number at the cursor. -/
def versionNumber (c : Cursor) : Except Flaw (Nat × Cursor) :=
  let (digits, c) := c.span Char.isDigit
  if digits.isEmpty then .error .invalid
  else .ok (digits.foldl (fun n d => 10 * n + (d.toNat - 48)) 0, c)

/-- The version behind the name of a version directive. -/
def versionPragma (c : Cursor) : Except Flaw (Pragma × Cursor) := do
  let (major, c) ← versionNumber c.skipSpaces
  if c.peek ≠ '.' then .error .invalid
  else do
    let (minor, c) ← versionNumber c.next
    if endsWord c.peek then return (.version major minor, c) else .error .invalid

/-- The handle and the leader behind the name of a tag directive. -/
def tagPragma (c : Cursor) : Except Flaw (Pragma × Cursor) := do
  let (handle, c) ← tagHandle c.skipSpaces
  if c.peek ≠ ' ' then .error .invalid
  else do
    let (leader, c) ← tagAddress c.skipSpaces
    if endsWord c.peek then return (.tag handle leader, c) else .error .invalid

/-- The directive at the cursor, and the cursor behind its line. -/
def pragmaToken (c : Cursor) : Except Flaw (Token × Cursor) := do
  let (name, c) := c.next.span isNameChar
  if name.isEmpty || !endsWord c.peek then .error .invalid
  else do
    let (pragma, c) ←
      if name = "YAML".toList then versionPragma c
      else if name = "TAG".toList then tagPragma c
      else pure (Pragma.other, c.skipWhile fun ch => !endsLine ch)
    match c.restOfLine? with
    | some c => return (.pragma pragma, c)
    | none => .error .invalid

end Transclude.Yaml
