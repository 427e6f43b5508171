import Transclude.Yaml.Property
import Transclude.Yaml.Scalar.Block
import Transclude.Yaml.Scalar.Plain

/-! # The tokens of a text

`Token.stream` cuts a YAML text into tokens.  Two things are known only later
than they are met.  A node may turn out to be a key, when a colon follows on the
same line and not more than 1024 characters on; its key token, and the start of
the mapping it begins, are then put in front of it.  And a block ends where a
line is less indented than the block, before the first token of that line. -/

namespace Transclude.Yaml

/-- A node that may turn out to be a key. -/
structure KeyCandidate where
  /-- The number of tokens in front of it. -/
  place : Nat
  /-- It stands where only a key may stand. -/
  required : Bool
  index : Nat
  line : Nat
  column : Nat

/-- What is known while a text is cut into tokens. -/
structure Scan where
  cursor : Cursor
  /-- The number of flow collections around the cursor. -/
  depth : Nat := 0
  tokens : Array Token := #[]
  /-- The indentation of the block, `-1` outside all blocks. -/
  indent : Int := -1
  /-- The indentations of the blocks around it. -/
  outer : List Int := []
  /-- A key without a mark of its own may start here. -/
  mayKey : Bool := true
  /-- The candidates, by the number of flow collections around them. -/
  candidates : List (Nat × KeyCandidate) := []

namespace Scan

/-- Add a token. -/
def emit (s : Scan) (token : Token) : Scan := { s with tokens := s.tokens.push token }

/-- Move the cursor. -/
def goto (s : Scan) (c : Cursor) : Scan := { s with cursor := c }

/-- Insert a token in front of the token at `place`. -/
def insertAt (s : Scan) (place : Nat) (token : Token) : Scan :=
  { s with tokens := s.tokens.extract 0 place ++ #[token] ++ s.tokens.extract place s.tokens.size }

/-- The candidate can no longer be a key. -/
def isStale (s : Scan) (key : KeyCandidate) : Bool :=
  key.line ≠ s.cursor.line || 1024 < s.cursor.index - key.index

/-- Give up the candidates that can no longer be keys. -/
def dropStale (s : Scan) : Except Flaw Scan :=
  if s.candidates.any fun (_, key) => s.isStale key && key.required then .error .invalid
  else .ok { s with candidates := s.candidates.filter fun (_, key) => !s.isStale key }

/-- Give up the candidate of the present collection. -/
def dropCandidate (s : Scan) : Except Flaw Scan :=
  match s.candidates.lookup s.depth with
  | none => .ok s
  | some key =>
    if key.required then .error .invalid
    else .ok { s with candidates := s.candidates.filter fun (depth, _) => depth ≠ s.depth }

/-- The next token may turn out to be a key. -/
def saveCandidate (s : Scan) : Except Flaw Scan :=
  if s.mayKey then do
    let s ← s.dropCandidate
    let c := s.cursor
    let key : KeyCandidate :=
      { place := s.tokens.size, required := s.depth = 0 && s.indent = c.column,
        index := c.index, line := c.line, column := c.column }
    return { s with candidates := (s.depth, key) :: s.candidates }
  else .ok s

/-- End the blocks `outer` that are indented by more than `column`. -/
def unwindFrom (column : Int) (tokens : Array Token) (indent : Int) :
    List Int → Array Token × Int × List Int
  | [] => (tokens, indent, [])
  | next :: outer =>
    if column < indent then unwindFrom column (tokens.push .blockEnd) next outer
    else (tokens, indent, next :: outer)

/-- End the blocks that are indented by more than `column`. -/
def unwind (s : Scan) (column : Int) : Scan :=
  if s.depth ≠ 0 then s
  else
    let (tokens, indent, outer) := unwindFrom column s.tokens s.indent s.outer
    { s with tokens, indent, outer }

/-- Start a block at `column`, if that is further to the right than the present block; its first
    token goes to `place`. -/
def startBlock (s : Scan) (column : Nat) (place : Nat) (token : Token) : Scan :=
  if s.indent < column then
    { s.insertAt place token with indent := column, outer := s.indent :: s.outer }
  else s

/-- Pass over spaces, comments and line breaks. -/
def skipGaps : Nat → Scan → Scan
  | 0, s => s
  | fuel + 1, s =>
    let c := s.cursor.skipSpaces
    let c := if c.peek = '#' then c.skipWhile (fun ch => !endsLine ch) else c
    match c.lineBreak? with
    | some (_, c) => skipGaps fuel { s with cursor := c, mayKey := s.mayKey || s.depth = 0 }
    | none => s.goto c

/-! ## One token -/

/-- A mark that starts a flow collection. -/
def openFlow (s : Scan) (token : Token) : Except Flaw Scan := do
  let s ← s.saveCandidate
  return { s.emit token with depth := s.depth + 1, mayKey := true, cursor := s.cursor.next }

/-- A mark that ends a flow collection. -/
def closeFlow (s : Scan) (token : Token) : Except Flaw Scan := do
  let s ← s.dropCandidate
  if s.depth = 0 then .error .invalid
  else return { s.emit token with depth := s.depth - 1, mayKey := false, cursor := s.cursor.next }

/-- The comma between the entries of a flow collection. -/
def flowEntry (s : Scan) : Except Flaw Scan := do
  let s ← s.dropCandidate
  return { s.emit .flowEntry with mayKey := true, cursor := s.cursor.next }

/-- The hyphen of an entry of a block sequence. -/
def blockEntry (s : Scan) : Except Flaw Scan := do
  if s.depth = 0 && !s.mayKey then .error .invalid
  else do
    let s :=
      if s.depth = 0 then s.startBlock s.cursor.column s.tokens.size .blockSequenceStart else s
    let s ← s.dropCandidate
    return { s.emit .blockEntry with mayKey := true, cursor := s.cursor.next }

/-- The question mark of a key. -/
def keyMark (s : Scan) : Except Flaw Scan := do
  if s.depth = 0 && !s.mayKey then .error .invalid
  else do
    let s :=
      if s.depth = 0 then s.startBlock s.cursor.column s.tokens.size .blockMappingStart else s
    let s ← s.dropCandidate
    return { s.emit .key with mayKey := s.depth = 0, cursor := s.cursor.next }

/-- The colon of a value.  If there is a candidate, it is the key of this value. -/
def valueMark (s : Scan) : Except Flaw Scan := do
  match s.candidates.lookup s.depth with
  | some key =>
    let s := { s with candidates := s.candidates.filter fun (depth, _) => depth ≠ s.depth }
    let s := s.insertAt key.place .key
    let s := if s.depth = 0 then s.startBlock key.column key.place .blockMappingStart else s
    return { s.emit .value with mayKey := false, cursor := s.cursor.next }
  | none =>
    if s.depth = 0 && !s.mayKey then .error .invalid
    else do
      let s :=
        if s.depth = 0 then s.startBlock s.cursor.column s.tokens.size .blockMappingStart else s
      let s ← s.dropCandidate
      return { s.emit .value with mayKey := s.depth = 0, cursor := s.cursor.next }

/-- Leave all blocks, as before a document marker or a directive. -/
def leaveBlocks (s : Scan) : Except Flaw Scan := do
  let s ← (s.unwind (-1)).dropCandidate
  return { s with mayKey := false }

/-- A document marker. -/
def marker (s : Scan) (token : Token) : Except Flaw Scan := do
  let s ← s.leaveBlocks
  return { s.emit token with cursor := s.cursor.skip 3 }

/-- A token that may turn out to be a key, read by `read`. -/
def node (s : Scan) (read : Cursor → Except Flaw (Token × Cursor)) : Except Flaw Scan := do
  let s ← s.saveCandidate
  let (token, c) ← read s.cursor
  return { s.emit token with mayKey := false, cursor := c }

/-- A plain scalar. -/
def plain (s : Scan) : Except Flaw Scan := do
  let s ← s.saveCandidate
  let scalar := plainScalar (s.depth ≠ 0) (s.indent + 1) s.cursor
  return { s.emit (.scalar scalar.content .plain) with
    mayKey := scalar.broken, cursor := scalar.cursor }

/-- A block scalar. -/
def block (s : Scan) (folded : Bool) : Except Flaw Scan := do
  let s ← { s with mayKey := true }.dropCandidate
  let (content, c) ← blockScalar folded s.indent s.cursor
  return { s.emit (.scalar content (if folded then .folded else .literal)) with cursor := c }

/-- A plain scalar may start at the cursor. -/
def startsPlain (s : Scan) : Bool :=
  let ch := s.cursor.peek
  !(isGap ch || "-?:,[]\x7b\x7d#&*!|>'\"%@`".toList.contains ch)
    || (!isGap (s.cursor.peekAt 1) && (ch = '-' || (s.depth = 0 && (ch = '?' || ch = ':'))))

/-- Read the token at the cursor, where there is one. -/
def token (s : Scan) : Except Flaw Scan :=
  let c := s.cursor
  let ch := c.peek
  let inFlow := s.depth ≠ 0
  let gapBehind := isGap (c.peekAt 1)
  if ch = '%' && c.column = 0 then do
    let s ← s.leaveBlocks
    let (token, c) ← pragmaToken s.cursor
    return (s.emit token).goto c
  else if c.column = 0 && c.atMarker '-' then s.marker .documentStart
  else if c.column = 0 && c.atMarker '.' then s.marker .documentEnd
  else if ch = '[' then s.openFlow .flowSequenceStart
  else if ch = '\x7b' then s.openFlow .flowMappingStart
  else if ch = ']' then s.closeFlow .flowSequenceEnd
  else if ch = '\x7d' then s.closeFlow .flowMappingEnd
  else if ch = ',' then s.flowEntry
  else if ch = '-' && gapBehind then s.blockEntry
  else if ch = '?' && (inFlow || gapBehind) then s.keyMark
  else if ch = ':' && (inFlow || gapBehind) then s.valueMark
  else if ch = '*' then s.node fun c => (anchorName c).map fun (name, c) => (.aliasOf name, c)
  else if ch = '&' then s.node fun c => (anchorName c).map fun (name, c) => (.anchor name, c)
  else if ch = '!' then s.node tagToken
  else if ch = '|' && !inFlow then s.block false
  else if ch = '>' && !inFlow then s.block true
  else if ch = '\'' then
    s.node fun c => (quotedScalar false c).map fun (content, c) => (.scalar content .single, c)
  else if ch = '"' then
    s.node fun c => (quotedScalar true c).map fun (content, c) => (.scalar content .double, c)
  else if s.startsPlain then s.plain
  else .error .invalid

/-- Pass over a byte order mark at the start of the text. -/
def skipOrderMark (s : Scan) : Scan :=
  if s.cursor.index = 0 && s.cursor.peek.toNat = 0xFEFF then s.goto s.cursor.next else s

/-- Read tokens to the end of the text. -/
def run : Nat → Scan → Array Token
  | 0, s => s.tokens.push (.broken .invalid)
  | fuel + 1, s =>
    let s := skipGaps (s.cursor.rest.length + 1) s.skipOrderMark
    match s.dropStale with
    | .error flaw => s.tokens.push (.broken flaw)
    | .ok s =>
      let s := s.unwind s.cursor.column
      if s.cursor.rest.isEmpty then
        match s.leaveBlocks with
        | .error flaw => s.tokens.push (.broken flaw)
        | .ok s => s.tokens.push .streamEnd
      else
        match s.token with
        | .error flaw => s.tokens.push (.broken flaw)
        | .ok s => run fuel s

end Scan

/-- The tokens of a text.  Every token but the last takes at least one character. -/
def Token.stream (text : List Char) : List Token :=
  if text.all isYaml then (Scan.run (text.length + 1) { cursor := { rest := text } }).toList
  else [.broken .invalid]

end Transclude.Yaml
