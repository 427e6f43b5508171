import Transclude.Yaml.Tree

/-! # From tokens to trees

The grammar of YAML, one function for each of its phrases.  Every phrase takes
the tokens from where it starts and gives back those behind it.  A phrase that
may be empty never calls itself without having taken a token, so a recursion is
at most a fixed number of calls deep for each token, and the fuel of
`Tree.ofTokens` always suffices.

A stream holds at most one document here.  A second one is refused. -/

namespace Transclude.Yaml

/-- A handle and what it stands for. -/
abbrev Handles := List (String × String)

namespace Handles

/-- The handles that every document has. -/
def standard : Handles := [("!", "!"), ("!!", "tag:yaml.org,2002:")]

end Handles

/-- The refusal of a token where something else must stand. -/
def refuse {α : Type} : List Token → Except Flaw α
  | .broken flaw :: _ => .error flaw
  | _ => .error .invalid

/-- A tag with its handle replaced. -/
def fullTag (handles : Handles) : Option String → String → Except Flaw String
  | none, suffix => .ok suffix
  | some handle, suffix =>
    match handles.lookup handle with
    | some leader => .ok (leader ++ suffix)
    | none => .error .invalid

/-- The anchor and the tag at the head of a node, in either order. -/
def marks (handles : Handles) : List Token → Except Flaw (Marks × List Token)
  | .anchor name :: .tag handle suffix :: rest => do
    let tag ← fullTag handles handle suffix
    return (⟨some name, some tag⟩, rest)
  | .anchor name :: rest => .ok (⟨some name, none⟩, rest)
  | .tag handle suffix :: .anchor name :: rest => do
    let tag ← fullTag handles handle suffix
    return (⟨some name, some tag⟩, rest)
  | .tag handle suffix :: rest => do
    let tag ← fullTag handles handle suffix
    return (⟨none, some tag⟩, rest)
  | rest => .ok ({}, rest)

/-- Where a node stands: in a flow collection, in a block, or as a key or value of a block
    mapping, where a sequence need not be indented. -/
inductive Place where
  | flow
  | block
  | entry
deriving Repr, DecidableEq

/-- No node starts with this token, in a block mapping. -/
def endsEntry : List Token → Bool
  | .key :: _ | .value :: _ | .blockEnd :: _ => true
  | _ => false

/-- No node starts with this token, in a block sequence. -/
def endsItem : List Token → Bool
  | .blockEntry :: _ | .blockEnd :: _ => true
  | _ => false

/-- No node starts with this token, in a sequence that is not indented. -/
def endsOpenItem : List Token → Bool
  | .blockEntry :: _ | .key :: _ | .value :: _ | .blockEnd :: _ => true
  | _ => false

/-- No key starts with this token, in a flow collection that `close` ends. -/
def endsFlowKey (close : Token) : List Token → Bool
  | .value :: _ | .flowEntry :: _ => true
  | token :: _ => token = close
  | [] => false

/-- No value starts with this token, in a flow collection that `close` ends. -/
def endsFlowValue (close : Token) : List Token → Bool
  | .flowEntry :: _ => true
  | token :: _ => token = close
  | [] => false

/-- The tokens behind the separator in front of an entry; the first entry has none. -/
def separated (first : Bool) : List Token → Except Flaw (List Token)
  | .flowEntry :: rest => if first then .ok (.flowEntry :: rest) else .ok rest
  | rest => if first then .ok rest else refuse rest

/-- A node of which nothing but its marks is written. -/
def emptyNode (marks : Marks) (tokens : List Token) : Except Flaw (Tree × List Token) :=
  if marks.anchor.isNone && marks.tag.isNone then refuse tokens
  else .ok (.empty marks, tokens)

mutual

/-- A node. -/
def node (handles : Handles) (place : Place) : Nat → List Token → Except Flaw (Tree × List Token)
  | 0, _ => .error .invalid
  | _ + 1, .aliasOf name :: rest => .ok (.aliasOf name, rest)
  | fuel + 1, tokens => do
    let (marks, tokens) ← marks handles tokens
    match tokens with
    | .scalar content style :: rest => return (.scalar marks content style, rest)
    | .flowSequenceStart :: rest => do
      let (items, rest) ← flowItems handles true fuel rest
      return (.sequence marks true items, rest)
    | .flowMappingStart :: rest => do
      let (entries, rest) ← flowEntries handles true fuel rest
      return (.mapping marks true entries, rest)
    | .blockEntry :: _ =>
      if place = .entry then do
        let (items, rest) ← openItems handles fuel tokens
        return (.sequence marks false items, rest)
      else emptyNode marks tokens
    | .blockSequenceStart :: rest =>
      if place = .flow then emptyNode marks tokens
      else do
        let (items, rest) ← blockItems handles fuel rest
        return (.sequence marks false items, rest)
    | .blockMappingStart :: rest =>
      if place = .flow then emptyNode marks tokens
      else do
        let (entries, rest) ← blockEntries handles fuel rest
        return (.mapping marks false entries, rest)
    | _ => emptyNode marks tokens

/-- The items of a block sequence, up to its end. -/
def blockItems (handles : Handles) : Nat → List Token → Except Flaw (List Tree × List Token)
  | 0, _ => .error .invalid
  | fuel + 1, .blockEntry :: rest => do
    let (item, rest) ←
      if endsItem rest then pure (Tree.empty {}, rest) else node handles .block fuel rest
    let (items, rest) ← blockItems handles fuel rest
    return (item :: items, rest)
  | _ + 1, .blockEnd :: rest => .ok ([], rest)
  | _ + 1, tokens => refuse tokens

/-- The items of a sequence that is not indented. -/
def openItems (handles : Handles) : Nat → List Token → Except Flaw (List Tree × List Token)
  | 0, _ => .error .invalid
  | fuel + 1, .blockEntry :: rest => do
    let (item, rest) ←
      if endsOpenItem rest then pure (Tree.empty {}, rest) else node handles .block fuel rest
    let (items, rest) ← openItems handles fuel rest
    return (item :: items, rest)
  | _ + 1, tokens => .ok ([], tokens)

/-- The entries of a block mapping, up to its end. -/
def blockEntries (handles : Handles) :
    Nat → List Token → Except Flaw (List (Tree × Tree) × List Token)
  | 0, _ => .error .invalid
  | fuel + 1, .key :: rest => do
    let (key, rest) ←
      if endsEntry rest then pure (Tree.empty {}, rest) else node handles .entry fuel rest
    let (value, rest) ← match rest with
      | .value :: rest =>
        if endsEntry rest then pure (Tree.empty {}, rest) else node handles .entry fuel rest
      | rest => pure (Tree.empty {}, rest)
    let (entries, rest) ← blockEntries handles fuel rest
    return ((key, value) :: entries, rest)
  | _ + 1, .blockEnd :: rest => .ok ([], rest)
  | _ + 1, tokens => refuse tokens

/-- The items of a flow sequence, up to its end.  An item with a key mark is a mapping of one
    entry. -/
def flowItems (handles : Handles) (first : Bool) :
    Nat → List Token → Except Flaw (List Tree × List Token)
  | 0, _ => .error .invalid
  | _ + 1, .flowSequenceEnd :: rest => .ok ([], rest)
  | fuel + 1, tokens => do
    match ← separated first tokens with
    | .flowSequenceEnd :: rest => return ([], rest)
    | .key :: rest => do
      let (key, rest) ←
        if endsFlowKey .flowSequenceEnd rest then pure (Tree.empty {}, rest)
        else node handles .flow fuel rest
      let (value, rest) ← match rest with
        | .value :: rest =>
          if endsFlowValue .flowSequenceEnd rest then pure (Tree.empty {}, rest)
          else node handles .flow fuel rest
        | rest => pure (Tree.empty {}, rest)
      let (items, rest) ← flowItems handles false fuel rest
      return (.mapping {} true [(key, value)] :: items, rest)
    | tokens => do
      let (item, rest) ← node handles .flow fuel tokens
      let (items, rest) ← flowItems handles false fuel rest
      return (item :: items, rest)

/-- The entries of a flow mapping, up to its end.  An entry without a key mark has no value. -/
def flowEntries (handles : Handles) (first : Bool) :
    Nat → List Token → Except Flaw (List (Tree × Tree) × List Token)
  | 0, _ => .error .invalid
  | _ + 1, .flowMappingEnd :: rest => .ok ([], rest)
  | fuel + 1, tokens => do
    match ← separated first tokens with
    | .flowMappingEnd :: rest => return ([], rest)
    | .key :: rest => do
      let (key, rest) ←
        if endsFlowKey .flowMappingEnd rest then pure (Tree.empty {}, rest)
        else node handles .flow fuel rest
      let (value, rest) ← match rest with
        | .value :: rest =>
          if endsFlowValue .flowMappingEnd rest then pure (Tree.empty {}, rest)
          else node handles .flow fuel rest
        | rest => pure (Tree.empty {}, rest)
      let (entries, rest) ← flowEntries handles false fuel rest
      return ((key, value) :: entries, rest)
    | tokens => do
      let (key, rest) ← node handles .flow fuel tokens
      let (entries, rest) ← flowEntries handles false fuel rest
      return ((key, .empty {}) :: entries, rest)

end

/-- The directives in front of a document: the handles that they give. -/
def pragmas (version : Bool) (handles : Handles) : List Token → Except Flaw (Handles × List Token)
  | .pragma (.version major _) :: rest =>
    if version || major ≠ 1 then .error .invalid else pragmas true handles rest
  | .pragma (.tag handle leader) :: rest =>
    if (handles.lookup handle).isSome then .error .invalid
    else pragmas version ((handle, leader) :: handles) rest
  | .pragma .other :: rest => pragmas version handles rest
  | rest => .ok (handles ++ Handles.standard, rest)

/-- The content of a document with an explicit start. -/
def documentContent (handles : Handles) (fuel : Nat) (tokens : List Token) :
    Except Flaw (Tree × List Token) :=
  match tokens with
  | .pragma _ :: _ | .documentStart :: _ | .documentEnd :: _ | .streamEnd :: _ =>
    .ok (.empty {}, tokens)
  | _ => node handles .block fuel tokens

/-- Nothing but document ends and the end of the stream follows. -/
def onlyEnds : List Token → Except Flaw Unit
  | .documentEnd :: rest => onlyEnds rest
  | .streamEnd :: _ => .ok ()
  | rest => refuse rest

/-- The document in a stream of tokens, if there is one. -/
def Tree.ofTokens (tokens : List Token) : Except Flaw (Option Tree) :=
  let fuel := 2 * tokens.length + 2
  match tokens with
  | .streamEnd :: _ => .ok none
  | .pragma _ :: _ | .documentStart :: _ => do
    let (handles, tokens) ← pragmas false [] tokens
    match tokens with
    | .documentStart :: tokens => do
      let (tree, tokens) ← documentContent handles fuel tokens
      onlyEnds tokens
      return some tree
    | tokens => refuse tokens
  | _ => do
    let (tree, tokens) ← node Handles.standard .block fuel tokens
    onlyEnds tokens
    return some tree

end Transclude.Yaml
