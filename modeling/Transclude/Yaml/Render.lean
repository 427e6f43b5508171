import Transclude.Yaml.Graph.Sketch
import Transclude.Yaml.Page
import Transclude.Yaml.Tag

/-! # Writing YAML

A sketch is written in the styles that its nodes had in the source, as far as
their content and their place allow.  A key goes on one line if it is short
enough; otherwise it gets a mark of its own. -/

namespace Transclude.Yaml

/-- The characters that stand for themselves in the address of a tag. -/
def plainInTag (c : Char) : Bool :=
  c.isAlphanum || "-;/?:@&=+$,_.~*'()[]".toList.contains c

/-- The address of a tag with escapes; `bang` says that exclamation marks need none. -/
def tagAddressText (bang : Bool) (address : List Char) : String :=
  String.ofList (address.flatMap fun c =>
    if plainInTag c || (bang && c = '!') then [c]
    else (String.singleton c).toUTF8.data.toList.flatMap fun b =>
      '%' :: (Text.hex 2 b.toNat).map Char.toUpper)

/-- The text of a tag: a handle and the rest of the address, or the whole address. -/
def tagText (tag : String) : String :=
  let cs := tag.toList
  let standard := "tag:yaml.org,2002:".toList
  if tag = "!" then tag
  else if standard.isPrefixOf cs && standard.length < cs.length then
    "!!" ++ tagAddressText true (cs.drop standard.length)
  else match cs with
    | '!' :: rest => "!" ++ tagAddressText false rest
    | cs => "!<" ++ tagAddressText true cs ++ ">"

/-- Where a node stands. -/
structure Setting where
  inFlow : Bool := false
  /-- The indentation of the collection around it. -/
  indent : Option Nat := none
  /-- The node is the whole document. -/
  root : Bool := false
  /-- The node is a key on one line with its value. -/
  simpleKey : Bool := false

/-- The indentation of what stands in a node; a block at the start of a document has none. -/
def Setting.inner (s : Setting) (flow : Bool) : Nat :=
  match s.indent with
  | some n => n + indentWidth
  | none => if flow then indentWidth else 0

/-- The style in which a scalar is written. -/
def chooseStyle (s : Setting) (tag : String) (content : Content) (style : Style) : Style :=
  let form := Form.of content
  let narrow := s.simpleKey && (form.empty || form.broken)
  if style = .double then .double
  else if style = .plain && tag = Tag.detect content && !narrow
      && (if s.inFlow then form.plainInFlow else form.plainInBlock) then .plain
  else if (style = .literal || style = .folded) && !s.inFlow && !s.simpleKey && form.block then
    style
  else if (style = .plain || style = .single) && form.single && !(s.simpleKey && form.broken) then
    .single
  else .double

/-- Write the anchor of a node, if it has one. -/
def putAnchor (p : Page) : Option String → Page
  | none => p
  | some anchor => p.mark ("&" ++ anchor) true

/-- Write a scalar. -/
def putScalar (p : Page) (s : Setting) (tag : String) (content : Content) (style : Style) : Page :=
  let style := chooseStyle s tag content style
  let implied := if style = .plain then Tag.detect content else Tag.str
  let p := if tag = implied then p else p.mark (tagText tag) true
  let cs := content.map Char.ofNat
  let indent := s.inner true
  let split := !s.simpleKey
  match style with
  | .plain => p.plain s.root split indent cs
  | .single => p.single split indent cs
  | .double => p.double split indent content
  | .literal => p.literal indent cs
  | .folded => p.folded indent cs

namespace Sketch

/-- A node can be a key on one line with its value. -/
def isSimpleKey : Sketch → Bool
  | .aliasOf anchor => anchor.length < 128
  | .scalar anchor tag content _ =>
    let form := Form.of content
    (anchor.getD "").length + (tagText tag).length + content.length < 128
      && !form.empty && !form.broken
  | .sequence anchor tag _ items =>
    (anchor.getD "").length + (tagText tag).length < 128 && items.isEmpty
  | .mapping anchor tag _ entries =>
    (anchor.getD "").length + (tagText tag).length < 128 && entries.isEmpty

/-- Go to the next line of a flow collection if the line is too long. -/
def wrap (p : Page) (indent : Nat) : Page := if lineWidth < p.column then p.toIndent indent else p

mutual

/-- Write a node. -/
def put (p : Page) (s : Setting) : Sketch → Page
  | .aliasOf anchor => p.mark ("*" ++ anchor) true
  | .scalar anchor tag content style => putScalar (putAnchor p anchor) s tag content style
  | .sequence anchor tag inFlow items =>
    let p := putAnchor p anchor
    let p := if tag = Tag.seq then p else p.mark (tagText tag) true
    if s.inFlow || inFlow || items.isEmpty then
      let indent := s.inner true
      (putFlowItems (p.mark "[" true true) indent true items).mark "]" false
    else putBlockItems p (s.inner false) items
  | .mapping anchor tag inFlow entries =>
    let p := putAnchor p anchor
    let p := if tag = Tag.map then p else p.mark (tagText tag) true
    if s.inFlow || inFlow || entries.isEmpty then
      let indent := s.inner true
      (putFlowEntries (p.mark "\x7b" true true) indent true entries).mark "\x7d" false
    else putBlockEntries p (s.inner false) entries

/-- Write the items of a flow sequence. -/
def putFlowItems (p : Page) (indent : Nat) (first : Bool) : List Sketch → Page
  | [] => p
  | item :: rest =>
    let p := wrap (if first then p else p.mark "," false) indent
    putFlowItems (put p { inFlow := true, indent := some indent } item) indent false rest

/-- Write the items of a block sequence. -/
def putBlockItems (p : Page) (indent : Nat) : List Sketch → Page
  | [] => p
  | item :: rest =>
    let p := (p.toIndent indent).mark "-" true false true
    putBlockItems (put p { indent := some indent } item) indent rest

/-- Write the entries of a flow mapping. -/
def putFlowEntries (p : Page) (indent : Nat) (first : Bool) : List (Sketch × Sketch) → Page
  | [] => p
  | (key, value) :: rest =>
    let s : Setting := { inFlow := true, indent := some indent }
    let p := wrap (if first then p else p.mark "," false) indent
    let p :=
      if key.isSimpleKey then (put p { s with simpleKey := true } key).mark ":" false
      else (wrap (put (p.mark "?" true) s key) indent).mark ":" true
    putFlowEntries (put p s value) indent false rest

/-- Write the entries of a block mapping. -/
def putBlockEntries (p : Page) (indent : Nat) : List (Sketch × Sketch) → Page
  | [] => p
  | (key, value) :: rest =>
    let s : Setting := { indent := some indent }
    let p := p.toIndent indent
    let p :=
      if key.isSimpleKey then (put p { s with simpleKey := true } key).mark ":" false
      else ((put (p.mark "?" true false true) s key).toIndent indent).mark ":" true false true
    putBlockEntries (put p s value) indent rest

end

/-- The text of a document.  A document whose last scalar has no end of its own is closed by a
    mark. -/
def render (sketch : Sketch) : String :=
  let p := (put {} { root := true } sketch).toIndent 0
  let p := if p.openEnded then (p.mark "..." true).toIndent 0 else p
  p.text

end Sketch

end Transclude.Yaml
