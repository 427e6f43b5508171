import Transclude.CodeBlock
import Transclude.Directive
import Transclude.Extractor
import Transclude.Resolver

/-! # Documents

A document is rendered line by line.  Every line stays.  Under a directive goes
a block with the excerpt that it asks for, in place of the block that is already
there; what stands in that old block is not looked at.

An error gets the locator of the excerpt and the number of the directive line. -/

namespace Transclude

/-- What documents are rendered with. -/
structure Processor (σ : Type) where
  /-- The extractor of each language, if it has one. -/
  extractors : Language → Option Extractor
  /-- The fetchers, in the order in which they are asked. -/
  fetchers : List (Fetcher σ)

namespace Processor

variable {σ : Type}

/-- The text that bytes are. -/
def decode (data : ByteArray) : Except Failure String :=
  match Text.decode data with
  | .ok text => .ok text
  | .error fault => .error (.of (.sourceNotUtf8 fault))

/-- Cut the excerpt of a directive out of its source, as a text to be stored. -/
def excerpt (p : Processor σ) (extractor : Extractor) (d : Directive) :
    Action (Session σ) ByteArray := do
  let data ← Resolver.resolve p.fetchers d.sourceUri
  let source ← Action.ofExcept (decode data)
  let snippet ← Action.ofExcept (extractor.extract source d.name d.kind)
  return Text.encode (extractor.serialize snippet)

/-- The excerpt of a directive. -/
def snippet (p : Processor σ) (d : Directive) : Action (Session σ) Snippet :=
  match p.extractors d.language with
  | none => throw (.of (.noExtractor d.language))
  | some extractor =>
    if d.language.supports d.kind then do
      let data ← Resolver.derive d.snippetUri (p.excerpt extractor d)
      let text ← Action.ofExcept (decode data)
      Action.ofExcept (extractor.restore d.name d.kind text)
    else throw (.of (.kindOutsideLanguage d.kind d.language))

/-- The code that a directive shows. -/
def code (p : Processor σ) (d : Directive) : Action (Session σ) String := do
  let snippet ← p.snippet d
  Action.ofExcept (snippet.window d.start d.stop d.language.ellipsis)

/-- The block under the directive line `line`, and the number of lines of the old block at the
    head of `rest`. -/
def block (p : Processor σ) (line : String) (rest : List String) (d : Directive) :
    Action (Session σ) (String × Nat) := do
  let code ← p.code d
  let block ← Action.ofExcept (CodeBlock.write line d.language code)
  let old ← Action.ofExcept (CodeBlock.skip rest 0 d.snippetUri)
  return (block, old)

/-- What a directive line is followed by. -/
def splice (p : Processor σ) (line : String) (rest : List String) :
    Action (Session σ) (String × Nat) :=
  match Directive.parse line with
  | .error e => throw e
  | .ok d => (p.block line rest d).withContext { uri := d.snippetUri }

/-- Render lines, of which the first one has the given number and `passing` belong to a block that
    has been replaced. -/
def renderLines (p : Processor σ) (number : Nat) (passing : Nat) :
    List String → Action (Session σ) String
  | [] => return ""
  | line :: rest =>
    match passing with
    | passing + 1 => p.renderLines (number + 1) passing rest
    | 0 =>
      if Directive.marked line then do
        let (block, old) ← (p.splice line rest).withContext { line := some (number : Int) }
        let tail ← p.renderLines (number + 1) old rest
        return line ++ "\n" ++ block ++ tail
      else do
        let tail ← p.renderLines (number + 1) 0 rest
        return line ++ "\n" ++ tail

/-- Render a document. -/
def render (p : Processor σ) (document : String) : Action (Session σ) String :=
  if document.isEmpty then return "" else p.renderLines 1 0 (Text.lines document)

end Processor

end Transclude
