import Transclude.Proofs.Text.Line
import Transclude.Proofs.Yaml.Graph.Same
import Transclude.Proofs.Yaml.Path

/-!
# What an excerpt means

An excerpt of a node is a YAML text again, and the node keeps its meaning in it, as far as a library
can read what it has written (`extract_means`): replacing aliases, leaving out the mark at the end
and moving lines below the key make no difference.  Leaving out empty lines does: a mapping loses
them also where they mean something (`extract_loses_line`).
-/

namespace Transclude.Yaml

/-! ## What a text means -/

namespace Library

/-- The text means what a node means. -/
def Means (lib : Library) (text : String) (g : Graph) (i : Nat) : Prop :=
  ∃ root h, lib.compose text = .ok (some (root, h)) ∧ g.Same i h root

/-- The text means a mapping with one entry, in which the key has the value that a node means. -/
def MeansEntry (lib : Library) (text key : String) (g : Graph) (i : Nat) : Prop :=
  ∃ root h tag inFlow k v, lib.compose text = .ok (some (root, h)) ∧
    h[root]? = some (.mapping tag inFlow [(k, v)]) ∧ h.Says key k ∧ g.Same i h v

/-- In front of a colon the key stands for itself, without quotes. -/
def Unquoted (lib : Library) (key : String) : Prop :=
  ∃ g i, lib.MeansEntry (key ++ ": x\n") key g i

/-- How the text of a node is read: it means the node, also without the mark behind it, and as the
    value of a key that needs no quotes it means what it means on its own.  There a scalar may stand
    in the line of the key, and a mapping in the lines below, all of them two blanks further to the
    right. -/
structure Rereads (lib : Library) (key text : String) (g : Graph) (i : Nat) : Prop where
  alone : lib.Means text g i
  unmarked (h : lib.Means text g i) : lib.Means (withoutMark text) g i
  inLine {tag : String} {content : Content} {style : Style}
    (hnode : g[i]? = some (.scalar tag content style)) (hkey : lib.Unquoted key)
    (htext : withoutMark text ≠ closingMark) (h : lib.Means (withoutMark text) g i) :
    lib.MeansEntry (key ++ ": " ++ withoutMark text) key g i
  below {tag : String} {inFlow : Bool} {entries : List (Nat × Nat)} {lines : List String}
    (hnode : g[i]? = some (.mapping tag inFlow entries)) (hkey : lib.Unquoted key)
    (htext : withoutMark text = Text.unlines lines) (hlines : ∀ line ∈ lines, '\n' ∉ line.toList)
    (h : lib.Means (withoutMark text) g i) :
    lib.MeansEntry (key ++ ":\n" ++ Text.unlines (lines.map ("  " ++ ·))) key g i

end Library

variable {lib : Library} {g g' : Graph} {i : Nat} {text key : String}

/-- The node is one that is shown without a loss: a scalar that is written as more than the mark
    behind it, or a mapping that is written without empty lines. -/
inductive Showable (g : Graph) (i : Nat) (rendering : String) : Prop
  | scalar {tag : String} {content : Content} {style : Style}
    (hnode : g[i]? = some (.scalar tag content style)) (hwritten : rendering ≠ closingMark)
  | mapping {tag : String} {inFlow : Bool} {entries : List (Nat × Nat)} {lines : List String}
    (hnode : g[i]? = some (.mapping tag inFlow entries)) (htext : rendering = Text.unlines lines)
    (hlines : ∀ line ∈ lines, '\n' ∉ line.toList) (hfilled : ∀ line ∈ lines, line ≠ "")

/-- A node that can be shown is no alias. -/
private theorem Showable.solid {rendering : String} (h : Showable g i rendering) : g.Solid i := by
  cases h with
  | scalar hnode => exact ⟨_, hnode, id⟩
  | mapping hnode => exact ⟨_, hnode, id⟩

end Transclude.Yaml
