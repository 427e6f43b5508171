import Transclude.Go.Extract
import Transclude.Yaml.Extract

/-! # Extractors

An extractor cuts excerpts out of the sources of one language.  An excerpt is
stored as a text, and restored from that text when it is shown. -/

namespace Transclude

/-- What a language needs for excerpts. -/
structure Extractor where
  /-- The excerpt of a source with the given name and kind. -/
  extract : (source name : String) → Kind → Except Failure Snippet
  /-- The text under which an excerpt is stored. -/
  serialize : Snippet → String
  /-- The excerpt that is stored as a text. -/
  restore : (name : String) → Kind → (text : String) → Except Failure Snippet

namespace Extractor

/-- The extractor for Go, with what reads Go. -/
def go (lib : Go.Library) : Extractor := ⟨Go.extract lib, Go.serialize, Go.restore lib⟩

/-- The extractor for YAML, with what reads and writes YAML. -/
def yaml (lib : Yaml.Library) : Extractor :=
  ⟨Yaml.extract lib, Yaml.serialize, fun name _ => Yaml.restore name⟩

end Extractor

end Transclude
