import Transclude.CommandLine
import Transclude.Proofs.Go.Declaration
import Transclude.Proofs.Run.Blame

/-!
# What the program fails with

The program knows its errors, with some exceptions, which are passed on as faults: what hinders the
listing of the documents, a directive line that ends in too many carriage returns, a path that holds
a NUL, and what goes wrong in the libraries that send requests and read Go and YAML (`Faulty`,
`Unforeseen`).  Everything else that ends a run is an error, with a problem and a context
(`error_or_unforeseen_of_run_eq_error`).
-/

namespace Transclude

/-! ## Sources -/

namespace CommandLine

variable {around : Surroundings} {settings : Settings} {p : Processor State}

/-- The processor of the program, where excerpts of Go are cut by this library. -/
def builtIn (around : Surroundings) (settings : Settings) : Processor State where
  extractors := fun
    | .go => some (Extractor.go around.go)
    | .yaml => some (Extractor.yaml around.yaml)
  fetchers := [fun uri => World.beyond (gitHubFetcher around.client settings.token uri),
    World.diskFetcher settings.baseDir]

/-- The fetcher of the program gets what the client gets. -/
theorem outcome_gitHubFetcher (client : Web.Client) (token : Option String) (uri : String)
    (w : State) :
    Action.outcome (World.beyond (gitHubFetcher client token uri) w) =
      (GitHub.fetch client token uri).1 := by
  rw [World.beyond, Action.outcome_within]
  exact Action.outcome_ofExcept _ _

end CommandLine

end Transclude
