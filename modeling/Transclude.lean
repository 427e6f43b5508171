import Transclude.Main
import Transclude.Proofs.CommandLine
import Transclude.Proofs.CommandLine.Place
import Transclude.Proofs.Directive.Locator
import Transclude.Proofs.Document.Ending
import Transclude.Proofs.Document.Frame
import Transclude.Proofs.Document.Seam
import Transclude.Proofs.Failure.Trail
import Transclude.Proofs.GitHub
import Transclude.Proofs.GitHub.Page
import Transclude.Proofs.Run.Again
import Transclude.Proofs.Run.Check
import Transclude.Proofs.Run.Failure
import Transclude.Proofs.Run.Listing
import Transclude.Proofs.Session.Fallback
import Transclude.Proofs.Tool
import Transclude.Proofs.Yaml.Excerpt
import Transclude.Proofs.Yaml.Path
