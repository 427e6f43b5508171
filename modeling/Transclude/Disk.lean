import Transclude.FileTree
import Transclude.Failure

/-! # Sources on disk -/

namespace Transclude.Disk

/-- The bytes of the file that a locator names; one without a root is looked for under `base`. -/
def fetch (base : Path) (tree : FileTree) (uri : String) : Except Failure ByteArray :=
  let path := base.under (Path.ofString uri)
  match tree.read path with
  | .ok data => .ok data
  | .error .embeddedNul => .error (.fault Fault.embeddedNul)
  | .error obstacle => .error (.about uri (.unreadableSource path obstacle.reason))

end Transclude.Disk
