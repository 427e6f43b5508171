import Transclude.Disk
import Transclude.Document

/-! # Runs

A run renders every Markdown file below a directory and then writes the files
that changed.  Nothing is written before all files are rendered, so a run that
fails while listing, reading or rendering leaves every file as it was.

Files are handled in the order of their paths.  A run with a deadline ends when
a fetch never does. -/

namespace Transclude

/-- What a run works on, with whatever else its fetchers work on. -/
structure World (σ : Type) where
  tree : FileTree
  outside : σ

namespace World

variable {σ α : Type}

/-- An action on what lies outside the files. -/
def beyond (action : Action σ α) : Action (World σ) α :=
  Action.within outside (fun s w => { w with outside := s }) action

/-- The fetcher that looks for sources on disk. -/
def diskFetcher (base : Path) : Fetcher (World σ) := fun uri w =>
  Action.ofExcept (Disk.fetch base w.tree uri) w

end World

namespace Run

variable {σ : Type}

/-- How a run is done. -/
structure Options where
  /-- How many seconds the run may take. -/
  timeout : Option Seconds := none
  /-- Changed files are written. -/
  write : Bool := true

/-- A fault of the system at a path. -/
def fault (obstacle : FileTree.Obstacle) (path : Path) : Failure :=
  .fault ⟨.operatingSystem, obstacle.report path⟩

/-- The path with names behind that of a directory, if it leads to a file.  To list a directory, the
    calls for all directories around it must stand inside of each other. -/
def fileAt (tree : FileTree) (directory : Path) (names : List String) :
    Except Failure (Option Path) :=
  let path := directory.under ⟨.none, names⟩
  match tree.isFile path with
  | .error obstacle => .error (fault obstacle path)
  | .ok true => .ok (some path)
  | .ok false => if Fault.callDepth ≤ names.length then .error (.fault Fault.tooDeep) else .ok none

/-- Those of the paths below a directory that lead to files. -/
def filesAt (tree : FileTree) (directory : Path) : List (List String) → Except Failure (List Path)
  | [] => return []
  | names :: rest => do
    let file ← fileAt tree directory names
    let files ← filesAt tree directory rest
    return file.toList ++ files

/-- The paths of the Markdown files below a directory, in order. -/
def listing (tree : FileTree) (directory : Path) : Except Failure (List Path) :=
  match tree.isDirectory directory with
  | .error obstacle => .error (fault obstacle directory)
  | .ok false => .error (.of (.notADirectory directory))
  | .ok true =>
    match tree.resolve directory with
    | .error _ => .error (.of (.notADirectory directory))
    | .ok place => do
      let files ← filesAt tree directory (tree.found directory place)
      return (files.filter Path.isMarkdown).mergeSort fun p q => !q.before p

/-- The text of the document at a path. -/
def readDocument (tree : FileTree) (path : Path) : Except Failure String :=
  match tree.read path with
  | .error obstacle => .error (.of (.unreadableDocument (obstacle.report path)))
  | .ok data =>
    match Text.decode data with
    | .ok text => .ok text
    | .error fault => .error (.of (.unreadableDocument fault.message))

/-- A document before and after it is rendered. -/
structure Rendering where
  path : Path
  before : String
  after : String
deriving Repr, DecidableEq

/-- The document has changed. -/
def Rendering.changed (r : Rendering) : Bool := r.before ≠ r.after

/-- Read the document at a path and render it. -/
def readAndRender (p : Processor (World σ)) (path : Path) :
    Action (Session (World σ)) Rendering := do
  let s : Session (World σ) ← get
  let before ← Action.ofExcept (readDocument s.world.tree path)
  let after ← p.render before
  return { path, before, after }

/-- Render the document at a path.  An error says which document it is. -/
def renderFile (p : Processor (World σ)) (path : Path) : Action (Session (World σ)) Rendering :=
  (readAndRender p path).withContext { path := some path }

/-- Render the documents at several paths, in turn. -/
def renderAll (p : Processor (World σ)) : List Path → Action (Session (World σ)) (List Rendering)
  | [] => return []
  | path :: rest => do
    let rendering ← renderFile p path
    let renderings ← renderAll p rest
    return rendering :: renderings

/-- A failure, seen by a run that may take `timeout` seconds. -/
def atDeadline (timeout : Option Seconds) : Failure → Failure
  | .stalled =>
    match timeout with
    | some limit => .of (.deadline limit)
    | none => .stalled
  | failure => failure

/-- Write renderings, in turn. -/
def writeAll : List Rendering → Action FileTree Unit
  | [] => return ()
  | r :: rest => fun tree =>
    match FileTree.write r.path (Text.encode r.after) tree with
    | .error obstacle tree =>
      .error (.error (.unwritableDocument (obstacle.report r.path)) { path := some r.path }) tree
    | .ok () tree => writeAll rest tree

/-- Render the documents below a directory and write those that change.  The paths of those are
    the result. -/
def run (p : Processor (World σ)) (directory : Path) (options : Options) :
    Action (World σ) (List Path) := fun w =>
  match listing w.tree directory with
  | .error e => .error e w
  | .ok paths =>
    match renderAll p paths ⟨{}, w⟩ with
    | .error e s => .error (atDeadline options.timeout e) s.world
    | .ok renderings s =>
      let changed := renderings.filter Rendering.changed
      if options.write then
        match writeAll changed s.world.tree with
        | .error e tree => .error e { s.world with tree }
        | .ok () tree => .ok (changed.map Rendering.path) { s.world with tree }
      else .ok (changed.map Rendering.path) s.world

end Run

end Transclude
