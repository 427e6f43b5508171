import Transclude.Path
import Transclude.Text.Quoted

/-! # File trees

The files that the program sees, by place: the names on the way from the root of
all files.  A place is a directory if it is recorded as one or if something
stands below it, so a file brings its directories with it.

A path leads to a place through the directories that it names.  `..` goes back
up, but only out of a directory: what a path means depends on the tree.

Not everything may be done everywhere: a file may be read or written or not, a
directory may be listed or not, and what stands in it may be looked up or not.
Writing a file empties it first and may break off for want of room, so a file may
be left with a part of what was to be written. -/

namespace Transclude

/-- The names on the way from the root of all files. -/
abbrev Place := List String

/-- Why a path leads to no file. -/
inductive FileTree.Obstacle where
  | missing
  | notADirectory
  | isADirectory
  | nameTooLong
  | permissionDenied
  /-- There is no room for what is written. -/
  | noRoom
  /-- The path holds a NUL. -/
  | embeddedNul
deriving Repr, DecidableEq

namespace FileTree.Obstacle

/-- The number of an obstacle. -/
def number : Obstacle → Nat
  | .missing => 2
  | .notADirectory => 20
  | .isADirectory => 21
  | .nameTooLong => 36
  | .permissionDenied => 13
  | .noRoom => 28
  | .embeddedNul => 0

/-- The words for an obstacle. -/
def reason : Obstacle → String
  | .missing => "No such file or directory"
  | .notADirectory => "Not a directory"
  | .isADirectory => "Is a directory"
  | .nameTooLong => "File name too long"
  | .permissionDenied => "Permission denied"
  | .noRoom => "No space left on device"
  | .embeddedNul => "embedded null byte"

/-- The words for an obstacle with its number and the path that met it.  Writing that breaks off
    does not say where. -/
def report (obstacle : Obstacle) (path : Path) : String :=
  "[Errno " ++ toString obstacle.number ++ "] " ++ obstacle.reason ++
    if obstacle = .noRoom then "" else ": " ++ Text.quoted path.text

/-- Where this obstacle is met, nobody knows what is there. -/
def hides : Obstacle → Bool
  | .nameTooLong | .permissionDenied => true
  | _ => false

end FileTree.Obstacle

/-- Files by place. -/
structure FileTree where
  /-- Where paths without a root start. -/
  workingDirectory : Place := []
  files : List (Place × ByteArray) := []
  /-- Directories that are there even if nothing stands below them. -/
  directories : List Place := []
  /-- Files that may not be written. -/
  readOnly : List Place := []
  /-- Files that may not be read and directories that may not be listed. -/
  unreadable : List Place := []
  /-- Directories in which nothing may be looked up. -/
  unsearchable : List Place := []
  /-- How many bytes there is room for in a file, where that is limited. -/
  room : List (Place × Nat) := []

namespace FileTree

/-- The bytes of the file at a place, if there is one. -/
def file? (t : FileTree) (place : Place) : Option ByteArray := t.files.lookup place

/-- Something stands at `place` or above it on the way to `below`. -/
def leadsTo (place below : Place) : Bool := place.isPrefixOf below

/-- There is a directory at a place. -/
def isDirectoryAt (t : FileTree) (place : Place) : Bool :=
  place.isEmpty || leadsTo place t.workingDirectory || t.directories.any (leadsTo place)
    || t.files.any fun (p, _) => leadsTo place p && p ≠ place

/-- The longest name and the longest path that a system knows, in bytes. -/
def nameLimit : Nat := 255

/-- The length that a path must stay below, in bytes. -/
def pathLimit : Nat := 4096

/-- Go from a place along names. -/
def walk (t : FileTree) (place : Place) : List String → Except Obstacle Place
  | [] => .ok place
  | name :: rest =>
    if t.isDirectoryAt place then
      if t.unsearchable.contains place then .error .permissionDenied
      else if name = ".." then t.walk place.dropLast rest
      else if nameLimit < name.utf8ByteSize then .error .nameTooLong
      else t.walk (place ++ [name]) rest
    else if (t.file? place).isSome then .error .notADirectory
    else .error .missing

/-- The place that a path leads to. -/
def resolve (t : FileTree) (path : Path) : Except Obstacle Place :=
  if path.text.toList.contains '\x00' then .error .embeddedNul
  else if pathLimit ≤ path.text.utf8ByteSize then .error .nameTooLong
  else t.walk (if path.isAbsolute then [] else t.workingDirectory) path.names

/-- The bytes of the file that a path leads to. -/
def read (t : FileTree) (path : Path) : Except Obstacle ByteArray := do
  let place ← t.resolve path
  if t.unreadable.contains place then .error .permissionDenied
  else match t.file? place with
    | some data => .ok data
    | none => if t.isDirectoryAt place then .error .isADirectory else .error .missing

/-- Put bytes at a place of a list of files. -/
def put (place : Place) (data : ByteArray) : List (Place × ByteArray) → List (Place × ByteArray)
  | [] => [(place, data)]
  | (p, d) :: rest => if p = place then (p, data) :: rest else (p, d) :: put place data rest

/-- The tree with a file at a place. -/
def withFile (t : FileTree) (place : Place) (data : ByteArray) : FileTree :=
  { t with files := put place data t.files }

/-- The place of a file that may be written.  It need not be there before, though its directory has
    to. -/
def openToWrite (t : FileTree) (path : Path) : Except Obstacle Place := do
  let place ← t.resolve path
  if t.isDirectoryAt place then .error .isADirectory
  else if t.readOnly.contains place then .error .permissionDenied
  else if (t.file? place).isNone && !t.isDirectoryAt place.dropLast then .error .missing
  else .ok place

/-- How many of some bytes there is room for at a place. -/
def fitting (t : FileTree) (place : Place) (data : ByteArray) : Nat :=
  match t.room.lookup place with
  | some limit => min limit data.size
  | none => data.size

/-- Write a file: it is opened, which empties it, and then as many bytes are written as there is
    room for. -/
def write (path : Path) (data : ByteArray) : EStateM Obstacle FileTree Unit := do
  match (← get).openToWrite path with
  | .error obstacle => throw obstacle
  | .ok place =>
    modify (·.withFile place .empty)
    let written := (← get).fitting place data
    modify (·.withFile place (data.extract 0 written))
    if written < data.size then throw .noRoom

/-- What stands where a path leads is of a kind.  Where the path leads nowhere, nothing does. -/
def holds (t : FileTree) (path : Path) (kind : Place → Bool) : Except Obstacle Bool :=
  match t.resolve path with
  | .ok place => .ok (kind place)
  | .error obstacle => if obstacle.hides then .error obstacle else .ok false

/-- A path leads to a directory. -/
def isDirectory (t : FileTree) (path : Path) : Except Obstacle Bool := t.holds path t.isDirectoryAt

/-- A path leads to a file. -/
def isFile (t : FileTree) (path : Path) : Except Obstacle Bool :=
  t.holds path fun place => (t.file? place).isSome

/-! ## What stands below a directory -/

/-- The beginnings of a list that are shorter than the list. -/
def beginnings : List String → List (List String)
  | [] => []
  | name :: rest => [] :: (beginnings rest).map (name :: ·)

/-- The names on the way from a place to another one below it. -/
def wayFrom? (place below : Place) : Option (List String) :=
  if leadsTo place below && below ≠ place then some (below.drop place.length) else none

/-- The names on the way to all files below a place. -/
def filesBelow (t : FileTree) (place : Place) : List (List String) :=
  t.files.filterMap fun (p, _) => wayFrom? place p

/-- The names on the way to all directories below a place, some of them more than once. -/
def directoriesBelow (t : FileTree) (place : Place) : List (List String) :=
  ((t.workingDirectory :: t.directories).filterMap (wayFrom? place)).flatMap
      (fun names => names :: beginnings names)
    ++ (t.filesBelow place).flatMap beginnings

/-- The directory at the end of names below another directory can be listed. -/
def lists (t : FileTree) (directory : Path) (place : Place) (names : List String) : Bool :=
  !t.unreadable.contains (place ++ names) && (t.resolve (directory.under ⟨.none, names⟩)).isOk

/-- What is at the end of names is found when a directory and all directories below it are listed.
    What may not be listed is passed over. -/
def finds (t : FileTree) (directory : Path) (place : Place) (names : List String) : Bool :=
  (beginnings names).all (t.lists directory place)

/-- The names on the way to everything that is found below a directory, directories first. -/
def found (t : FileTree) (directory : Path) (place : Place) : List (List String) :=
  ((t.directoriesBelow place).filter (· ≠ []) ++ t.filesBelow place).filter
    (t.finds directory place)

end FileTree

end Transclude
