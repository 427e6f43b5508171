import Transclude.CommandLine
import Transclude.Go.BuiltIn
import Transclude.Web.BuiltIn
import Transclude.Yaml.BuiltIn

/-! # The program

The files that a call may look at are read first: the documents below its
directory and the sources that they name.  Then everything happens on a
`FileTree`, and the files that are different afterwards are written.

This program sends no requests and starts no other program: a server never
answers, and the external tool counts as not installed. -/

namespace Transclude.Program

/-- The text of a place. -/
def pathOf (place : Place) : String := "/" ++ "/".intercalate place

/-- The place that a path names, where `..` goes back up. -/
def placeOf (workingDirectory : Place) (path : Path) : Place :=
  path.names.foldl (fun place name => if name = ".." then place.dropLast else place ++ [name])
    (if path.isAbsolute then [] else workingDirectory)

/-- Add the directories below a place, and the Markdown files in them, to a tree. -/
partial def loadDocuments (tree : FileTree) (place : Place) : IO FileTree := do
  let directory := (← IO.currentDir) / pathOf place
  unless ← directory.isDir do return tree
  let mut tree := { tree with directories := place :: tree.directories }
  for entry in ← directory.readDir do
    let below := place ++ [entry.fileName]
    if ← entry.path.isDir then
      tree ← loadDocuments tree below
    else if Path.isMarkdown ⟨.slash, below⟩ then
      tree := tree.withFile below (← IO.FS.readBinFile entry.path)
  return tree

/-- Add the file or the directory at a place, if there is one, to a tree. -/
def loadPlace (tree : FileTree) (place : Place) : IO FileTree := do
  let path := (← IO.currentDir) / pathOf place
  if ← path.isDir then
    return { tree with directories := place :: tree.directories }
  if ← path.pathExists then
    return tree.withFile place (← IO.FS.readBinFile path)
  return tree

/-- Add the sources that the documents of a tree name to it. -/
def loadSources (tree : FileTree) (base : Path) : IO FileTree := do
  let mut loaded := tree
  for (_, data) in tree.files do
    if let .ok document := Text.decode data then
      for source in Directive.sources document do
        let path := base.under (Path.ofString source)
        unless path.text.toList.contains '\x00' do
          loaded ← loadPlace loaded (placeOf tree.workingDirectory path)
  return loaded

/-- Write the files that are not what they were. -/
def save (before after : FileTree) : IO Unit := do
  for (place, data) in after.files do
    unless (before.file? place).any (· == data) do
      IO.FS.writeBinFile (pathOf place) data

/-- The variables of the environment. -/
def readEnvironment : IO Settings.Environment := do
  let mut known : List (String × String) := []
  for key in Settings.keys do
    if let some value ← IO.getEnv key then
      known := (key, value) :: known
  return fun key => known.lookup key

/-- Call the program with these arguments. -/
def call (arguments : List String) : IO UInt32 := do
  let workingDirectory := Path.ofString (← IO.currentDir).toString
  let around : CommandLine.Surroundings :=
    { environment := ← readEnvironment
      client := Web.get fun _ => .failed "no connection"
      go := Go.builtIn
      yaml := Yaml.builtIn
      tool := none }
  let mut tree : FileTree := { workingDirectory := workingDirectory.names }
  if let some (directory, base) := CommandLine.reach? around workingDirectory arguments then
    tree ← loadDocuments tree (placeOf tree.workingDirectory directory)
    tree ← loadSources tree base
  let (outcome, state) := CommandLine.call around arguments ⟨tree, []⟩
  save tree state.tree
  match CommandLine.Request.ofStrings arguments with
  | .help => IO.println CommandLine.usage
  | .usageError => IO.eprintln CommandLine.usage
  | .job _ =>
    for line in outcome.lines do
      IO.println line
  if let some failure := outcome.unforeseen then
    IO.eprintln failure.text
  return UInt32.ofNat outcome.exitCode

end Transclude.Program

/-- The program. -/
def main (arguments : List String) : IO UInt32 := Transclude.Program.call arguments
