import TemplateLint.Command.Run

/-!
# Program

The outer layer: what lies on disk where a command line points is read into a file
tree, the command runs on that tree as a function, and then its texts are shown and
the files it changed are written.
-/

namespace TemplateLint.Program

open TemplateLint.Command

/-- A text as a string. -/
def toString (t : Text) : String :=
  String.ofList (t.map fun c => Char.ofNat c.val)

/-- Where a location lies on disk. -/
def diskName (location : Location) : String :=
  "/" ++ "/".intercalate (location.map toString)

/-- Add the file or folder that lies on disk at a location to a tree. -/
def load (tree : FileTree) (location : Location) : IO FileTree := do
  let place := System.mkFilePath [diskName location]
  if ← place.isDir then return { tree with folders := location :: tree.folders }
  else if (← place.pathExists) ∧ tree.file? location = none then
    let bytes ← IO.FS.readBinFile place
    return { tree with files := (location, bytes.toList) :: tree.files }
  else return tree

/-- Add the source files that lie on disk below a folder to a tree. -/
partial def loadBelow (tree : FileTree) (folder : Location) : IO FileTree := do
  let mut grown := tree
  for entry in ← (System.mkFilePath [diskName folder]).readDir do
    let location := folder ++ [Text.ofString entry.fileName]
    if ← entry.path.isDir then grown ← loadBelow grown location
    else if FileTree.isSource location then grown ← load grown location
  return grown

/-- Add what lies on disk along a path to a tree, without what lies below its end. -/
def loadRoute (tree : FileTree) (path : Path) : IO FileTree :=
  (FileTree.route tree.home path).foldlM load tree

/-- Add what lies on disk along a path to a tree, and the source files below its end. -/
def loadPath (tree : FileTree) (path : Path) : IO FileTree := do
  let tree ← loadRoute tree path
  match tree.resolve path with
  | .ok (.folder folder) => loadBelow tree folder
  | _ => return tree

/-- Write a text to a stream. -/
def write (stream : IO.FS.Stream) (t : Text) : IO Unit := do
  stream.write (ByteArray.mk (Text.encodeUtf8 t).toArray)
  stream.flush

/-- Carry out a command on the files on disk. -/
def perform (invocation : Invocation) : IO UInt32 := do
  let homeText := Text.ofString (← IO.currentDir).toString
  let home := (Path.ofText homeText).parts
  let config := match invocation.config with
    | .file path => path
    | _ => configName
  let tree ← loadRoute { files := [], folders := [], home } (Path.ofText config)
  let tree ← (invocation.paths.map Path.ofText).foldlM loadPath tree
  let (session, ending) := invocation.run homeText tree
  for (location, bytes) in tree.changes session.tree do
    IO.FS.writeBinFile (diskName location) (ByteArray.mk bytes.toArray)
  write (← IO.getStdout) session.stdout
  write (← IO.getStderr) session.stderr
  match ending with
  | .exit code => return UInt32.ofNat code
  | .crash crash =>
    write (← IO.getStderr) (asLines [crash.message])
    return 1

/-- Report a command line that cannot be read. -/
def refuse (program : Text) (misuse : Misuse) : IO UInt32 := do
  write (← IO.getStderr) (asLines [misuseLine program misuse])
  return 2

end TemplateLint.Program

/-- Read the command line and carry it out. -/
def main (args : List String) : IO UInt32 := do
  match TemplateLint.Command.Invocation.parse (args.map TemplateLint.Text.ofString) with
  | .ok invocation => TemplateLint.Program.perform invocation
  | .error .help =>
    IO.println "usage: mtlint [-h] (check | fix | shapes) ..."
    return 0
  | .error (.misuse program misuse) =>
    TemplateLint.Program.refuse program misuse
