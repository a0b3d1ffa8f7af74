import TemplateLint.Command.Path
import TemplateLint.Text.Quoted
import TemplateLint.Text.Utf8

/-!
# File trees

A file tree is a value: the bytes of every file by location, the folders, and the
folder in which a run takes place. A location is the list of names from the root.
Names and paths have a largest length, which counts bytes.
-/

namespace TemplateLint.Command

/-- Names from the root of a tree. -/
abbrev Location := List Text

/-- Files and folders. -/
structure FileTree where
  /-- Files with their bytes. -/
  files : List (Location × List UInt8)
  /-- Folders; those on the way to a file or a folder need not be listed. -/
  folders : List Location
  /-- The folder where relative paths start. -/
  home : Location
  deriving DecidableEq

/-- Why a file cannot be opened at a path. -/
inductive AccessError
  /-- A name does not exist. -/
  | missing
  /-- The path goes on after a file. -/
  | notFolder
  /-- The path leads to a folder. -/
  | isFolder
  /-- The path or a name in it is too long. -/
  | tooLong
  deriving DecidableEq

namespace AccessError

/-- Number of the error. -/
def number : AccessError → Nat
  | .missing => 2
  | .notFolder => 20
  | .isFolder => 21
  | .tooLong => 36

/-- Wording of the reason. -/
def reason : AccessError → Text
  | .missing => "No such file or directory"
  | .notFolder => "Not a directory"
  | .isFolder => "Is a directory"
  | .tooLong => "File name too long"

/-- Wording of the error at a path. -/
def message (error : AccessError) (path : Text) : Text :=
  "[Errno " ++ Text.ofNat error.number ++ "] " ++ error.reason ++ ": " ++ path.quoted

end AccessError

/-- The largest number of bytes in a name. -/
def nameLimit : Nat := 255

/-- The largest number of bytes in a path. -/
def pathLimit : Nat := 4095

/-- Whether a text has more than `limit` bytes. -/
def isLongerThan (limit : Nat) (t : Text) : Bool :=
  limit < (Text.encodeUtf8 t).length

/-- Where a path leads. -/
inductive Target
  /-- To a folder. -/
  | folder (location : Location)
  /-- To a file. -/
  | file (location : Location) (bytes : List UInt8)
  deriving DecidableEq

namespace FileTree

/-- The bytes of a file. -/
def file? (tree : FileTree) (location : Location) : Option (List UInt8) :=
  (tree.files.find? fun entry => decide (entry.1 = location)).map Prod.snd

/-- Whether a location is a folder. -/
def isFolder (tree : FileTree) (location : Location) : Bool :=
  location.isPrefixOf tree.home || tree.folders.any location.isPrefixOf ||
    tree.files.any fun entry => location.isPrefixOf entry.1 && decide (location ≠ entry.1)

/-- Follow names from a folder. -/
def follow (tree : FileTree) (folder : Location) : List Text → Except AccessError Target
  | [] => .ok (.folder folder)
  | name :: names =>
    if name = ".." then follow tree folder.dropLast names
    else if isLongerThan nameLimit name then .error .tooLong
    else
      let next := folder ++ [name]
      match tree.file? next with
      | some bytes => if names = [] then .ok (.file next bytes) else .error .notFolder
      | none => if tree.isFolder next then follow tree next names else .error .missing

/-- Where a path leads. -/
def resolve (tree : FileTree) (path : Path) : Except AccessError Target :=
  if isLongerThan pathLimit path.text then .error .tooLong
  else tree.follow (if path.isAbsolute then [] else tree.home) path.parts

/-- Locations that names lead through, from a folder on. -/
def stations (folder : Location) : List Text → List Location
  | [] => []
  | name :: names =>
    let next := if name = ".." then folder.dropLast else folder ++ [name]
    next :: stations next names

/-- Locations that a path leads through from its start on, whether or not they exist. -/
def route (home : Location) (path : Path) : List Location :=
  let start := if path.isAbsolute then [] else home
  start :: stations start path.parts

/-- Order of locations by their names. -/
def locationLe : Location → Location → Bool
  | [], _ => true
  | _ :: _, [] => false
  | a :: as, b :: bs => if a = b then locationLe as bs else Text.le a b

/-- Whether a location names a source file. -/
def isSource (location : Location) : Bool :=
  location.getLast?.any fun name => Text.endsWith name ".cs"

/-- Names that lead from a folder to the source files in it and below it, in order. -/
def sourcesUnder (tree : FileTree) (folder : Location) : List (List Text) :=
  let below := tree.files.filter fun entry =>
    folder.isPrefixOf entry.1 && decide (folder ≠ entry.1) && isSource entry.1
  (below.map fun entry => entry.1.drop folder.length).mergeSort locationLe

/-- The tree after a file is overwritten. -/
def write (tree : FileTree) (location : Location) (bytes : List UInt8) : FileTree :=
  { tree with files := tree.files.map fun entry =>
      if entry.1 = location then (location, bytes) else entry }

/-- The files that differ between two trees, with their new bytes. -/
def changes (before after : FileTree) : List (Location × List UInt8) :=
  after.files.filter fun entry => decide (before.file? entry.1 ≠ some entry.2)

end FileTree

end TemplateLint.Command
