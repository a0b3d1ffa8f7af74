import TemplateLint.Text.Basic

/-!
# Paths

A path is a root, which is empty for a relative path, and the parts between its
slashes. Empty parts and single dots are dropped; parts that lead upwards stay.
-/

namespace TemplateLint.Command

/-- A path as it is named on the command line. -/
structure Path where
  /-- Nothing, one slash, or two slashes. -/
  root : Text
  /-- The parts in order. -/
  parts : List Text
  deriving DecidableEq

namespace Path

/-- The root of a written path: exactly two slashes in front are kept, any other number
counts as one. -/
def rootOf (t : Text) : Text :=
  match (t.takeWhile fun (c : CodePoint) => decide (c = '/')).length with
  | 0 => []
  | 2 => "//"
  | _ => "/"

/-- Read a path. -/
def ofText (t : Text) : Path where
  root := rootOf t
  parts := (Text.split '/' t).filter fun part => part ≠ [] ∧ part ≠ "."

/-- Whether the path starts at the root of the file tree. -/
def isAbsolute (path : Path) : Bool :=
  !path.root.isEmpty

/-- The written form. -/
def text (path : Path) : Text :=
  if path.root = [] ∧ path.parts = [] then "." else path.root ++ Text.join "/" path.parts

/-- The path that continues with further parts. -/
def append (path : Path) (parts : List Text) : Path :=
  { path with parts := path.parts ++ parts }

end Path

end TemplateLint.Command
