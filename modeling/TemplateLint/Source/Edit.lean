import TemplateLint.Source.Analysis

/-!
# Edits

Moving a misplaced exception to its place: the argument texts of the call are
permuted and the separators between them stay as they are. One move is made per
call, and a call inside an edited one is left for a later run.
-/

namespace TemplateLint.Source

/-- The replacement of a range of a text. -/
structure Edit where
  /-- Offset of the range. -/
  start : Int
  /-- Offset after the range. -/
  stop : Int
  /-- What takes its place. -/
  replacement : Text
  deriving DecidableEq

/-- Edits are tried by start and, at one start, from the longest. -/
def Edit.precedes (a b : Edit) : Bool :=
  decide (a.start < b.start) || (decide (a.start = b.start) && decide (b.stop ≤ a.stop))

/-- The edits that start no earlier than the last one kept ends. -/
def keepApart (lastStop : Int) : List Edit → List Edit
  | [] => []
  | edit :: rest =>
    if edit.start < lastStop then keepApart lastStop rest else edit :: keepApart edit.stop rest

/-- The edits that are applied, in the order of their starts. -/
def keptEdits (edits : List Edit) : List Edit :=
  keepApart (-1) (edits.mergeSort Edit.precedes)

/-- Replace the range of an edit. -/
def Edit.apply (edit : Edit) (t : Text) : Text :=
  t.take (Text.cutAt t edit.start) ++ edit.replacement ++ t.drop (Text.cutAt t edit.stop)

/-- Apply the edits that do not overlap an earlier one, from the last to the first, and
count them. -/
def applyEdits (t : Text) (edits : List Edit) : Text × Nat :=
  let kept := keptEdits edits
  (kept.foldr Edit.apply t, kept.length)

/-- Remove the item at one index and insert it at another. -/
def moveItem {α : Type} (items : List α) (source target : Nat) : List α :=
  match items[source]? with
  | none => items
  | some item => (items.eraseIdx source).insertIdx target item

/-- The texts between neighbouring ranges. -/
def separators (t : Text) : List Range → List Text
  | first :: second :: rest => t.slice first.stop second.start :: separators t (second :: rest)
  | _ => []

/-- Arguments with separators between them. -/
def interleave : List Text → List Text → Text
  | [], _ => []
  | arg :: args, [] => arg ++ interleave args []
  | arg :: args, separator :: rest =>
    if args.isEmpty then arg else arg ++ separator ++ interleave args rest

/-- The edit that moves an argument of a call. -/
def reorder (t : Text) (scanned : ScannedCall) (fix : Reorder) : Edit :=
  let args := moveItem (scanned.ranges.map (·.of t)) fix.argument.toNat fix.target.toNat
  { start := (scanned.ranges.head?.map fun range => (range.start : Int)).getD 0
    stop := (scanned.ranges.getLast?.map fun range => (range.stop : Int)).getD 0
    replacement := interleave args (separators t scanned.ranges) }

/-- The move that the first misplaced exception of a call asks for. -/
def firstFix? (found : List Diagnostic) : Option Reorder :=
  found.findSome? fun d => if d.rule = .exceptionNotFirst then d.fix else none

/-- The edits that the calls of a source ask for. -/
def fixEdits (t : Text) (calls : List (ScannedCall × List Diagnostic)) : List Edit :=
  calls.filterMap fun entry => (firstFix? entry.2).map (reorder t entry.1)

/-- The source with misplaced exceptions moved, and the number of calls changed. -/
def applyFixes (text : Text) (config : Config) (file : Option Text) : Analysis (Text × Nat) :=
  let found := callsWithDiagnostics (prepare text config file)
  ⟨found.entries, found.result.map fun calls => applyEdits text (fixEdits text calls)⟩

end TemplateLint.Source
