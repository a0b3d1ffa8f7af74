import TemplateLint.Text.Basic
import TemplateLint.Text.CaseTable

/-!
# Letter case

The full case mappings: a code point may map to several, and a capital sigma maps
to its final form at the end of a word. Everything outside the tables maps to
itself.
-/

namespace TemplateLint.Text

/-- The image of a code point in one run. -/
def CaseRun.apply? (run : CaseRun) (n : Nat) : Option Nat :=
  if run.first ≤ n ∧ n ≤ run.last ∧ (n - run.first) % run.step = 0 then
    some (run.image + (n - run.first))
  else none

/-- The image of a code point under a case table. -/
def mapCase (special : List (Nat × List Nat)) (runs : List CaseRun) (c : CodePoint) : Text :=
  match special.find? fun entry => entry.1 = c.val with
  | some (_, images) => images.filterMap CodePoint.ofNat?
  | none =>
    match (runs.findSome? fun run => run.apply? c.val).bind CodePoint.ofNat? with
    | some image => [image]
    | none => [c]

/-- Whether the nearest code point that is not ignored has case. -/
def meetsCased (t : Text) : Bool :=
  match t.dropWhile (CodePoint.inRanges caseIgnorableRanges) with
  | [] => false
  | c :: _ => c.inRanges casedRanges

/-- Lower case of a text whose preceding code points, nearest first, are `earlier`. -/
def lowerAfter (earlier : Text) : Text → Text
  | [] => []
  | c :: rest =>
    let image : Text :=
      if c = 'Σ' then (if meetsCased earlier && !meetsCased rest then ['ς'] else ['σ'])
      else mapCase lowerSpecial lowerRuns c
    image ++ lowerAfter (c :: earlier) rest

/-- Lower case of a text. -/
def lower (t : Text) : Text :=
  lowerAfter [] t

/-- Upper case of a text. -/
def upper (t : Text) : Text :=
  t.flatMap (mapCase upperSpecial upperRuns)

end TemplateLint.Text
