import TemplateLint.Text.Classes

/-!
# Texts

A text is a list of code points. This module holds the cuts, joins and orders
that the other modules share; a blank is meant in the sense of
`CodePoint.isBlank` throughout.
-/

namespace TemplateLint

/-- A sequence of code points. -/
abbrev Text := List CodePoint

namespace Text

/-- The code points of a string. -/
def ofString (s : String) : Text :=
  s.toList.map CodePoint.ofChar

instance : Coe String Text := ⟨ofString⟩

instance : LawfulBEq Text := inferInstanceAs (LawfulBEq (List CodePoint))

/-- The part from `start` up to, and without, `stop`. -/
def slice (t : Text) (start stop : Nat) : Text :=
  (t.drop start).take (stop - start)

/-- Whether a text begins with a word. -/
def startsWith (t word : Text) : Bool :=
  word.isPrefixOf t

/-- Whether a text ends with a word. -/
def endsWith (t word : Text) : Bool :=
  word.isSuffixOf t

/-- The number of code points before a cut at an offset; a negative offset counts
back from the end, and a cut outside the text falls on its nearer end. -/
def cutAt (t : Text) (offset : Int) : Nat :=
  if offset < 0 then (offset + t.length).toNat else min offset.toNat t.length

/-- Blanks at the left end are dropped. -/
def trimLeft (t : Text) : Text :=
  t.dropWhile CodePoint.isBlank

/-- Blanks at the right end are dropped. -/
def trimRight (t : Text) : Text :=
  (t.reverse.dropWhile CodePoint.isBlank).reverse

/-- Blanks at both ends are dropped. -/
def trim (t : Text) : Text :=
  trimRight (trimLeft t)

/-- The parts between the code points that `p` accepts; one more part than cuts. -/
def splitWhere (p : CodePoint → Bool) : Text → List Text
  | [] => [[]]
  | c :: rest =>
    match splitWhere p rest with
    | [] => [[c]]
    | part :: parts => if p c then [] :: part :: parts else (c :: part) :: parts

/-- The parts between the occurrences of one code point. -/
def split (separator : CodePoint) (t : Text) : List Text :=
  splitWhere (fun c => decide (c = separator)) t

/-- The maximal parts without blanks. -/
def words (t : Text) : List Text :=
  (splitWhere CodePoint.isBlank t).filter fun word => !word.isEmpty

/-- The parts before and after the first occurrence of a code point. -/
def cut? (mark : CodePoint) : Text → Option (Text × Text)
  | [] => none
  | c :: rest =>
    if c = mark then some ([], rest)
    else (cut? mark rest).map fun parts => (c :: parts.1, parts.2)

/-- A cut loses nothing but the mark. -/
theorem eq_of_cut? {mark : CodePoint} {t left right : Text}
    (h : cut? mark t = some (left, right)) : t = left ++ mark :: right := by
  induction t generalizing left with
  | nil => simp [cut?] at h
  | cons c rest ih =>
    unfold cut? at h
    split at h
    · next hc =>
      cases h
      simp [hc]
    · obtain ⟨parts, hparts, he⟩ := Option.map_eq_some_iff.mp h
      cases he
      rw [ih hparts]
      rfl

/-- The part after a cut is shorter than the text. -/
theorem length_lt_of_cut? {mark : CodePoint} {t left right : Text}
    (h : cut? mark t = some (left, right)) : right.length < t.length := by
  rw [eq_of_cut? h]
  simp only [List.length_append, List.length_cons]
  omega

/-- The part before the first occurrence of a code point; the whole text without one. -/
def before (mark : CodePoint) (t : Text) : Text :=
  match cut? mark t with
  | some (left, _) => left
  | none => t

/-- The part after the first occurrence of a code point, if it occurs. -/
def after? (mark : CodePoint) (t : Text) : Option Text :=
  (cut? mark t).map Prod.snd

/-- The part after the last occurrence of a code point; the whole text without one. -/
def afterLast (mark : CodePoint) (t : Text) : Text :=
  (before mark t.reverse).reverse

/-- Offset of the first occurrence of a code point at or after `start`. -/
def indexFrom? (mark : CodePoint) (t : Text) (start : Nat) : Option Nat :=
  ((t.drop start).findIdx? fun c => decide (c = mark)).map (· + start)

/-- The texts in order with `separator` between neighbours. -/
def join (separator : Text) (ts : List Text) : Text :=
  separator.intercalate ts

/-- Decimal digits of a natural number. -/
def ofNat (n : Nat) : Text :=
  ofString (Nat.repr n)

/-- Decimal digits of an integer, after a minus sign if it is negative. -/
def ofInt : Int → Text
  | .ofNat n => ofNat n
  | .negSucc n => '-' :: ofNat (n + 1)

/-- The number that a sequence of ASCII digits writes in base ten. -/
def decimalValue (digits : Text) : Nat :=
  digits.foldl (fun value c => 10 * value + (c.val - 0x30)) 0

/-- The number that a sequence of hexadecimal digits writes in base sixteen. -/
def hexValue (digits : Text) : Nat :=
  digits.foldl (fun value c => 16 * value + c.hexValue) 0

/-- Order by the numbers of the code points, from the left. -/
def le : Text → Text → Bool
  | [], _ => true
  | _ :: _, [] => false
  | a :: as, b :: bs => if a = b then le as bs else decide (a.val < b.val)

/-- The texts in increasing order. -/
def sort (ts : List Text) : List Text :=
  ts.mergeSort le

/-- The distinct texts in increasing order. -/
def sortUnique (ts : List Text) : List Text :=
  sort ts.eraseDups

end Text

end TemplateLint
