import TemplateLint.Proofs.Source.Occurrence
import TemplateLint.Source.Call

/-!
# Heads of calls

Names, points and type arguments only move the cursor forward. Main statements: the head of a call
ends with an opening parenthesis, and the heads in a text do not overlap.
-/

namespace TemplateLint.Source

open Declare

/-- A point after a name leads on. -/
theorem leads_of_memberPoint? {cursor next : Cursor} (h : memberPoint? cursor = some next) :
    cursor.Leads next := by
  unfold memberPoint? at h
  obtain ⟨point, hpoint, rfl⟩ := Option.map_eq_some_iff.mp h
  have hmark : cursor.Leads (if cursor.skipBlanks.isAt '?' then cursor.skipBlanks.advance 1
      else cursor.skipBlanks) := by
    split
    · exact (cursor.leads_skip _).trans (Cursor.leads_advance _ 1)
    · exact cursor.leads_skip _
  exact (hmark.passes (Cursor.passes_of_expect? hpoint)).leads.trans (point.leads_skip _)

/-- The head of a call ends with an opening parenthesis. -/
theorem passes_of_callHead? {qualifier : List Text} {cursor next : Cursor} {head : CallHead}
    (h : callHead? qualifier cursor = some (head, next)) : cursor.Passes '(' next := by
  fun_induction callHead? qualifier cursor with
  | case1 => cases h
  | case2 qualifier cursor name behind hname member hpoint _ ih =>
    exact ((leads_of_escapedIdentifier? hname).trans (leads_of_memberPoint? hpoint)).passes (ih h)
  | case3 qualifier cursor name behind hname hpoint =>
    obtain ⟨paren, hparen, hresult⟩ := Option.bind_eq_some_iff.mp h
    cases hresult
    have hangles := (behind.leads_skip CodePoint.isBlank).trans (leads_skipAngles callStops _)
    exact ((leads_of_escapedIdentifier? hname).trans
      (hangles.trans (Cursor.leads_skip _ _))).passes (Cursor.passes_of_expect? hparen)

/-- What the pattern of a head finds ends with an opening parenthesis. -/
theorem passes_of_callHead (before : Option CodePoint) (cursor : Cursor) (head : CallHead)
    (next : Cursor) (h : callHead before cursor = some (head, next)) : cursor.Passes '(' next := by
  obtain ⟨_, _, hhead⟩ := Option.bind_eq_some_iff.mp h
  exact passes_of_callHead? hhead

/-- The head of a call that occurs in a text ends with an opening parenthesis. -/
theorem getElem?_of_mem_occurrences {t : Text} {found : Occurrence CallHead}
    (h : found ∈ occurrences callHead t) :
    t[found.stop - 1]? = some (CodePoint.ofChar '(') :=
  getElem?_of_passes passes_of_callHead h

/-- The heads of calls in a text end one behind the other. -/
theorem pairwise_heads (t : Text) :
    (occurrences callHead t).Pairwise fun a b => 0 < a.stop ∧ a.stop < b.stop :=
  pairwise_of_passes passes_of_callHead t

end TemplateLint.Source
