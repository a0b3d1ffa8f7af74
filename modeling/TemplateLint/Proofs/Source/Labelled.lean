import TemplateLint.Proofs.Config.Named
import TemplateLint.Proofs.Expr.Shifted
import TemplateLint.Source.Call

/-!
# Arguments with labels

What is known about an argument comes from its expression and the symbols of the source, so a
label in front of the expression changes nothing but the text and the place. One test of the
policy reads the text, though: three spellings of the empty text are constants as they stand.
Main statement: an argument with a label has the constant, the literal, the type and the fitness
for a template that it has without the label, and the same value as a template unless it is one of
these spellings and no declared constant has its name.
-/

namespace TemplateLint

namespace Argument

variable {arg other : Argument}

/-- The arguments differ in their texts and places only. -/
structure Alike (arg other : Argument) : Prop where
  /-- They have the same value. -/
  constant : other.constant = arg.constant
  /-- They are the same literal, if any. -/
  literal : other.literal = arg.literal
  /-- They have the same type. -/
  typeName : other.typeName = arg.typeName
  /-- Their type is an exception type, or is not. -/
  isException : other.isException = arg.isException

/-- Whether an argument can stand for a template depends on neither its text nor its place. -/
theorem Alike.mayBeTemplate_eq (h : arg.Alike other) : other.mayBeTemplate = arg.mayBeTemplate := by
  rw [mayBeTemplate, mayBeTemplate, h.constant, h.typeName, h.isException]

/-- A value as a template is lost with the text only where the text is all that gives one. -/
theorem Alike.template?_eq_iff (h : arg.Alike other) (hother : Text.trim other.text ∉ emptyTexts) :
    other.template? = arg.template? ↔
      ¬(arg.constant = none ∧ Text.trim arg.text ∈ emptyTexts) := by
  rw [template?, template?, h.constant]
  cases arg.constant with
  | some value => simp
  | none =>
    simp only [if_neg hother, true_and]
    split <;> simp_all

/-- A spelling of the empty text has no label. -/
theorem trim_not_mem_emptyTexts {name t labelled : Text} (h : Expr.Labels name t labelled) :
    Text.trim labelled ∉ emptyTexts := by
  have hcolon : CodePoint.ofChar ':' ∈ labelled := by
    cases h
    simp
  have htrim := Text.mem_trim hcolon (by decide)
  have hnone : ∀ empty ∈ emptyTexts, CodePoint.ofChar ':' ∉ empty := by decide
  exact fun hmem => hnone _ hmem htrim

end Argument

namespace Source

namespace Prepared

/-- The type of an expression does not depend on the place of its literal. -/
theorem typeOf_shift {source other : Prepared} (h : other.symbols = source.symbols) (k : Nat)
    (fact : Fact) : other.typeOf (fact.shift k) = source.typeOf fact := by
  rw [typeOf, typeOf, Fact.typeName_shift, Fact.symbol_shift, Fact.callee_shift, Fact.dotted_shift,
    h]

/-- The value of an expression does not depend on the place of its literal. -/
theorem constantOf_shift {source other : Prepared} (h : other.symbols = source.symbols) (k : Nat)
    (fact : Fact) : other.constantOf (fact.shift k) = source.constantOf fact := by
  rw [constantOf, constantOf, Fact.constant_shift, Fact.symbol_shift, Fact.dotted_shift, h]

/-- An argument whose expression gives a fact is described by it. -/
theorem exists_describe {source : Prepared} {range : Range} {fact : Fact}
    (h : Fact.ofText (range.of source.text) = .ok fact) :
    ∃ arg, source.describe range = .ok arg ∧ arg.text = range.of source.text ∧
      arg.constant = source.constantOf fact ∧ arg.literal = fact.literal? ∧
      arg.typeName = source.typeOf fact ∧
      arg.isException = source.symbols.isException (source.typeOf fact) := by
  rw [describe, h]
  exact ⟨_, rfl, rfl, rfl, rfl, rfl, rfl⟩

end Prepared

/-- A label is transparent up to the spellings of the empty text. Take two sources with the same
symbols, an expression in a range of the first one, and the same expression behind a label in a
range of the second one. Either a literal of the expression is malformed and both arguments are
refused for it, or both are described and differ in their texts and places only. Then they can
both stand for a template or both cannot, and they have the same value as a template exactly if
the expression is no spelling of the empty text or names a declared constant. -/
theorem label_transparent_iff {plain labelled : Prepared}
    (hsymbols : labelled.symbols = plain.symbols) {range place : Range} {name : Text}
    (hlabel : Expr.Labels name (range.of plain.text) (place.of labelled.text))
    (hexpr : Expr.IsExprText (range.of plain.text)) :
    (∃ failure tokens, plain.describe range = .error failure ∧
      labelled.describe place = .error failure ∧
      Expr.lexemes? (range.of plain.text) = some tokens ∧ Expr.HasMalformed failure tokens) ∨
    ∃ arg other, plain.describe range = .ok arg ∧ labelled.describe place = .ok other ∧
      arg.Alike other ∧ other.mayBeTemplate = arg.mayBeTemplate ∧
      (other.template? = arg.template? ↔ ¬(arg.constant = none ∧
        Text.trim (range.of plain.text) ∈ Argument.emptyTexts)) := by
  obtain ⟨k, hfact⟩ := hlabel.exists_fact hexpr
  cases hplain : Fact.ofText (range.of plain.text) with
  | error failure =>
    rw [hplain] at hfact
    obtain ⟨tokens, hmalformed⟩ := hexpr.exists_malformed hplain
    refine .inl ⟨failure, tokens, ?_, ?_, hmalformed⟩
    · rw [Prepared.describe, hplain]
      rfl
    · rw [Prepared.describe, hfact]
      rfl
  | ok fact =>
    rw [hplain] at hfact
    obtain ⟨arg, harg, htext, hconstant, hliteral, htype, hexception⟩ :=
      Prepared.exists_describe hplain
    obtain ⟨other, hother, hlabelled, hvalue, hkept, hnamed, hfamily⟩ :=
      Prepared.exists_describe hfact
    rw [Prepared.constantOf_shift hsymbols] at hvalue
    rw [Fact.literal?_shift] at hkept
    rw [Prepared.typeOf_shift hsymbols] at hnamed hfamily
    rw [hsymbols] at hfamily
    have halike : arg.Alike other :=
      ⟨hvalue.trans hconstant.symm, hkept.trans hliteral.symm, hnamed.trans htype.symm,
        hfamily.trans hexception.symm⟩
    have hspelling : Text.trim other.text ∉ Argument.emptyTexts := by
      rw [hlabelled]
      exact Argument.trim_not_mem_emptyTexts hlabel
    refine .inr ⟨arg, other, harg, hother, halike, halike.mayBeTemplate_eq, ?_⟩
    rw [← htext]
    exact halike.template?_eq_iff hspelling

/-- A name of a declared constant, alone and behind a label in the same call. -/
theorem label_transparent_iff_constant :
    let source := prepare "const string b = \"B\"; Error(b, m: b);" {} none
    let range : Range := ⟨28, 29⟩
    let place : Range := ⟨31, 35⟩
    Expr.Labels "m" (range.of source.text) (place.of source.text) ∧
      Expr.IsExprText (range.of source.text) ∧
      ∃ arg other, source.describe range = .ok arg ∧ source.describe place = .ok other ∧
        arg.template? = some (Text.ofString "B") ∧ other.template? = some (Text.ofString "B") ∧
        other.mayBeTemplate = arg.mayBeTemplate := by
  intro source range place
  have hname : Expr.Spells (.name (Text.ofString "m")) "m" :=
    .name ⟨⟨'m', [], rfl, rfl⟩, by decide⟩ (by decide)
  have hlabel : Expr.Labels "m" (range.of source.text) (place.of source.text) :=
    .intro hname .nil (.blank rfl .nil)
  have hexpr : Expr.IsExprText (range.of source.text) :=
    ⟨[⟨.name (Text.ofString "b"), 0⟩], _, rfl, .operand (.primary (.atom (.name _ _)))⟩
  have hvalue : (source.describe range).toOption.bind Argument.template? =
      some (Text.ofString "B") := by
    decide +kernel
  have hspelling : Text.trim (range.of source.text) ∉ Argument.emptyTexts := by decide
  refine ⟨hlabel, hexpr, ?_⟩
  rcases label_transparent_iff rfl hlabel hexpr with ⟨failure, _, hfailure, _⟩ |
    ⟨arg, other, harg, hother, _, hmay, htemplate⟩
  · rw [hfailure] at hvalue
    cases hvalue
  · rw [harg] at hvalue
    have hsame := htemplate.mpr fun h => hspelling h.2
    exact ⟨arg, other, harg, hother, hvalue, hsame.trans hvalue, hmay⟩

/-- A spelling of the empty text is a constant template alone, but not behind a label. -/
theorem label_hides_empty_text :
    let source := prepare "Error(String.Empty, m: String.Empty);" {} none
    let range : Range := ⟨6, 18⟩
    let place : Range := ⟨20, 35⟩
    Expr.Labels "m" (range.of source.text) (place.of source.text) ∧
      Expr.IsExprText (range.of source.text) ∧
      (source.describe range).toOption.map Argument.template? = some (some []) ∧
      (source.describe place).toOption.map Argument.template? = some none := by
  intro source range place
  have hrange : range.of source.text = Text.ofString "String.Empty" := by decide
  have hplace : place.of source.text = Text.ofString "m" ++ ([] ++ CodePoint.ofChar ':' ::
      (Text.ofString " " ++ Text.ofString "String.Empty")) := by decide
  have hname : Expr.Spells (.name (Text.ofString "m")) "m" :=
    .name ⟨⟨'m', [], rfl, rfl⟩, by decide⟩ (by decide)
  have hmember : Expr.IsPrimary ([⟨.name (Text.ofString "String"), 0⟩] ++
      [⟨.mark '.', 6⟩, ⟨.name (Text.ofString "Empty"), 7⟩])
      (.member (.name (Text.ofString "String")) (Text.ofString "Empty")) :=
    .member (.atom (.name _ _))
  refine ⟨?_, ?_, by decide +kernel, by decide +kernel⟩
  · rw [hrange, hplace]
    exact .intro hname .nil (.blank rfl .nil)
  · rw [hrange]
    exact ⟨_, _, by decide, .operand (.primary hmember)⟩

end Source

end TemplateLint
