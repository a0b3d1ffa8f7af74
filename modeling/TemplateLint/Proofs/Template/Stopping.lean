import TemplateLint.Proofs.Template.Tiling

/-!
# Where parsing stops

Parsing stops at the first property that it refuses. A fault lies between the braces of that
property, or reaches from its opening brace to the end of the template if no closing brace
follows; what stands in front of the brace can be parsed by itself, and what follows the
closing brace has no say in the fault.
-/

namespace TemplateLint.Template

variable {value : Text} {fault : Fault}

/-- A fault of a template is not empty and lies in it, and it is the fault of one property.
What comes before this property is a template of its own. Either the property has no closing
brace, and the fault reaches to the end, or the fault lies between its braces, and whatever
follows the closing brace, parsing reports the same fault. -/
theorem fault_is_localised (h : parse value = .error (.malformed fault)) :
    1 ≤ fault.length ∧ fault.start + fault.length ≤ value.length ∧
      ∃ brace, brace ≤ fault.start ∧ value[brace]? = some (CodePoint.ofChar '{') ∧
        (∃ segments, parse (value.take brace) = .ok segments) ∧
        ((∀ offset, brace < offset → value[offset]? ≠ some (CodePoint.ofChar '}')) ∧
            fault = ⟨.unclosed, brace, value.length - brace⟩ ∨
          ∃ close, ClosesAt value brace close ∧ fault.start + fault.length ≤ close + 1 ∧
            ∀ more, parse (value.take (close + 1) ++ more) = .error (.malformed fault)) := by
  obtain ⟨hlength, hstop⟩ := fault_bounds h
  obtain ⟨front, rest, rfl, ⟨found, hreads⟩, hhead, hrefused⟩ := parse_eq_error_iff.mp h
  rw [Nat.zero_add] at hrefused
  have hopen : (front ++ CodePoint.ofChar '{' :: rest)[front.length]? =
      some (CodePoint.ofChar '{') := by
    rw [List.getElem?_append_right (Nat.le_refl _), Nat.sub_self, List.getElem?_cons_zero]
  have hfront : ∃ segments,
      parse ((front ++ CodePoint.ofChar '{' :: rest).take front.length) = .ok segments := by
    rw [List.take_left]
    exact hreads.exists_parse
  refine ⟨hlength, hstop, front.length, ?_, hopen, hfront, ?_⟩
  · cases hrefused with
    | unclosed => exact Nat.le_refl _
    | body hbody hread => exact (contained_readProperty _ _ _ hread).1
  cases hrefused with
  | unclosed hnone =>
    refine .inl ⟨fun offset hlt hclose => ?_, ?_⟩
    · obtain ⟨k, rfl⟩ := Nat.exists_eq_add_of_le hlt
      have hoffset : front.length.succ + k - front.length = k + 1 := by omega
      rw [List.getElem?_append_right (by omega), hoffset, List.getElem?_cons_succ] at hclose
      exact hnone (List.mem_of_getElem? hclose)
    · rw [List.length_append, List.length_cons, Nat.add_sub_cancel_left]
  | @body body tail _ hbody hread =>
    have hcontained := contained_readProperty _ _ fault hread
    refine .inr ⟨front.length + 1 + body.length, closesAt_append front hbody _ tail, by omega,
      fun more => parse_eq_error_iff.mpr ⟨front, body ++ CodePoint.ofChar '}' :: more, ?_⟩⟩
    -- the text up to the closing brace is all that the refusal depends on
    have hcut : (front ++ CodePoint.ofChar '{' :: (body ++ CodePoint.ofChar '}' :: tail)).take
        (front.length + 1 + body.length + 1) =
        front ++ CodePoint.ofChar '{' :: (body ++ [CodePoint.ofChar '}']) := by
      have hwidth : front.length + 1 + body.length + 1 =
          front.length + (body.length + 1 + 1) := by omega
      rw [hwidth, List.take_length_add_append, List.take_succ_cons, List.take_length_add_append,
        List.take_succ_cons, List.take_zero]
    have hbrace : (body ++ CodePoint.ofChar '}' :: more).head? ≠ some (CodePoint.ofChar '{') := by
      refine head?_append_cons_ne (fun hfirst => hhead ?_) more
      rw [List.head?_append, hfirst, Option.some_or]
    refine ⟨?_, ⟨found, hreads⟩, hbrace, ?_⟩
    · rw [hcut]
      simp only [List.append_assoc, List.cons_append, List.nil_append]
    · rw [Nat.zero_add]
      exact .body hbody hread

/-- A zero alignment behind a property and in front of one that is not closed. -/
theorem fault_is_localised_zero :
    let value : Text := "a\x7bB\x7d\x7bC,-00\x7d\x7bD"
    parse value = .error (.malformed ⟨.zeroAlignment, 7, 1⟩) ∧
      ∃ brace close, brace ≤ 7 ∧ ClosesAt value brace close ∧ 7 + 1 ≤ close + 1 ∧
        ∀ more, parse (value.take (close + 1) ++ more) =
          .error (.malformed ⟨.zeroAlignment, 7, 1⟩) := by
  intro value
  have h : parse value = .error (.malformed ⟨.zeroAlignment, 7, 1⟩) := by decide +kernel
  obtain ⟨_, _, brace, hbrace, _, _, ⟨_, hfault⟩ | ⟨close, hclose, hstop, hsame⟩⟩ :=
    fault_is_localised h
  · cases hfault
  · exact ⟨h, brace, close, hbrace, hclose, hstop, hsame⟩

end TemplateLint.Template
