import TemplateLexer.Output.Drawing
import TemplateLexer.Proofs.ErrorPlace
import TemplateLexer.Proofs.Schedule

/-!
# Reports of the errors of a text

A drawing may refuse a report whose span ends before it starts, since then there is nothing to
mark.  It is expected to draw every other report (`Report.Drawing.IsTotal`), and `Report.draw`
does.  How a report looks is not of interest here.

The error of a text is about one character or about the end of the text (`LastToken`), so its
span is in order and there is a drawing of its report (`Report.Drawing.IsTotal.exists_ofError`).
-/

namespace TemplateLexer

/-! ## The last token of a text -/

/-- The last token of a text: the end of input, or the error of a rest that offends. -/
inductive LastToken (text : Text) : Token → Prop where
  | endOfInput : LastToken text (.ofEnd text.size)
  | error {before bad after : Text} {cause : LexError.Cause}
      (split : text = before ++ (bad ++ after)) (offends : Offends cause bad after) :
      LastToken text (.ofError ⟨cause, Span.between before.size (before ++ bad).size⟩)

/-- The last token has an error if it is one. -/
theorem LastToken.cases {text : Text} {last : Token} (ends : LastToken text last) :
    last.kind = .endOfInput ∧ last.error? = none ∨
      last.kind = .error ∧ ∃ e, last.error? = some e := by
  cases ends with
  | endOfInput => exact .inl ⟨rfl, rfl⟩
  | error => exact .inr ⟨rfl, _, rfl⟩

theorem exists_lex_lastToken (name : Text) {text : Text} (fits : text.Fits) :
    ∃ front last, lex name text = .ok (front ++ [last]) ∧ LastToken text last := by
  obtain ⟨visits, run⟩ := exists_run_of_text text
  obtain ⟨front, last, made, endOfInput, error⟩ := run.language_iff
  refine ⟨front, last, by rw [lex_of_run name fits run, made], ?_⟩
  have ends : (tokensOfVisits visits).getLast? = some last := by rw [made, List.getLast?_concat]
  by_cases template : Template text
  · have same := run.eq_ofEnd last (List.mem_of_getLast? ends) (endOfInput.mpr template)
    rw [same]
    exact .endOfInput
  · obtain ⟨before, cause, bad, after, split, offends, same, -, -⟩ :=
      run.closes_iff ends (error.mpr template)
    rw [same]
    exact .error split offends

/-- The span of an error is in order. -/
theorem LastToken.span_ordered {text : Text} {last : Token} (ends : LastToken text last)
    {e : LexError} (isError : last.error? = some e) : e.span.start ≤ e.span.stop := by
  cases ends with
  | endOfInput => cases isError
  | @error before bad after cause split offends =>
      cases isError
      exact Span.between_ordered (Text.size_le_append before bad)

/-! ## Drawings -/

namespace Report

/-- Whether a drawing refuses only what it is documented to refuse, which is a label that ends
before it starts. -/
structure Drawing.IsTotal (draw : Drawing) : Prop where
  exists_text : ∀ r : Report, r.span.start ≤ r.span.stop → ∃ t, draw r = .ok t

theorem draw_isTotal : Drawing.IsTotal draw where
  exists_text r ordered := by
    rw [draw, if_neg (Nat.not_lt_of_le ordered)]
    split
    · exact ⟨_, rfl⟩
    · exact ⟨_, rfl⟩

/-- There is a drawing of the error that a text ends with. -/
theorem Drawing.IsTotal.exists_ofError {draw : Drawing} (total : draw.IsTotal) (color : Bool)
    {source : Source} {last : Token} (ends : LastToken source.text last) {e : LexError}
    (isError : last.error? = some e) : ∃ t, draw (.ofError color source e) = .ok t :=
  total.exists_text _ (ends.span_ordered isError)

end Report

end TemplateLexer
