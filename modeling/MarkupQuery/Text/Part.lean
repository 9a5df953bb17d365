/-!
# Parts of texts

Whether one text stands somewhere in another one.
-/

namespace MarkupQuery.Text

def hasPart (part : List Char) : List Char → Bool
  | [] => part.isEmpty
  | c :: cs => part.isPrefixOf (c :: cs) || hasPart part cs

/-- A text has a part exactly when it is the part with something in front and something behind. -/
theorem hasPart_iff {part text : List Char} :
    hasPart part text = true ↔ ∃ front behind, text = front ++ part ++ behind := by
  induction text with
  | nil => cases part <;> simp [hasPart]
  | cons c cs ih =>
    rw [hasPart, Bool.or_eq_true, List.isPrefixOf_iff_prefix, ih]
    constructor
    · rintro (⟨behind, h⟩ | ⟨front, behind, h⟩)
      · exact ⟨[], behind, by simpa using h.symm⟩
      · exact ⟨c :: front, behind, by simp [h]⟩
    · rintro ⟨front, behind, h⟩
      cases front with
      | nil => exact .inl ⟨behind, by simpa using h.symm⟩
      | cons d front =>
        refine .inr ⟨front, behind, ?_⟩
        simp only [List.cons_append, List.cons.injEq] at h
        exact h.2

end MarkupQuery.Text
