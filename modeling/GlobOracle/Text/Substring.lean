/-!
# Substrings

`occursIn` asks whether a text stands somewhere inside another one; `occursIn_iff` says so without the
search.
-/

namespace GlobOracle.Text

/-- Does the first text stand somewhere in the second? -/
def occursIn (needle : List Char) : List Char → Bool
  | [] => needle.isPrefixOf []
  | c :: text => needle.isPrefixOf (c :: text) || occursIn needle text

/-- A text occurs in another one exactly if the other one has the form `before ++ needle ++ after`. -/
theorem occursIn_iff {needle text : List Char} :
    occursIn needle text = true ↔ ∃ before after, text = before ++ needle ++ after := by
  induction text with
  | nil =>
      simp only [occursIn, List.isPrefixOf_iff_prefix, List.prefix_nil]
      constructor
      · rintro rfl
        exact ⟨[], [], rfl⟩
      · rintro ⟨before, after, h⟩
        simp_all
  | cons c text ih =>
      simp only [occursIn, Bool.or_eq_true, List.isPrefixOf_iff_prefix, ih]
      constructor
      · rintro (⟨after, h⟩ | ⟨before, after, h⟩)
        · exact ⟨[], after, by simp [h]⟩
        · exact ⟨c :: before, after, by simp [h]⟩
      · rintro ⟨before, after, h⟩
        cases before with
        | nil => exact Or.inl ⟨after, by simpa using h.symm⟩
        | cons d before =>
            simp only [List.cons_append, List.cons.injEq] at h
            exact Or.inr ⟨before, after, h.2⟩

/-- Does the first string stand somewhere in the second? -/
def contains (text needle : String) : Bool := occursIn needle.toList text.toList

end GlobOracle.Text
