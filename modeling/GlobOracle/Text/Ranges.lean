/-!
# Classes of characters as ranges of code points

A class of characters is a list of closed ranges of code points, lowest first and apart from each
other (`ascending`).  `inRanges` looks a code point up and stops at the first range that starts above
it; on ascending ranges it answers membership (`inRanges_iff`).
-/

namespace GlobOracle.Text

/-- Does a code point lie in one of the ranges?  The search ends at the first range that starts above
the code point. -/
def inRanges : List (Nat × Nat) → Nat → Bool
  | [], _ => false
  | (low, high) :: ranges, n =>
      decide (low ≤ n) && (decide (n ≤ high) || inRanges ranges n)

/-- Every range is well formed and ends below the start of the next one. -/
def ascending : List (Nat × Nat) → Bool
  | [] => true
  | [range] => decide (range.1 ≤ range.2)
  | range :: next :: ranges =>
      decide (range.1 ≤ range.2) && decide (range.2 < next.1) && ascending (next :: ranges)

/-- In ascending ranges, all ranges after the first start above its start. -/
theorem le_of_mem_ascending {range other : Nat × Nat} {ranges : List (Nat × Nat)}
    (h : ascending (range :: ranges) = true) (hmem : other ∈ ranges) : range.1 ≤ other.1 := by
  induction ranges generalizing range with
  | nil => simp at hmem
  | cons next rest ih =>
      simp only [ascending, Bool.and_eq_true, decide_eq_true_eq] at h
      rcases List.mem_cons.1 hmem with rfl | hmem
      · omega
      · have := ih h.2 hmem
        omega

/-- The search finds exactly the code points that lie in one of the ranges. -/
theorem inRanges_iff {ranges : List (Nat × Nat)} (h : ascending ranges = true) (n : Nat) :
    inRanges ranges n = true ↔ ∃ range ∈ ranges, range.1 ≤ n ∧ n ≤ range.2 := by
  induction ranges with
  | nil => simp [inRanges]
  | cons range rest ih =>
      have hrest : ascending rest = true := by
        cases rest with
        | nil => rfl
        | cons next rest =>
            simp only [ascending, Bool.and_eq_true] at h
            exact h.2
      obtain ⟨low, high⟩ := range
      simp only [inRanges, Bool.and_eq_true, Bool.or_eq_true, decide_eq_true_eq, ih hrest,
        List.mem_cons, exists_eq_or_imp]
      constructor
      · rintro ⟨hlow, hhigh | hlater⟩
        · exact Or.inl ⟨hlow, hhigh⟩
        · exact Or.inr hlater
      · rintro (hhere | ⟨other, hmem, hother⟩)
        · exact ⟨hhere.1, Or.inl hhere.2⟩
        · have := le_of_mem_ascending h hmem
          exact ⟨by omega, Or.inr ⟨other, hmem, hother⟩⟩

end GlobOracle.Text
