import GlobOracle.Proofs.Number.Integer
import GlobOracle.Proofs.Startup

/-!
# Variables that hold an integer

The number in a variable is told by the text that is left without the blanks around it
(`Environment.Holds`): it is what this text stands for if it is an integer literal, and a default if it is
anything else.  `Environment.integer_reads_literals_only` is the main result.
-/

namespace GlobOracle

namespace Environment

variable {env : Environment} {name : String}

theorem integer?_eq_some_iff {n : Int} :
    env.integer? name = some n ↔ ∃ core, env.Holds name core ∧ Literal.IsInteger core n := by
  rw [integer?, bind_trim_eq_some_iff]
  simp only [Literal.integer?_eq_some_iff]

/-- A number may have blanks around it. -/
theorem holds_padded {n : Int} {left right : String} (hleft : Text.isBlankText left)
    (hright : Text.isBlankText right) (h : env name = some (left ++ toString n ++ right)) :
    env.Holds name (toString n).toList := by
  refine ⟨_, h, ?_⟩
  rw [String.toList_append, String.toList_append]
  rw [Text.isBlankText, List.all_eq_true] at hleft hright
  exact Text.isTrimmed_append hleft hright fun c hc => Literal.not_isBlank_of_mem_toString hc

/-- **An integer is read from the literals and from nothing else.**  Where the text of a variable, without
the blanks around it, is an integer literal, the number is the one that it stands for.  Where it is
anything else, or there is no variable, it is the default.  So the decimal text of a number is read as this
number, whatever blanks stand around it. -/
theorem integer_reads_literals_only (env : Environment) (name : String) (fallback : Int) :
    (∀ core n, env.Holds name core → Literal.IsInteger core n →
      (env.integer? name).getD fallback = n) ∧
    ((∀ core n, env.Holds name core → ¬Literal.IsInteger core n) →
      (env.integer? name).getD fallback = fallback) ∧
    ∀ (n : Int) (left right : String), (toString n.natAbs).length ≤ 4300 →
      Text.isBlankText left → Text.isBlankText right →
      env name = some (left ++ toString n ++ right) → (env.integer? name).getD fallback = n := by
  have hread : ∀ core n, env.Holds name core → Literal.IsInteger core n →
      (env.integer? name).getD fallback = n := by
    intro core n hholds hliteral
    rw [integer?_eq_some_iff.2 ⟨core, hholds, hliteral⟩, Option.getD_some]
  refine ⟨hread, ?_, ?_⟩
  · intro hnone
    cases h : env.integer? name with
    | none => rfl
    | some n =>
      obtain ⟨core, hholds, hliteral⟩ := integer?_eq_some_iff.1 h
      exact absurd hliteral (hnone core n hholds)
  · intro n left right hlength hleft hright htext
    exact hread _ n (holds_padded hleft hright htext) (Literal.isInteger_toString hlength)

/-- Digits of two scripts are read together; two underscores in a row are refused; and a number is read
back from between a tab and a blank that is not ASCII. -/
theorem integer_of_mixed_scripts :
    (integer? (fun _ => some "\u2003-0_\u06642\n") "LIMIT").getD 7 = -42 ∧
    (integer? (fun _ => some "4__2") "LIMIT").getD 7 = 7 ∧
    (integer? (fun _ => some ("\t" ++ toString (-120 : Int) ++ "\u00a0")) "LIMIT").getD 7 = -120 := by
  refine ⟨?_, ?_, ?_⟩
  · have hholds : Holds (fun _ => some "\u2003-0_\u06642\n") "LIMIT" "-0_\u06642".toList :=
      (holds_iff_of_some rfl).2 (by decide)
    have hbody : Literal.Underscored "0_\u06642".toList "0\u06642".toList :=
      .join (by decide) (by decide) (.cons (by decide) (.cons (by decide) .nil))
    have hdigits : Literal.IsDigits "0\u06642".toList [0, 4, 2] := by
      rw [Literal.IsDigits]
      decide
    have hliteral : Literal.IsInteger (['-'] ++ "0_\u06642".toList) (Literal.signed true [0, 4, 2]) :=
      .mk .minus hbody hdigits (by decide) (by decide)
    exact (integer_reads_literals_only _ "LIMIT" 7).1 _ _ hholds hliteral
  · refine (integer_reads_literals_only _ "LIMIT" 7).2.1 fun core n hholds hliteral => ?_
    obtain rfl := (holds_iff_of_some rfl).1 hholds
    have hrefused : Literal.integer? (Text.trim "4__2".toList) = none := by decide
    rw [← Literal.integer?_eq_some_iff, hrefused] at hliteral
    cases hliteral
  · exact (integer_reads_literals_only _ "LIMIT" 7).2.2 (-120) "\t" "\u00a0" (by decide) (by decide)
      (by decide) rfl

end Environment

end GlobOracle
