import GlobOracle.Text.Blank
import Mathlib.Data.List.DropRight

/-!
# What trimming leaves

Trimming cuts a text into three pieces and drops the outer two: these hold nothing but characters of the
class, and the piece between them neither begins nor ends with one (`IsTrimmed`).  A text can be cut in
one way only, so this describes the outcome (`trimBy_eq_iff`).

* `trimBy_eq_nil_iff` — nothing is left exactly of a text that holds nothing else.
* `trimmed_trimmed` — trimming twice is trimming once.
-/

namespace GlobOracle.Text

variable {drops : Char → Bool} {text core : List Char}

/-- The piece of a text between two others that hold only characters of a class.  It neither begins nor
ends with one itself. -/
structure IsTrimmed (drops : Char → Bool) (text core : List Char) : Prop where
  pieces : ∃ left right, text = left ++ core ++ right ∧
    (∀ c ∈ left, drops c = true) ∧ ∀ c ∈ right, drops c = true
  head : ∀ c, core.head? = some c → drops c = false
  last : ∀ c, core.getLast? = some c → drops c = false

/-- Nothing is left exactly of a text of characters of the class alone. -/
theorem trimBy_eq_nil_iff : trimBy drops text = [] ↔ ∀ c ∈ text, drops c = true := by
  show (text.dropWhile drops).rdropWhile drops = [] ↔ _
  rw [List.rdropWhile_eq_nil_iff]
  constructor
  · intro h c hc
    rw [← List.takeWhile_append_dropWhile (p := drops) (l := text), List.mem_append] at hc
    rcases hc with hc | hc
    · exact List.mem_takeWhile_imp hc
    · exact h c hc
  · intro h c hc
    exact h c ((List.dropWhile_sublist drops).subset hc)

/-! ## The cut that trimming makes -/

theorem isTrimmed_trimBy (drops : Char → Bool) (text : List Char) :
    IsTrimmed drops text (trimBy drops text) := by
  have hright : trimBy drops text ++ (text.dropWhile drops).rtakeWhile drops = text.dropWhile drops :=
    List.rdropWhile_append_rtakeWhile
  refine ⟨⟨text.takeWhile drops, (text.dropWhile drops).rtakeWhile drops, ?_,
    fun c hc => List.mem_takeWhile_imp hc, fun c hc => List.mem_rtakeWhile_imp hc⟩, ?_, ?_⟩
  · rw [List.append_assoc, hright, List.takeWhile_append_dropWhile]
  · intro c hc
    have hfront : (text.dropWhile drops).head? = some c := by
      rw [← hright, List.head?_append, hc, Option.some_or]
    have hnot := List.head?_dropWhile_not drops text
    rwa [hfront] at hnot
  · intro c hc
    have hnot := List.head?_dropWhile_not drops (text.dropWhile drops).reverse
    have hback : ((text.dropWhile drops).reverse.dropWhile drops).head? = some c := by
      rw [← List.getLast?_reverse]
      exact hc
    rwa [hback] at hnot

/-- A piece without characters of the class is what is left of it and any such characters around it. -/
theorem isTrimmed_append {left right : List Char} (hleft : ∀ c ∈ left, drops c = true)
    (hright : ∀ c ∈ right, drops c = true) (hcore : ∀ c ∈ core, drops c = false) :
    IsTrimmed drops (left ++ core ++ right) core where
  pieces := ⟨left, right, rfl, hleft, hright⟩
  head c hc := hcore c (List.mem_of_mem_head? hc)
  last c hc := hcore c (List.mem_of_mem_getLast? hc)

/-- **Trimming is the only way to cut a text like this.** -/
theorem trimBy_eq_iff : trimBy drops text = core ↔ IsTrimmed drops text core := by
  constructor
  · rintro rfl
    exact isTrimmed_trimBy drops text
  · rintro ⟨⟨left, right, rfl, hleft, hright⟩, hhead, hlast⟩
    cases core with
    | nil =>
        rw [trimBy_eq_nil_iff]
        intro c hc
        rw [List.append_nil, List.mem_append] at hc
        exact hc.elim (hleft c) (hright c)
    | cons d core =>
        have hd : drops d = false := hhead d rfl
        have hfront : (left ++ d :: core ++ right).dropWhile drops = d :: core ++ right := by
          rw [List.append_assoc, List.dropWhile_append_of_pos hleft, List.cons_append,
            List.dropWhile_cons, hd, if_neg Bool.false_ne_true]
        have hback : (d :: core ++ right).reverse.dropWhile drops = (d :: core).reverse := by
          rw [List.reverse_append, List.dropWhile_append_of_pos (by simpa using hright)]
          cases hreversed : (d :: core).reverse with
          | nil => rfl
          | cons e rest =>
              have he : drops e = false := hlast e (by rw [← List.head?_reverse, hreversed]; rfl)
              rw [List.dropWhile_cons, he, if_neg Bool.false_ne_true]
        rw [trimBy, hfront, hback, List.reverse_reverse]

theorem trimBy_trimBy (drops : Char → Bool) (text : List Char) :
    trimBy drops (trimBy drops text) = trimBy drops text := by
  have h := isTrimmed_trimBy drops text
  exact trimBy_eq_iff.2 ⟨⟨[], [], by simp, by simp, by simp⟩, h.head, h.last⟩

/-! ## Texts without the blanks around them -/

/-- A text is blank exactly if nothing of it is left. -/
theorem isEmpty_trimmed (text : String) : (trimmed text).isEmpty = isBlankText text := by
  rw [Bool.eq_iff_iff, String.isEmpty_iff, trimmed, String.ofList_eq_empty_iff, trim, trimBy_eq_nil_iff,
    isBlankText, List.all_eq_true]

theorem trimmed_trimmed (text : String) : trimmed (trimmed text) = trimmed text := by
  rw [trimmed, trimmed, String.toList_ofList, trim, trim, trimBy_trimBy]

end GlobOracle.Text
