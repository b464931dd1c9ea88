import GlobOracle.Proofs.Containment
import GlobOracle.Proofs.Text.Trim
import GlobOracle.Proofs.Text.Utf8

/-!
# Outcomes are told by bytes

An outcome is told from two streams by reading them as texts, trimming these, and seeing whether anything
is left.  `Outcome.classify_tells_by_bytes` says it of the bytes: a stream counts as empty exactly if it is
what blank characters are written as (`IsBlankBytes`).  Since the reader puts U+FFFD, which is not blank, in
place of everything that is no text, such bytes never count as empty (`trim_decode_eq_nil_iff`), and neither
does a byte order mark or a NUL, which no blank character is written with.
-/

namespace GlobOracle

namespace Text

/-- Bytes that blank characters are written as, or no bytes at all. -/
def IsBlankBytes (bytes : List UInt8) : Prop :=
  ∃ text : List Char, (∀ c ∈ text, isBlank c = true) ∧ bytes = Utf8.encode text

/-- The byte order mark, as it is written. -/
def byteOrderMark : List UInt8 := String.utf8EncodeChar '\uFEFF'

/-- Something in a stream that keeps it from counting as empty: it is no text, or it holds a byte order mark
or a NUL. -/
def IsTelling (bytes : List UInt8) : Prop :=
  ¬ Utf8.IsWellFormed bytes ∨ byteOrderMark <:+: bytes ∨ 0 ∈ bytes

variable {bytes : List UInt8}

/-- **Nothing is left of a stream exactly if it is written in blank characters.** -/
theorem trim_decode_eq_nil_iff : trim (Utf8.decode bytes) = [] ↔ IsBlankBytes bytes := by
  rw [trim, trimBy_eq_nil_iff]
  constructor
  · intro hblank
    refine ⟨Utf8.decode bytes, hblank, (Utf8.encode_decode ?_).symm⟩
    rintro c hc rfl
    cases hblank _ hc
  · rintro ⟨text, hblank, rfl⟩
    rwa [Utf8.decode_encode]

/-! ## What no blank character is written with -/

/-- The code points of the blank characters, one by one. -/
def blankCodes : List Nat := blankRanges.flatMap fun range => List.range' range.1 (range.2 + 1 - range.1)

theorem toNat_mem_blankCodes {c : Char} (h : isBlank c = true) : c.toNat ∈ blankCodes := by
  obtain ⟨range, hrange, hlow, hhigh⟩ := (inRanges_iff ascending_blankRanges c.toNat).1 h
  refine List.mem_flatMap.2 ⟨range, hrange, ?_⟩
  rw [List.mem_range'_1]
  omega

theorem ne_of_mem_utf8EncodeChar {c : Char} {b : UInt8} (h : isBlank c = true)
    (hb : b ∈ String.utf8EncodeChar c) : b ≠ 0 ∧ b ≠ 0xEF := by
  -- The blanks are few enough to look through the bytes of each.
  have hall : ∀ n ∈ blankCodes, ∀ b ∈ String.utf8EncodeChar (Char.ofNat n), b ≠ 0 ∧ b ≠ 0xEF := by
    decide +kernel
  rw [← Char.ofNat_toNat c] at hb
  exact hall _ (toNat_mem_blankCodes h) b hb

theorem ne_of_mem_blankBytes {b : UInt8} (h : IsBlankBytes bytes) (hb : b ∈ bytes) :
    b ≠ 0 ∧ b ≠ 0xEF := by
  obtain ⟨text, hblank, rfl⟩ := h
  obtain ⟨c, hc, hb⟩ := List.mem_flatMap.1 hb
  exact ne_of_mem_utf8EncodeChar (hblank c hc) hb

theorem not_isBlankBytes_of_isTelling (h : IsTelling bytes) : ¬ IsBlankBytes bytes := by
  intro hblank
  rcases h with hill | hmark | hnul
  · obtain ⟨text, -, htext⟩ := hblank
    exact hill ⟨text, htext⟩
  · have hfirst : (0xEF : UInt8) ∈ bytes := hmark.subset (by decide)
    exact (ne_of_mem_blankBytes hblank hfirst).2 rfl
  · exact (ne_of_mem_blankBytes hblank hnul).1 rfl

end Text

open Text

/-! ## Outcomes -/

theorem isEmpty_ofList_trim_decode (bytes : List UInt8) :
    (String.ofList (trim (Utf8.decode bytes))).isEmpty = true ↔ IsBlankBytes bytes := by
  rw [String.isEmpty_iff, String.ofList_eq_empty_iff, trim_decode_eq_nil_iff]

namespace Outcome

/-- **Outcomes are told by the bytes of the streams**, whether they are well-formed or not.  The shell has
complained exactly if its error stream is not blank, whatever stands on the other one; otherwise the
subject matches exactly if the other one is not blank.  A stream that is no text, or holds a byte order mark
or a NUL, is never taken for an empty one. -/
theorem classify_tells_by_bytes (output errors : List UInt8) :
    ∃ outcome, classify (.streams (.bytes output) (.bytes errors)) = .ok outcome ∧
      ((∃ complaint, outcome = .evaluationError complaint) ↔ ¬ IsBlankBytes errors) ∧
      (outcome = .matched ↔ IsBlankBytes errors ∧ ¬ IsBlankBytes output) ∧
      (outcome = .notMatched ↔ IsBlankBytes errors ∧ IsBlankBytes output) ∧
      (IsTelling errors → ∃ complaint, outcome = .evaluationError complaint) ∧
      (IsBlankBytes errors → IsTelling output → outcome = .matched) := by
  refine ⟨_, classify_bytes output errors, ?_⟩
  by_cases herrors : IsBlankBytes errors
  · have hnot : ¬ IsTelling errors := fun h => not_isBlankBytes_of_isTelling h herrors
    rw [if_pos ((isEmpty_ofList_trim_decode errors).2 herrors)]
    by_cases houtput : IsBlankBytes output
    · have hnot' : ¬ IsTelling output := fun h => not_isBlankBytes_of_isTelling h houtput
      rw [if_pos ((isEmpty_ofList_trim_decode output).2 houtput)]
      simp [herrors, houtput, hnot, hnot']
    · rw [if_neg (mt (isEmpty_ofList_trim_decode output).1 houtput)]
      simp [herrors, houtput, hnot]
  · rw [if_neg (mt (isEmpty_ofList_trim_decode errors).1 herrors)]
    simp [herrors]

/-- An em space on the error stream is no complaint, and a character that is cut short is a match. -/
theorem classify_blank_and_cut_short :
    classify (.streams (.bytes [0x20, 0xE2, 0x80]) (.bytes [0xE2, 0x80, 0x83, 0x0A])) =
      .ok .matched := by
  obtain ⟨outcome, hclassify, -, hmatched, -⟩ :=
    classify_tells_by_bytes [0x20, 0xE2, 0x80] [0xE2, 0x80, 0x83, 0x0A]
  have herrors : IsBlankBytes [0xE2, 0x80, 0x83, 0x0A] := by
    rw [← trim_decode_eq_nil_iff]
    decide
  have houtput : ¬ IsBlankBytes [0x20, 0xE2, 0x80] := by
    rw [← trim_decode_eq_nil_iff]
    decide
  rw [hclassify, hmatched.2 ⟨herrors, houtput⟩]

end Outcome

end GlobOracle
