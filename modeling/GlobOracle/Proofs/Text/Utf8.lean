import GlobOracle.Text.Utf8
import Mathlib.Tactic.SplitIfs

/-!
# Reading what was written

`encode` writes a text as UTF-8, character by character, and `decode` reads it back (`decode_encode`).  The
other way round, whatever is read without a U+FFFD is what was written (`encode_decode`), so the reader
invents nothing: of bytes that are no text it keeps the mark that they were none.

Both rest on what the reader takes for one character (`Reads`): it is what the writer makes of that
character (`reads_iff`), and if there is none at the front, U+FFFD is read (`exists_reads_of_front`).
-/

namespace GlobOracle.Text.Utf8

/-- A text written as UTF-8. -/
def encode (text : List Char) : List UInt8 := text.flatMap String.utf8EncodeChar

/-- Bytes that a text is written as. -/
def IsWellFormed (bytes : List UInt8) : Prop := ∃ text, bytes = encode text

variable {a : UInt8} {tail bytes : List UInt8} {c : Char}

/-! ## First bytes -/

/-- What a first byte must be to announce something, and which bounds it then sets. -/
def Lead.Fits (b : UInt8) : Lead → Prop
  | .single => b.toNat < 0x80
  | .two => 0xC2 ≤ b.toNat ∧ b.toNat < 0xE0
  | .three low high => 0xE0 ≤ b.toNat ∧ b.toNat < 0xF0 ∧
      (b.toNat = 0xE0 ∧ low.toNat = 0xA0 ∨ b.toNat ≠ 0xE0 ∧ low.toNat = 0x80) ∧
      (b.toNat = 0xED ∧ high.toNat = 0x9F ∨ b.toNat ≠ 0xED ∧ high.toNat = 0xBF)
  | .four low high => 0xF0 ≤ b.toNat ∧ b.toNat < 0xF5 ∧
      (b.toNat = 0xF0 ∧ low.toNat = 0x90 ∨ b.toNat ≠ 0xF0 ∧ low.toNat = 0x80) ∧
      (b.toNat = 0xF4 ∧ high.toNat = 0x8F ∨ b.toNat ≠ 0xF4 ∧ high.toNat = 0xBF)
  | .none => 0x80 ≤ b.toNat ∧ b.toNat < 0xC2 ∨ 0xF5 ≤ b.toNat

theorem fits_lead (b : UInt8) : (lead b).Fits b := by
  have hlt : b.toNat < 256 := b.toNat_lt
  unfold lead
  simp only [UInt8.lt_iff_toNat_lt, beq_iff_eq, ← UInt8.toNat_inj, UInt8.reduceToNat]
  split_ifs <;> simp_all [Lead.Fits] <;> omega

theorem fits_of_lead_eq {b : UInt8} {l : Lead} (h : lead b = l) : l.Fits b := h ▸ fits_lead b

/-- Below 0x80 a byte is a character of its own. -/
theorem lead_eq_single (h : a.toNat < 0x80) : lead a = .single := by
  cases hlead : lead a with
  | single => rfl
  | _ =>
      have hfits := fits_of_lead_eq hlead
      simp only [Lead.Fits] at hfits
      omega

theorem lead_eq_two (hlow : 0xC2 ≤ a.toNat) (hhigh : a.toNat < 0xE0) : lead a = .two := by
  cases hlead : lead a with
  | two => rfl
  | _ =>
      have hfits := fits_of_lead_eq hlead
      simp only [Lead.Fits] at hfits
      omega

theorem exists_lead_eq_three (hlow : 0xE0 ≤ a.toNat) (hhigh : a.toNat < 0xF0) :
    ∃ low high, lead a = .three low high := by
  cases hlead : lead a with
  | three low high => exact ⟨low, high, rfl⟩
  | _ =>
      have hfits := fits_of_lead_eq hlead
      simp only [Lead.Fits] at hfits
      omega

theorem exists_lead_eq_four (hlow : 0xF0 ≤ a.toNat) (hhigh : a.toNat < 0xF5) :
    ∃ low high, lead a = .four low high := by
  cases hlead : lead a with
  | four low high => exact ⟨low, high, rfl⟩
  | _ =>
      have hfits := fits_of_lead_eq hlead
      simp only [Lead.Fits] at hfits
      omega

theorem within_iff {low high b : UInt8} :
    within low high b = true ↔ low.toNat ≤ b.toNat ∧ b.toNat ≤ high.toNat := by
  simp [within, UInt8.le_iff_toNat_le]

theorem continues_iff {b : UInt8} : continues b = true ↔ 0x80 ≤ b.toNat ∧ b.toNat ≤ 0xBF :=
  within_iff

theorem exists_byte {n : Nat} (h : n < 256) : ∃ b : UInt8, b.toNat = n :=
  ⟨UInt8.ofNat n, UInt8.toNat_ofNat_of_lt' h⟩

/-! ## One character -/

/-- The bytes `a :: tail` are one character, as the first of them announces it. -/
inductive Reads : UInt8 → List UInt8 → Char → Prop
  | single {a : UInt8} : lead a = .single → Reads a [] (Char.ofNat a.toNat)
  | two {a b : UInt8} :
      lead a = .two → continues b = true → Reads a [b] (assemble (a.toNat % 32) [b])
  | three {a b c low high : UInt8} :
      lead a = .three low high → within low high b = true → continues c = true →
      Reads a [b, c] (assemble (a.toNat % 16) [b, c])
  | four {a b c d low high : UInt8} :
      lead a = .four low high → within low high b = true → continues c = true → continues d = true →
      Reads a [b, c, d] (assemble (a.toNat % 8) [b, c, d])

/-- A character is read whatever follows it. -/
theorem Reads.front_eq (h : Reads a tail c) (rest : List UInt8) :
    front a (tail ++ rest) = (c, tail.length) := by
  cases h with
  | single hlead => simp [front, hlead]
  | two hlead hb => simp [front, hlead, hb]
  | three hlead hb hc => simp [front, hlead, hb, hc]
  | four hlead hb hc hd => simp [front, hlead, hb, hc, hd]

/-- What is read at the front stands there, unless it is U+FFFD. -/
theorem exists_reads_of_front {rest : List UInt8} (h : (front a rest).1 ≠ replacement) :
    ∃ tail later, rest = tail ++ later ∧ Reads a tail (front a rest).1 ∧
      (front a rest).2 = tail.length := by
  suffices hstands : ∃ tail later c, rest = tail ++ later ∧ Reads a tail c by
    obtain ⟨tail, later, c, rfl, hreads⟩ := hstands
    rw [hreads.front_eq]
    exact ⟨tail, later, rfl, hreads, rfl⟩
  cases hlead : lead a with
  | single => exact ⟨[], rest, _, rfl, .single hlead⟩
  | two =>
      match rest with
      | [] => simp [front, hlead] at h
      | b :: later =>
          by_cases hb : continues b = true
          · exact ⟨[b], later, _, rfl, .two hlead hb⟩
          · simp [front, hlead, hb] at h
  | three low high =>
      match rest with
      | [] => simp [front, hlead] at h
      | [b] => by_cases hb : within low high b = true <;> simp [front, hlead, hb] at h
      | b :: c :: later =>
          by_cases hb : within low high b = true
          · by_cases hc : continues c = true
            · exact ⟨[b, c], later, _, rfl, .three hlead hb hc⟩
            · simp [front, hlead, hb, hc] at h
          · simp [front, hlead, hb] at h
  | four low high =>
      match rest with
      | [] => simp [front, hlead] at h
      | [b] => by_cases hb : within low high b = true <;> simp [front, hlead, hb] at h
      | [b, c] => by_cases hb : within low high b = true <;> simp [front, hlead, hb] at h
      | b :: c :: d :: later =>
          by_cases hb : within low high b = true
          · by_cases hc : continues c = true
            · by_cases hd : continues d = true
              · exact ⟨[b, c, d], later, _, rfl, .four hlead hb hc hd⟩
              · simp [front, hlead, hb, hc, hd] at h
            · simp [front, hlead, hb, hc] at h
          · simp [front, hlead, hb] at h
  | none => simp [front, hlead] at h

/-! ## What is read is what is written -/

/-- The code points of characters, without the surrogates. -/
theorem val_ofNat {n : Nat} (h : n < 0xD800 ∨ 0xDFFF < n ∧ n < 0x110000) :
    (Char.ofNat n).val.toNat = n := by
  rw [Char.ofNat, dif_pos (show n.isValidChar from h)]
  rfl

/-- The writer makes of a character the bytes that it is read from.  The bounds on the second byte keep
the code point in the range that is written with as many bytes, and off the surrogates. -/
theorem Reads.utf8EncodeChar_eq (h : Reads a tail c) : String.utf8EncodeChar c = a :: tail := by
  have ha : a.toNat < 256 := a.toNat_lt
  cases h with
  | single hlead =>
      have hfits := fits_of_lead_eq hlead
      simp only [Lead.Fits] at hfits
      have hcode := val_ofNat (n := a.toNat) (by omega)
      simp only [String.utf8EncodeChar, hcode]
      rw [if_pos (by omega), UInt8.ofNat_toNat]
  | @two b hlead hb =>
      have hfits := fits_of_lead_eq hlead
      simp only [Lead.Fits] at hfits
      rw [continues_iff] at hb
      have hcode : (assemble (a.toNat % 32) [b]).val.toNat = a.toNat % 32 * 64 + b.toNat % 64 :=
        val_ofNat (n := a.toNat % 32 * 64 + b.toNat % 64) (by omega)
      simp only [String.utf8EncodeChar, hcode]
      rw [if_neg (by omega), if_pos (by omega)]
      simp only [List.cons.injEq, ← UInt8.toNat_inj, UInt8.toNat_ofNat']
      exact ⟨by omega, by omega, trivial⟩
  | @three b c low high hlead hb hc =>
      have hfits := fits_of_lead_eq hlead
      simp only [Lead.Fits] at hfits
      rw [within_iff] at hb
      rw [continues_iff] at hc
      have hcode : (assemble (a.toNat % 16) [b, c]).val.toNat =
          (a.toNat % 16 * 64 + b.toNat % 64) * 64 + c.toNat % 64 :=
        val_ofNat (n := (a.toNat % 16 * 64 + b.toNat % 64) * 64 + c.toNat % 64) (by omega)
      simp only [String.utf8EncodeChar, hcode]
      rw [if_neg (by omega), if_neg (by omega), if_pos (by omega)]
      simp only [List.cons.injEq, ← UInt8.toNat_inj, UInt8.toNat_ofNat']
      exact ⟨by omega, by omega, by omega, trivial⟩
  | @four b c d low high hlead hb hc hd =>
      have hfits := fits_of_lead_eq hlead
      simp only [Lead.Fits] at hfits
      rw [within_iff] at hb
      rw [continues_iff] at hc hd
      have hcode : (assemble (a.toNat % 8) [b, c, d]).val.toNat =
          ((a.toNat % 8 * 64 + b.toNat % 64) * 64 + c.toNat % 64) * 64 + d.toNat % 64 :=
        val_ofNat (n := ((a.toNat % 8 * 64 + b.toNat % 64) * 64 + c.toNat % 64) * 64 + d.toNat % 64)
          (by omega)
      simp only [String.utf8EncodeChar, hcode]
      rw [if_neg (by omega), if_neg (by omega), if_neg (by omega)]
      simp only [List.cons.injEq, ← UInt8.toNat_inj, UInt8.toNat_ofNat']
      exact ⟨by omega, by omega, by omega, by omega, trivial⟩

theorem ofNat_eq {n : Nat} (h : n = c.toNat) : Char.ofNat n = c := by
  rw [h, Char.ofNat_toNat]

/-- Every character is read from some bytes. -/
theorem exists_reads (c : Char) : ∃ a tail, Reads a tail c := by
  have hvalid : c.toNat < 0xD800 ∨ 0xDFFF < c.toNat ∧ c.toNat < 0x110000 := c.valid
  by_cases hone : c.toNat < 0x80
  · obtain ⟨a, ha⟩ := exists_byte (n := c.toNat) (by omega)
    exact ⟨a, [], ofNat_eq ha ▸ .single (lead_eq_single (by omega))⟩
  by_cases htwo : c.toNat < 0x800
  · obtain ⟨a, ha⟩ := exists_byte (n := 0xC0 + c.toNat / 64) (by omega)
    obtain ⟨b, hb⟩ := exists_byte (n := 0x80 + c.toNat % 64) (by omega)
    have hcode : assemble (a.toNat % 32) [b] = c := ofNat_eq (by simp only [List.foldl]; omega)
    have hlead : lead a = .two := lead_eq_two (by omega) (by omega)
    exact ⟨a, [b], hcode ▸ .two hlead (continues_iff.2 (by omega))⟩
  by_cases hthree : c.toNat < 0x10000
  · obtain ⟨a, ha⟩ := exists_byte (n := 0xE0 + c.toNat / 4096) (by omega)
    obtain ⟨b, hb⟩ := exists_byte (n := 0x80 + c.toNat / 64 % 64) (by omega)
    obtain ⟨d, hd⟩ := exists_byte (n := 0x80 + c.toNat % 64) (by omega)
    have hcode : assemble (a.toNat % 16) [b, d] = c := ofNat_eq (by simp only [List.foldl]; omega)
    obtain ⟨low, high, hlead⟩ : ∃ low high, lead a = .three low high :=
      exists_lead_eq_three (by omega) (by omega)
    have hfits := fits_of_lead_eq hlead
    simp only [Lead.Fits] at hfits
    exact ⟨a, [b, d], hcode ▸
      .three hlead (within_iff.2 (by omega)) (continues_iff.2 (by omega))⟩
  · obtain ⟨a, ha⟩ := exists_byte (n := 0xF0 + c.toNat / 262144) (by omega)
    obtain ⟨b, hb⟩ := exists_byte (n := 0x80 + c.toNat / 4096 % 64) (by omega)
    obtain ⟨d, hd⟩ := exists_byte (n := 0x80 + c.toNat / 64 % 64) (by omega)
    obtain ⟨e, he⟩ := exists_byte (n := 0x80 + c.toNat % 64) (by omega)
    have hcode : assemble (a.toNat % 8) [b, d, e] = c := ofNat_eq (by simp only [List.foldl]; omega)
    obtain ⟨low, high, hlead⟩ : ∃ low high, lead a = .four low high :=
      exists_lead_eq_four (by omega) (by omega)
    have hfits := fits_of_lead_eq hlead
    simp only [Lead.Fits] at hfits
    exact ⟨a, [b, d, e], hcode ▸ .four hlead (within_iff.2 (by omega))
      (continues_iff.2 (by omega)) (continues_iff.2 (by omega))⟩

/-- **The reader takes for a character exactly the bytes that the writer makes of it.** -/
theorem reads_iff : Reads a tail c ↔ String.utf8EncodeChar c = a :: tail := by
  constructor
  · exact Reads.utf8EncodeChar_eq
  · intro h
    obtain ⟨b, rest, hreads⟩ := exists_reads c
    rw [hreads.utf8EncodeChar_eq] at h
    cases h
    exact hreads

/-! ## Whole texts -/

theorem decodeAfter_length_append (tail rest : List UInt8) :
    decodeAfter tail.length (tail ++ rest) = decode rest := by
  induction tail with
  | nil => rfl
  | cons b tail ih => exact ih

theorem Reads.decode_append (h : Reads a tail c) (rest : List UInt8) :
    decode (a :: (tail ++ rest)) = c :: decode rest := by
  rw [decode, decodeAfter, h.front_eq, decodeAfter_length_append]

/-- A character is read back, and then whatever follows it. -/
theorem decode_utf8EncodeChar_append (c : Char) (rest : List UInt8) :
    decode (String.utf8EncodeChar c ++ rest) = c :: decode rest := by
  obtain ⟨a, tail, hreads⟩ := exists_reads c
  rw [hreads.utf8EncodeChar_eq]
  exact hreads.decode_append rest

/-- **A text that is written is read back.** -/
theorem decode_encode (text : List Char) : decode (encode text) = text := by
  induction text with
  | nil => rfl
  | cons c text ih =>
      have hcons : encode (c :: text) = String.utf8EncodeChar c ++ encode text := List.flatMap_cons
      rw [hcons, decode_utf8EncodeChar_append, ih]

/-- **What is read without U+FFFD is what was written.** -/
theorem encode_decode (h : ∀ c ∈ decode bytes, c ≠ replacement) : encode (decode bytes) = bytes := by
  -- The bytes behind the first character are fewer, though not by one.
  induction hlength : bytes.length using Nat.strongRecOn generalizing bytes with
  | _ length ih =>
      cases bytes with
      | nil => rfl
      | cons a rest =>
          have hfront : (front a rest).1 ≠ replacement := h _ List.mem_cons_self
          obtain ⟨tail, later, rfl, hreads, -⟩ := exists_reads_of_front hfront
          rw [hreads.decode_append] at h ⊢
          have hshorter : later.length < length := by
            rw [← hlength, List.length_cons, List.length_append]
            omega
          have hlater := ih later.length hshorter (fun c hc => h c (List.mem_cons_of_mem _ hc)) rfl
          show String.utf8EncodeChar _ ++ encode (decode later) = _
          rw [hreads.utf8EncodeChar_eq, hlater, List.cons_append]

end GlobOracle.Text.Utf8
