import GlobOracle.Proofs.Number.Literal
import Mathlib.Data.List.Chain
import Mathlib.Data.List.TakeWhile
import Mathlib.Data.Nat.Digits.Defs

/-!
# The grammar of integer literals

An integer literal is described by its form: `IsInteger text n` puts a text together from a sign that may
be left out and at most 4300 digits of any script, with at most one underscore between two of them, and
says which number it stands for by what its digits are worth at their places.  The pieces are those of the
decimal literals.

The reader goes through the digits with a flag that tells whether an underscore may come next.  Behind a
digit it accepts what `Follows` describes, and at the front what is `Underscored` and not empty; both are
one statement about the character before (`digitRun_eq_some_iff`), proved by one induction.

* `Text.digit?_eq_some_iff` — which characters are digits, and which digits they are.
* `integer?_eq_some_iff` — the reader accepts the literals, each with its number, and nothing else.
* `isInteger_toString` — the decimal text of a number is a literal that stands for it.
-/

namespace GlobOracle

/-! ## Digits of every script -/

namespace Text

/-- The rows of digits come one after another. -/
theorem pairwise_zeros : zeros.Pairwise fun a b => a + 10 ≤ b := by
  have : Trans (fun a b : Nat => a + 10 ≤ b) (fun a b => a + 10 ≤ b) fun a b => a + 10 ≤ b :=
    ⟨fun hab hbc => by omega⟩
  rw [← List.isChain_iff_pairwise]
  decide +kernel

/-- No two rows of digits have a character in common. -/
theorem eq_of_mem_zeros {a b n : Nat} (ha : a ∈ zeros) (hb : b ∈ zeros) (hna : a ≤ n ∧ n < a + 10)
    (hnb : b ≤ n ∧ n < b + 10) : a = b := by
  obtain ⟨i, hi, rfl⟩ := List.mem_iff_getElem.1 ha
  obtain ⟨j, hj, rfl⟩ := List.mem_iff_getElem.1 hb
  have hapart := List.pairwise_iff_getElem.1 pairwise_zeros
  rcases Nat.lt_trichotomy i j with hij | rfl | hij
  · have hrows := hapart i j hi hj hij
    omega
  · rfl
  · have hrows := hapart j i hj hi hij
    omega

/-- A character stands for a digit if it is so many places behind the zero of a row of ten. -/
theorem digit?_eq_some_iff {c : Char} {d : Nat} :
    digit? c = some d ↔ d < 10 ∧ ∃ first ∈ zeros, c.toNat = first + d := by
  rw [digit?, Option.map_eq_some_iff]
  constructor
  · rintro ⟨first, hfind, rfl⟩
    have hrow := List.find?_some hfind
    simp only [Bool.and_eq_true, decide_eq_true_eq] at hrow
    exact ⟨by omega, first, List.mem_of_find?_eq_some hfind, by omega⟩
  · rintro ⟨hd, first, hfirst, hc⟩
    have hin : (zeros.find? fun z => decide (z ≤ c.toNat) && decide (c.toNat < z + 10)).isSome := by
      rw [List.find?_isSome]
      exact ⟨first, hfirst, by simp only [Bool.and_eq_true, decide_eq_true_eq]; omega⟩
    obtain ⟨found, hfind⟩ := Option.isSome_iff_exists.1 hin
    have hrow := List.find?_some hfind
    simp only [Bool.and_eq_true, decide_eq_true_eq] at hrow
    have hsame : found = first :=
      eq_of_mem_zeros (List.mem_of_find?_eq_some hfind) hfirst hrow (by omega)
    exact ⟨found, hfind, by omega⟩

end Text

namespace Literal

open Text (digit? ofDigits)

/-! ## The form -/

/-- The number written by decimal digits, the most significant first, with its sign. -/
def signed (negative : Bool) (digits : List Nat) : Int :=
  if negative then -(Nat.ofDigits 10 digits.reverse : Nat) else (Nat.ofDigits 10 digits.reverse : Nat)

/-- A text is an integer literal that stands for a number. -/
inductive IsInteger : List Char → Int → Prop
  /-- A sign before at least one digit and at most 4300, with underscores between digits. -/
  | mk {sign body plain : List Char} {negative : Bool} {digits : List Nat}
      (hsign : IsSign sign negative) (hbody : Underscored body plain)
      (hdigits : IsDigits plain digits) (hne : digits ≠ []) (hlength : digits.length ≤ 4300) :
      IsInteger (sign ++ body) (signed negative digits)

/-- Reading digits from the left gives each its place value. -/
theorem ofDigits_eq (digits : List Nat) : ofDigits digits = Nat.ofDigits 10 digits.reverse := by
  rw [Nat.ofDigits_eq_foldr, List.foldr_reverse, ofDigits]
  simp only [Nat.cast_id, Nat.add_comm]

theorem signed_eq (negative : Bool) (digits : List Nat) :
    (if negative then -(ofDigits digits : Int) else ofDigits digits) = signed negative digits := by
  rw [signed, ofDigits_eq]

/-! ## Digits with underscores between them -/

theorem not_isDigits_nil {c : Char} {text : List Char} : ¬IsDigits (c :: text) [] := by
  simp [IsDigits]

theorem follows_nil_iff {previous : Option Char} {plain : List Char} :
    Follows previous [] plain ↔ plain = [] := by
  simp [Follows, underscored_nil_iff]

/-- Only a digit can be followed in another way than a text of its own. -/
theorem follows_iff_of_no_digit {previous : Option Char} (h : (previous.bind digit?).isSome = false)
    {text plain : List Char} : Follows previous text plain ↔ Underscored text plain := by
  simp [Follows, h]

/-- Behind a digit an underscore may stand, if more digits follow it. -/
theorem follows_underscore_digits_iff {previous : Option Char} {rest plain : List Char}
    {digits : List Nat} (hdigits : IsDigits plain digits) :
    Follows previous ('_' :: rest) plain ↔
      (previous.bind digit?).isSome ∧ digits ≠ [] ∧ Underscored rest plain := by
  cases rest with
  | nil =>
    constructor
    · exact fun h => absurd h not_follows_lone_underscore
    · rintro ⟨-, hne, hnil⟩
      rw [underscored_nil_iff.1 hnil, isDigits_nil_iff] at hdigits
      exact absurd hdigits hne
  | cons d rest =>
    rw [follows_underscore_iff]
    constructor
    · rintro ⟨hprevious, hd, hrest⟩
      refine ⟨hprevious, ?_, hrest⟩
      rintro rfl
      have hd' : d ≠ '_' := ne_of_isSome_digit? hd (by decide)
      obtain ⟨plain, rfl, -⟩ := (underscored_cons_iff hd').1 hrest
      exact not_isDigits_nil hdigits
    · rintro ⟨hprevious, hne, hrest⟩
      have hd' : d ≠ '_' := by
        rintro rfl
        exact not_underscored_of_underscore hrest
      obtain ⟨plain, rfl, -⟩ := (underscored_cons_iff hd').1 hrest
      obtain ⟨c, tail, heq, hc⟩ := hdigits.exists_cons hne
      obtain ⟨rfl, rfl⟩ := List.cons.inj heq
      exact ⟨hprevious, hc, hrest⟩

theorem digitRun_cons {c : Char} (hc : c ≠ '_') (afterDigit : Bool) (rest : List Char) :
    digitRun afterDigit (c :: rest) =
      (digit? c).bind fun d => (digitRun true rest).map (d :: ·) := by
  cases h : digit? c <;> simp [digitRun, hc, h]

theorem digitRun_underscore (afterDigit : Bool) (rest : List Char) :
    digitRun afterDigit ('_' :: rest) = if afterDigit then digitRun false rest else none := by
  simp [digitRun]

/-- **What the reader of digits accepts** behind some character, or at the front: digits with underscores
between them, and behind a digit also none at all. -/
theorem digitRun_eq_some_iff {previous : Option Char} {text : List Char} {digits : List Nat} :
    digitRun (previous.bind digit?).isSome text = some digits ↔
      ((previous.bind digit?).isSome ∨ digits ≠ []) ∧
        ∃ plain, Follows previous text plain ∧ IsDigits plain digits := by
  induction text generalizing previous digits with
  | nil =>
    simp only [follows_nil_iff, exists_eq_left, isDigits_nil_iff, digitRun]
    cases (previous.bind digit?).isSome <;> simp [eq_comm]
  | cons c rest ih =>
    by_cases hc : c = '_'
    · subst hc
      -- An underscore is no digit, so what comes behind it must begin like a text of its own.
      have hunderscore : ((some '_').bind digit?).isSome = false := by decide
      have hrest := @ih (some '_') digits
      simp only [hunderscore, follows_iff_of_no_digit hunderscore] at hrest
      rw [digitRun_underscore]
      constructor
      · intro h
        split_ifs at h with hprevious
        obtain ⟨hne, plain, hplain, hdigits⟩ := hrest.1 h
        have hne : digits ≠ [] := by simpa using hne
        exact ⟨.inl hprevious, plain,
          (follows_underscore_digits_iff hdigits).2 ⟨hprevious, hne, hplain⟩, hdigits⟩
      · rintro ⟨-, plain, hplain, hdigits⟩
        obtain ⟨hprevious, hne, hplain⟩ := (follows_underscore_digits_iff hdigits).1 hplain
        rw [if_pos hprevious]
        exact hrest.2 ⟨.inr hne, plain, hplain, hdigits⟩
    · rw [digitRun_cons hc]
      simp only [follows_cons_iff hc, underscored_cons_iff hc]
      constructor
      · intro h
        obtain ⟨d, hd, hmap⟩ := Option.bind_eq_some_iff.1 h
        obtain ⟨ds, hds, rfl⟩ := Option.map_eq_some_iff.1 hmap
        have hbehind : ((some c).bind digit?).isSome = true := by simp [hd]
        rw [← hbehind] at hds
        obtain ⟨-, plain, hplain, hdigits⟩ := ih.1 hds
        exact ⟨.inr (List.cons_ne_nil d ds), c :: plain, ⟨plain, rfl, hplain⟩,
          isDigits_cons_iff.2 ⟨hd, hdigits⟩⟩
      · rintro ⟨-, -, ⟨plain, rfl, hplain⟩, hdigits⟩
        cases digits with
        | nil => exact absurd hdigits not_isDigits_nil
        | cons d ds =>
          obtain ⟨hd, hdigits⟩ := isDigits_cons_iff.1 hdigits
          have hbehind : ((some c).bind digit?).isSome = true := by simp [hd]
          have hds := (@ih (some c) ds).2 ⟨.inl hbehind, plain, hplain, hdigits⟩
          rw [hbehind] at hds
          rw [hd, Option.bind_some, hds, Option.map_some]

/-- At the front the reader accepts at least one digit, with underscores between digits. -/
theorem digitRun_false_iff {text : List Char} {digits : List Nat} :
    digitRun false text = some digits ↔
      digits ≠ [] ∧ ∃ plain, Underscored text plain ∧ IsDigits plain digits := by
  have h := @digitRun_eq_some_iff none text digits
  have hfront : ((none : Option Char).bind digit?).isSome = false := rfl
  simpa [hfront, follows_iff_of_no_digit hfront] using h

/-! ## Literals -/

theorem exists_cons_of_underscored {c : Char} {text plain : List Char}
    (h : Underscored text (c :: plain)) : ∃ rest, text = c :: rest := by
  cases h with
  | cons => exact ⟨_, rfl⟩
  | join => exact ⟨_, rfl⟩

/-- Nothing but underscores is left out of a text without underscores. -/
theorem eq_underscore_or_mem {text plain : List Char} (h : Underscored text plain) {c : Char}
    (hc : c ∈ text) : c = '_' ∨ c ∈ plain := by
  induction h with
  | nil => exact absurd hc List.not_mem_nil
  | cons _ _ ih =>
    rcases List.mem_cons.1 hc with rfl | hc
    · exact .inr List.mem_cons_self
    · exact (ih hc).imp_right (List.mem_cons_of_mem _)
  | join _ _ _ ih =>
    rcases List.mem_cons.1 hc with rfl | hc
    · exact .inr List.mem_cons_self
    · rcases List.mem_cons.1 hc with rfl | hc
      · exact .inl rfl
      · exact (ih hc).imp_right (List.mem_cons_of_mem _)

theorem IsDigits.isSome_of_mem {text : List Char} {digits : List Nat} (h : IsDigits text digits)
    {c : Char} (hc : c ∈ text) : (digit? c).isSome := by
  have hmem : digit? c ∈ digits.map some := h ▸ List.mem_map_of_mem hc
  obtain ⟨d, -, hd⟩ := List.mem_map.1 hmem
  rw [← hd]
  rfl

/-- What is read as digits holds nothing that ends a literal. -/
theorem inRun_of_digitRun {text : List Char} {digits : List Nat}
    (h : digitRun false text = some digits) : ∀ c ∈ text, inRun c = true := by
  obtain ⟨-, plain, hplain, hdigits⟩ := digitRun_false_iff.1 h
  intro c hc
  rcases eq_underscore_or_mem hplain hc with rfl | hc
  · rfl
  · simp [inRun, hdigits.isSome_of_mem hc]

theorem readInteger_eq_ok_iff {text : List Char} {n : Int} :
    readInteger text = .ok n ↔
      ∃ digits, digitRun false (splitSign text).2 = some digits ∧ digits.length ≤ 4300 ∧
        n = signed (splitSign text).1 digits := by
  rw [readInteger]
  generalize splitSign text = split
  obtain ⟨negative, body⟩ := split
  dsimp only
  constructor
  · intro h
    cases hrun : digitRun false (body.takeWhile inRun) with
    | none => simp [hrun] at h
    | some digits =>
      simp only [hrun, signed_eq] at h
      split_ifs at h with hlength hend
      have hwhole : body.takeWhile inRun = body := by
        have happend := List.takeWhile_append_dropWhile (p := inRun) (l := body)
        rwa [List.isEmpty_iff.1 hend, List.append_nil] at happend
      rw [hwhole] at hrun
      exact ⟨digits, hrun, Nat.le_of_not_lt hlength, (Except.ok.inj h).symm⟩
  · rintro ⟨digits, hrun, hlength, rfl⟩
    have hin := inRun_of_digitRun hrun
    have hlength' : ¬maxDigits < digits.length := Nat.not_lt_of_le hlength
    simp [List.takeWhile_eq_self_iff.2 hin, List.dropWhile_eq_nil_iff.2 hin, hrun, hlength', signed_eq]

/-- **Reading an integer literal.**  The reader accepts the literals, each with the number that it stands
for, and nothing else. -/
theorem integer?_eq_some_iff {text : List Char} {n : Int} :
    integer? text = some n ↔ IsInteger text n := by
  have hok : integer? text = some n ↔ readInteger text = .ok n := by
    cases h : readInteger text <;> simp [integer?, h, Except.toOption]
  rw [hok, readInteger_eq_ok_iff]
  constructor
  · rintro ⟨digits, hrun, hlength, rfl⟩
    obtain ⟨sign, happend, hsign⟩ := exists_sign text
    obtain ⟨hne, plain, hbody, hdigits⟩ := digitRun_false_iff.1 hrun
    have hliteral := IsInteger.mk hsign hbody hdigits hne hlength
    rwa [← happend] at hliteral
  · rintro ⟨hsign, hbody, hdigits, hne, hlength⟩
    obtain ⟨c, plain, rfl, hc⟩ := hdigits.exists_cons hne
    obtain ⟨rest, rfl⟩ := exists_cons_of_underscored hbody
    rw [splitSign_append hsign (isUnsignedHead_of_isSome hc)]
    exact ⟨_, digitRun_false_iff.2 ⟨hne, _, hbody, hdigits⟩, hlength, rfl⟩

/-! ## The decimal text of a number -/

theorem underscored_self {text : List Char} (h : '_' ∉ text) : Underscored text text := by
  induction text with
  | nil => exact .nil
  | cons c rest ih =>
    rw [List.mem_cons, not_or] at h
    exact .cons (Ne.symm h.1) (ih h.2)

theorem digit?_of_isDigit {c : Char} (h : c.isDigit = true) :
    digit? c = some (c.toNat - '0'.toNat) := by
  have hrange : 48 ≤ c.toNat ∧ c.toNat ≤ 57 := Char.isDigit_iff_toNat.1 h
  have hzero : '0'.toNat = 48 := rfl
  exact Text.digit?_eq_some_iff.2 ⟨by omega, 48, by decide, by omega⟩

/-- The digits of a number are written one by one. -/
theorem isDigits_toDigits (n : Nat) :
    IsDigits (Nat.toDigits 10 n) ((Nat.toDigits 10 n).map fun c => c.toNat - '0'.toNat) := by
  rw [IsDigits, List.map_map]
  apply List.map_congr_left
  intro c hc
  exact digit?_of_isDigit (Nat.isDigit_of_mem_toDigits (by decide) (by decide) hc)

/-- A number is the sum of what its digits are worth at their places. -/
theorem ofDigits_toDigits (n : Nat) :
    Nat.ofDigits 10 ((Nat.toDigits 10 n).map fun c => c.toNat - '0'.toNat).reverse = n := by
  rw [← ofDigits_eq, ofDigits, List.foldl_map]
  exact Nat.ofDigitChars_ten_toDigits

theorem toList_toString_nat (n : Nat) : (toString n).toList = Nat.toDigits 10 n := by
  rw [Nat.toString_eq_repr, Nat.toList_repr]

/-- The text of a number is a sign, if it is negative, before the digits of its absolute value. -/
theorem exists_sign_toString (n : Int) :
    ∃ sign negative, IsSign sign negative ∧ (toString n).toList = sign ++ Nat.toDigits 10 n.natAbs ∧
      (if negative then -(n.natAbs : Int) else n.natAbs) = n := by
  cases n with
  | ofNat m => exact ⟨[], false, .absent, toList_toString_nat m, rfl⟩
  | negSucc m =>
    refine ⟨['-'], true, .minus, ?_, rfl⟩
    show ("-" ++ Nat.repr (m + 1)).toList = _
    rw [String.toList_append, Nat.toList_repr]
    rfl

/-- **The decimal text of a number** is a literal that stands for it, unless it has too many digits. -/
theorem isInteger_toString {n : Int} (h : (toString n.natAbs).length ≤ 4300) :
    IsInteger (toString n).toList n := by
  obtain ⟨sign, negative, hsign, htext, hn⟩ := exists_sign_toString n
  have hdigits := isDigits_toDigits n.natAbs
  have hplain : Underscored (Nat.toDigits 10 n.natAbs) (Nat.toDigits 10 n.natAbs) :=
    underscored_self Nat.underscore_not_in_toDigits
  have hlength : (Nat.toDigits 10 n.natAbs).length ≤ 4300 := by
    rwa [← toList_toString_nat, String.length_toList]
  have hliteral := IsInteger.mk hsign hplain hdigits (by simp) (by simpa using hlength)
  rwa [← htext, signed, ofDigits_toDigits, hn] at hliteral

/-- No blank is written in a number. -/
theorem not_isBlank_of_mem_toString {n : Int} {c : Char} (h : c ∈ (toString n).toList) :
    Text.isBlank c = false := by
  obtain ⟨sign, negative, hsign, htext, -⟩ := exists_sign_toString n
  rw [htext, List.mem_append] at h
  rcases h with h | h
  · cases hsign with
    | absent => exact absurd h List.not_mem_nil
    | plus =>
      obtain rfl := List.mem_singleton.1 h
      decide
    | minus =>
      obtain rfl := List.mem_singleton.1 h
      decide
  · have hdigit := Nat.isDigit_of_mem_toDigits (by decide) (by decide) h
    have hrange : 48 ≤ c.toNat ∧ c.toNat ≤ 57 := Char.isDigit_iff_toNat.1 hdigit
    simp only [Text.isBlank, Text.blankRanges, Text.inRanges, Bool.and_eq_false_iff,
      Bool.or_eq_false_iff, decide_eq_false_iff_not]
    omega

end Literal

end GlobOracle
