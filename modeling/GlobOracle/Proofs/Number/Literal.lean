import GlobOracle.Number.Literal
import GlobOracle.Proofs.Number.Nearest
import Mathlib.Tactic.SplitIfs

/-!
# The grammar of decimal literals

A decimal literal is described by its form and not by how it is read: `Denotes text x` puts a text
together from underscores between digits, a sign, digits around a point and an exponent, or one of the
words for infinity and for no number, and says which double it stands for: for digits the one that is
nearest to their number (`Double.IsNearest`).  Every part of the form has one reading only, since no sign,
digit or mark can open the part that follows; `decimal?_eq_some_iff` adds these up: the reader accepts the
literals and nothing else, each with its double.
-/

namespace GlobOracle.Literal

open Text (digit? ofDigits)

/-! ## The form -/

/-- A sign that may be left out, and whether it is a minus. -/
inductive IsSign : List Char → Bool → Prop
  | absent : IsSign [] false
  | plus : IsSign ['+'] false
  | minus : IsSign ['-'] true

/-- A text of digits, and the digits that its characters stand for. -/
def IsDigits (text : List Char) (digits : List Nat) : Prop := text.map digit? = digits.map some

/-- The end of a decimal, and the power of ten that it stands for. -/
inductive IsExponent : List Char → Int → Prop
  /-- There is none. -/
  | absent : IsExponent [] 0
  /-- A mark, a sign and at least one digit. -/
  | marked {mark : Char} {sign text : List Char} {negative : Bool} {digits : List Nat}
      (hmark : mark = 'e' ∨ mark = 'E') (hsign : IsSign sign negative)
      (hdigits : IsDigits text digits) (hne : digits ≠ []) :
      IsExponent (mark :: (sign ++ text))
        (if negative then -(ofDigits digits : Int) else ofDigits digits)

/-- A decimal without a sign, and the double nearest to it. -/
inductive IsUnsigned : List Char → Double → Prop
  /-- Digits alone. -/
  | plain {front tail : List Char} {whole : List Nat} {e : Int} {x : Double}
      (hwhole : IsDigits front whole) (hne : whole ≠ []) (htail : IsExponent tail e)
      (hnearest : Double.IsNearest (ofDigits whole * 10 ^ e) x) : IsUnsigned (front ++ tail) x
  /-- Digits before a point, behind it, or both. -/
  | pointed {front middle tail : List Char} {whole fraction : List Nat} {e : Int} {x : Double}
      (hwhole : IsDigits front whole) (hfraction : IsDigits middle fraction)
      (hne : whole ++ fraction ≠ []) (htail : IsExponent tail e)
      (hnearest : Double.IsNearest
        (ofDigits (whole ++ fraction) * 10 ^ (e - (fraction.length : Int))) x) :
      IsUnsigned (front ++ '.' :: (middle ++ tail)) x

/-- A word in some mixture of cases, and the double that it stands for. -/
inductive IsWord : List Char → Double → Prop
  | inf {text : List Char} (h : text.map Char.toLower = "inf".toList) : IsWord text .infinity
  | infinity {text : List Char} (h : text.map Char.toLower = "infinity".toList) :
      IsWord text .infinity
  | nan {text : List Char} (h : text.map Char.toLower = "nan".toList) : IsWord text .nan

/-- A text that may have an underscore between two digits, and the text without underscores. -/
inductive Underscored : List Char → List Char → Prop
  | nil : Underscored [] []
  | cons {c : Char} {text plain : List Char} (hc : c ≠ '_') (h : Underscored text plain) :
      Underscored (c :: text) (c :: plain)
  | join {c d : Char} {text plain : List Char} (hc : (digit? c).isSome) (hd : (digit? d).isSome)
      (h : Underscored (d :: text) plain) : Underscored (c :: '_' :: d :: text) (c :: plain)

/-- A text is a decimal literal that denotes a double. -/
inductive Denotes : List Char → Double → Prop
  /-- A sign before a decimal or a word, with underscores between digits. -/
  | mk {text sign body : List Char} {negative : Bool} {x : Double}
      (hplain : Underscored text (sign ++ body)) (hsign : IsSign sign negative)
      (hbody : IsUnsigned body x ∨ IsWord body x) : Denotes text (x.withSign negative)

/-! ## Signs -/

/-- A character that is no sign. -/
def IsUnsignedHead (c : Char) : Prop := c ≠ '-' ∧ c ≠ '+'

theorem exists_sign (text : List Char) :
    ∃ sign, text = sign ++ (splitSign text).2 ∧ IsSign sign (splitSign text).1 := by
  fun_cases splitSign text with
  | case1 rest => exact ⟨['-'], rfl, .minus⟩
  | case2 rest => exact ⟨['+'], rfl, .plus⟩
  | case3 rest => exact ⟨[], rfl, .absent⟩

/-- A sign is taken off whole, if none follows it. -/
theorem splitSign_append {sign : List Char} {negative : Bool} (hsign : IsSign sign negative)
    {c : Char} (hc : IsUnsignedHead c) (rest : List Char) :
    splitSign (sign ++ c :: rest) = (negative, c :: rest) := by
  obtain ⟨hminus, hplus⟩ := hc
  cases hsign with
  | absent => simp only [List.nil_append]; rw [splitSign] <;> simp [hminus, hplus]
  | plus => rfl
  | minus => rfl

/-! ## Digits -/

theorem isDigits_cons_iff {c : Char} {text : List Char} {d : Nat} {digits : List Nat} :
    IsDigits (c :: text) (d :: digits) ↔ digit? c = some d ∧ IsDigits text digits := by
  simp [IsDigits]

theorem isDigits_nil_iff {digits : List Nat} : IsDigits [] digits ↔ digits = [] := by
  rw [IsDigits, List.map_nil, eq_comm, List.map_eq_nil_iff]

/-- Digits at the front are taken off whole, if none follows them. -/
theorem splitDigits_append {front rest : List Char} {digits : List Nat}
    (hfront : IsDigits front digits) (hrest : ∀ c ∈ rest.head?, digit? c = none) :
    splitDigits (front ++ rest) = (digits, rest) := by
  induction front generalizing digits with
  | nil =>
    rw [isDigits_nil_iff] at hfront
    cases rest with
    | nil => simp [splitDigits, hfront]
    | cons c rest => simp [splitDigits, hfront, hrest c rfl]
  | cons c front ih =>
    cases digits with
    | nil => simp [IsDigits] at hfront
    | cons d digits =>
      obtain ⟨hc, hfront⟩ := isDigits_cons_iff.1 hfront
      have hsplit := ih hfront
      simp only [splitDigits, Prod.mk.injEq] at hsplit
      simp [splitDigits, hc, hsplit.1, hsplit.2]

theorem exists_digits (text : List Char) :
    ∃ front, text = front ++ (splitDigits text).2 ∧ IsDigits front (splitDigits text).1 ∧
      ∀ c ∈ (splitDigits text).2.head?, digit? c = none := by
  refine ⟨text.takeWhile fun c => (digit? c).isSome, ?_, ?_, ?_⟩
  · exact List.takeWhile_append_dropWhile.symm
  · rw [IsDigits, splitDigits]
    induction text with
    | nil => rfl
    | cons c text ih =>
      cases hc : digit? c with
      | none => simp [hc]
      | some d => simpa [hc] using ih
  · intro c hc
    have hstop := List.head?_dropWhile_not (fun c => (digit? c).isSome) text
    simp only [splitDigits] at hc
    rw [hc] at hstop
    simpa using hstop

/-! ## Exponents -/

theorem ne_of_isSome_digit? {c x : Char} (hc : (digit? c).isSome) (hx : digit? x = none) :
    c ≠ x := by
  rintro rfl
  simp [hx] at hc

/-- A text of digits starts with one, unless it is empty. -/
theorem IsDigits.exists_cons {text : List Char} {digits : List Nat} (h : IsDigits text digits)
    (hne : digits ≠ []) : ∃ c rest, text = c :: rest ∧ (digit? c).isSome := by
  cases text with
  | nil => exact absurd (isDigits_nil_iff.1 h) hne
  | cons c rest =>
    cases digits with
    | nil => exact absurd rfl hne
    | cons d digits => exact ⟨c, rest, rfl, by rw [(isDigits_cons_iff.1 h).1]; rfl⟩

theorem isUnsignedHead_of_isSome {c : Char} (h : (digit? c).isSome) : IsUnsignedHead c :=
  ⟨ne_of_isSome_digit? h (by decide), ne_of_isSome_digit? h (by decide)⟩

theorem isExponent_of_exponent? {text : List Char} {e : Int} (h : exponent? text = some e) :
    IsExponent text e := by
  cases text with
  | nil =>
    obtain rfl : 0 = e := by simpa [exponent?] using h
    exact .absent
  | cons mark rest =>
    rw [exponent?] at h
    split_ifs at h with hmark
    have hsigned := exists_sign rest
    generalize splitSign rest = signed at hsigned h
    obtain ⟨negative, body⟩ := signed
    have hdigits := exists_digits body
    dsimp only at h
    generalize splitDigits body = split at hdigits h
    obtain ⟨digits, tail⟩ := split
    obtain ⟨sign, rfl, hsign⟩ := hsigned
    obtain ⟨front, rfl, hfront, -⟩ := hdigits
    cases digits with
    | nil => simp at h
    | cons d digits =>
      cases tail with
      | cons c tail => simp at h
      | nil =>
        obtain rfl := Option.some.inj h
        rw [List.append_nil]
        exact .marked (by simpa using hmark) hsign hfront (List.cons_ne_nil d digits)

theorem exponent?_of_isExponent {text : List Char} {e : Int} (h : IsExponent text e) :
    exponent? text = some e := by
  cases h with
  | absent => rfl
  | @marked mark sign text negative digits hmark hsign hdigits hne =>
    obtain ⟨c, rest, rfl, hc⟩ := hdigits.exists_cons hne
    have hsplit : splitDigits (c :: rest) = (digits, []) := by
      have happend := splitDigits_append hdigits (by simp : ∀ c ∈ ([] : List Char).head?, _)
      rwa [List.append_nil] at happend
    rw [exponent?, if_pos (by simpa using hmark),
      splitSign_append hsign (isUnsignedHead_of_isSome hc)]
    simp only [hsplit]

/-- No digit opens an exponent. -/
theorem IsExponent.head {text : List Char} {e : Int} (h : IsExponent text e) :
    ∀ c ∈ text.head?, digit? c = none ∧ c ≠ '.' := by
  cases h with
  | absent => simp
  | marked hmark =>
    intro c hc
    obtain rfl := Option.some.inj hc
    rcases hmark with rfl | rfl <;> decide

/-! ## Decimals without a sign -/

theorem unsigned?_of_point {text behind tail : List Char} {whole fraction : List Nat}
    (hwhole : splitDigits text = (whole, '.' :: behind))
    (hfraction : splitDigits behind = (fraction, tail)) :
    unsigned? text =
      if whole.isEmpty && fraction.isEmpty then none
      else (exponent? tail).map fun e =>
        Double.ofDecimal (ofDigits (whole ++ fraction)) (e - (fraction.length : Int)) := by
  simp only [unsigned?, hwhole, hfraction]

theorem unsigned?_of_no_point {text tail : List Char} {whole : List Nat}
    (hwhole : splitDigits text = (whole, tail)) (htail : ∀ behind, tail ≠ '.' :: behind) :
    unsigned? text =
      if whole.isEmpty then none
      else (exponent? tail).map fun e => Double.ofDecimal (ofDigits whole) e := by
  simp [unsigned?, hwhole]

theorem isUnsigned_of_unsigned? {text : List Char} {x : Double} (h : unsigned? text = some x) :
    IsUnsigned text x := by
  obtain ⟨front, htext, hwhole, -⟩ := exists_digits text
  obtain ⟨⟨whole, rest⟩, hsplit⟩ : ∃ split, splitDigits text = split := ⟨_, rfl⟩
  rw [hsplit] at htext hwhole
  by_cases hpoint : ∃ behind, rest = '.' :: behind
  · obtain ⟨behind, rfl⟩ := hpoint
    obtain ⟨middle, hbehind, hfraction, -⟩ := exists_digits behind
    obtain ⟨⟨fraction, tail⟩, hsplit'⟩ : ∃ split, splitDigits behind = split := ⟨_, rfl⟩
    rw [hsplit'] at hbehind hfraction
    rw [unsigned?_of_point hsplit hsplit'] at h
    split_ifs at h with hempty
    obtain ⟨e, he, rfl⟩ := Option.map_eq_some_iff.1 h
    rw [htext, hbehind]
    exact .pointed hwhole hfraction (by simpa using hempty) (isExponent_of_exponent? he)
      (Double.isNearest_ofDecimal _ _)
  · rw [unsigned?_of_no_point hsplit fun behind heq => hpoint ⟨behind, heq⟩] at h
    split_ifs at h with hempty
    obtain ⟨e, he, rfl⟩ := Option.map_eq_some_iff.1 h
    rw [htext]
    exact .plain hwhole (by simpa using hempty) (isExponent_of_exponent? he)
      (Double.isNearest_ofDecimal _ _)

theorem unsigned?_of_isUnsigned {text : List Char} {x : Double} (h : IsUnsigned text x) :
    unsigned? text = some x := by
  cases h with
  | @plain front tail whole e x hwhole hne htail hnearest =>
    have hsplit := splitDigits_append hwhole fun c hc => (htail.head c hc).1
    have hpoint : ∀ behind, tail ≠ '.' :: behind := by
      rintro behind rfl
      exact (htail.head '.' rfl).2 rfl
    rw [unsigned?_of_no_point hsplit hpoint, if_neg (by simpa using hne),
      exponent?_of_isExponent htail, Option.map_some, Double.isNearest_iff.1 hnearest]
  | @pointed front middle tail whole fraction e x hwhole hfraction hne htail hnearest =>
    have hpoint : ∀ c ∈ ('.' :: (middle ++ tail)).head?, digit? c = none := by
      intro c hc
      obtain rfl := Option.some.inj hc
      decide
    have hbehind := splitDigits_append hfraction fun c hc => (htail.head c hc).1
    rw [unsigned?_of_point (splitDigits_append hwhole hpoint) hbehind,
      if_neg (by simpa using hne), exponent?_of_isExponent htail, Option.map_some,
      Double.isNearest_iff.1 hnearest]

/-- A decimal opens with a digit or a point. -/
theorem IsUnsigned.exists_cons {text : List Char} {x : Double} (h : IsUnsigned text x) :
    ∃ c rest, text = c :: rest ∧ ((digit? c).isSome ∨ c = '.') := by
  cases h with
  | @plain front tail whole e x hwhole hne htail hnearest =>
    obtain ⟨c, rest, rfl, hc⟩ := hwhole.exists_cons hne
    exact ⟨c, rest ++ tail, rfl, .inl hc⟩
  | @pointed front middle tail whole fraction e x hwhole hfraction hne htail hnearest =>
    by_cases hfront : whole = []
    · obtain rfl : front = [] := by simpa [IsDigits, hfront] using hwhole
      exact ⟨'.', middle ++ tail, rfl, .inr rfl⟩
    · obtain ⟨c, rest, rfl, hc⟩ := hwhole.exists_cons hfront
      exact ⟨c, _, rfl, .inl hc⟩

/-! ## Words -/

theorem special?_eq_some_iff {text : List Char} {x : Double} :
    special? text = some x ↔ IsWord text x := by
  have hword (word : String) :
      String.ofList (text.map Char.toLower) = word ↔ text.map Char.toLower = word.toList := by
    rw [← String.toList_inj, String.toList_ofList]
  simp only [special?, Bool.or_eq_true, beq_iff_eq, hword]
  constructor
  · intro h
    split_ifs at h with hinf hnan
    · obtain rfl := Option.some.inj h
      exact hinf.elim .inf .infinity
    · obtain rfl := Option.some.inj h
      exact .nan hnan
  · intro h
    cases h with
    | inf h => rw [if_pos (.inl h)]
    | infinity h => rw [if_pos (.inr h)]
    | nan h => rw [if_neg (by rw [h]; decide), if_pos h]

/-- A word opens with a letter that is no digit. -/
theorem IsWord.exists_cons {text : List Char} {x : Double} (h : IsWord text x) :
    ∃ c rest, text = c :: rest ∧ (c.toLower = 'i' ∨ c.toLower = 'n') := by
  cases h <;> cases text <;> simp_all

theorem digit?_eq_none_of_capital {c : Char} (h : 65 ≤ c.toNat ∧ c.toNat ≤ 90) :
    digit? c = none := by
  have hcodes : ∀ code < 26, ∀ z ∈ Text.zeros,
      ¬(z ≤ code + 65 ∧ code + 65 < z + 10) := by decide
  have hcode := hcodes (c.toNat - 65) (by omega)
  rw [Nat.sub_add_cancel h.1] at hcode
  simpa [digit?] using hcode

theorem toLower_eq_self_of_isSome {c : Char} (h : (digit? c).isSome) : c.toLower = c := by
  refine dif_neg ?_
  rintro ⟨hlow, hhigh⟩
  have hlow' : 65 ≤ c.toNat := by simpa [UInt32.le_iff_toNat_le] using hlow
  have hhigh' : c.toNat ≤ 90 := by simpa [UInt32.le_iff_toNat_le] using hhigh
  rw [digit?_eq_none_of_capital ⟨hlow', hhigh'⟩] at h
  exact absurd h (by decide)

theorem special?_eq_none_of_isUnsigned {text : List Char} {x : Double} (h : IsUnsigned text x) :
    special? text = none := by
  rw [Option.eq_none_iff_forall_ne_some]
  intro y hy
  obtain ⟨c, rest, rfl, hc⟩ := h.exists_cons
  obtain ⟨d, rest', heq, hletter⟩ := (special?_eq_some_iff.1 hy).exists_cons
  obtain ⟨rfl, rfl⟩ := List.cons.inj heq
  rcases hc with hdigit | rfl
  · rw [toLower_eq_self_of_isSome hdigit] at hletter
    rcases hletter with rfl | rfl <;> exact absurd hdigit (by decide)
  · exact absurd hletter (by decide)

/-! ## Underscores -/

/-- A text that follows a character: it goes on as a text of its own or, behind a digit, with an
underscore and one more digit. -/
def Follows (previous : Option Char) (text plain : List Char) : Prop :=
  Underscored text plain ∨
    ∃ d rest, (previous.bind digit?).isSome ∧ (digit? d).isSome ∧ text = '_' :: d :: rest ∧
      Underscored (d :: rest) plain

theorem underscored_nil_iff {plain : List Char} : Underscored [] plain ↔ plain = [] := by
  constructor
  · intro h
    cases h
    rfl
  · rintro rfl
    exact .nil

theorem underscored_cons_iff {c : Char} {text plain : List Char} (hc : c ≠ '_') :
    Underscored (c :: text) plain ↔ ∃ rest, plain = c :: rest ∧ Follows (some c) text rest := by
  constructor
  · intro h
    cases h with
    | cons _ h => exact ⟨_, rfl, .inl h⟩
    | join hdigit hnext h => exact ⟨_, rfl, .inr ⟨_, _, hdigit, hnext, rfl, h⟩⟩
  · rintro ⟨rest, rfl, h | ⟨d, text, hdigit, hnext, rfl, h⟩⟩
    · exact .cons hc h
    · exact .join hdigit hnext h

theorem not_underscored_of_underscore {text plain : List Char} :
    ¬Underscored ('_' :: text) plain := by
  intro h
  cases h with
  | cons hc => exact hc rfl
  | join hc => exact absurd hc (by decide)

theorem not_follows_lone_underscore {previous : Option Char} {plain : List Char} :
    ¬Follows previous ['_'] plain := by
  rintro (h | ⟨d, rest, -, -, heq, -⟩)
  · exact not_underscored_of_underscore h
  · exact absurd heq (by simp)

theorem follows_underscore_iff {previous : Option Char} {d : Char} {rest plain : List Char} :
    Follows previous ('_' :: d :: rest) plain ↔
      (previous.bind digit?).isSome ∧ (digit? d).isSome ∧ Underscored (d :: rest) plain := by
  constructor
  · rintro (h | ⟨d, rest, hdigit, hnext, heq, h⟩)
    · exact absurd h not_underscored_of_underscore
    · obtain ⟨rfl, rfl⟩ := List.cons.inj (List.cons.inj heq).2
      exact ⟨hdigit, hnext, h⟩
  · rintro ⟨hdigit, hnext, h⟩
    exact .inr ⟨d, rest, hdigit, hnext, rfl, h⟩

theorem follows_cons_iff {previous : Option Char} {c : Char} (hc : c ≠ '_')
    {rest plain : List Char} :
    Follows previous (c :: rest) plain ↔ Underscored (c :: rest) plain := by
  simp [Follows, hc]

theorem withoutUnderscores_cons {previous : Option Char} (hprevious : previous ≠ some '_') {c : Char}
    (hc : c ≠ '_') (rest : List Char) :
    withoutUnderscores previous (c :: rest) = (withoutUnderscores (some c) rest).map (c :: ·) := by
  simp [withoutUnderscores, hprevious, hc]

/-- Behind an underscore there must be a digit. -/
theorem withoutUnderscores_underscore (d : Char) (rest : List Char) :
    withoutUnderscores (some '_') (d :: rest) =
      if (digit? d).isSome then (withoutUnderscores (some d) rest).map (d :: ·) else none := by
  have hunderscore : digit? '_' = none := by decide
  by_cases hd : d = '_'
  · simp [withoutUnderscores, hd, hunderscore]
  · cases hdigit : digit? d <;> simp [withoutUnderscores, hd, hdigit]

theorem withoutUnderscores_eq_some_iff {previous : Option Char} (hprevious : previous ≠ some '_')
    {text plain : List Char} :
    withoutUnderscores previous text = some plain ↔ Follows previous text plain := by
  induction hlength : text.length using Nat.strongRecOn generalizing previous text plain with
  | _ length ih =>
  -- One character at a time, but an underscore together with the digit behind it.
  have hcons {c : Char} {rest : List Char} (hc : c ≠ '_') (hlt : rest.length < length) :
      (withoutUnderscores (some c) rest).map (c :: ·) = some plain ↔
        Underscored (c :: rest) plain := by
    rw [underscored_cons_iff hc, Option.map_eq_some_iff]
    have hprevious : some c ≠ some '_' := fun h => hc (Option.some.inj h)
    constructor
    · rintro ⟨plain, hplain, rfl⟩
      exact ⟨plain, rfl, (ih _ hlt hprevious rfl).1 hplain⟩
    · rintro ⟨plain, rfl, hfollows⟩
      exact ⟨plain, (ih _ hlt hprevious rfl).2 hfollows, rfl⟩
  cases text with
  | nil =>
    have hnil : withoutUnderscores previous [] = some [] := by simp [withoutUnderscores, hprevious]
    rw [hnil, Option.some.injEq, Follows, underscored_nil_iff]
    constructor
    · exact fun h => .inl h.symm
    · rintro (rfl | ⟨d, rest, -, -, heq, -⟩)
      · rfl
      · exact absurd heq (by simp)
  | cons c rest =>
    have hlt : rest.length < length := by
      rw [← hlength, List.length_cons]
      omega
    by_cases hc : c = '_'
    · subst hc
      have hopen : withoutUnderscores previous ('_' :: rest) =
          if (previous.bind digit?).isSome then withoutUnderscores (some '_') rest else none := by
        rw [withoutUnderscores]
        rfl
      rw [hopen]
      cases rest with
      | nil => simp [withoutUnderscores, not_follows_lone_underscore]
      | cons d rest =>
        rw [withoutUnderscores_underscore, follows_underscore_iff]
        split_ifs with hprev hd
        · have hd' : d ≠ '_' := ne_of_isSome_digit? hd (by decide)
          rw [hcons hd' (by rw [List.length_cons] at hlt; omega)]
          simp [hprev, hd]
        · simp [hd]
        · simp [hprev]
    · rw [withoutUnderscores_cons hprevious hc, follows_cons_iff hc]
      exact hcons hc hlt

/-! ## Literals -/

/-- What stands behind the sign is read as it is meant: no decimal is a word. -/
theorem special?_or_unsigned?_eq_some_iff {body : List Char} {x : Double} :
    (special? body).or (unsigned? body) = some x ↔ IsUnsigned body x ∨ IsWord body x := by
  constructor
  · intro h
    rcases Option.or_eq_some_iff.1 h with hword | ⟨-, hnumber⟩
    · exact .inr (special?_eq_some_iff.1 hword)
    · exact .inl (isUnsigned_of_unsigned? hnumber)
  · rintro (hnumber | hword)
    · rw [special?_eq_none_of_isUnsigned hnumber, Option.none_or,
        unsigned?_of_isUnsigned hnumber]
    · rw [special?_eq_some_iff.2 hword, Option.some_or]

/-- No sign opens what stands behind the sign. -/
theorem exists_isUnsignedHead {body : List Char} {x : Double}
    (h : IsUnsigned body x ∨ IsWord body x) :
    ∃ c rest, body = c :: rest ∧ IsUnsignedHead c := by
  rcases h with hnumber | hword
  · obtain ⟨c, rest, rfl, hdigit | rfl⟩ := hnumber.exists_cons
    · exact ⟨c, rest, rfl, isUnsignedHead_of_isSome hdigit⟩
    · exact ⟨'.', rest, rfl, by decide, by decide⟩
  · obtain ⟨c, rest, rfl, hletter⟩ := hword.exists_cons
    refine ⟨c, rest, rfl, ?_, ?_⟩
    all_goals
      rintro rfl
      exact absurd hletter (by decide)

/-- **Reading a decimal literal.**  The reader accepts the literals, each with the double that it denotes,
and nothing else. -/
theorem decimal?_eq_some_iff {text : List Char} {x : Double} :
    decimal? text = some x ↔ Denotes text x := by
  have hplain {plain : List Char} :
      withoutUnderscores none text = some plain ↔ Underscored text plain := by
    rw [withoutUnderscores_eq_some_iff (by simp), Follows]
    simp
  rw [decimal?, Option.bind_eq_some_iff]
  constructor
  · rintro ⟨plain, htext, h⟩
    obtain ⟨sign, happend, hsign⟩ := exists_sign plain
    obtain ⟨y, hbody, rfl⟩ := Option.map_eq_some_iff.1 h
    exact .mk (happend ▸ hplain.1 htext) hsign (special?_or_unsigned?_eq_some_iff.1 hbody)
  · rintro ⟨htext, hsign, hbody⟩
    obtain ⟨c, rest, rfl, hc⟩ := exists_isUnsignedHead hbody
    refine ⟨_, hplain.2 htext, ?_⟩
    rw [splitSign_append hsign hc]
    simp only [special?_or_unsigned?_eq_some_iff.2 hbody, Option.map_some]

end GlobOracle.Literal
