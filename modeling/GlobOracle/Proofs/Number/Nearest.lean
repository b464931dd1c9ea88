import GlobOracle.Proofs.Number.Double
import Mathlib.Tactic.Linarith
import Mathlib.Tactic.NormNum
import Mathlib.Tactic.Positivity
import Mathlib.Tactic.Ring

/-!
# Decimals are read as the nearest double

`Double.ofDecimal` computes with whole numbers and never looks at a fraction.  What it computes is the
nearest double (`Double.isNearest_ofDecimal`), and there is no other one (`Double.IsNearest.unique`).

The doubles without a sign are ordered as their bits are (`weight_strictMono`), and lie on grids that get
coarser from one binade to the next.  On the grid of its own binade a quotient is rounded as a whole number
is (`roundedQuotient_nearest`); the doubles of higher binades lie on that grid too, and those of lower ones
are farther away than the double that opens the binade (`weight_on_grid`).
-/

namespace GlobOracle.Double

/-! ## Bits as numbers -/

theorem exponentField_eq (x : Double) : x.exponentField = x.bits.toNat / 2 ^ 52 % 2 ^ 11 := by
  have hmask : (0x7FF : ℕ) = 2 ^ 11 - 1 := by decide
  rw [exponentField, UInt64.toNat_and, UInt64.toNat_shiftRight, Nat.shiftRight_eq_div_pow]
  show _ &&& 0x7FF = _
  rw [hmask, Nat.and_two_pow_sub_one_eq_mod]
  rfl

theorem fractionField_eq (x : Double) : x.fractionField = x.bits.toNat % 2 ^ 52 := by
  have hmask : (0xFFFFFFFFFFFFF : ℕ) = 2 ^ 52 - 1 := by decide
  rw [fractionField, UInt64.toNat_and]
  show _ &&& 0xFFFFFFFFFFFFF = _
  rw [hmask, Nat.and_two_pow_sub_one_eq_mod]

theorem negative_iff (x : Double) : x.negative ↔ 2 ^ 63 ≤ x.bits.toNat := by
  have hlt := x.bits.toNat_lt
  rw [negative, beq_iff_eq, ← UInt64.toNat_inj, UInt64.toNat_shiftRight, Nat.shiftRight_eq_div_pow]
  show x.bits.toNat / 2 ^ 63 = 1 ↔ _
  omega

theorem topBits_eq : topBits = 2047 * 2 ^ 52 := rfl

theorem isCandidate_iff (x : Double) : x.IsCandidate ↔ x.bits.toNat ≤ topBits := by
  have hlt := x.bits.toNat_lt
  simp only [IsCandidate, negative_iff, isNaN, exponentField_eq, fractionField_eq, topBits_eq,
    Bool.and_eq_true, beq_iff_eq, bne_iff_ne]
  omega

theorem exists_bits_eq {n : ℕ} (h : n ≤ topBits) : ∃ x : Double, x.bits.toNat = n := by
  have htop : topBits < 2 ^ 64 := by decide
  refine ⟨⟨UInt64.ofNat n⟩, ?_⟩
  rw [UInt64.toNat_ofNat', Nat.mod_eq_of_lt (h.trans_lt htop)]

theorem bits_inj {x y : Double} (h : x.bits.toNat = y.bits.toNat) : x = y := by
  cases x
  cases y
  exact congrArg Double.mk (UInt64.toNat_inj.1 h)

theorem fractionField_mod_two (x : Double) : x.fractionField % 2 = x.bits.toNat % 2 := by
  rw [fractionField_eq]
  omega

/-! ## Sizes -/

/-- The size of the double with given bits, in smallest gaps. -/
def weight (n : ℕ) : ℕ :=
  if n < 2 ^ 52 then n else (2 ^ 52 + n % 2 ^ 52) * 2 ^ (n / 2 ^ 52 - 1)

theorem size_eq {x : Double} (h : x.bits.toNat ≤ topBits) :
    x.size = weight x.bits.toNat * 2 ^ (-1074 : ℤ) := by
  have hexponent : x.exponentField = x.bits.toNat / 2 ^ 52 := by
    rw [exponentField_eq]
    rw [topBits_eq] at h
    omega
  by_cases hsmall : x.bits.toNat < 2 ^ 52
  · have hzero : x.exponentField = 0 := by omega
    have hfraction : x.fractionField = x.bits.toNat := by
      rw [fractionField_eq, Nat.mod_eq_of_lt hsmall]
    rw [size, magnitude, if_pos (by simpa using hzero), weight, if_pos hsmall, hfraction]
  · have hone : 1 ≤ x.exponentField := by omega
    have hshift : (x.exponentField : ℤ) - 1075 = ((x.exponentField - 1 : ℕ) : ℤ) + -1074 := by
      omega
    rw [size, magnitude, if_neg (by simpa using Nat.ne_of_gt hone), weight, if_neg hsmall, hshift,
      ← hexponent, ← fractionField_eq, zpow_add₀ two_ne_zero, zpow_natCast, ← mul_assoc,
      Nat.cast_mul, Nat.cast_pow, Nat.cast_ofNat]
    rfl

/-- The double that is `j` gaps of the `p`-th binade away from zero. -/
theorem weight_add {p j : ℕ} (hlow : p = 0 ∨ 2 ^ 52 ≤ j) (hhigh : j ≤ 2 ^ 53) :
    weight (p * 2 ^ 52 + j) = j * 2 ^ p := by
  rcases Nat.lt_or_ge j (2 ^ 52) with hj | hj
  · obtain rfl : p = 0 := hlow.resolve_right hj.not_ge
    rw [weight, if_pos (by omega)]
    omega
  rw [weight, if_neg (by omega)]
  rcases Nat.lt_or_ge j (2 ^ 53) with hj' | hj'
  · have hrest : (p * 2 ^ 52 + j) % 2 ^ 52 = j - 2 ^ 52 := by omega
    have hquotient : (p * 2 ^ 52 + j) / 2 ^ 52 - 1 = p := by omega
    rw [hrest, hquotient, Nat.add_sub_cancel' hj]
  · obtain rfl : j = 2 ^ 53 := by omega
    have hrest : (p * 2 ^ 52 + 2 ^ 53) % 2 ^ 52 = 0 := by omega
    have hquotient : (p * 2 ^ 52 + 2 ^ 53) / 2 ^ 52 - 1 = p + 1 := by omega
    rw [hrest, hquotient]
    ring

/-- The double with given bits lies in its binade, from one power of two up to the next. -/
theorem exists_weight_eq (n : ℕ) :
    ∃ p j, n = p * 2 ^ 52 + j ∧ (p = 0 ∨ 2 ^ 52 ≤ j) ∧ j < 2 ^ 53 ∧ weight n = j * 2 ^ p := by
  rcases Nat.lt_or_ge n (2 ^ 53) with hn | hn
  · refine ⟨0, n, by omega, .inl rfl, hn, ?_⟩
    simpa using weight_add (p := 0) (.inl rfl) hn.le
  · refine ⟨n / 2 ^ 52 - 1, 2 ^ 52 + n % 2 ^ 52, by omega, .inr (by omega), by omega, ?_⟩
    rw [weight, if_neg (by omega)]

theorem weight_strictMono : StrictMono weight := by
  apply strictMono_nat_of_lt_succ
  intro n
  obtain ⟨p, j, rfl, hlow, hhigh, hweight⟩ := exists_weight_eq n
  have hnext : weight (p * 2 ^ 52 + (j + 1)) = (j + 1) * 2 ^ p :=
    weight_add (hlow.imp_right Nat.le_succ_of_le) hhigh
  rw [hweight, Nat.add_assoc, hnext]
  exact Nat.mul_lt_mul_of_pos_right (Nat.lt_succ_self j) (Nat.two_pow_pos p)

/-! ## Rounding a quotient -/

theorem roundedQuotient_bounds (a b : ℕ) :
    a / b ≤ roundedQuotient a b ∧ roundedQuotient a b ≤ a / b + 1 := by
  unfold roundedQuotient
  dsimp only
  split <;> omega

/-- A quotient is rounded by less than one half, or by one half to an even number. -/
theorem roundedQuotient_near (a : ℕ) {b : ℕ} (hb : 0 < b) :
    |(roundedQuotient a b : ℚ) - a / b| < 1 / 2 ∨
      |(roundedQuotient a b : ℚ) - a / b| = 1 / 2 ∧ roundedQuotient a b % 2 = 0 := by
  have hb' : (0 : ℚ) < b := Nat.cast_pos.2 hb
  have hquotient : (a : ℚ) / b = (a / b : ℕ) + (a % b : ℕ) / b := by
    rw [div_eq_iff hb'.ne', add_mul, div_mul_cancel₀ _ hb'.ne', ← Nat.cast_mul, ← Nat.cast_add,
      Nat.div_add_mod']
  have hlt : ((a % b : ℕ) : ℚ) / b < 1 := (div_lt_one hb').2 (Nat.cast_lt.2 (Nat.mod_lt a hb))
  have hnonneg : (0 : ℚ) ≤ ((a % b : ℕ) : ℚ) / b := by positivity
  have hhalf : ((a % b : ℕ) : ℚ) / b < 1 / 2 ↔ 2 * (a % b) < b := by
    rw [div_lt_div_iff₀ hb' two_pos, one_mul, mul_comm, ← Nat.cast_ofNat, ← Nat.cast_mul, Nat.cast_lt]
  have htie : ((a % b : ℕ) : ℚ) / b = 1 / 2 ↔ 2 * (a % b) = b := by
    rw [div_eq_div_iff hb'.ne' two_ne_zero, one_mul, mul_comm, ← Nat.cast_ofNat, ← Nat.cast_mul,
      Nat.cast_inj]
  have hbelow : |((a / b : ℕ) : ℚ) - a / b| = ((a % b : ℕ) : ℚ) / b := by
    rw [hquotient, sub_add_cancel_left, abs_neg, abs_of_nonneg hnonneg]
  have habove : |((a / b + 1 : ℕ) : ℚ) - a / b| = 1 - ((a % b : ℕ) : ℚ) / b := by
    rw [hquotient, Nat.cast_add_one, add_sub_add_left_eq_sub, abs_of_pos (sub_pos.2 hlt)]
  unfold roundedQuotient
  dsimp only
  rcases lt_trichotomy (2 * (a % b)) b with h | h | h
  · left
    rw [if_pos (by simp [h]), hbelow]
    exact hhalf.2 h
  · right
    rcases Nat.mod_two_eq_zero_or_one (a / b) with heven | hodd
    · rw [if_pos (by simp [h, heven]), hbelow]
      exact ⟨htie.2 h, heven⟩
    · rw [if_neg (by simp [h, hodd]), habove, htie.2 h]
      exact ⟨by norm_num, by omega⟩
  · left
    rw [if_neg (by simp; omega), habove]
    have hmore : 1 / 2 < ((a % b : ℕ) : ℚ) / b := by
      rcases lt_trichotomy (((a % b : ℕ) : ℚ) / b) (1 / 2) with hless | hsame | hmore
      · exact absurd (hhalf.1 hless) h.not_gt
      · exact absurd (htie.1 hsame) h.ne'
      · exact hmore
    linarith

/-- No whole number is nearer to a quotient than the rounded one, and if another is as near, the rounded one
is even. -/
theorem roundedQuotient_nearest (a : ℕ) {b : ℕ} (hb : 0 < b) (k : ℕ) :
    |(roundedQuotient a b : ℚ) - a / b| ≤ |(k : ℚ) - a / b| ∧
      (k ≠ roundedQuotient a b → |(roundedQuotient a b : ℚ) - a / b| = |(k : ℚ) - a / b| →
        roundedQuotient a b % 2 = 0) := by
  by_cases hk : k = roundedQuotient a b
  · simp [hk]
  have hgap : (1 : ℚ) ≤ |(k : ℚ) - roundedQuotient a b| := by
    have hne : (k : ℤ) - roundedQuotient a b ≠ 0 := sub_ne_zero.2 (Nat.cast_injective.ne hk)
    exact_mod_cast Int.one_le_abs hne
  have htriangle : |(k : ℚ) - roundedQuotient a b| ≤
      |(k : ℚ) - a / b| + |(roundedQuotient a b : ℚ) - a / b| := by
    rw [abs_sub_comm (roundedQuotient a b : ℚ)]
    exact abs_sub_le _ _ _
  rcases roundedQuotient_near a hb with h | ⟨h, heven⟩
  · exact ⟨by linarith, fun _ hsame => absurd hsame (by linarith)⟩
  · exact ⟨by linarith, fun _ _ => heven⟩

/-! ## The binade of a quotient -/

/-- A quotient lies in its binade: below the power of two that ends it, and not below the one that opens
it, unless the binade is the lowest. -/
theorem binade_spec {a b : ℕ} (ha : 0 < a) (hb : 0 < b) :
    a < b * 2 ^ (binade a b + 53) ∧ (binade a b = 0 ∨ b * 2 ^ (binade a b + 52) ≤ a) := by
  have hlow : 2 ^ a.log2 ≤ a := Nat.log2_self_le ha.ne'
  have hhigh : a < 2 ^ (a.log2 + 1) := Nat.lt_log2_self
  have habove (n : ℕ) (hn : a.log2 + 1 ≤ b.log2 + n) : a < b * 2 ^ n :=
    calc
      a < 2 ^ (a.log2 + 1) := hhigh
      _ ≤ 2 ^ (b.log2 + n) := Nat.pow_le_pow_right two_pos hn
      _ = 2 ^ b.log2 * 2 ^ n := Nat.pow_add ..
      _ ≤ b * 2 ^ n := Nat.mul_le_mul_right _ (Nat.log2_self_le hb.ne')
  have hbelow (n : ℕ) (hn : b.log2 + 1 + n ≤ a.log2) : b * 2 ^ n ≤ a :=
    calc
      b * 2 ^ n ≤ 2 ^ (b.log2 + 1) * 2 ^ n := Nat.mul_le_mul_right _ Nat.lt_log2_self.le
      _ = 2 ^ (b.log2 + 1 + n) := (Nat.pow_add ..).symm
      _ ≤ 2 ^ a.log2 := Nat.pow_le_pow_right two_pos hn
      _ ≤ a := hlow
  unfold binade
  dsimp only
  generalize hp : a.log2 - (b.log2 + 52) = p
  rcases Nat.eq_zero_or_pos p with rfl | hpos
  · rw [if_neg (by simp)]
    exact ⟨habove _ (by omega), .inl rfl⟩
  by_cases hless : a < b * 2 ^ (p + 52)
  · rw [if_pos (by simpa [hpos] using hless)]
    refine ⟨?_, .inr (hbelow _ (by omega))⟩
    rwa [show p - 1 + 53 = p + 52 by omega]
  · rw [if_neg (by simpa [hpos] using hless)]
    exact ⟨habove _ (by omega), .inr (not_lt.1 hless)⟩

/-! ## The nearest double -/

/-- The size of a double is a multiple of the gap of any binade, or lies below that binade. -/
theorem weight_on_grid (n p : ℕ) :
    (∃ k, weight n = k * 2 ^ p) ∨ 0 < p ∧ weight n < 2 ^ 52 * 2 ^ p := by
  obtain ⟨q, j, -, -, hhigh, hweight⟩ := exists_weight_eq n
  rcases Nat.lt_or_ge q p with hq | hq
  · refine .inr ⟨by omega, ?_⟩
    calc
      weight n = j * 2 ^ q := hweight
      _ < 2 ^ 53 * 2 ^ q := Nat.mul_lt_mul_of_pos_right hhigh (Nat.two_pow_pos q)
      _ = 2 ^ 52 * 2 ^ (q + 1) := by ring
      _ ≤ 2 ^ 52 * 2 ^ p := Nat.mul_le_mul_left _ (Nat.pow_le_pow_right two_pos hq)
  · refine .inl ⟨j * 2 ^ (q - p), ?_⟩
    rw [hweight, mul_assoc, ← Nat.pow_add, Nat.sub_add_cancel hq]

/-- The bits `m` are preferred to the bits `n` for `v`: their size is not farther away, and if it is as far away
as that of other bits, they are even. -/
structure IsPreferred (v : ℚ) (m n : ℕ) : Prop where
  near : |(weight m : ℚ) - v| ≤ |(weight n : ℚ) - v|
  even : n ≠ m → |(weight m : ℚ) - v| = |(weight n : ℚ) - v| → m % 2 = 0

theorem nearestBits_eq (a b : ℕ) :
    nearestBits a b = binade a b * 2 ^ 52 + roundedQuotient a (b * 2 ^ binade a b) := rfl

theorem weight_nearestBits {a b : ℕ} (ha : 0 < a) (hb : 0 < b) :
    weight (nearestBits a b) = roundedQuotient a (b * 2 ^ binade a b) * 2 ^ binade a b := by
  obtain ⟨hhigh, hlow⟩ := binade_spec ha hb
  obtain ⟨hle, hge⟩ := roundedQuotient_bounds a (b * 2 ^ binade a b)
  have hgap : 0 < b * 2 ^ binade a b := Nat.mul_pos hb (Nat.two_pow_pos _)
  apply weight_add
  · refine hlow.imp_right fun hlow => le_trans ?_ hle
    rw [Nat.le_div_iff_mul_le hgap, mul_comm, mul_assoc, ← Nat.pow_add]
    exact hlow
  · refine hge.trans (Nat.succ_le_of_lt ?_)
    rw [Nat.div_lt_iff_lt_mul hgap, mul_comm, mul_assoc, ← Nat.pow_add]
    exact hhigh

/-- Distances in units of the gap of a binade. -/
theorem abs_mul_two_pow_sub (k a b p : ℕ) :
    |((k * 2 ^ p : ℕ) : ℚ) - a / b| = |(k : ℚ) - a / (b * 2 ^ p : ℕ)| * 2 ^ p := by
  have hpow : (0 : ℚ) < 2 ^ p := by positivity
  have hfactor : ((k * 2 ^ p : ℕ) : ℚ) - a / b = (k - a / (b * 2 ^ p : ℕ)) * 2 ^ p := by
    rw [sub_mul, Nat.cast_mul, Nat.cast_pow, Nat.cast_mul, Nat.cast_pow, Nat.cast_ofNat,
      div_mul_eq_mul_div, mul_div_mul_right _ _ hpow.ne']
  rw [hfactor, abs_mul, abs_of_pos hpow]

/-- A double below a binade is farther away from what lies in it than the one that opens it. -/
theorem abs_open_lt {a b p n : ℕ} (hb : 0 < b) (hopen : b * 2 ^ (p + 52) ≤ a)
    (hless : weight n < 2 ^ 52 * 2 ^ p) :
    |((2 ^ 52 * 2 ^ p : ℕ) : ℚ) - a / b| < |(weight n : ℚ) - a / b| := by
  have hopen' : (2 ^ 52 * 2 ^ p : ℕ) ≤ (a : ℚ) / b := by
    rw [le_div_iff₀ (Nat.cast_pos.2 hb), ← Nat.cast_mul, Nat.cast_le, mul_comm, ← Nat.pow_add,
      add_comm 52]
    exact hopen
  have hless' : (weight n : ℚ) < (2 ^ 52 * 2 ^ p : ℕ) := Nat.cast_lt.2 hless
  rw [abs_of_nonpos (sub_nonpos.2 hopen'), abs_of_neg (sub_neg.2 (hless'.trans_le hopen'))]
  exact neg_lt_neg (sub_lt_sub_right hless' _)

/-- No size is nearer to a quotient. -/
theorem isPreferred_nearestBits {a b : ℕ} (ha : 0 < a) (hb : 0 < b) (n : ℕ) :
    IsPreferred (a / b) (nearestBits a b) n := by
  have hnearest := roundedQuotient_nearest a (Nat.mul_pos hb (Nat.two_pow_pos (binade a b)))
  have hparity : nearestBits a b % 2 = roundedQuotient a (b * 2 ^ binade a b) % 2 := by
    rw [nearestBits_eq]
    omega
  have hpow : (0 : ℚ) < 2 ^ binade a b := by positivity
  have hdistance : |(weight (nearestBits a b) : ℚ) - a / b| =
      |(roundedQuotient a (b * 2 ^ binade a b) : ℚ) - a / (b * 2 ^ binade a b : ℕ)| *
        2 ^ binade a b := by
    rw [weight_nearestBits ha hb, abs_mul_two_pow_sub]
  rcases weight_on_grid n (binade a b) with ⟨k, hk⟩ | ⟨hpos, hless⟩
  · have hdistance' : |(weight n : ℚ) - a / b| =
        |(k : ℚ) - a / (b * 2 ^ binade a b : ℕ)| * 2 ^ binade a b := by
      rw [hk, abs_mul_two_pow_sub]
    constructor
    · rw [hdistance, hdistance']
      exact mul_le_mul_of_nonneg_right (hnearest k).1 hpow.le
    · intro hne hsame
      rw [hdistance, hdistance'] at hsame
      rw [hparity]
      refine (hnearest k).2 ?_ (mul_right_cancel₀ hpow.ne' hsame)
      rintro rfl
      exact hne (weight_strictMono.injective (hk.trans (weight_nearestBits ha hb).symm))
  · have hnearer : |(weight (nearestBits a b) : ℚ) - a / b| < |(weight n : ℚ) - a / b| :=
      calc
        |(weight (nearestBits a b) : ℚ) - a / b|
          = |(roundedQuotient a (b * 2 ^ binade a b) : ℚ) - a / (b * 2 ^ binade a b : ℕ)| *
              2 ^ binade a b := hdistance
        _ ≤ |((2 ^ 52 : ℕ) : ℚ) - a / (b * 2 ^ binade a b : ℕ)| * 2 ^ binade a b :=
          mul_le_mul_of_nonneg_right (hnearest (2 ^ 52)).1 hpow.le
        _ = |((2 ^ 52 * 2 ^ binade a b : ℕ) : ℚ) - a / b| := (abs_mul_two_pow_sub ..).symm
        _ < |(weight n : ℚ) - a / b| :=
          abs_open_lt hb ((binade_spec ha hb).2.resolve_left hpos.ne') hless
    exact ⟨hnearer.le, fun _ hsame => absurd hsame hnearer.ne⟩

/-- Nearest bits make a nearest double. -/
theorem isNearest_of_weight {v : ℚ} {x : Double} (hx : x.bits.toNat ≤ topBits)
    (h : ∀ n ≤ topBits, IsPreferred v x.bits.toNat n) : IsNearest (v * 2 ^ (-1074 : ℤ)) x := by
  have hunit : (0 : ℚ) < 2 ^ (-1074 : ℤ) := zpow_pos two_pos _
  have hscale {y : Double} (hy : y.bits.toNat ≤ topBits) : |y.size - v * 2 ^ (-1074 : ℤ)| =
      |(weight y.bits.toNat : ℚ) - v| * 2 ^ (-1074 : ℤ) := by
    rw [size_eq hy, ← sub_mul, abs_mul, abs_of_pos hunit]
  constructor
  · exact (isCandidate_iff x).2 hx
  · intro y hy
    have hy' := (isCandidate_iff y).1 hy
    rw [hscale hx, hscale hy']
    exact mul_le_mul_of_nonneg_right (h _ hy').near hunit.le
  · intro y hy hne hsame
    have hy' := (isCandidate_iff y).1 hy
    rw [hscale hx, hscale hy'] at hsame
    rw [fractionField_mod_two]
    exact (h _ hy').even (fun heq => hne (bits_inj heq)) (mul_right_cancel₀ hunit.ne' hsame)

theorem gapsInOne_eq : gapsInOne = 2 ^ halvings := by
  unfold gapsInOne
  simp only [Nat.pow_eq]

theorem gapsInOne_pos : 0 < gapsInOne := by
  rw [gapsInOne_eq]
  exact Nat.two_pow_pos halvings

theorem mul_gapsInOne (v : ℚ) : v * gapsInOne * 2 ^ (-1074 : ℤ) = v := by
  have hhalvings : (-1074 : ℤ) = -(halvings : ℤ) := rfl
  rw [gapsInOne_eq, Nat.cast_pow, Nat.cast_ofNat, hhalvings, zpow_neg, zpow_natCast]
  exact mul_inv_cancel_right₀ (pow_ne_zero _ two_ne_zero) v

/-- Bits that lie behind those of infinity, and are as near as those, leave infinity the nearest. -/
theorem isPreferred_top {v : ℚ} {n : ℕ} (hn : topBits < n)
    (hnearest : |(weight n : ℚ) - v| ≤ |(weight topBits : ℚ) - v|) {m : ℕ} (hm : m ≤ topBits) :
    IsPreferred v topBits m := by
  refine ⟨?_, fun _ _ => by decide⟩
  have htop : (weight topBits : ℚ) < weight n := Nat.cast_lt.2 (weight_strictMono hn)
  have hm' : (weight m : ℚ) ≤ weight topBits := Nat.cast_le.2 (weight_strictMono.monotone hm)
  have hbeyond : (weight topBits : ℚ) < v := by
    by_contra hnot
    rw [abs_of_nonneg (by linarith), abs_of_nonneg (by linarith)] at hnearest
    linarith
  rw [abs_of_neg (by linarith), abs_of_neg (by linarith)]
  linarith

theorem isNearest_ofQuotient {a b : ℕ} (ha : 0 < a) (hb : 0 < b) :
    IsNearest (a / b) (ofQuotient a b) := by
  have hpos : 0 < a * gapsInOne := Nat.mul_pos ha gapsInOne_pos
  have hbits : (ofQuotient a b).bits.toNat = min (nearestBits (a * gapsInOne) b) topBits := by
    have htop : topBits < 2 ^ 64 := by decide
    rw [ofQuotient, UInt64.toNat_ofNat', Nat.mod_eq_of_lt ((min_le_right _ _).trans_lt htop)]
  have hpreferred := isPreferred_nearestBits hpos hb
  rw [← mul_gapsInOne (a / b), div_mul_eq_mul_div, ← Nat.cast_mul]
  apply isNearest_of_weight
  · rw [hbits]
    exact min_le_right _ _
  intro n hn
  rw [hbits]
  rcases Nat.lt_or_ge topBits (nearestBits (a * gapsInOne) b) with hover | hunder
  · rw [min_eq_right hover.le]
    exact isPreferred_top hover (hpreferred topBits).near hn
  · rw [min_eq_left hunder]
    exact hpreferred n

theorem size_lt_size {x y : Double} (hy : y.bits.toNat ≤ topBits)
    (h : x.bits.toNat < y.bits.toNat) : x.size < y.size := by
  rw [size_eq (h.le.trans hy), size_eq hy]
  exact mul_lt_mul_of_pos_right (Nat.cast_lt.2 (weight_strictMono h)) (zpow_pos two_pos _)

theorem not_lt_of_isNearest {v : ℚ} {x y : Double} (hx : IsNearest v x) (hy : IsNearest v y) :
    ¬x.bits.toNat < y.bits.toNat := by
  intro hlt
  have hy' := (isCandidate_iff y).1 hy.candidate
  have hsame : |x.size - v| = |y.size - v| :=
    le_antisymm (hx.nearest y hy.candidate) (hy.nearest x hx.candidate)
  have hne : x ≠ y := by
    rintro rfl
    exact hlt.false
  have hxeven := hx.even y hy.candidate hne.symm hsame
  have hyeven := hy.even x hx.candidate hne hsame.symm
  rw [fractionField_mod_two] at hxeven hyeven
  -- Between two doubles with even bits there is another one, and it is nearer.
  obtain ⟨z, hz⟩ := exists_bits_eq (Nat.succ_le_of_lt (hlt.trans_le hy'))
  have hzy : z.bits.toNat < y.bits.toNat := by omega
  have hxz' : x.size < z.size := size_lt_size (hzy.le.trans hy') (by omega)
  have hzy' : z.size < y.size := size_lt_size hy' hzy
  have hmiddle : x.size - v = -(y.size - v) := by
    rcases abs_eq_abs.1 hsame with h | h
    · linarith
    · exact h
  have hnearer : |z.size - v| < |x.size - v| := by
    rw [hsame]
    refine lt_of_lt_of_le (abs_lt.2 ⟨?_, ?_⟩) (le_abs_self _) <;> linarith
  exact hnearer.not_ge (hx.nearest z ((isCandidate_iff z).2 (hzy.le.trans hy')))

/-- There is one nearest double. -/
theorem IsNearest.unique {v : ℚ} {x y : Double} (hx : IsNearest v x) (hy : IsNearest v y) : x = y :=
  bits_inj (le_antisymm (not_lt.1 (not_lt_of_isNearest hy hx)) (not_lt.1 (not_lt_of_isNearest hx hy)))

/-! ## Decimals -/

theorem weight_zero : weight 0 = 0 := rfl

/-- Whatever is not above one half of the smallest double is nearest to zero. -/
theorem isNearest_zero {v : ℚ} (hv : 0 ≤ v) (hsmall : v ≤ 1 / 2) :
    IsNearest (v * 2 ^ (-1074 : ℤ)) zero := by
  apply isNearest_of_weight (Nat.zero_le _)
  intro n _
  refine ⟨?_, fun _ _ => rfl⟩
  show |((weight 0 : ℕ) : ℚ) - v| ≤ _
  rw [weight_zero, Nat.cast_zero, zero_sub, abs_neg, abs_of_nonneg hv]
  rcases Nat.eq_zero_or_pos n with rfl | hpos
  · rw [weight_zero, Nat.cast_zero, zero_sub, abs_neg, abs_of_nonneg hv]
  · have hone : (1 : ℚ) ≤ weight n :=
      Nat.one_le_cast.2 (weight_strictMono hpos)
    exact le_trans (by linarith) (le_abs_self _)

/-- Whatever is not below the size of infinity is nearest to infinity. -/
theorem isNearest_infinity {v : ℚ} (hv : weight topBits ≤ v) :
    IsNearest (v * 2 ^ (-1074 : ℤ)) infinity := by
  have hbits : infinity.bits.toNat = topBits := by decide
  apply isNearest_of_weight hbits.le
  intro n hn
  rw [hbits]
  refine ⟨?_, fun _ _ => by decide⟩
  have hle : (weight n : ℚ) ≤ weight topBits := Nat.cast_le.2 (weight_strictMono.monotone hn)
  rw [abs_of_nonpos (by linarith), abs_of_nonpos (by linarith)]
  linarith

/-- The digits of a number that is not zero tell its size. -/
theorem toDigits_bounds {n : ℕ} (hn : 0 < n) :
    10 ^ ((Nat.toDigits 10 n).length - 1) ≤ n ∧ n < 10 ^ (Nat.toDigits 10 n).length := by
  have hten : 1 < 10 := by decide
  generalize hl : (Nat.toDigits 10 n).length = l
  have hlength (k : ℕ) (hk : 0 < k) : l ≤ k ↔ n < 10 ^ k := hl ▸ Nat.length_toDigits_le_iff hten hk
  have hpos : 0 < l := by
    rw [← hl, List.length_pos_iff]
    exact Nat.toDigits_ne_nil
  refine ⟨?_, (hlength l hpos).1 le_rfl⟩
  rcases Nat.eq_zero_or_pos (l - 1) with hone | hmore
  · rw [hone]
    exact hn
  · rw [← not_lt, ← hlength _ hmore]
    omega

/-- Beyond this many places infinity is nearest. -/
theorem weight_top_le {v : ℚ} (hv : 10 ^ 400 ≤ v) : weight topBits ≤ v * gapsInOne := by
  have hweight : weight topBits = 2 ^ 1024 * gapsInOne := by
    have htop : topBits = 2046 * 2 ^ 52 + 2 ^ 52 := rfl
    have hexponents : 1024 + halvings = 52 + 2046 := rfl
    rw [htop, weight_add (.inr le_rfl) (by norm_num), ← Nat.pow_add, gapsInOne_eq, ← Nat.pow_add,
      hexponents]
  have hpow : (2 : ℚ) ^ 1024 ≤ v := by
    refine le_trans ?_ hv
    have hbase : (2 : ℚ) ^ 256 ≤ 10 ^ 100 := by norm_num
    calc
      (2 : ℚ) ^ 1024 = (2 ^ 256) ^ 4 := by rw [← pow_mul]
      _ ≤ (10 ^ 100) ^ 4 := pow_le_pow_left₀ (by positivity) hbase 4
      _ = 10 ^ 400 := by rw [← pow_mul]
  rw [hweight, Nat.cast_mul, Nat.cast_pow, Nat.cast_ofNat]
  exact mul_le_mul_of_nonneg_right hpow (Nat.cast_nonneg _)

/-- Behind this many places zero is nearest. -/
theorem mul_gapsInOne_le {v : ℚ} (hv : v ≤ (10 ^ 400)⁻¹) : v * gapsInOne ≤ 1 / 2 := by
  have hpow : (2 * gapsInOne : ℚ) ≤ 10 ^ 400 := by
    have hbase : (2 : ℚ) ^ 215 ≤ 10 ^ 80 := by norm_num
    have hexponents : halvings + 1 = 215 * 5 := rfl
    calc
      (2 * gapsInOne : ℚ) = (2 ^ 215) ^ 5 := by
        rw [gapsInOne_eq, Nat.cast_pow, Nat.cast_ofNat, ← pow_succ', ← pow_mul, hexponents]
      _ ≤ (10 ^ 80) ^ 5 := pow_le_pow_left₀ (by positivity) hbase 5
      _ = 10 ^ 400 := by rw [← pow_mul]
  have hten : (0 : ℚ) < 10 ^ 400 := by positivity
  have hone : v * (2 * gapsInOne) ≤ 1 :=
    calc
      v * (2 * gapsInOne) ≤ (10 ^ 400)⁻¹ * (2 * gapsInOne) :=
        mul_le_mul_of_nonneg_right hv (mul_nonneg zero_le_two (Nat.cast_nonneg _))
      _ ≤ (10 ^ 400)⁻¹ * 10 ^ 400 := mul_le_mul_of_nonneg_left hpow (inv_pos.2 hten).le
      _ = 1 := inv_mul_cancel₀ hten.ne'
  linarith

theorem natCast_mul_zpow (digits : ℕ) (exponent : ℤ) : (digits : ℚ) * 10 ^ exponent =
    ((digits * 10 ^ exponent.toNat : ℕ) : ℚ) / ((10 ^ (-exponent).toNat : ℕ) : ℚ) := by
  rcases Int.le_total 0 exponent with h | h
  · have hneg : (-exponent).toNat = 0 := by omega
    rw [hneg, pow_zero, Nat.cast_one, div_one, Nat.cast_mul, Nat.cast_pow, ← zpow_natCast,
      Int.toNat_of_nonneg h]
    rfl
  · have hpos : exponent.toNat = 0 := by omega
    have hexponent : exponent = -((-exponent).toNat : ℤ) := by omega
    rw [hpos, pow_zero, mul_one, Nat.cast_pow, div_eq_mul_inv, ← zpow_natCast, ← zpow_neg,
      ← hexponent]
    rfl

/-- The places of a decimal tell its size. -/
theorem decimal_bounds {digits : ℕ} (hpos : 0 < digits) (exponent : ℤ) :
    (10 : ℚ) ^ (((Nat.toDigits 10 digits).length : ℤ) - 1 + exponent) ≤ digits * 10 ^ exponent ∧
      digits * 10 ^ exponent ≤ (10 : ℚ) ^ (((Nat.toDigits 10 digits).length : ℤ) + exponent) := by
  have hten : (0 : ℚ) < 10 := by norm_num
  have hpower : (0 : ℚ) < 10 ^ exponent := zpow_pos hten exponent
  obtain ⟨hlow, hhigh⟩ := toDigits_bounds hpos
  have hcount : 0 < (Nat.toDigits 10 digits).length := List.length_pos_iff.2 Nat.toDigits_ne_nil
  have hcast : (((Nat.toDigits 10 digits).length : ℤ) - 1) =
      (((Nat.toDigits 10 digits).length - 1 : ℕ) : ℤ) := by omega
  rw [hcast, zpow_add₀ hten.ne', zpow_add₀ hten.ne', zpow_natCast, zpow_natCast]
  constructor
  · exact mul_le_mul_of_nonneg_right (by exact_mod_cast hlow) hpower.le
  · exact mul_le_mul_of_nonneg_right (by exact_mod_cast hhigh.le) hpower.le

/-- **Decimals are read as the nearest double.** -/
theorem isNearest_ofDecimal (digits : ℕ) (exponent : ℤ) :
    IsNearest (digits * 10 ^ exponent) (ofDecimal digits exponent) := by
  by_cases hzero : digits = 0
  · have hnearest := isNearest_zero le_rfl (by norm_num)
    rw [zero_mul] at hnearest
    rw [hzero, Nat.cast_zero, zero_mul]
    exact hnearest
  have hpos : 0 < digits := Nat.pos_of_ne_zero hzero
  obtain ⟨hlow, hhigh⟩ := decimal_bounds hpos exponent
  have hten : (1 : ℚ) ≤ 10 := by norm_num
  unfold ofDecimal
  dsimp only
  rw [if_neg (by simpa using hzero)]
  split_ifs with hlarge hsmall
  · rw [← mul_gapsInOne (digits * 10 ^ exponent)]
    apply isNearest_infinity
    apply weight_top_le
    exact le_trans (zpow_le_zpow_right₀ hten (by omega : (400 : ℤ) ≤ _)) hlow
  · have hnonneg : (0 : ℚ) ≤ digits * 10 ^ exponent := by positivity
    rw [← mul_gapsInOne (digits * 10 ^ exponent)]
    apply isNearest_zero (mul_nonneg hnonneg (Nat.cast_nonneg _))
    apply mul_gapsInOne_le
    exact le_trans hhigh (zpow_le_zpow_right₀ hten (by omega : _ ≤ (-400 : ℤ)))
  · rw [natCast_mul_zpow]
    exact isNearest_ofQuotient (Nat.mul_pos hpos (Nat.pow_pos (by decide)))
      (Nat.pow_pos (by decide))

theorem isNearest_iff {digits : ℕ} {exponent : ℤ} {x : Double} :
    IsNearest (digits * 10 ^ exponent) x ↔ x = ofDecimal digits exponent := by
  constructor
  · intro h
    exact h.unique (isNearest_ofDecimal digits exponent)
  · rintro rfl
    exact isNearest_ofDecimal digits exponent

/-! ## Numbers that are read exactly -/

/-- A number that is the size of a candidate is read exactly. -/
theorem IsNearest.size_eq {v : ℚ} {x y : Double} (h : IsNearest v x) (hy : y.IsCandidate)
    (hsize : y.size = v) : x.size = v := by
  have hle := h.nearest y hy
  rw [hsize, sub_self, abs_zero] at hle
  exact sub_eq_zero.1 (abs_nonpos_iff.1 hle)

/-- A natural number of up to fifty-three bits reaches fifty-three of them by doubling. -/
theorem exists_doubled {n : ℕ} (hpos : 0 < n) (hn : n ≤ 2 ^ 53) :
    ∃ t ≤ 52, 2 ^ 52 ≤ n * 2 ^ t ∧ n * 2 ^ t ≤ 2 ^ 53 := by
  rcases Nat.lt_or_ge n (2 ^ 52) with hless | hmore
  · have hlog : n.log2 < 52 := (Nat.log2_lt hpos.ne').2 hless
    have hexponent : n.log2 + (52 - n.log2) = 52 := by omega
    refine ⟨52 - n.log2, by omega, ?_, ?_⟩
    · calc
        2 ^ 52 = 2 ^ n.log2 * 2 ^ (52 - n.log2) := by rw [← Nat.pow_add, hexponent]
        _ ≤ n * 2 ^ (52 - n.log2) := Nat.mul_le_mul_right _ (Nat.log2_self_le hpos.ne')
    · calc
        n * 2 ^ (52 - n.log2) ≤ 2 ^ (n.log2 + 1) * 2 ^ (52 - n.log2) :=
          Nat.mul_le_mul_right _ Nat.lt_log2_self.le
        _ = 2 ^ 53 := by rw [← Nat.pow_add, Nat.add_right_comm, hexponent]
  · exact ⟨0, by omega, by omega, by omega⟩

theorem exists_weight_eq_natCast {n : ℕ} (hn : n ≤ 2 ^ 53) :
    ∃ bits ≤ topBits, weight bits = n * gapsInOne := by
  rcases Nat.eq_zero_or_pos n with rfl | hpos
  · exact ⟨0, Nat.zero_le _, by rw [weight_zero, zero_mul]⟩
  obtain ⟨t, ht, hlow, hhigh⟩ := exists_doubled hpos hn
  have hhalvings : halvings = 1074 := rfl
  refine ⟨(halvings - t) * 2 ^ 52 + n * 2 ^ t, ?_, ?_⟩
  · rw [topBits_eq]
    omega
  · rw [weight_add (.inr hlow) hhigh, mul_assoc, ← Nat.pow_add, Nat.add_sub_cancel' (by omega),
      gapsInOne_eq]

/-- **Natural numbers of up to fifty-three bits are read exactly.** -/
theorem toRat_ofDecimal_natCast {n : ℕ} (hn : n ≤ 2 ^ 53) : (ofDecimal n 0).toRat = n := by
  obtain ⟨bits, hbits, hweight⟩ := exists_weight_eq_natCast hn
  obtain ⟨x, rfl⟩ := exists_bits_eq hbits
  have hsize : x.size = n := by
    rw [size_eq hbits, hweight, Nat.cast_mul, mul_gapsInOne]
  have hnearest := isNearest_ofDecimal n 0
  rw [zpow_zero, mul_one] at hnearest
  rw [toRat_of_isCandidate hnearest.candidate]
  exact hnearest.size_eq ((isCandidate_iff x).2 hbits) hsize

end GlobOracle.Double
