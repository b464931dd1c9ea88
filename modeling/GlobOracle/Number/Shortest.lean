import GlobOracle.Number.Double

/-!
# The shortest decimal of a double

`shortest` finds the fewest digits that read back to a finite double other than zero, and of the
decimals with that many digits the nearest one.  The search runs over the decimal grids from coarse to
fine; on each grid only the two neighbours of the double can lie in the interval of numbers that round
to it.  `render` lays the digits out: positionally from one ten-thousandth up to below ten to the
sixteenth, always with a point, and otherwise with a signed exponent of at least two digits.
-/

namespace GlobOracle

/-- The number `digits * 10 ^ exponent`. -/
structure Decimal where
  /-- The digits, as one number. -/
  digits : Nat
  /-- The exponent of the last digit. -/
  exponent : Int
  deriving Repr, DecidableEq

/-- The digits of a decimal without the zeros at its end, and the exponent of the first digit. -/
def Decimal.significant (d : Decimal) : List Char × Int :=
  let all := Nat.toDigits 10 d.digits
  ((all.reverse.dropWhile (· == '0')).reverse, d.exponent + (all.length : Int) - 1)

namespace Double

/-- Compares `a * 10 ^ i` with `n * 2 ^ j`. -/
def compareScaled (a : Nat) (i : Int) (n : Nat) (j : Int) : Ordering :=
  compare (a * Nat.pow 10 i.toNat * Nat.pow 2 (-j).toNat)
    (n * Nat.pow 2 j.toNat * Nat.pow 10 (-i).toNat)

/-- Does a decimal lie among the numbers that round to this magnitude?  They reach halfway to the
neighbours on both sides; the two ends round to it exactly if its significand is even. -/
def Magnitude.readsBack (m : Magnitude) (d : Decimal) : Bool :=
  let low := if m.narrowBelow then 4 * m.significand - 1 else 4 * m.significand - 2
  let high := 4 * m.significand + 2
  let ends := m.significand % 2 == 0
  let toLow := compareScaled d.digits d.exponent low (m.exponent - 2)
  let toHigh := compareScaled d.digits d.exponent high (m.exponent - 2)
  (toLow == .gt || (ends && toLow == .eq)) && (toHigh == .lt || (ends && toHigh == .eq))

/-- The least `k` for which the magnitude is below `10 ^ k`, from an estimate by its bits. -/
def Magnitude.scale (m : Magnitude) : Int :=
  let estimate := ((m.significand.log2 : Int) + m.exponent) * 30103 / 100000
  let candidates := (List.range 5).map fun (i : Nat) => estimate - 1 + (i : Int)
  (candidates.find? fun k => compareScaled 1 k m.significand m.exponent == .gt).getD estimate

/-- The magnitude in units of `10 ^ grid`, rounded down. -/
def Magnitude.floorOn (m : Magnitude) (grid : Int) : Nat :=
  m.significand * Nat.pow 2 m.exponent.toNat * Nat.pow 10 (-grid).toNat /
    (Nat.pow 2 (-m.exponent).toNat * Nat.pow 10 grid.toNat)

/-- Is the magnitude nearer to `below + 1` than to `below`, in units of `10 ^ grid`?  A tie goes to the
even one. -/
def Magnitude.nearerAbove (m : Magnitude) (below : Nat) (grid : Int) : Bool :=
  match compareScaled (2 * below + 1) grid (2 * m.significand) m.exponent with
  | .lt => true
  | .gt => false
  | .eq => below % 2 == 1

/-- The neighbour of the magnitude on a grid that reads back, the nearer one if both do. -/
def Magnitude.onGrid? (m : Magnitude) (grid : Int) : Option Decimal :=
  let below := m.floorOn grid
  match m.readsBack ⟨below, grid⟩, m.readsBack ⟨below + 1, grid⟩ with
  | true, true => some ⟨if m.nearerAbove below grid then below + 1 else below, grid⟩
  | true, false => some ⟨below, grid⟩
  | false, true => some ⟨below + 1, grid⟩
  | false, false => none

/-- The exact decimal of a magnitude. -/
def Magnitude.exact (m : Magnitude) : Decimal :=
  ⟨m.significand * Nat.pow 2 m.exponent.toNat * Nat.pow 5 (-m.exponent).toNat, min m.exponent 0⟩

/-- The shortest decimal that reads back; the nearest of those. -/
def Magnitude.shortest (m : Magnitude) : Decimal :=
  let k := m.scale
  let grids := (List.range 17).map fun (i : Nat) => k - 1 - (i : Int)
  (grids.findSome? m.onGrid?).getD m.exact

/-- An exponent with its sign, in at least two digits. -/
def exponentText (e : Int) : List Char :=
  let digits := Nat.toDigits 10 e.natAbs
  (if e < 0 then '-' else '+') :: (if digits.length < 2 then '0' :: digits else digits)

/-- The text of a positive number with the given digits, whose first digit has the given exponent. -/
def layOut (digits : List Char) (e : Int) : List Char :=
  if e < -4 ∨ 16 ≤ e then
    let tail := if digits.length < 2 then [] else '.' :: digits.drop 1
    digits.take 1 ++ tail ++ 'e' :: exponentText e
  else if e < 0 then
    '0' :: '.' :: List.replicate (-e - 1).toNat '0' ++ digits
  else
    let before := e.toNat + 1
    let whole := digits.take before ++ List.replicate (before - digits.length) '0'
    let fraction := digits.drop before
    whole ++ '.' :: (if fraction.isEmpty then ['0'] else fraction)

/-- The text of a double: its shortest decimal with the sign before it, or `nan`, or `inf`. -/
def render (x : Double) : String :=
  if x.isNaN then "nan"
  else
    let body :=
      if x.isInfinite then "inf".toList
      else if x.isZero then "0.0".toList
      else
        let (digits, e) := x.magnitude.shortest.significant
        layOut digits e
    String.ofList (if x.negative then '-' :: body else body)

end Double

end GlobOracle
