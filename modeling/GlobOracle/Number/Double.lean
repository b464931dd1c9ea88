/-!
# Double precision numbers as bits

A number of double precision is its 64 bits: a sign, eleven bits of exponent and fifty-two of
fraction.  `magnitude` reads a finite one as a natural number times a power of two, and everything else
here is exact arithmetic on natural numbers; only `ofDecimal` rounds, to the nearest double, and a tie to
the even one.
-/

namespace GlobOracle

/-- A number of double precision, by its bits. -/
structure Double where
  /-- Sign, exponent and fraction, from the top. -/
  bits : UInt64
  deriving Repr, DecidableEq

namespace Double

/-- The sign bit is set. -/
def negative (x : Double) : Bool := x.bits >>> 63 == 1

/-- The exponent as it is stored. -/
def exponentField (x : Double) : Nat := ((x.bits >>> 52) &&& 0x7FF).toNat

/-- The fraction as it is stored. -/
def fractionField (x : Double) : Nat := (x.bits &&& 0xFFFFFFFFFFFFF).toNat

/-- Not a number. -/
def isNaN (x : Double) : Bool := x.exponentField == 2047 && x.fractionField != 0

/-- One of the two infinities. -/
def isInfinite (x : Double) : Bool := x.exponentField == 2047 && x.fractionField == 0

/-- One of the two zeros. -/
def isZero (x : Double) : Bool := x.exponentField == 0 && x.fractionField == 0

/-- Greater than zero. -/
def isPositive (x : Double) : Bool := !x.negative && !x.isZero && !x.isNaN

/-- The distance of a finite double from zero, as a natural number times a power of two. -/
structure Magnitude where
  /-- The natural number. -/
  significand : Nat
  /-- The exponent of the power of two. -/
  exponent : Int
  /-- The gap to the next double below is half the gap to the next one above. -/
  narrowBelow : Bool
  deriving Repr, DecidableEq

/-- The distance of a finite double from zero. -/
def magnitude (x : Double) : Magnitude :=
  if x.exponentField == 0 then ⟨x.fractionField, -1074, false⟩
  else ⟨Nat.pow 2 52 + x.fractionField, (x.exponentField : Int) - 1075,
    x.fractionField == 0 && decide (1 < x.exponentField)⟩

/-- The whole part of a finite double, toward zero. -/
def truncate (x : Double) : Int :=
  let m := x.magnitude
  let whole := m.significand * Nat.pow 2 m.exponent.toNat / Nat.pow 2 (-m.exponent).toNat
  if x.negative then -(whole : Int) else whole

/-- Has a finite double no fraction? -/
def isWhole (x : Double) : Bool :=
  let m := x.magnitude
  m.significand * Nat.pow 2 m.exponent.toNat % Nat.pow 2 (-m.exponent).toNat == 0

/-- The positive zero. -/
def zero : Double := ⟨0⟩

/-- The positive infinity. -/
def infinity : Double := ⟨0x7FF0000000000000⟩

/-- The number that stands for none. -/
def nan : Double := ⟨0x7FF8000000000000⟩

/-- A double with the sign bit set as asked; the operand has it clear. -/
def withSign (negative : Bool) (x : Double) : Double :=
  if negative then ⟨x.bits ||| 0x8000000000000000⟩ else x

/-- The quotient of two natural numbers, rounded to the nearest natural number, and to the even one of two
that are as near. -/
def roundedQuotient (a b : Nat) : Nat :=
  let below := a / b
  let rest := a % b
  if 2 * rest < b || 2 * rest == b && below % 2 == 0 then below else below + 1

/-- How often the gap between two doubles has doubled where a quotient lies, in units of the smallest gap:
the least `p` for which the quotient is below `2 ^ (p + 53)`.  The logarithms tell it but for one. -/
def binade (a b : Nat) : Nat :=
  let p := a.log2 - (b.log2 + 52)
  if 0 < p && a < b * Nat.pow 2 (p + 52) then p - 1 else p

/-- The bits of the double nearest to a quotient in units of the smallest gap, if there were doubles of any
size.  A significand that is rounded up to the next power of two carries over into the exponent. -/
def nearestBits (a b : Nat) : Nat :=
  binade a b * Nat.pow 2 52 + roundedQuotient a (b * Nat.pow 2 (binade a b))

/-- The smallest gap between two doubles is one, halved so often. -/
def halvings : Nat := 1074

/-- How many of the smallest gaps make one. -/
def gapsInOne : Nat := Nat.pow 2 halvings

/-- The bits of infinity, behind those of all finite doubles. -/
def topBits : Nat := 2047 * Nat.pow 2 52

/-- The double nearest to the quotient of two natural numbers, of which the second is not zero. -/
def ofQuotient (a b : Nat) : Double := ⟨UInt64.ofNat (min (nearestBits (a * gapsInOne) b) topBits)⟩

/-- The double nearest to `digits * 10 ^ exponent`.  Beyond four hundred places before or behind the
point the answer is infinity or zero whatever the digits. -/
def ofDecimal (digits : Nat) (exponent : Int) : Double :=
  let places := ((Nat.toDigits 10 digits).length : Int) + exponent
  if digits == 0 then zero
  else if 400 < places then infinity
  else if places < -400 then zero
  else ofQuotient (digits * Nat.pow 10 exponent.toNat) (Nat.pow 10 (-exponent).toNat)

end Double

end GlobOracle
