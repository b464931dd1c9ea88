import GlobOracle.Number.Double
import GlobOracle.Text.Blank
import GlobOracle.Text.DecimalDigit

/-!
# Numbers written as text

An integer literal is an optional sign and decimal digits of any script, with at most one underscore
between two digits, and at most `maxDigits` digits.  A decimal literal also has a point, an exponent, or
is one of the words for infinity and for no number.  The readers take a text whose blanks have been
trimmed.
-/

namespace GlobOracle.Literal

open Text (digit? ofDigits)

/-- The most digits that an integer may be written with. -/
def maxDigits : Nat := 4300

/-- Why a text is not read as an integer. -/
inductive IntegerFault where
  /-- The text is no integer literal. -/
  | malformed
  /-- The literal has more digits than are read. -/
  | tooManyDigits (count : Nat)
  deriving Repr, DecidableEq

/-- A sign at the front, and the rest. -/
def splitSign : List Char → Bool × List Char
  | '-' :: rest => (true, rest)
  | '+' :: rest => (false, rest)
  | rest => (false, rest)

/-- Digits with at most one underscore between two of them.  The flag tells whether a digit has just been
read, so that the text may end here or go on with an underscore. -/
def digitRun (afterDigit : Bool) : List Char → Option (List Nat)
  | [] => if afterDigit then some [] else none
  | c :: rest =>
      if c == '_' then
        if afterDigit then digitRun false rest else none
      else match digit? c with
        | some d => (digitRun true rest).map (d :: ·)
        | none => none

/-- A character that can stand inside an integer literal, behind its sign. -/
def inRun (c : Char) : Bool := c == '_' || (digit? c).isSome

/-- Reads an integer.  The digits are judged before what follows them, so that too long a literal is
reported as such whatever comes behind. -/
def readInteger (text : List Char) : Except IntegerFault Int :=
  let (negative, body) := splitSign text
  match digitRun false (body.takeWhile inRun) with
  | none => .error .malformed
  | some digits =>
      if maxDigits < digits.length then .error (.tooManyDigits digits.length)
      else if (body.dropWhile inRun).isEmpty then
        .ok (if negative then -(ofDigits digits : Int) else ofDigits digits)
      else .error .malformed

/-- The integer that a text denotes, if it is an integer literal. -/
def integer? (text : List Char) : Option Int := (readInteger text).toOption

/-- Takes out the underscores, each of which must stand between two digits. -/
def withoutUnderscores (previous : Option Char) : List Char → Option (List Char)
  | [] => if previous == some '_' then none else some []
  | c :: rest =>
      let afterDigit := (previous.bind digit?).isSome
      if c == '_' then
        if afterDigit then withoutUnderscores (some c) rest else none
      else if previous == some '_' && (digit? c).isNone then none
      else (withoutUnderscores (some c) rest).map (c :: ·)

/-- The digits at the front, and the rest. -/
def splitDigits (text : List Char) : List Nat × List Char :=
  ((text.takeWhile fun c => (digit? c).isSome).filterMap digit?,
    text.dropWhile fun c => (digit? c).isSome)

/-- The exponent at the end of a decimal: none, or a mark, an optional sign and digits. -/
def exponent? : List Char → Option Int
  | [] => some 0
  | mark :: rest =>
      if mark == 'e' || mark == 'E' then
        let (negative, body) := splitSign rest
        match splitDigits body with
        | ([], _) => none
        | (digits, []) => some (if negative then -(ofDigits digits : Int) else ofDigits digits)
        | _ => none
      else none

/-- An unsigned decimal: digits with an optional point among, before or after them, and an optional
exponent. -/
def unsigned? (text : List Char) : Option Double :=
  let (whole, rest) := splitDigits text
  let (fraction, rest) :=
    match rest with
    | '.' :: rest => splitDigits rest
    | rest => ([], rest)
  if whole.isEmpty && fraction.isEmpty then none
  else (exponent? rest).map fun e =>
    Double.ofDecimal (ofDigits (whole ++ fraction)) (e - (fraction.length : Int))

/-- The words for infinity and for no number, in any case. -/
def special? (text : List Char) : Option Double :=
  let lower := String.ofList (text.map Char.toLower)
  if lower == "inf" || lower == "infinity" then some Double.infinity
  else if lower == "nan" then some Double.nan
  else none

/-- The double nearest to the number that a text denotes, if it is a decimal literal. -/
def decimal? (text : List Char) : Option Double :=
  (withoutUnderscores none text).bind fun text =>
    let (negative, body) := splitSign text
    ((special? body).or (unsigned? body)).map (Double.withSign negative)

end GlobOracle.Literal
