import GlobOracle.Text.Printable

/-!
# Quoted text

How messages show a text so that every character of it can be told: between single quotes, or between
double quotes if it holds a single quote and no double quote.  The backslash, the quote in use and
everything that is not printable are escaped; line feed, carriage return and tab have letters, the rest
is written in hexadecimal with two, four or eight digits.  Bytes are quoted likewise behind a `b`, and
of them only printable ASCII stands for itself.
-/

namespace GlobOracle.Text

/-- The last `width` hexadecimal digits of a number, in lower case. -/
def hexadecimal (width n : Nat) : List Char :=
  (List.range width).reverse.map fun place => Nat.digitChar (n / Nat.pow 16 place % 16)

/-- The quote that surrounds a text. -/
def quoteFor (text : List Char) : Char :=
  if text.contains '\'' && !text.contains '"' then '"' else '\''

/-- The escapes that a text and a string of bytes have in common, for a given quote. -/
def commonEscape? (quote c : Char) : Option (List Char) :=
  if c == '\\' || c == quote then some ['\\', c]
  else if c == '\n' then some ['\\', 'n']
  else if c == '\r' then some ['\\', 'r']
  else if c == '\t' then some ['\\', 't']
  else none

/-- One character inside quotes. -/
def escape (quote c : Char) : List Char :=
  match commonEscape? quote c with
  | some escaped => escaped
  | none =>
      if isPrintable c then [c]
      else if c.toNat < 0x100 then '\\' :: 'x' :: hexadecimal 2 c.toNat
      else if c.toNat < 0x10000 then '\\' :: 'u' :: hexadecimal 4 c.toNat
      else '\\' :: 'U' :: hexadecimal 8 c.toNat

/-- A text between quotes. -/
def quote (text : List Char) : List Char :=
  let mark := quoteFor text
  mark :: text.flatMap (escape mark) ++ [mark]

/-- A string between quotes. -/
def quoted (text : String) : String := String.ofList (quote text.toList)

/-- One byte inside quotes. -/
def escapeByte (quote : Char) (b : UInt8) : List Char :=
  let c := Char.ofNat b.toNat
  match commonEscape? quote c with
  | some escaped => escaped
  | none =>
      if 0x20 ≤ b.toNat ∧ b.toNat < 0x7F then [c]
      else '\\' :: 'x' :: hexadecimal 2 b.toNat

/-- Bytes between quotes, behind a `b`. -/
def quotedBytes (bytes : List UInt8) : String :=
  let mark := quoteFor (bytes.map fun b => Char.ofNat b.toNat)
  String.ofList ('b' :: mark :: bytes.flatMap (escapeByte mark) ++ [mark])

end GlobOracle.Text
