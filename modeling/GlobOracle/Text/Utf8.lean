/-!
# Reading bytes as text

`decode` reads bytes as UTF-8 and never fails: where the bytes are no well-formed text, each maximal
beginning of a character that is cut short, and each byte that begins none, becomes one U+FFFD.
A byte order mark is a character like any other.
-/

namespace GlobOracle.Text.Utf8

/-- The character that stands for bytes that are no text. -/
def replacement : Char := '\uFFFD'

/-- What the first byte of a character announces. -/
inductive Lead where
  /-- The byte is a character. -/
  | single
  /-- One more byte follows. -/
  | two
  /-- Two more bytes follow, the next one between the bounds. -/
  | three (low high : UInt8)
  /-- Three more bytes follow, the next one between the bounds. -/
  | four (low high : UInt8)
  /-- No character begins with this byte. -/
  | none
  deriving Repr, DecidableEq

/-- What a byte announces as the first one of a character.  The bounds rule out characters written
longer than needed, surrogates, and code points above U+10FFFF. -/
def lead (b : UInt8) : Lead :=
  if b < 0x80 then .single
  else if b < 0xC2 then .none
  else if b < 0xE0 then .two
  else if b == 0xE0 then .three 0xA0 0xBF
  else if b == 0xED then .three 0x80 0x9F
  else if b < 0xF0 then .three 0x80 0xBF
  else if b == 0xF0 then .four 0x90 0xBF
  else if b < 0xF4 then .four 0x80 0xBF
  else if b == 0xF4 then .four 0x80 0x8F
  else .none

/-- A byte between the bounds of a place. -/
def within (low high b : UInt8) : Bool := decide (low ≤ b) && decide (b ≤ high)

/-- A byte that continues a character. -/
def continues (b : UInt8) : Bool := within 0x80 0xBF b

/-- The character of a code point put together from the bits of its bytes. -/
def assemble (first : Nat) (rest : List UInt8) : Char :=
  Char.ofNat (rest.foldl (fun code b => code * 64 + b.toNat % 64) first)

/-- The character at the front of the bytes `a :: rest`, and how many bytes of `rest` belong to it. -/
def front (a : UInt8) (rest : List UInt8) : Char × Nat :=
  match lead a, rest with
  | .single, _ => (Char.ofNat a.toNat, 0)
  | .two, b :: _ => if continues b then (assemble (a.toNat % 32) [b], 1) else (replacement, 0)
  | .three low high, b :: rest =>
      if within low high b then
        match rest with
        | c :: _ => if continues c then (assemble (a.toNat % 16) [b, c], 2) else (replacement, 1)
        | [] => (replacement, 1)
      else (replacement, 0)
  | .four low high, b :: rest =>
      if within low high b then
        match rest with
        | c :: d :: _ =>
            if continues c then
              if continues d then (assemble (a.toNat % 8) [b, c, d], 3) else (replacement, 2)
            else (replacement, 1)
        | [c] => (replacement, if continues c then 2 else 1)
        | [] => (replacement, 1)
      else (replacement, 0)
  | _, _ => (replacement, 0)

/-- Reads the bytes that follow the first `owned` ones, which belong to the character before. -/
def decodeAfter : Nat → List UInt8 → List Char
  | _, [] => []
  | owned + 1, _ :: rest => decodeAfter owned rest
  | 0, a :: rest => (front a rest).1 :: decodeAfter (front a rest).2 rest

/-- Reads bytes as text, with U+FFFD in place of what is no text. -/
def decode (bytes : List UInt8) : List Char := decodeAfter 0 bytes

end GlobOracle.Text.Utf8
