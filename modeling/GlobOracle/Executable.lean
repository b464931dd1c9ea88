import GlobOracle.Value
import GlobOracle.Text.Blank

/-!
# The name of a program to launch

A program is named by text or by raw bytes.  A configured name loses the blanks around it, and one that
is blank throughout names nothing.
-/

namespace GlobOracle

/-- The name of a program to launch. -/
inductive Executable where
  /-- A name in text. -/
  | text (name : String)
  /-- A name in raw bytes. -/
  | bytes (name : List UInt8)
  deriving Repr, DecidableEq

namespace Executable

/-- The name as a value. -/
def value : Executable → Value
  | text name => .text name
  | bytes name => .bytes name

/-- A byte that is blank in ASCII. -/
def isBlankByte (b : UInt8) : Bool := b == 0x20 || (decide (0x09 ≤ b) && decide (b ≤ 0x0D))

/-- Bytes without the blank ones at their ends. -/
def trimBytes (bs : List UInt8) : List UInt8 :=
  ((bs.dropWhile isBlankByte).reverse.dropWhile isBlankByte).reverse

/-- The program that a text names, without the blanks around it. -/
def ofText? (name : String) : Option Executable :=
  let name := Text.trimmed name
  if name.isEmpty then none else some (text name)

/-- The program that bytes name, without the blanks around them. -/
def ofBytes? (name : List UInt8) : Option Executable :=
  let name := trimBytes name
  if name.isEmpty then none else some (bytes name)

end Executable

end GlobOracle
