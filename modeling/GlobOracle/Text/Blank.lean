import GlobOracle.Text.Ranges

/-!
# Blank characters

The characters that trimming removes: the Unicode white space characters and the four information
separators U+001C to U+001F.  `trim` removes them from both ends of a text and keeps what stands
between.  Around a number the information separators are not blank (`isSpacing`), and among bytes only
the six blank characters of a plain terminal are (`isOrdinaryBlank`).
-/

namespace GlobOracle.Text

/-- The blank code points, in ascending ranges. -/
def blankRanges : List (Nat × Nat) :=
  [(0x09, 0x0D), (0x1C, 0x20), (0x85, 0x85), (0xA0, 0xA0), (0x1680, 0x1680), (0x2000, 0x200A),
   (0x2028, 0x2029), (0x202F, 0x202F), (0x205F, 0x205F), (0x3000, 0x3000)]

theorem ascending_blankRanges : ascending blankRanges = true := by decide

/-- A character that trimming removes. -/
def isBlank (c : Char) : Bool := inRanges blankRanges c.toNat

/-- One of the information separators U+001C to U+001F. -/
def isSeparator (c : Char) : Bool := decide (0x1C ≤ c.toNat) && decide (c.toNat ≤ 0x1F)

/-- A character that may surround a number: a blank one that is no information separator. -/
def isSpacing (c : Char) : Bool := isBlank c && !isSeparator c

/-- Space, tab, line feed, vertical tab, form feed and carriage return. -/
def isOrdinaryBlank (c : Char) : Bool :=
  c == ' ' || (decide (0x09 ≤ c.toNat) && decide (c.toNat ≤ 0x0D))

/-- Removes from both ends the longest runs of characters of a class. -/
def trimBy (drops : Char → Bool) (text : List Char) : List Char :=
  ((text.dropWhile drops).reverse.dropWhile drops).reverse

/-- Removes the blank characters at both ends. -/
def trim (text : List Char) : List Char := trimBy isBlank text

/-- A text without the blank characters at its ends. -/
def trimmed (text : String) : String := String.ofList (trim text.toList)

/-- A text of blank characters alone, or no text at all. -/
def isBlankText (text : String) : Bool := text.toList.all isBlank

end GlobOracle.Text
