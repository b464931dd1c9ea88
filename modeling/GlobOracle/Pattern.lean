import GlobOracle.Failure
import GlobOracle.Text.Substring

/-!
# What a pattern asks of the shell

A pattern that holds one of `? * + @ !` right before an opening parenthesis needs extended globs, and one
that holds `**` asks for matching across directories.  Patterns that are no text can be asked too, as far
as the question makes sense: an empty one holds nothing, and a collection holds `**` if it is a member.
-/

namespace GlobOracle.Pattern

/-- A character that begins a list of alternatives if a parenthesis follows. -/
def opensList (c : Char) : Bool := c == '?' || c == '*' || c == '+' || c == '@' || c == '!'

/-- Does a text hold an opening character right before a parenthesis? -/
def hasList : List Char → Bool
  | c :: d :: text => (opensList c && d == '(') || hasList (d :: text)
  | _ => false

/-- The pattern that matches across directories. -/
def doubleStar : String := "**"

/-- Is a value the text `**`? -/
def isDoubleStar : Value → Bool
  | .text s => s == doubleStar
  | _ => false

/-- Does a pattern need extended globs? -/
def usesExtglob (pattern : Value) : Except Failure Bool :=
  match pattern with
  | .text s => .ok (hasList s.toList)
  | v => if v.truthy then .error .wrongKind else .ok false

/-- Does a pattern ask for matching across directories? -/
def usesGlobstar (pattern : Value) : Except Failure Bool :=
  match pattern with
  | .text s => .ok (Text.contains s doubleStar)
  | .list xs => .ok (xs.any isDoubleStar)
  | .tuple xs => .ok (xs.any isDoubleStar)
  | .mapping entries => .ok (entries.any fun entry => entry.1 == doubleStar)
  | v => if v.truthy then .error .wrongKind else .ok false

end GlobOracle.Pattern
