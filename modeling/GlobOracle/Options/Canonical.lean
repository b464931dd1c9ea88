import GlobOracle.Options.Basic
import GlobOracle.Pattern

/-!
# Canonical options

`Options.normalize` makes the record that the command is built from.  Aliases switch their toggles on,
toggles that nobody set and the pattern asks for are switched on, a missing working directory is the
current one, and in the end every toggle is on or absent.  The record is marked, and a marked record is
left as it is, whatever it holds.
-/

namespace GlobOracle.Options

/-- Fills in the current directory if the record names none.  A directory that is named is copied: it is
kept, but with every object made of fields in it turned into a mapping. -/
def withDirectory (current : Except OsError String) (o : Options) : Except Failure Options :=
  if o.has .workingDirectory then .ok (o.set .workingDirectory (o.get .workingDirectory).plain)
  else match current with
    | .ok path => .ok (o.set .workingDirectory (.text path))
    | .error e => .error (.os e)

/-- Switches the toggle of one alias on if the alias is used, and takes the alias away. -/
def expandAlias (o : Options) (a : Alias) : Options :=
  let o := if o.has (.byAlias a) then o.set (.toggle a.target) (.bool true) else o
  o.set (.byAlias a) (.bool false)

/-- Expands all aliases. -/
def expandAliases (o : Options) : Options := Alias.all.foldl expandAlias o

/-- Switches a toggle on that nobody set, if the pattern asks for it. -/
def infer (o : Options) (t : Toggle) (asked : Except Failure Bool) : Except Failure Options :=
  match o.get (.toggle t) with
  | .null => asked.map fun yes => if yes then o.set (.toggle t) (.bool true) else o
  | _ => .ok o

/-- Toggles become true or absent, the error policy a truth value, and the record is marked. -/
def settle (o : Options) : Options where
  get
    | .toggle t => if o.has (.toggle t) then .bool true else .null
    | .strictErrors => .bool (o.has .strictErrors)
    | .normalized => .bool true
    | f => o.get f

/-- The canonical record for matching a pattern. -/
def normalize (current : Except OsError String) (pattern input : Value) :
    Except Failure Options := do
  let o ← coerce input
  if o.has .normalized then
    return o
  let o ← o.withDirectory current
  let o ← o.expandAliases.infer .globstar (Pattern.usesGlobstar pattern)
  let o ← o.infer .extglob (Pattern.usesExtglob pattern)
  return o.settle

end GlobOracle.Options
