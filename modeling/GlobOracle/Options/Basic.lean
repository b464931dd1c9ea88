import GlobOracle.Failure
import GlobOracle.Options.Field

/-!
# The options of a call

`Options` gives every field a value of any kind; nothing is converted until the record is made
canonical.  `Options.ofEntries` fills a record from the entries of a mapping: a later entry for a field
replaces an earlier one, and a key that denotes no field is rejected.  What a caller hands over as options
is a value, and `Options.coerce` finds the record that it stands for.
-/

namespace GlobOracle

/-- The options of a call: a value for every field. -/
structure Options where
  /-- The value of a field. -/
  get : Field → Value

namespace Options

/-- No toggle set, no alias used, errors count as no match, and no working directory. -/
def defaults : Options where
  get
    | .toggle _ => .null
    | .byAlias _ => .bool false
    | .strictErrors => .bool false
    | .workingDirectory => .null
    | .normalized => .bool false

/-- Two records are the same if all their fields are. -/
instance : BEq Options where
  beq o p := Field.all.all fun f => o.get f == p.get f

/-- The record with another value in one field. -/
def set (o : Options) (f : Field) (value : Value) : Options where
  get g := if g = f then value else o.get g

@[simp] theorem get_set (o : Options) (f g : Field) (value : Value) :
    (o.set f value).get g = if g = f then value else o.get g := rfl

@[ext] theorem ext {o p : Options} (h : ∀ f, o.get f = p.get f) : o = p := by
  cases o
  cases p
  congr
  exact funext h

/-- Does a field hold a value that counts as true? -/
def has (o : Options) (f : Field) : Bool := (o.get f).truthy

/-- The toggles that are on, in the order in which they are handed to the shell. -/
def enabledToggles (o : Options) : List Toggle := Toggle.all.filter fun t => o.has (.toggle t)

/-- Puts the value of one entry into the field that its key denotes. -/
def assign (o : Options) (entry : String × Value) : Except Failure Options :=
  match Field.ofKey? entry.1 with
  | some f => .ok (o.set f entry.2)
  | none => .error (.rejected (.unknownOption entry.1))

/-- Fills a record from entries in their order, starting from the defaults. -/
def ofEntries (entries : List (String × Value)) : Except Failure Options :=
  entries.foldlM assign defaults

/-- The record as a value. -/
def value (o : Options) : Value := .record o.get

/-- The record that a value is. -/
def ofRecord : Value → Except Failure Options
  | .record get => .ok ⟨get⟩
  | _ => .error .noOperation

/-- Fills a record from a value taken for a mapping.  Whatever counts as false gives the defaults; of the
rest only a mapping has entries. -/
def fill : Value → Except Failure Options
  | .mapping entries => ofEntries entries
  | v => if v.truthy then .error .noOperation else .ok defaults

/-- The record that a value stands for: a record itself, the defaults for no value, and for a mapping the
record filled from it.  Other values are no options. -/
def coerce : Value → Except Failure Options
  | .record get => .ok ⟨get⟩
  | .null => .ok defaults
  | .mapping entries => ofEntries entries
  | v => .error (.rejected (.notOptions v.kindName))

end Options

end GlobOracle
