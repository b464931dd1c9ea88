/-!
# The names of options

Six toggles switch features of the shell on, three aliases stand for a toggle each, and three more
fields carry the error policy, the working directory and the mark of a canonical record.  Every field
has one name (`Field.name`); the error policy may also be spelled in camel case (`Field.ofKey?`).
-/

namespace GlobOracle

/-- A feature of the shell that can be switched on. -/
inductive Toggle where
  /-- Patterns match names that begin with a dot. -/
  | dotglob
  /-- Patterns may contain lists of alternatives such as `@(a|b)`. -/
  | extglob
  /-- A pattern that matches no file is an error. -/
  | failglob
  /-- `**` matches across directories. -/
  | globstar
  /-- Case is ignored. -/
  | nocaseglob
  /-- A pattern that matches no file vanishes. -/
  | nullglob
  deriving Repr, DecidableEq

namespace Toggle

/-- The toggles, in the order in which they are handed to the shell. -/
def all : List Toggle := [dotglob, extglob, failglob, globstar, nocaseglob, nullglob]

theorem mem_all (t : Toggle) : t ∈ all := by cases t <;> decide

/-- The name of a toggle. -/
def name : Toggle → String
  | dotglob => "dotglob"
  | extglob => "extglob"
  | failglob => "failglob"
  | globstar => "globstar"
  | nocaseglob => "nocaseglob"
  | nullglob => "nullglob"

end Toggle

/-- Another name for switching a toggle on. -/
inductive Alias where
  /-- Ignore case. -/
  | nocase
  /-- Let a pattern without a match vanish. -/
  | nonull
  /-- Match names that begin with a dot. -/
  | dot
  deriving Repr, DecidableEq

namespace Alias

/-- The aliases, in the order in which they are expanded. -/
def all : List Alias := [nocase, nonull, dot]

theorem mem_all (a : Alias) : a ∈ all := by cases a <;> decide

/-- The name of an alias. -/
def name : Alias → String
  | nocase => "nocase"
  | nonull => "nonull"
  | dot => "dot"

/-- The toggle that an alias switches on. -/
def target : Alias → Toggle
  | nocase => .nocaseglob
  | nonull => .nullglob
  | dot => .dotglob

end Alias

/-- A field of the options of a call. -/
inductive Field where
  /-- Whether a feature of the shell is on. -/
  | toggle (t : Toggle)
  /-- Whether an alias is used. -/
  | byAlias (a : Alias)
  /-- Whether errors of the shell are reported or count as no match. -/
  | strictErrors
  /-- The directory in which the shell runs. -/
  | workingDirectory
  /-- Whether the record is canonical already. -/
  | normalized
  deriving Repr, DecidableEq

namespace Field

/-- The fields, in the order of the record. -/
def all : List Field :=
  Toggle.all.map toggle ++ [byAlias .dot, byAlias .nocase, byAlias .nonull, strictErrors,
    workingDirectory, normalized]

theorem mem_all (f : Field) : f ∈ all := by
  cases f with
  | toggle t => cases t <;> decide
  | byAlias a => cases a <;> decide
  | _ => decide

/-- The name of a field. -/
def name : Field → String
  | toggle t => t.name
  | byAlias a => a.name
  | strictErrors => "strict_errors"
  | workingDirectory => "cwd"
  | normalized => "normalized"

/-- The second spelling of the error policy. -/
def camelCaseKey : String := "strictErrors"

/-- The field that a key of a mapping denotes. -/
def ofKey? (key : String) : Option Field :=
  if key == camelCaseKey then some strictErrors else all.find? (·.name == key)

end Field

end GlobOracle
