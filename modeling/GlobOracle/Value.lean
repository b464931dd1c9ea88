import GlobOracle.Number.Shortest
import GlobOracle.Options.Field
import GlobOracle.Text.Quoted

/-!
# Values of any kind

Callers hand over arguments and option values of any kind, and the program asks three things of one it
knows nothing about: whether it counts as true (`Value.truthy`), what its kind is called
(`Value.kindName`), and how it is shown in a message (`Value.display`, or `Value.quoted` inside other
values).  Records of options and other objects that are made of named fields are values too; `Value.plain`
copies a value and turns them, wherever they stand in it, into the mappings of their fields.

Not every value that a caller could think of is one of these.  Left out are collections and numbers of
other kinds (sets, views, generators, exact decimals, fractions), refinements of the kinds below, mappings
with names that are no texts, objects that are made of named fields but have none, which count as true
where the empty mapping they would become does not, and whatever cannot be copied: what holds itself, what
is nested too deep, or an object that refuses.
-/

namespace GlobOracle

/-- A value handed over by a caller. -/
inductive Value where
  /-- No value. -/
  | null
  /-- A truth value. -/
  | bool (b : Bool)
  /-- A whole number of any size. -/
  | int (i : Int)
  /-- A number of double precision. -/
  | float (x : Double)
  /-- A text. -/
  | text (s : String)
  /-- Bytes that are no text yet. -/
  | bytes (bs : List UInt8)
  /-- A list of values. -/
  | list (xs : List Value)
  /-- A list of values of fixed length. -/
  | tuple (xs : List Value)
  /-- Named values in their order, each name once. -/
  | mapping (entries : List (String × Value))
  /-- A record of options: a value for every field. -/
  | record (get : Field → Value)
  /-- An object of another kind that is made of named fields, and counts as true: the name of its kind, its
  first field, and the others in their order. -/
  | object (kind name : String) (value : Value) (others : List (String × Value))
  /-- An object of a kind that is none of these, no number, and nothing that can be gone through.  Only this
  is known of it: the name of its kind, how it is shown on its own and inside other values, and whether it
  counts as true.  A copy of it has all this in common with it. -/
  | other (kind shown inside : String) (counts : Bool)

namespace Value

mutual

/-- Are two values the same, bit for bit? -/
def same : Value → Value → Bool
  | null, null => true
  | bool b, bool c => b == c
  | int i, int j => i == j
  | float x, float y => x == y
  | text s, text t => s == t
  | bytes bs, bytes cs => bs == cs
  | list xs, list ys => sameAll xs ys
  | tuple xs, tuple ys => sameAll xs ys
  | mapping entries, mapping others => sameEntries entries others
  | record get, record get' => Field.all.all fun f => same (get f) (get' f)
  | object kind name x others, object kind' name' y others' =>
      kind == kind' && name == name' && same x y && sameEntries others others'
  | other kind shown inside counts, other kind' shown' inside' counts' =>
      kind == kind' && shown == shown' && inside == inside' && counts == counts'
  | _, _ => false

/-- Are two lists of values the same? -/
def sameAll : List Value → List Value → Bool
  | [], [] => true
  | x :: xs, y :: ys => same x y && sameAll xs ys
  | _, _ => false

/-- Are the entries of two mappings the same, in the same order? -/
def sameEntries : List (String × Value) → List (String × Value) → Bool
  | [], [] => true
  | (name, x) :: entries, (name', y) :: others => name == name' && same x y && sameEntries entries others
  | _, _ => false

end

instance : BEq Value := ⟨same⟩

/-- Everything counts as true but no value, false, the zeros, whatever is empty, and objects that say so
themselves. -/
def truthy : Value → Bool
  | null => false
  | bool b => b
  | int i => i != 0
  | float x => !x.isZero
  | text s => !s.isEmpty
  | bytes bs => !bs.isEmpty
  | list xs => !xs.isEmpty
  | tuple xs => !xs.isEmpty
  | mapping entries => !entries.isEmpty
  | record _ => true
  | object _ _ _ _ => true
  | other _ _ _ counts => counts

/-- The name of a value's kind in messages. -/
def kindName : Value → String
  | null => "NoneType"
  | bool _ => "bool"
  | int _ => "int"
  | float _ => "float"
  | text _ => "str"
  | bytes _ => "bytes"
  | list _ => "list"
  | tuple _ => "tuple"
  | mapping _ => "dict"
  | record _ => "MatchOptions"
  | object kind _ _ _ => kind
  | other kind _ _ _ => kind

mutual

/-- How a value is shown inside another one: texts and bytes in quotes. -/
def quoted : Value → String
  | null => "None"
  | bool b => if b then "True" else "False"
  | int i => toString i
  | float x => x.render
  | text s => Text.quoted s
  | bytes bs => Text.quotedBytes bs
  | list xs => "[" ++ ", ".intercalate (quotedAll xs) ++ "]"
  | tuple [x] => "(" ++ quoted x ++ ",)"
  | tuple xs => "(" ++ ", ".intercalate (quotedAll xs) ++ ")"
  | mapping entries => "\x7b" ++ ", ".intercalate (quotedEntries entries) ++ "\x7d"
  | record get =>
      "MatchOptions(" ++ ", ".intercalate (Field.all.map fun f => f.name ++ "=" ++ quoted (get f)) ++ ")"
  | object kind name value others =>
      kind ++ "(" ++ ", ".intercalate ((name ++ "=" ++ quoted value) :: quotedFields others) ++ ")"
  | other _ _ inside _ => inside

/-- The members of a list, each as it is shown inside. -/
def quotedAll : List Value → List String
  | [] => []
  | x :: xs => quoted x :: quotedAll xs

/-- The entries of a mapping, each with its name in quotes. -/
def quotedEntries : List (String × Value) → List String
  | [] => []
  | (name, value) :: entries => (Text.quoted name ++ ": " ++ quoted value) :: quotedEntries entries

/-- The fields of an object, each with its name. -/
def quotedFields : List (String × Value) → List String
  | [] => []
  | (name, value) :: fields => (name ++ "=" ++ quoted value) :: quotedFields fields

end

instance : Repr Value := ⟨fun value _ => value.quoted⟩

/-- How a value is shown on its own: a text as it is, an object of another kind in its own way, everything
else as inside another value. -/
def display : Value → String
  | text s => s
  | other _ shown _ _ => shown
  | value => value.quoted

/-- How the arguments of a failure are shown: one on its own, several as a tuple. -/
def displayAll : List Value → String
  | [] => ""
  | [value] => value.display
  | values => quoted (tuple values)

/-- How an object made from arguments is shown inside other values: its name, and the arguments in
parentheses. -/
def quotedCall (name : String) : List Value → String
  | [value] => name ++ "(" ++ value.quoted ++ ")"
  | values => name ++ quoted (tuple values)

mutual

/-- A copy of the value, with every record and every other object made of fields turned into the mapping of
its fields. -/
def plain : Value → Value
  | list xs => list (plainAll xs)
  | tuple xs => tuple (plainAll xs)
  | mapping entries => mapping (plainEntries entries)
  | record get => mapping (Field.all.map fun f => (f.name, plain (get f)))
  | object _ name value others => mapping ((name, plain value) :: plainEntries others)
  | value => value

/-- The members of a list, each made plain. -/
def plainAll : List Value → List Value
  | [] => []
  | x :: xs => plain x :: plainAll xs

/-- The entries of a mapping, each with its value made plain. -/
def plainEntries : List (String × Value) → List (String × Value)
  | [] => []
  | (name, value) :: entries => (name, plain value) :: plainEntries entries

end

/-- The members of a value that can be gone through: the characters of a text, the numbers of bytes, the
names of a mapping.  Other values have none to go through. -/
def members? : Value → Option (List Value)
  | text s => some (s.toList.map fun c => text (String.singleton c))
  | bytes bs => some (bs.map fun b => int b.toNat)
  | list xs => some xs
  | tuple xs => some xs
  | mapping entries => some (entries.map fun entry => text entry.1)
  | _ => none

end Value

end GlobOracle
