import SvgMarkup.Dimensions
import SvgMarkup.Entity
import SvgMarkup.Decimal.Magnitude

/-!
# Dynamic values

Names, attribute values and options reach the library from programs that do not fix their types in
advance.  `Value` is the type of what they may pass; the library looks at a value to find out
whether it has the form that is wanted, and names its type in a message when it has not.

* `Value.text?`, `Value.items?` are the readings of a value as a text and as a collection.
* `Value.unhashable?` names the type of the part that keeps a value out of a set.
* `Value.same` is the equality of values: numbers of all types are compared by their exact value,
  and collections member by member.
-/

namespace SvgMarkup

/-- A value whose type is known only when it is looked at. -/
inductive Value where
  | null
  | flag (b : Bool)
  | int (i : Int)
  | float (x : Float)
  | text (s : String)
  | list (items : List Value)
  | tuple (items : List Value)
  | set (items : List Value)
  | frozenSet (items : List Value)
  /-- A mapping, as its entries in the order of insertion. -/
  | mapping (entries : List (Value × Value))
  | bytes (codes : List UInt8)
  /-- An object without contents. -/
  | object
  | encoder (e : Encoder)
  /-- A capture policy, which serves as its own name wherever a text is wanted. -/
  | policy (p : CapturePolicy)
deriving Inhabited

namespace Value

/-- The name of a value's type. -/
def typeName : Value → String
  | null => "NoneType"
  | flag _ => "bool"
  | int _ => "int"
  | float _ => "float"
  | text _ => "str"
  | list _ => "list"
  | tuple _ => "tuple"
  | set _ => "set"
  | frozenSet _ => "frozenset"
  | mapping _ => "dict"
  | bytes _ => "bytes"
  | object => "object"
  | encoder _ => "function"
  | policy _ => "DimensionCapture"

/-- The text that a value is. -/
def text? : Value → Option String
  | text s => some s
  | policy p => some p.label
  | _ => none

/-- The texts that a list of values consists of, if all of them are texts. -/
def texts? (vs : List Value) : Option (List String) :=
  vs.mapM text?

/-- The members of a value that is a collection: the characters of a text, the keys of a mapping,
the codes of a byte string. -/
def items? : Value → Option (List Value)
  | text s => some (s.toList.map fun c => text (String.singleton c))
  | policy p => some (p.label.toList.map fun c => text (String.singleton c))
  | list vs | tuple vs | set vs | frozenSet vs => some vs
  | mapping entries => some (entries.map (·.1))
  | bytes codes => some (codes.map fun code => int code.toNat)
  | _ => none

mutual

/-- The type of the first part of a value that cannot be a member of a set.  Collections that can
change their members are no members of sets, and neither is a tuple that holds one. -/
def unhashable? : Value → Option String
  | list _ => some "list"
  | set _ => some "set"
  | mapping _ => some "dict"
  | tuple vs => unhashableIn? vs
  | _ => none

/-- The type of the first part of some values that cannot be a member of a set. -/
def unhashableIn? : List Value → Option String
  | [] => none
  | v :: vs => (unhashable? v).or (unhashableIn? vs)

end

/-- The number that a value is: a truth value counts as zero or one. -/
def int? : Value → Option Int
  | flag b => some (if b then 1 else 0)
  | int i => some i
  | _ => none

/-- Whether two values without members are equal. -/
def sameAtom : Value → Value → Bool
  | null, null => true
  | float x, float y => x == y
  | bytes a, bytes b => a == b
  | encoder e, encoder f => e.label == f.label
  | float x, w => w.int?.any (Decimal.Reading.isInt · (.ofFloat x))
  | v, float y => v.int?.any (Decimal.Reading.isInt · (.ofFloat y))
  | v, w =>
    (v.int?.isSome && v.int? == w.int?) || (v.text?.isSome && v.text? == w.text?)

/-- Whether the tests of one list hold of the values of another, one by one. -/
def zipTests : List (Value → Bool) → List Value → Bool
  | [], [] => true
  | p :: ps, w :: ws => p w && zipTests ps ws
  | _, _ => false

/-- Whether each test holds of some value and each value passes some test. -/
def matchTests (ps : List (Value → Bool)) (ws : List Value) : Bool :=
  ps.all (fun p => ws.any p) && ws.all (fun w => ps.any (· w))

mutual

/-- Whether two values are equal.  Numbers are equal if their values are, whatever their types;
texts, lists and tuples if their parts are, in order; sets and mappings if they have the same
members. -/
def same : Value → Value → Bool
  | list vs, list ws => zipTests (sameEach vs) ws
  | tuple vs, tuple ws => zipTests (sameEach vs) ws
  | set vs, set ws | set vs, frozenSet ws | frozenSet vs, set ws | frozenSet vs, frozenSet ws =>
    matchTests (sameEach vs) ws
  | mapping entries, mapping others =>
    let tests := sameEntry entries
    tests.all (fun p => others.any p) && others.all fun w => tests.any (· w)
  | v, w => sameAtom v w

/-- The tests for equality with each of some values. -/
def sameEach : List Value → List (Value → Bool)
  | [] => []
  | v :: vs => same v :: sameEach vs

/-- The tests for equality with each of some entries, key and value. -/
def sameEntry : List (Value × Value) → List (Value × Value → Bool)
  | [] => []
  | (k, v) :: entries => (fun w => same k w.1 && same v w.2) :: sameEntry entries

end

/-- Puts an entry into a mapping.  A key that is there already keeps its place and takes the new
value. -/
def putEntry (key value : Value) : List (Value × Value) → List (Value × Value)
  | [] => [(key, value)]
  | (k, v) :: entries =>
    if same k key then (k, value) :: entries else (k, v) :: putEntry key value entries

/-- The entries of the mapping that is filled with some pairs in order. -/
def entriesOf (pairs : List (Value × Value)) : List (Value × Value) :=
  pairs.foldl (fun entries p => putEntry p.1 p.2 entries) []

end Value

end SvgMarkup
