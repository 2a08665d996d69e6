import StaticSite.Number.Notation

/-!
Contract: JSON values.

Owns:
- the value type, with exact integers beside double-precision numbers and with
  objects whose members keep their order;
- the member of an object by its name;
- truth of a value, nesting depth, and whether all numbers of a value are finite.

Does not own: JSON text (see `StaticSite.Json.Reader` and `StaticSite.Json.Writer`,
which also writes infinities and values that are no numbers).
-/

namespace StaticSite

/-- A JSON value.  A number without fraction and exponent is an exact integer, any
other number a double-precision one.  Members of an object keep their order. -/
inductive Json where
  | null
  | bool (value : Bool)
  | int (value : Int)
  | real (value : Binary64)
  | text (value : String)
  | array (items : List Json)
  | object (members : List (String × Json))
  deriving Inhabited

namespace Json

/-- The members of an object, in order (see `StaticSite.Association`). -/
abbrev Members := List (String × Json)

/-- The member of an object with the given name; no other value has members. -/
def member? (name : String) : Json → Option Json
  | object members => members.lookup name
  | _ => none

/-- The text that a value is, if it is one. -/
def asText? : Json → Option String
  | text value => some value
  | _ => none

/-- Whether a value counts as present: not null, false, zero, or empty. -/
def isTruthy : Json → Bool
  | null => false
  | bool value => value
  | int value => value != 0
  | real value => !value.isZero
  | text value => value != ""
  | array items => !items.isEmpty
  | object members => !members.isEmpty

mutual

/-- The nesting depth: zero for a scalar, and one more than the deepest child for
an array or an object. -/
def depth : Json → Nat
  | array items => depthOfItems items + 1
  | object members => depthOfMembers members + 1
  | _ => 0

/-- The depth of the deepest of some values. -/
def depthOfItems : List Json → Nat
  | [] => 0
  | item :: others => max item.depth (depthOfItems others)

def depthOfMembers : List (String × Json) → Nat
  | [] => 0
  | (_, value) :: others => max value.depth (depthOfMembers others)

end

mutual

/-- Whether all numbers in a value are finite. -/
def allFinite : Json → Bool
  | real value => value.isFinite
  | array items => allFiniteItems items
  | object members => allFiniteMembers members
  | _ => true

/-- Whether all numbers in some values are finite. -/
def allFiniteItems : List Json → Bool
  | [] => true
  | item :: others => item.allFinite && allFiniteItems others

def allFiniteMembers : List (String × Json) → Bool
  | [] => true
  | (_, value) :: others => value.allFinite && allFiniteMembers others

end

end Json

end StaticSite
