import FoldAtlas.Decimal.Binary64
import FoldAtlas.Keyed

/-!
# JSON values

The one dynamic value type of the library: what servers send that this program
only passes on, and the common ground between the wire and the typed payloads.

The members of an object are a list in written order. A value that was read
from text, or that `Json.sorted` produced, has its members in increasing order
of their names with no name twice; encoders of typed payloads write the order
in which the fields are declared.
-/

namespace FoldAtlas

/-- A JSON number: an integer that fits in 64 bits with or without a sign, or
a double. -/
inductive Json.Number where
  /-- An integer from `-2 ^ 63` to `2 ^ 64 - 1`. -/
  | integer (value : Int)
  /-- Any other number. -/
  | double (value : Binary64)
deriving DecidableEq, Repr, Inhabited

/-- A JSON value. -/
inductive Json where
  /-- The value `null`. -/
  | null
  /-- A truth value. -/
  | bool (value : Bool)
  | number (value : Json.Number)
  | string (value : String)
  | array (items : List Json)
  /-- An object, its members in written order. -/
  | object (members : List (String × Json))
deriving Repr, Inhabited

namespace Json

/-- An integer value. -/
def integer (value : Int) : Json := .number (.integer value)

/-- A natural number as a value. -/
def natural (value : Nat) : Json := .number (.integer value)

/-- Whether a value is `null`. -/
def isNull : Json → Bool
  | .null => true
  | _ => false

/-- The member of an object with a given name. Other values have no members. -/
def member? (name : String) : Json → Option Json
  | .object members => List.lookup name members
  | _ => none

/-- The items of an array. Other values have none. -/
def items? : Json → Option (List Json)
  | .array items => some items
  | _ => none

mutual

/-- The same value with the members of every object in increasing order. -/
def sorted : Json → Json
  | .array items => .array (sortedItems items)
  | .object members => .object (Keyed.sort (sortedMembers members))
  | other => other

/-- Every item of a list with its members in order. -/
def sortedItems : List Json → List Json
  | [] => []
  | item :: rest => sorted item :: sortedItems rest

/-- Every member of a list with the members of its value in order. -/
def sortedMembers : List (String × Json) → List (String × Json)
  | [] => []
  | (name, value) :: rest => (name, sorted value) :: sortedMembers rest

end

mutual

/-- How many arrays and objects are nested in a value, itself included. -/
def nesting : Json → Nat
  | .array items => nestingOfItems items + 1
  | .object members => nestingOfMembers members + 1
  | _ => 0

/-- The deepest nesting among some items. -/
def nestingOfItems : List Json → Nat
  | [] => 0
  | item :: rest => max (nesting item) (nestingOfItems rest)

/-- The deepest nesting among the values of some members. -/
def nestingOfMembers : List (String × Json) → Nat
  | [] => 0
  | (_, value) :: rest => max (nesting value) (nestingOfMembers rest)

end

end Json

end FoldAtlas
