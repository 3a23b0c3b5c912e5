import FoldAtlas.Json.Basic
import FoldAtlas.Toml.DateTime

/-!
# TOML values

The values of a settings document, and how one document is laid over another.
The entries of a table are in increasing order of their keys and no key is
repeated.
-/

namespace FoldAtlas

/-- A number with a fraction or an exponent, or one of the three names. -/
inductive Toml.Real where
  /-- A finite number. -/
  | finite (value : Binary64)
  /-- An infinity. -/
  | infinite (negative : Bool)
  /-- Not a number. -/
  | notANumber
deriving DecidableEq, Repr, Inhabited

/-- A value of a settings document. -/
inductive Toml where
  | string (value : String)
  /-- An integer of 64 bits with sign. -/
  | integer (value : Int64)
  /-- A number that is no integer. -/
  | real (value : Toml.Real)
  /-- A truth value. -/
  | boolean (value : Bool)
  /-- A date or time. -/
  | dateTime (value : DateTime)
  | array (items : List Toml)
  | table (entries : List (String × Toml))
deriving Repr, Inhabited

namespace Toml

/-- The entries of a table. -/
abbrev Entries := List (String × Toml)

/-- The value that a path of keys leads to through nested tables. -/
def resolve? : (path : List String) → Toml → Option Toml
  | [], value => some value
  | key :: path, .table entries =>
    match List.lookup key entries with
    | none => none
    | some value => resolve? path value
  | _ :: _, _ => none

mutual

/-- Lay the entries of a table over those of another, one after the other. -/
def overlayEntries (base : Entries) : Entries → Entries
  | [] => base
  | (key, value) :: rest =>
    overlayEntries (Keyed.insert key (overlayValue (List.lookup key base) value) base) rest

/-- Lay a value over another, if there is one: a table over a table is laid
entry by entry, and any other value takes the place. -/
def overlayValue (existing : Option Toml) : Toml → Toml
  | .table incoming =>
    match existing with
    | some (.table entries) => .table (overlayEntries entries incoming)
    | _ => .table incoming
  | other => other

end

namespace Real

/-- The double that stands for a number. No setting is a double, so one is
refused or passed over wherever it stands. Zero stands for the infinities and
for what is not a number, which no JSON value can hold: the text of a refusal
then names `0.0` where it should name the value itself. -/
def toBinary64 : Real → Binary64
  | .finite value => value
  | .infinite negative => .zero negative
  | .notANumber => .zero false

end Real

mutual

/-- The value as it is decoded: a date or time is a string. -/
def toJson : Toml → Json
  | .string value => .string value
  | .integer value => .integer value.toInt
  | .real value => .number (.double value.toBinary64)
  | .boolean value => .bool value
  | .dateTime value => .string value.text
  | .array items => .array (itemsToJson items)
  | .table entries => .object (entriesToJson entries)

/-- The items of an array as they are decoded. -/
def itemsToJson : List Toml → List Json
  | [] => []
  | item :: rest => toJson item :: itemsToJson rest

/-- The entries of a table as they are decoded. -/
def entriesToJson : List (String × Toml) → List (String × Json)
  | [] => []
  | (key, value) :: rest => (key, toJson value) :: entriesToJson rest

end

end Toml

end FoldAtlas
