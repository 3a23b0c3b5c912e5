import FoldAtlas.Json.Text
import FoldAtlas.Text.Quoted

/-!
# Codecs

A `Codec` reads values of a type from JSON and writes them, and a
`DecodeError` says how a well-formed value fails to have the wanted shape. This
module holds the codecs of the simple types; records and variants are built
from them in modules of their own.

`Codec.Stable` is the law that every codec of a payload keeps: what was read
once reads the same after it has been written.
-/

namespace FoldAtlas

/-- What stands where something else was wanted. -/
inductive Found where
  /-- The value `null`. -/
  | null
  /-- A truth value. -/
  | bool (value : Bool)
  | integer (value : Int)
  | double (value : Binary64)
  | string (value : String)
  | array
  | object
  /-- The name of a variant without the payload it must carry. -/
  | bareVariant
deriving DecidableEq, Repr

namespace Found

/-- What a value is found to be. -/
def ofJson : Json → Found
  | .null => .null
  | .bool value => .bool value
  | .number (.integer value) => .integer value
  | .number (.double value) => .double value
  | .string value => .string value
  | .array _ => .array
  | .object _ => .object

/-- How a message names it. -/
def text : Found → String
  | .null => "null"
  | .bool value => "boolean `" ++ (if value then "true" else "false") ++ "`"
  | .integer value => "integer `" ++ toString value ++ "`"
  | .double value => "floating point `" ++ Json.doubleLayout.writeDouble value ++ "`"
  | .string value => "string " ++ quoted value
  | .array => "sequence"
  | .object => "map"
  | .bareVariant => "unit variant"

end Found

/-- How a well-formed value fails to have the wanted shape. -/
inductive DecodeError where
  /-- Something of another type. -/
  | wrongType (found : Found) (wanted : String)
  /-- Something of the right type outside the admitted values. -/
  | wrongValue (found : Found) (wanted : String)
  /-- An array of `given` items. -/
  | wrongLength (given : Nat) (wanted : String)
  /-- A member that must be present is not. -/
  | missingMember (name : String)
  /-- A name that is none of the known variants. -/
  | unknownVariant (name : String) (known : List String)
  /-- A value that is none of the alternatives of a type. -/
  | noAlternative (type : String)
  /-- A number that is none of the known codes. -/
  | unknownCode (code : Nat) (known : List Nat)
  /-- A value with neither an identifier nor a method. -/
  | notAMessage
  /-- An error in the value of a member. -/
  | inMember (name : String) (error : DecodeError)
deriving DecidableEq, Repr

namespace DecodeError

/-- A name between backquotes. -/
def ticked (name : String) : String := "`" ++ name ++ "`"

/-- The choice between some names. -/
def choice : List String → String
  | [] => ""
  | [only] => ticked only
  | [first, second] => ticked first ++ " or " ++ ticked second
  | names => "one of " ++ ", ".intercalate (names.map ticked)

/-- The wording of an error. -/
def message : DecodeError → String
  | .wrongType found wanted => "invalid type: " ++ found.text ++ ", expected " ++ wanted
  | .wrongValue found wanted => "invalid value: " ++ found.text ++ ", expected " ++ wanted
  | .wrongLength given wanted =>
    "invalid length " ++ toString given ++ ", expected " ++ wanted
  | .missingMember name => "missing field " ++ ticked name
  | .unknownVariant name known =>
    "unknown variant " ++ ticked name ++ ", expected " ++ choice known
  | .noAlternative type => "data did not match any variant of untagged enum " ++ type
  | .unknownCode code known =>
    "invalid value: " ++ toString code ++ ", expected one of: " ++
      ", ".intercalate (known.map toString)
  | .notAMessage => "Invalid JSON-RPC message"
  | .inMember _ inner => inner.message

/-- The names of the members that an error lies in, from the outside. -/
def path : DecodeError → List String
  | .inMember name inner => name :: inner.path
  | _ => []

/-- The error of a value of another type than the wanted one. -/
def unlike (value : Json) (wanted : String) : DecodeError :=
  .wrongType (Found.ofJson value) wanted

end DecodeError

/-- How a type is read from JSON and written to it. -/
structure Codec (α : Type) where
  /-- Read a value. -/
  decode : Json → Except DecodeError α
  /-- Write a value. -/
  encode : α → Json

namespace Codec

/-- Writing a value that was read gives something that reads the same. -/
def Stable {α : Type} (codec : Codec α) : Prop :=
  ∀ source value, codec.decode source = .ok value →
    codec.decode (codec.encode value) = .ok value

/-- Any value, passed on as it is. -/
def any : Codec Json where
  decode := .ok
  encode := id

/-- A string. -/
def text : Codec String where
  decode
    | .string value => .ok value
    | other => .error (.unlike other "a string")
  encode := .string

/-- A truth value. -/
def flag : Codec Bool where
  decode
    | .bool value => .ok value
    | other => .error (.unlike other "a boolean")
  encode := .bool

/-- Read an integer between two bounds. A double is never taken for one. -/
def decodeInteger (least greatest : Int) (wanted : String) : Json → Except DecodeError Int
  | .number (.integer value) =>
    if least ≤ value ∧ value ≤ greatest then .ok value
    else .error (.wrongValue (.integer value) wanted)
  | other => .error (.unlike other wanted)

/-- An unsigned integer of 8 bits. -/
def unsigned8 : Codec UInt8 where
  decode source :=
    (decodeInteger 0 (UInt8.size - 1) "u8" source).map fun value => UInt8.ofNat value.toNat
  encode value := .natural value.toNat

/-- An unsigned integer of 32 bits. -/
def unsigned32 : Codec UInt32 where
  decode source :=
    (decodeInteger 0 (UInt32.size - 1) "u32" source).map fun value => UInt32.ofNat value.toNat
  encode value := .natural value.toNat

/-- An unsigned integer of 64 bits. -/
def unsigned64 : Codec UInt64 where
  decode source :=
    (decodeInteger 0 (UInt64.size - 1) "u64" source).map fun value => UInt64.ofNat value.toNat
  encode value := .natural value.toNat

/-- A signed integer of 32 bits. -/
def signed32 : Codec Int32 where
  decode source :=
    (decodeInteger Int32.minValue.toInt Int32.maxValue.toInt "i32" source).map Int32.ofInt
  encode value := .integer value.toInt

/-- A signed integer of 64 bits. -/
def signed64 : Codec Int64 where
  decode source :=
    (decodeInteger Int64.minValue.toInt Int64.maxValue.toInt "i64" source).map Int64.ofInt
  encode value := .integer value.toInt

/-- A value that may be missing, which `null` says. -/
def optional {α : Type} (codec : Codec α) : Codec (Option α) where
  decode
    | .null => .ok none
    | other => (codec.decode other).map some
  encode
    | none => .null
    | some value => codec.encode value

/-- Read the items of a list in order. The first that fails decides. -/
def decodeItems {α : Type} (decode : Json → Except DecodeError α) :
    List Json → Except DecodeError (List α)
  | [] => .ok []
  | item :: rest =>
    match decode item with
    | .error error => .error error
    | .ok value =>
      match decodeItems decode rest with
      | .error error => .error error
      | .ok values => .ok (value :: values)

/-- A list. -/
def list {α : Type} (codec : Codec α) : Codec (List α) where
  decode
    | .array items => decodeItems codec.decode items
    | other => .error (.unlike other "a sequence")
  encode values := .array (values.map codec.encode)

end Codec

end FoldAtlas
