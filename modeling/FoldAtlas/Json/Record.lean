import FoldAtlas.Json.Codec

/-!
# Records

A record is read from an object, whose members may stand in any order and among
members it does not know, or from an array of its fields in declaration order.
`Fields` lists the fields of a record with their codecs; `Fields.codec` is the
codec of a record type whose fields they are.

The members of an object are read in the order of the value, and the first that
fails decides; only then is the first missing field named.
-/

namespace FoldAtlas

/-- What a record takes for a field that is left out. -/
inductive WhenAbsent (α : Type) where
  /-- Nothing: the field must be given. -/
  | required
  /-- A value, whether an object lacks the member or an array ends before it. -/
  | otherwise (value : α)
  /-- A value for an object; an array must reach the field. -/
  | inObject (value : α)

/-- One field of a record. -/
structure Field (α : Type) where
  /-- The name of the member. -/
  name : String
  /-- How its value is read and written. -/
  codec : Codec α
  /-- What an absent field means. -/
  absent : WhenAbsent α
  /-- Whether a value is left out when the record is written. -/
  omits : α → Bool

namespace Field

/-- A field that must be given. -/
def required {α : Type} (name : String) (codec : Codec α) : Field α :=
  ⟨name, codec, .required, fun _ => false⟩

/-- A field with a value of its own when it is left out; it is always written. -/
def defaulted {α : Type} (name : String) (codec : Codec α) (value : α) : Field α :=
  ⟨name, codec, .otherwise value, fun _ => false⟩

/-- A field that need not be given and is not written when it is missing. -/
def optional {α : Type} (name : String) (codec : Codec α) : Field (Option α) :=
  ⟨name, codec.optional, .otherwise none, Option.isNone⟩

/-- A field that an object need not give but an array must, written as `null`
when it is missing. -/
def nullable {α : Type} (name : String) (codec : Codec α) : Field (Option α) :=
  ⟨name, codec.optional, .inObject none, fun _ => false⟩

end Field

/-- The fields of a record. The first type holds their values together, the
second has room for each of them while the record is being read. -/
inductive Fields : Type → Type → Type 1 where
  /-- No field. -/
  | nil : Fields Unit Unit
  /-- A field in front of others. -/
  | cons {α ρ σ : Type} (field : Field α) (rest : Fields ρ σ) :
      Fields (α × ρ) (Option α × σ)

namespace Fields

/-- No value yet. -/
def empty : {ρ σ : Type} → Fields ρ σ → σ
  | _, _, .nil => ()
  | _, _, .cons _ rest => (none, rest.empty)

/-- How many fields there are. -/
def count : {ρ σ : Type} → Fields ρ σ → Nat
  | _, _, .nil => 0
  | _, _, .cons _ rest => rest.count + 1

/-- Read the member with a name into its slot. An unknown name changes
nothing. -/
def fill (name : String) (source : Json) : {ρ σ : Type} → Fields ρ σ → σ →
    Except DecodeError σ
  | _, _, .nil, slots => .ok slots
  | _, _, .cons field rest, (slot, slots) =>
    if field.name = name then
      match field.codec.decode source with
      | .error error => .error (.inMember name error)
      | .ok value => .ok (some value, slots)
    else
      match rest.fill name source slots with
      | .error error => .error error
      | .ok slots => .ok (slot, slots)

/-- Read members one after the other. -/
def fillAll {ρ σ : Type} (fields : Fields ρ σ) :
    List (String × Json) → σ → Except DecodeError σ
  | [], slots => .ok slots
  | (name, source) :: rest, slots =>
    match fields.fill name source slots with
    | .error error => .error error
    | .ok slots => fields.fillAll rest slots

/-- The values of all fields once every member is read. The first field that is
missing decides. -/
def close : {ρ σ : Type} → Fields ρ σ → σ → Except DecodeError ρ
  | _, _, .nil, _ => .ok ()
  | _, _, .cons field rest, (slot, slots) =>
    let value := match slot, field.absent with
      | some value, _ => some value
      | none, .required => none
      | none, .otherwise value => some value
      | none, .inObject value => some value
    match value with
    | none => .error (.missingMember field.name)
    | some value => (rest.close slots).map fun values => (value, values)

/-- Read the fields from the items of an array that begins with field number
`index`. The second part of the answer is the items left over. -/
def readItems (tooShort : Nat → DecodeError) : {ρ σ : Type} → Fields ρ σ →
    (index : Nat) → List Json → Except DecodeError (ρ × List Json)
  | _, _, .nil, _, items => .ok ((), items)
  | _, _, .cons field rest, index, items =>
    match items with
    | item :: items =>
      match field.codec.decode item with
      | .error error => .error error
      | .ok value =>
        match rest.readItems tooShort (index + 1) items with
        | .error error => .error error
        | .ok (values, left) => .ok ((value, values), left)
    | [] =>
      match field.absent with
      | .otherwise value =>
        match rest.readItems tooShort (index + 1) [] with
        | .error error => .error error
        | .ok (values, left) => .ok ((value, values), left)
      | _ => .error (tooShort index)

/-- The members of an object in declaration order, those left out excepted. -/
def members : {ρ σ : Type} → Fields ρ σ → ρ → List (String × Json)
  | _, _, .nil, _ => []
  | _, _, .cons field rest, (value, values) =>
    if field.omits value then rest.members values
    else (field.name, field.codec.encode value) :: rest.members values

/-- Read the values of the fields of the record type called `type`. -/
def decode {ρ σ : Type} (fields : Fields ρ σ) (type : String) : Json → Except DecodeError ρ
  | .object members =>
    match fields.fillAll members fields.empty with
    | .error error => .error error
    | .ok slots => fields.close slots
  | .array items =>
    let wanted := "struct " ++ type ++ " with " ++ toString fields.count ++
      (if fields.count = 1 then " element" else " elements")
    match fields.readItems (.wrongLength · wanted) 0 items with
    | .error error => .error error
    | .ok (values, []) => .ok values
    | .ok (_, _ :: _) => .error (.wrongLength items.length "fewer elements in array")
  | other => .error (.unlike other ("struct " ++ type))

/-- The codec of the record type called `type`, which is put together from its
fields by `make` and taken apart by `parts`. -/
def codec {ρ σ α : Type} (fields : Fields ρ σ) (type : String) (make : ρ → α)
    (parts : α → ρ) : Codec α where
  decode source := (fields.decode type source).map make
  encode value := .object (fields.members (parts value))

end Fields

end FoldAtlas
