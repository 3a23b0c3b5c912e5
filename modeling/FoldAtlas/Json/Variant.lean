import FoldAtlas.Json.Codec

/-!
# Variants

A value with finitely many named variants is written as the name of one. It may
also be given as an object with that name as its only member, whose payload
must be empty. What counts as an empty payload depends on the document the
value comes from, so it is a parameter.
-/

namespace FoldAtlas

/-- The name of a variant and its payload, if one is given. -/
structure Tagged where
  name : String
  /-- The payload; a bare name has none. -/
  payload : Option Json

namespace Tagged

/-- Read a name with or without payload. -/
def decode : Json → Except DecodeError Tagged
  | .string name => .ok ⟨name, none⟩
  | .object [(name, payload)] => .ok ⟨name, some payload⟩
  | .object _ => .error (.wrongValue .object "map with a single key")
  | other => .error (.unlike other "string or map")

end Tagged

/-- Which payloads are empty. -/
structure PayloadRule where
  /-- Whether a payload is empty. -/
  isEmpty : Json → Bool

namespace PayloadRule

/-- In a JSON document only `null` is empty. -/
def json : PayloadRule := ⟨Json.isNull⟩

/-- Refuse a payload that is not empty. -/
def check (rule : PayloadRule) : Option Json → Except DecodeError Unit
  | none => .ok ()
  | some payload =>
    if rule.isEmpty payload then .ok () else .error (.unlike payload "unit")

end PayloadRule

/-- The codec of a type whose variants all have a name and no payload. -/
def Codec.variants {α : Type} (rule : PayloadRule) (table : List (String × α))
    (name : α → String) : Codec α where
  decode source :=
    match Tagged.decode source with
    | .error error => .error error
    | .ok tagged =>
      match List.lookup tagged.name table with
      | none => .error (.unknownVariant tagged.name (table.map (·.1)))
      | some value => (rule.check tagged.payload).map fun _ => value
  encode value := .string (name value)

end FoldAtlas
