import FoldAtlas.Json.Variant

/-!
# Symbol kinds

Servers number the kinds of symbols from 1 to 26. A number outside that range
is kept as it is, so that no symbol is taken for one of another kind.
-/

namespace FoldAtlas

/-- What a symbol is. -/
inductive SymbolKind where
  | file
  | module
  | nameSpace
  | package
  | classType
  | method
  | property
  | field
  | constructor
  | enum
  | interface
  | function
  | variable
  | constant
  | string
  | number
  | boolean
  | array
  | object
  | key
  | null
  | enumMember
  | struct
  | event
  | operator
  | typeParameter
  /-- A kind that has a number but no name. -/
  | unknown (code : UInt32)
deriving DecidableEq, Repr, Inhabited

namespace SymbolKind

/-- The kinds with a name, in the order of their numbers, the first of which
is 1. -/
def named : List SymbolKind :=
  [.file, .module, .nameSpace, .package, .classType, .method, .property, .field,
    .constructor, .enum, .interface, .function, .variable, .constant, .string,
    .number, .boolean, .array, .object, .key, .null, .enumMember, .struct, .event,
    .operator, .typeParameter]

/-- A kind of symbols has a name or a number. -/
theorem named_or_unknown (kind : SymbolKind) : kind ∈ named ∨ ∃ code, kind = .unknown code := by
  cases kind with
  | unknown code => exact .inr ⟨code, rfl⟩
  | _ => exact .inl (by decide)

/-- The kind with a number. -/
def ofCode (code : UInt32) : SymbolKind :=
  if code = 0 then .unknown 0 else (named[code.toNat - 1]?).getD (.unknown code)

/-- How a report shows a kind. -/
def label : SymbolKind → String
  | .file => "File"
  | .module => "Module"
  | .nameSpace => "Namespace"
  | .package => "Package"
  | .classType => "Class"
  | .method => "Method"
  | .property => "Property"
  | .field => "Field"
  | .constructor => "Constructor"
  | .enum => "Enum"
  | .interface => "Interface"
  | .function => "Function"
  | .variable => "Variable"
  | .constant => "Constant"
  | .string => "String"
  | .number => "Number"
  | .boolean => "Boolean"
  | .array => "Array"
  | .object => "Object"
  | .key => "Key"
  | .null => "Null"
  | .enumMember => "EnumMember"
  | .struct => "Struct"
  | .event => "Event"
  | .operator => "Operator"
  | .typeParameter => "TypeParameter"
  | .unknown code => "Unknown(" ++ toString code ++ ")"

/-- The name of a kind in settings and JSON reports. -/
def name (kind : SymbolKind) : String :=
  String.ofList (kind.label.toList.map Char.toLower)

/-- The name under which the number of a kind without a name is given. -/
def unknownName : String := "unknown"

/-- The kinds with their names. -/
def table : List (String × SymbolKind) :=
  named.map fun kind => (kind.name, kind)

/-- Reading and writing a kind: its name, or an object with the number. -/
def codecWith (rule : PayloadRule) : Codec SymbolKind where
  decode source :=
    match Tagged.decode source with
    | .error error => .error error
    | .ok tagged =>
      match List.lookup tagged.name table with
      | some kind => (rule.check tagged.payload).map fun _ => kind
      | none =>
        if tagged.name = unknownName then
          match tagged.payload with
          | none => .error (.wrongType .bareVariant "newtype variant")
          | some payload => (Codec.unsigned32.decode payload).map .unknown
        else
          .error (.unknownVariant tagged.name (table.map (·.1) ++ [unknownName]))
  encode
    | .unknown code => .object [(unknownName, .natural code.toNat)]
    | kind => .string kind.name

/-- Reading and writing a kind in a JSON document. -/
def codec : Codec SymbolKind := codecWith .json

end SymbolKind

end FoldAtlas
