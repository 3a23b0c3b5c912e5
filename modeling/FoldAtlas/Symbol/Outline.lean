import FoldAtlas.Symbol.Entry

/-!
# Outlines

The two shapes in which a server reports the symbols of a document: a flat list
with container names, or trees. `Outline.entries` brings both to one list, the
trees in the order in which a reader meets their nodes.
-/

namespace FoldAtlas

/-- A symbol in a flat report. -/
structure SymbolInformation where
  name : String
  /-- The number of the kind. -/
  kind : UInt32
  /-- Where the symbol is. -/
  location : Location
  /-- The name of what contains it, if the server tells it. -/
  containerName : Option String
deriving DecidableEq, Repr, Inhabited

namespace SymbolInformation

/-- The members of a symbol. -/
def fields := Fields.cons (.required "name" .text)
  (.cons (.required "kind" .unsigned32)
    (.cons (.required "location" Location.codec)
      (.cons (.optional "containerName" .text) .nil)))

/-- Reading and writing a symbol. -/
def codec : Codec SymbolInformation :=
  fields.codec "SymbolInformation"
    (fun (name, kind, location, containerName, ()) => ⟨name, kind, location, containerName⟩)
    (fun symbol => (symbol.name, symbol.kind, symbol.location, symbol.containerName, ()))

/-- The entry of a symbol. -/
def entry (symbol : SymbolInformation) : OutlineEntry where
  name := symbol.name
  kind := .ofCode symbol.kind
  range := symbol.location.range
  container := symbol.containerName

end SymbolInformation

/-- A symbol in a tree, with the symbols inside it. -/
inductive DocumentSymbol where
  /-- A symbol: its name, a detail, the number of its kind, the part of the
  document that it covers, the part to show when it is selected, and the symbols
  inside it, if the server lists them. -/
  | node (name : String) (detail : Option String) (kind : UInt32)
      (range selectionRange : Range) (children : Option (List DocumentSymbol))
deriving Repr, Inhabited

namespace DocumentSymbol

/-- The name of a symbol. -/
def name : DocumentSymbol → String
  | .node name .. => name

/-- The number of the kind of a symbol. -/
def kind : DocumentSymbol → UInt32
  | .node _ _ kind .. => kind

/-- The part of the document that a symbol covers. -/
def range : DocumentSymbol → Range
  | .node _ _ _ range .. => range

/-- The symbols directly inside a symbol. -/
def inner : DocumentSymbol → List DocumentSymbol
  | .node _ _ _ _ _ children => children.getD []

/-- The entry of a symbol inside a container. -/
def entry (container : Option String) (symbol : DocumentSymbol) : OutlineEntry where
  name := symbol.name
  kind := .ofCode symbol.kind
  range := symbol.range
  container := container

mutual

/-- A symbol and everything inside it. -/
def entries (container : Option String) : DocumentSymbol → List OutlineEntry
  | .node name detail kind range selectionRange children =>
    entry container (.node name detail kind range selectionRange children) ::
      (match children with
        | none => []
        | some children => forestEntries (some name) children)

/-- The symbols of a forest and everything inside them. -/
def forestEntries (container : Option String) : List DocumentSymbol → List OutlineEntry
  | [] => []
  | symbol :: rest => entries container symbol ++ forestEntries container rest

end

mutual

/-- Write a symbol. -/
def encode : DocumentSymbol → Json
  | .node name detail kind range selectionRange children =>
    .object (("name", .string name) ::
      ((match detail with
        | none => []
        | some detail => [("detail", .string detail)]) ++
      [("kind", Codec.unsigned32.encode kind), ("range", Range.codec.encode range),
        ("selectionRange", Range.codec.encode selectionRange)] ++
      (match children with
        | none => []
        | some children => [("children", .array (encodeForest children))])))

/-- Write the symbols of a forest. -/
def encodeForest : List DocumentSymbol → List Json
  | [] => []
  | symbol :: rest => encode symbol :: encodeForest rest

end

/-- The members of a symbol whose children are read by `decode`. -/
def fields (decode : Json → Except DecodeError DocumentSymbol) :=
  Fields.cons (.required "name" .text)
    (.cons (.optional "detail" .text)
      (.cons (.required "kind" .unsigned32)
        (.cons (.required "range" Range.codec)
          (.cons (.required "selectionRange" Range.codec)
            (.cons (.optional "children" (Codec.list ⟨decode, encode⟩)) .nil)))))

/-- Read a symbol with at most `depth` levels of symbols below it. -/
def decodeWithin : (depth : Nat) → Json → Except DecodeError DocumentSymbol
  | 0, source => .error (.unlike source "struct DocumentSymbol")
  | depth + 1, source =>
    ((fields (decodeWithin depth)).decode "DocumentSymbol" source).map
      fun (name, detail, kind, range, selectionRange, children, ()) =>
        .node name detail kind range selectionRange children

/-- Reading and writing a symbol. A value holds no more levels of symbols than
arrays and objects. -/
def codec : Codec DocumentSymbol where
  decode source := decodeWithin (source.nesting + 1) source
  encode := encode

end DocumentSymbol

/-- What a server answers when it is asked for the symbols of a document. -/
inductive Outline where
  /-- A flat list. -/
  | flat (symbols : List SymbolInformation)
  /-- A list of trees. -/
  | nested (symbols : List DocumentSymbol)
deriving Repr, Inhabited

namespace Outline

/-- Reading and writing an outline: a list that can be read as flat is, and
only another one is read as trees. -/
def codec : Codec Outline where
  decode source :=
    match SymbolInformation.codec.list.decode source with
    | .ok symbols => .ok (.flat symbols)
    | .error _ =>
      match DocumentSymbol.codec.list.decode source with
      | .ok symbols => .ok (.nested symbols)
      | .error _ => .error (.noAlternative "DocumentSymbolResponse")
  encode
    | .flat symbols => SymbolInformation.codec.list.encode symbols
    | .nested symbols => DocumentSymbol.codec.list.encode symbols

/-- The entries of an outline. -/
def entries : Outline → List OutlineEntry
  | .flat symbols => symbols.map SymbolInformation.entry
  | .nested symbols => DocumentSymbol.forestEntries none symbols

/-- The name of the shape of an outline. -/
def shape : Outline → String
  | .flat _ => "flat"
  | .nested _ => "nested"

end Outline

end FoldAtlas
