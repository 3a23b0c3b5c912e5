import FoldAtlas.Symbol.Kind
import FoldAtlas.Location

/-!
# Symbol entries

The symbols of a document as a report lists them: one entry a symbol, whatever
shape the server gave its answer.
-/

namespace FoldAtlas

/-- A symbol of a document. -/
structure OutlineEntry where
  name : String
  kind : SymbolKind
  /-- The part of the document that the symbol covers. -/
  range : Range
  /-- The name of what contains the symbol, if anything does. -/
  container : Option String
deriving DecidableEq, Repr, Inhabited

namespace OutlineEntry

/-- The members of an entry. -/
def fields := Fields.cons (.required "name" .text)
  (.cons (.required "kind" SymbolKind.codec)
    (.cons (.required "range" Range.codec) (.cons (.optional "container_name" .text) .nil)))

/-- Reading and writing an entry. -/
def codec : Codec OutlineEntry :=
  fields.codec "OutlineEntry"
    (fun (name, kind, range, container, ()) => ⟨name, kind, range, container⟩)
    (fun entry => (entry.name, entry.kind, entry.range, entry.container, ()))

end OutlineEntry

end FoldAtlas
