import FoldAtlas.Json.Record
import FoldAtlas.Json.Variant

/-!
# Folding regions

The parts of a document that an editor can fold away, as a server reports them.
-/

namespace FoldAtlas

/-- What a folding region is made of. -/
inductive FoldingKind where
  | comment
  /-- A block of imports. -/
  | imports
  /-- A region that the text marks itself. -/
  | region
  /-- Anything else. -/
  | other
deriving DecidableEq, Repr, Inhabited

namespace FoldingKind

/-- The name of a kind. -/
def name : FoldingKind → String
  | .comment => "comment"
  | .imports => "imports"
  | .region => "region"
  | .other => "other"

/-- The kinds that a server can name. -/
def table : List (String × FoldingKind) :=
  [FoldingKind.comment, .imports, .region, .other].map fun kind => (kind.name, kind)

/-- Reading and writing a kind. A name that is not known reads as `other`. -/
def codec : Codec FoldingKind where
  decode source :=
    match Tagged.decode source with
    | .error error => .error error
    | .ok tagged =>
      (PayloadRule.json.check tagged.payload).map fun _ =>
        (List.lookup tagged.name table).getD .other
  encode kind := .string kind.name

end FoldingKind

/-- A part of a document that can be folded away. -/
structure FoldingRange where
  /-- The first line. -/
  startLine : UInt32
  /-- The last line. -/
  endLine : UInt32
  /-- The first character, if the server tells it. -/
  startCharacter : Option UInt32
  /-- The last character, if the server tells it. -/
  endCharacter : Option UInt32
  /-- The kind, if the server tells it. -/
  kind : Option FoldingKind
deriving DecidableEq, Repr, Inhabited

namespace FoldingRange

/-- The members of a folding region. -/
def fields := Fields.cons (.required "startLine" .unsigned32)
  (.cons (.required "endLine" .unsigned32)
    (.cons (.optional "startCharacter" .unsigned32)
      (.cons (.optional "endCharacter" .unsigned32)
        (.cons (.optional "kind" FoldingKind.codec) .nil))))

/-- Reading and writing a folding region. -/
def codec : Codec FoldingRange :=
  fields.codec "FoldingRegion"
    (fun (startLine, endLine, startCharacter, endCharacter, kind, ()) =>
      ⟨startLine, endLine, startCharacter, endCharacter, kind⟩)
    (fun region => (region.startLine, region.endLine, region.startCharacter,
      region.endCharacter, region.kind, ()))

/-- Reading and writing what a server answers when it is asked for regions. -/
def listCodec : Codec (List FoldingRange) := codec.list

end FoldingRange

end FoldAtlas
