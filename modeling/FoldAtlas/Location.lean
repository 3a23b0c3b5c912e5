import FoldAtlas.Json.Record

/-!
# Positions, ranges and locations

Where something stands in a document: lines and characters are counted from
zero in 32 bits, as servers report them.
-/

namespace FoldAtlas

/-- A position in a document. -/
structure Position where
  line : UInt32
  /-- The character within the line. -/
  character : UInt32
deriving DecidableEq, Repr, Inhabited

namespace Position

/-- The members of a position. -/
def fields := Fields.cons (.required "line" .unsigned32)
  (.cons (.required "character" .unsigned32) .nil)

/-- Reading and writing a position. -/
def codec : Codec Position :=
  fields.codec "Position" (fun (line, character, ()) => ⟨line, character⟩)
    (fun position => (position.line, position.character, ()))

end Position

/-- The part of a document between two positions. -/
structure Range where
  /-- The first position. -/
  start : Position
  /-- The position behind the last. -/
  stop : Position
deriving DecidableEq, Repr, Inhabited

namespace Range

/-- The members of a range. -/
def fields := Fields.cons (.required "start" Position.codec)
  (.cons (.required "end" Position.codec) .nil)

/-- Reading and writing a range. -/
def codec : Codec Range :=
  fields.codec "Range" (fun (start, stop, ()) => ⟨start, stop⟩)
    (fun range => (range.start, range.stop, ()))

/-- The range between two positions given by their coordinates. -/
def ofBounds (startLine startCharacter endLine endCharacter : UInt32) : Range :=
  ⟨⟨startLine, startCharacter⟩, ⟨endLine, endCharacter⟩⟩

/-- The empty range at the beginning of a document. -/
def origin : Range := ofBounds 0 0 0 0

end Range

/-- A range of some document. -/
structure Location where
  /-- The document. -/
  uri : String
  range : Range
deriving DecidableEq, Repr, Inhabited

namespace Location

/-- The members of a location; the range may be left out. -/
def fields := Fields.cons (.required "uri" .text)
  (.cons (.defaulted "range" Range.codec .origin) .nil)

/-- Reading and writing a location. -/
def codec : Codec Location :=
  fields.codec "LspLocation" (fun (uri, range, ()) => ⟨uri, range⟩)
    (fun location => (location.uri, location.range, ()))

end Location

end FoldAtlas
