import FoldAtlas.Text.Quoted

/-!
# Frame errors

Why a byte stream does not begin with a frame, and the two limits that a frame
has to keep. Each error has one wording.
-/

namespace FoldAtlas

/-- Why a stream does not begin with a frame. -/
inductive FrameError where
  /-- The bytes of a header line are not UTF-8. -/
  | headerNotText
  /-- The header block uses up its budget. -/
  | headerTooLong
  /-- The stream ends inside the header block. -/
  | endedInHeader
  /-- A header line has no colon. -/
  | malformedLine (line : String)
  /-- The declared length is not a number. -/
  | invalidLength (value : String)
  /-- No length is declared. -/
  | missingLength
  /-- The declared length is beyond the limit. -/
  | payloadTooLong (declared : Nat)
  /-- The stream ends inside the payload. -/
  | endedInPayload (received declared : Nat)
deriving DecidableEq, Repr

namespace Frame

/-- How many bytes the header block of a frame may have. -/
def headerBudget : Nat := 8192

/-- How many bytes the payload of a frame may have. -/
def payloadLimit : Nat := 67108864

end Frame

namespace FrameError

/-- The wording of an error. -/
def message : FrameError → String
  | .headerNotText => "header block is not valid UTF-8"
  | .headerTooLong =>
    "header block exceeds " ++ toString Frame.headerBudget ++ " bytes"
  | .endedInHeader => "stream closed inside header block"
  | .malformedLine line => "malformed header line: " ++ quoted line
  | .invalidLength value => "invalid Content-Length: " ++ quoted value
  | .missingLength => "missing Content-Length header"
  | .payloadTooLong declared =>
    "Content-Length " ++ toString declared ++ " exceeds the " ++
      toString Frame.payloadLimit ++ " byte limit"
  | .endedInPayload received declared =>
    "stream closed after " ++ toString received ++ " of " ++ toString declared ++
      " payload bytes"

end FrameError

end FoldAtlas
