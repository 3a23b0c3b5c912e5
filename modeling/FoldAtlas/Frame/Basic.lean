import FoldAtlas.Frame.Line

/-!
# Frames

A frame is a header block and a payload. The header block is a sequence of
lines ended by a blank one; the last `Content-Length` among them declares how
many bytes of payload follow. `Frame.encode` writes a frame and `Frame.next`
takes the first one off a byte stream.

A stream that is still open may not hold enough bytes yet. `Frame.next` then
reports that it is starved, together with what it would deliver if the stream
ended there, so that one function serves a reader that waits and one that does
not. All lines of a header block share one budget of bytes.
-/

namespace FoldAtlas

namespace Frame

/-- Write a payload as a frame. -/
def encode (payload : Bytes) : Bytes :=
  Bytes.ofText ("Content-Length: " ++ toString payload.length ++ "\r\n\r\n") ++ payload

/-- What one read of a stream reports. -/
inductive Delivery where
  /-- A payload. -/
  | frame (payload : Bytes)
  /-- An error. -/
  | failure (error : FrameError)
  /-- The end of the stream, between two frames. -/
  | endOfStream
deriving DecidableEq, Repr

/-- How far the bytes of a stream get a reader. -/
inductive Progress where
  /-- The report of a read, and the bytes that it left. -/
  | delivered (delivery : Delivery) (rest : Bytes)
  /-- All bytes are needed and more may be; the report if none come. -/
  | starved (atEnd : Delivery)
deriving DecidableEq, Repr

/-- The payload behind a header block that declared a length or none. -/
def payload (declared : Option Nat) (stream : Bytes) : Progress :=
  match declared with
  | none => .delivered (.failure .missingLength) stream
  | some length =>
    if payloadLimit < length then
      .delivered (.failure (.payloadTooLong length)) stream
    else if length ≤ stream.length then
      .delivered (.frame (stream.take length)) (stream.drop length)
    else .starved (.failure (.endedInPayload stream.length length))

/-- The report of a payload when no more bytes come. -/
def Progress.atEnd : Progress → Delivery
  | .delivered delivery _ => delivery
  | .starved delivery => delivery

/-- The report when the stream ends within a line of a header block. The line
counts as if it were complete. -/
def endInLine (budget : Nat) (declared : Option Nat) (line : Bytes) : Delivery :=
  if line = [] then
    if budget = headerBudget then .endOfStream else .failure .endedInHeader
  else match meaning declared line with
    | .refused error => .failure error
    | .blank => (payload declared []).atEnd
    | .header _ => .failure .endedInHeader

/-- The rest of a header block with a budget of bytes, and the payload. -/
def header (budget : Nat) (declared : Option Nat) (stream : Bytes) : Progress :=
  if _ended : (scanLine budget stream).ended = true then
    if (Bytes.text? (scanLine budget stream).line).isNone then
      .delivered (.failure .headerNotText) (scanLine budget stream).rest
    else if _fits : overruns budget (scanLine budget stream).line = false then
      match meaning declared (scanLine budget stream).line with
      | .refused error => .delivered (.failure error) (scanLine budget stream).rest
      | .blank => payload declared (scanLine budget stream).rest
      | .header declared =>
        header (budget - (scanLine budget stream).line.length) declared
          (scanLine budget stream).rest
    else .delivered (.failure .headerTooLong) (scanLine budget stream).rest
  else .starved (endInLine budget declared (scanLine budget stream).line)
termination_by budget
decreasing_by
  have positive := scanLine_length_pos _ended _fits
  have bounded := length_scanLine_le budget stream
  omega

/-- Take the first frame off a stream. -/
def next (stream : Bytes) : Progress :=
  header headerBudget none stream

/-- Read from a stream of which no more bytes will come: the report, and the
bytes that are left. -/
def read (stream : Bytes) : Delivery × Bytes :=
  match next stream with
  | .delivered delivery rest => (delivery, rest)
  | .starved delivery => (delivery, [])

end Frame

end FoldAtlas
