import FoldAtlas.Envelope

/-!
# Sources of frames

A byte stream seldom arrives at once. A source holds the bytes that have arrived
and are not read yet, and the chunks that are still to come. Reading takes a
chunk only when the bytes at hand do not decide what comes next, and at the end
of the stream what is left decides. What is read are frames or, with
`Source.readMessage`, the messages in them.
-/

namespace FoldAtlas.Frame

/-- What a report means to a reader of messages; the end of the stream is `none`. -/
def Delivery.message? : Delivery → Except Failure (Option Message)
  | .frame payload =>
    match Message.ofPayload payload with
    | .ok message => .ok (some message)
    | .error fault => .error (.json fault)
  | .failure error => .error (.framing error.message)
  | .endOfStream => .ok none

/-- A byte stream that arrives in chunks. -/
structure Source where
  /-- The bytes that have arrived and are not read yet. -/
  buffered : Bytes
  /-- The chunks that are still to come. -/
  chunks : List Bytes
deriving Repr, Inhabited

namespace Source

/-- A source of which nothing has arrived. -/
def ofChunks (chunks : List Bytes) : Source := ⟨[], chunks⟩

/-- All bytes that reading can still reach. -/
def bytes (source : Source) : Bytes := source.buffered ++ source.chunks.flatten

/-- Read from some bytes at hand and chunks to come. -/
def readFrom (buffered : Bytes) : List Bytes → Delivery × Source
  | [] =>
    match next buffered with
    | .delivered delivery rest => (delivery, ⟨rest, []⟩)
    | .starved atEnd => (atEnd, ⟨[], []⟩)
  | chunk :: chunks =>
    match next buffered with
    | .delivered delivery rest => (delivery, ⟨rest, chunk :: chunks⟩)
    | .starved _ => readFrom (buffered ++ chunk) chunks

/-- Read what comes next: the report, and the source behind it. -/
def read (source : Source) : Delivery × Source :=
  readFrom source.buffered source.chunks

/-- Read the message that comes next, and report the end of the stream as `none`. -/
def readMessage (source : Source) : Except Failure (Option Message) × Source :=
  (source.read.1.message?, source.read.2)

end Source

end FoldAtlas.Frame
