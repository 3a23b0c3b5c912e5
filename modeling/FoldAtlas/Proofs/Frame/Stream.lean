import FoldAtlas.Frame.Source
import FoldAtlas.Proofs.Frame.Header

/-!
# Streams of frames

A stream of written frames is read as it was written, however it is cut into
chunks on its way. What the bytes at hand decide is not changed by bytes that
come later (`next_append`), so that a source reads what its bytes as a whole
say (`Source.read_of_next`).
-/

namespace FoldAtlas.Frame

variable {stream rest : Bytes} {delivery : Delivery} {declared : Option Nat}

/-! ## What later bytes do not change -/

/-- A payload that is there is not changed by later bytes. -/
theorem payload_append_of_delivered (delivered : payload declared stream = .delivered delivery rest)
    (more : Bytes) : payload declared (stream ++ more) = .delivered delivery (rest ++ more) := by
  cases declared with
  | none =>
    obtain ⟨rfl, rfl⟩ := Progress.delivered.inj delivered
    rfl
  | some length =>
    simp only [payload] at delivered ⊢
    split at delivered
    · next long =>
      obtain ⟨rfl, rfl⟩ := Progress.delivered.inj delivered
      rw [if_pos long]
    · next short =>
      split at delivered
      · next within =>
        obtain ⟨rfl, rfl⟩ := Progress.delivered.inj delivered
        have withinMore : length ≤ (stream ++ more).length := by
          rw [List.length_append]
          omega
        rw [if_neg short, if_pos withinMore, List.take_append_of_le_length within,
          List.drop_append_of_le_length within]
      · cases delivered

/-- What the rest of a header block decides is not changed by later bytes. -/
theorem header_append {budget : Nat}
    (delivered : header budget declared stream = .delivered delivery rest) (more : Bytes) :
    header budget declared (stream ++ more) = .delivered delivery (rest ++ more) := by
  fun_induction header budget declared stream with
  | case1 budget declared stream ended noText =>
    obtain ⟨rfl, rfl⟩ := Progress.delivered.inj delivered
    rw [header]
    simp [scanLine_append ended, noText]
  | case2 budget declared stream ended text fits error refused =>
    obtain ⟨rfl, rfl⟩ := Progress.delivered.inj delivered
    rw [header]
    simp [scanLine_append ended, text, fits, refused]
  | case3 budget declared stream ended text fits blank =>
    rw [header]
    simp [scanLine_append ended, text, fits, blank, payload_append_of_delivered delivered]
  | case4 budget declared stream ended text fits next understood ih =>
    rw [header]
    simp [scanLine_append ended, text, fits, understood, ih delivered]
  | case5 budget declared stream ended text overrun =>
    obtain ⟨rfl, rfl⟩ := Progress.delivered.inj delivered
    rw [header]
    simp [scanLine_append ended, text, overrun]
  | case6 => cases delivered

/-- What the bytes at hand decide is not changed by later bytes. -/
theorem next_append (delivered : next stream = .delivered delivery rest) (more : Bytes) :
    next (stream ++ more) = .delivered delivery (rest ++ more) :=
  header_append delivered more

/-- Without any bytes, the end of the stream is all there is to report. -/
theorem next_nil : next [] = .starved .endOfStream := by
  rw [next, header]
  simp [scanLine, headerBudget, endInLine]

/-! ## Reading a source -/

namespace Source

/-- What a number of successive reads report. -/
def successive {α : Type} (read : Source → α × Source) : Nat → Source → List α
  | 0, _ => []
  | reads + 1, source => (read source).1 :: successive read reads (read source).2

/-- Reading chunks reports what the bytes as a whole decide. -/
theorem readFrom_of_next (buffered : Bytes) (chunks : List Bytes)
    (delivered : next (buffered ++ chunks.flatten) = .delivered delivery rest) :
    (readFrom buffered chunks).1 = delivery ∧ (readFrom buffered chunks).2.bytes = rest := by
  induction chunks generalizing buffered with
  | nil =>
    rw [List.flatten_nil, List.append_nil] at delivered
    simp [readFrom, delivered, bytes]
  | cons chunk chunks ih =>
    cases progress : next buffered with
    | delivered early left =>
      rw [next_append progress] at delivered
      obtain ⟨rfl, rfl⟩ := Progress.delivered.inj delivered
      simp [readFrom, progress, bytes]
    | starved _ =>
      rw [List.flatten_cons, ← List.append_assoc] at delivered
      simpa only [readFrom, progress] using ih (buffered ++ chunk) delivered

/-- A source reports what its bytes as a whole decide. -/
theorem read_of_next {source : Source} (delivered : next source.bytes = .delivered delivery rest) :
    source.read.1 = delivery ∧ source.read.2.bytes = rest :=
  readFrom_of_next source.buffered source.chunks delivered

/-- Reading chunks takes them all when the bytes as a whole decide nothing. -/
theorem readFrom_of_starved {atEnd : Delivery} (buffered : Bytes) (chunks : List Bytes)
    (starved : next (buffered ++ chunks.flatten) = .starved atEnd) :
    readFrom buffered chunks = (atEnd, ⟨[], []⟩) := by
  induction chunks generalizing buffered with
  | nil =>
    rw [List.flatten_nil, List.append_nil] at starved
    rw [readFrom, starved]
  | cons chunk chunks ih =>
    cases progress : next buffered with
    | delivered early left =>
      rw [next_append progress] at starved
      cases starved
    | starved _ =>
      rw [List.flatten_cons, ← List.append_assoc] at starved
      rw [readFrom, progress]
      exact ih (buffered ++ chunk) starved

/-- A source that holds too few bytes reports so, and nothing is left. -/
theorem read_of_starved {source : Source} {atEnd : Delivery}
    (starved : next source.bytes = .starved atEnd) : source.read = (atEnd, ⟨[], []⟩) :=
  readFrom_of_starved source.buffered source.chunks starved

/-- At the end of the stream, a source reports it. -/
theorem read_of_empty {source : Source} (empty : source.bytes = []) :
    source.read = (.endOfStream, ⟨[], []⟩) :=
  read_of_starved (by rw [empty, next_nil])

/-- At the end of the stream, every further read reports it again. -/
theorem successive_of_empty (reads : Nat) {source : Source} (empty : source.bytes = []) :
    successive read reads source = List.replicate reads .endOfStream := by
  induction reads generalizing source with
  | zero => rfl
  | succ reads ih =>
    rw [successive, read_of_empty empty, ih (by rfl), List.replicate_succ]

/-- The frames at the front of a stream are read one after the other, and then what
lies behind them. -/
theorem successive_frames (reads : Nat) {payloads : List Bytes}
    (short : ∀ payload ∈ payloads, payload.length ≤ payloadLimit) {source : Source} {rest : Bytes}
    (written : source.bytes = (payloads.map encode).flatten ++ rest) :
    ∃ behind : Source, behind.bytes = rest ∧
      successive read (payloads.length + reads) source =
        payloads.map .frame ++ successive read reads behind := by
  induction payloads generalizing source with
  | nil => exact ⟨source, written, by simp⟩
  | cons payload payloads ih =>
    have delivered := next_encode (short payload List.mem_cons_self)
      ((payloads.map encode).flatten ++ rest)
    rw [List.map_cons, List.flatten_cons, List.append_assoc] at written
    rw [← written] at delivered
    obtain ⟨report, left⟩ := read_of_next delivered
    obtain ⟨behind, bytes, later⟩ :=
      ih (fun other member => short other (List.mem_cons_of_mem _ member)) left
    refine ⟨behind, bytes, ?_⟩
    rw [List.length_cons, Nat.add_right_comm, successive, report, later]
    rfl

/-- The frames of a stream are read one after the other, and then its end. -/
theorem successive_read (reads : Nat) {payloads : List Bytes}
    (short : ∀ payload ∈ payloads, payload.length ≤ payloadLimit) {source : Source}
    (written : source.bytes = (payloads.map encode).flatten) :
    successive read (payloads.length + reads) source =
      payloads.map .frame ++ List.replicate reads .endOfStream := by
  have whole : source.bytes = (payloads.map encode).flatten ++ [] := by simpa using written
  obtain ⟨behind, empty, frames⟩ := successive_frames reads short whole
  rw [frames, successive_of_empty reads empty]

/-- A reader of messages reads the same frames. -/
theorem successive_readMessage (reads : Nat) (source : Source) :
    successive readMessage reads source = (successive read reads source).map Delivery.message? := by
  induction reads generalizing source with
  | zero => rfl
  | succ reads ih => rw [successive, ih, successive, List.map_cons]; rfl

/-- However a stream of written frames is cut into chunks, successive reads report
its payloads byte for byte, and then the end of the stream, however often one
reads on; and a reader of messages reports for every payload what it alone
means, whether or not it is a message. -/
theorem frames_survive_chunking {payloads chunks : List Bytes}
    (short : ∀ payload ∈ payloads, payload.length ≤ payloadLimit)
    (cut : chunks.flatten = (payloads.map encode).flatten) (reads : Nat) :
    successive read (payloads.length + reads) (.ofChunks chunks) =
        payloads.map .frame ++ List.replicate reads .endOfStream ∧
      successive readMessage (payloads.length + reads) (.ofChunks chunks) =
        payloads.map (fun payload =>
          match Message.ofPayload payload with
          | .ok message => .ok (some message)
          | .error fault => .error (.json fault)) ++
        List.replicate reads (.ok none) := by
  have written : (ofChunks chunks).bytes = (payloads.map encode).flatten := cut
  have frames := successive_read reads short written
  refine ⟨frames, ?_⟩
  rw [successive_readMessage, frames, List.map_append, List.map_map, List.map_replicate]
  rfl

/-- Payloads that look like the framing around them, one that is a message, and an
empty one. -/
def awkwardPayloads : List Bytes :=
  [[0x0D, 0x0A, 0xFF], Bytes.ofText "Content-Length: 1\r\n\r\n",
    Bytes.ofText "\x7b\"method\":\"exit\",\"jsonrpc\":\"2.0\"\x7d", []]

/-- Awkward payloads come through one byte at a time. -/
theorem frames_of_awkwardPayloads :
    ∃ chunks, (∀ payload ∈ awkwardPayloads, payload.length ≤ payloadLimit) ∧
      chunks.flatten = (awkwardPayloads.map encode).flatten ∧
      (∀ chunk ∈ chunks, chunk.length = 1) ∧
      successive read 6 (.ofChunks chunks) =
        awkwardPayloads.map .frame ++ [.endOfStream, .endOfStream] ∧
      (successive readMessage 6 (.ofChunks chunks)).map (·.toOption.isSome) =
        [false, false, true, false, true, true] := by
  have short : ∀ payload ∈ awkwardPayloads, payload.length ≤ payloadLimit := by decide
  have cut : ((awkwardPayloads.map encode).flatten.map fun byte => [byte]).flatten =
      (awkwardPayloads.map encode).flatten :=
    List.flatMap_singleton' _
  obtain ⟨frames, messages⟩ := frames_survive_chunking short cut 2
  refine ⟨_, short, cut, fun chunk member => ?_, frames, ?_⟩
  · obtain ⟨byte, _, rfl⟩ := List.mem_map.mp member
    rfl
  · exact (congrArg (List.map (·.toOption.isSome)) messages).trans (by rfl)

end Source

end FoldAtlas.Frame
