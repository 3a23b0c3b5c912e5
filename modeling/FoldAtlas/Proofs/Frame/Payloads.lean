import FoldAtlas.Proofs.Frame.Stream

/-!
# What a stream holds

The frames of a byte stream up to the first point where there is none, whatever lies
behind it: their payloads (`payloads`) and the messages among them (`messages`). A
stream that holds something else than a frame behind some complete ones is known to
(`Halts`) before it ends; no bytes that come later change that.
-/

namespace FoldAtlas.Frame

variable {stream rest : Bytes} {delivery : Delivery} {payload : Bytes}

/-- Whether a report is that of a frame. -/
def Delivery.isFrame : Delivery → Bool
  | .frame _ => true
  | .failure _ | .endOfStream => false

/-! ## Reading uses bytes up -/

/-- A payload leaves no more bytes than there were. -/
theorem payload_rest_le {declared : Option Nat}
    (delivered : Frame.payload declared stream = .delivered delivery rest) :
    rest.length ≤ stream.length := by
  cases declared with
  | none =>
    obtain ⟨-, rfl⟩ := Progress.delivered.inj delivered
    exact Nat.le_refl _
  | some length =>
    simp only [Frame.payload] at delivered
    split at delivered
    · obtain ⟨-, rfl⟩ := Progress.delivered.inj delivered
      exact Nat.le_refl _
    · split at delivered
      · obtain ⟨-, rfl⟩ := Progress.delivered.inj delivered
        rw [List.length_drop]
        omega
      · cases delivered

/-- What lies behind a line that ended within its budget is shorter. -/
theorem scanLine_rest_lt {budget : Nat} (ended : (scanLine budget stream).ended = true)
    (fits : overruns budget (scanLine budget stream).line = false) :
    (scanLine budget stream).rest.length < stream.length := by
  have positive := scanLine_length_pos ended fits
  have whole := congrArg List.length (line_append_rest budget stream)
  rw [List.length_append] at whole
  omega

/-- A frame uses up some bytes. -/
theorem header_rest_lt {budget : Nat} {declared : Option Nat}
    (delivered : header budget declared stream = .delivered (.frame payload) rest) :
    rest.length < stream.length := by
  fun_induction header budget declared stream with
  | case1 | case2 | case5 => cases (Progress.delivered.inj delivered).1
  | case3 budget declared stream ended text fits blank =>
    exact Nat.lt_of_le_of_lt (payload_rest_le delivered) (scanLine_rest_lt ended fits)
  | case4 budget declared stream ended text fits next understood ih =>
    exact Nat.lt_trans (ih delivered) (scanLine_rest_lt ended fits)
  | case6 => cases delivered

/-- A frame that is read uses up some bytes, also at the end of the stream. -/
theorem read_rest_lt (found : read stream = (.frame payload, rest)) :
    rest.length < stream.length := by
  rw [read] at found
  split at found
  · next delivered =>
    obtain ⟨rfl, rfl⟩ := Prod.mk.inj found
    exact header_rest_lt delivered
  · next starved =>
    obtain ⟨rfl, rfl⟩ := Prod.mk.inj found
    cases stream with
    | nil =>
      rw [next_nil] at starved
      cases starved
    | cons byte stream => simp

/-! ## The frames of a stream -/

/-- The payloads of the frames of a stream, up to the first point where a read
reports something else. -/
def payloads (stream : Bytes) : List Bytes :=
  match _found : read stream with
  | (.frame payload, rest) => payload :: payloads rest
  | (.failure _, _) | (.endOfStream, _) => []
termination_by stream.length
decreasing_by exact read_rest_lt _found

/-- The messages in the frames of a stream; what is no message is left out. -/
def messages (stream : Bytes) : List Message :=
  (payloads stream).filterMap fun payload => (Message.ofPayload payload).toOption

/-- A frame comes before the frames behind it. -/
theorem payloads_of_frame (found : read stream = (.frame payload, rest)) :
    payloads stream = payload :: payloads rest := by
  rw [payloads]
  split
  · next same =>
    obtain ⟨report, rfl⟩ := Prod.mk.inj (same.symm.trans found)
    rw [Delivery.frame.inj report]
  · next same => cases same.symm.trans found
  · next same => cases same.symm.trans found

/-- Behind something else than a frame there is none. -/
theorem payloads_of_noFrame (found : read stream = (delivery, rest))
    (noFrame : delivery.isFrame = false) : payloads stream = [] := by
  rw [payloads]
  split
  · next same =>
    obtain ⟨rfl, _⟩ := Prod.mk.inj (same.symm.trans found)
    cases noFrame
  · rfl
  · rfl

/-- What a frame adds to the messages. -/
theorem messages_of_frame (found : read stream = (.frame payload, rest)) :
    messages stream = (Message.ofPayload payload).toOption.toList ++ messages rest := by
  rw [messages, payloads_of_frame found, List.filterMap_cons]
  cases (Message.ofPayload payload).toOption <;> rfl

/-- Behind something else than a frame there are no messages. -/
theorem messages_of_noFrame (found : read stream = (delivery, rest))
    (noFrame : delivery.isFrame = false) : messages stream = [] := by
  rw [messages, payloads_of_noFrame found noFrame, List.filterMap_nil]

/-- What a written frame adds to the messages. -/
theorem messages_encode (short : payload.length ≤ payloadLimit) (rest : Bytes) :
    messages (encode payload ++ rest) =
      (Message.ofPayload payload).toOption.toList ++ messages rest :=
  messages_of_frame (by rw [read, next_encode short])

/-- Without any bytes there are no messages. -/
theorem messages_nil : messages [] = [] :=
  messages_of_noFrame (by rw [read, next_nil]) rfl

/-! ## Streams that are still open -/

/-- What a reader reports that has some bytes and knows whether more may come. -/
def Arrives (stream : Bytes) (ended : Bool) (delivery : Delivery) (rest : Bytes) : Prop :=
  next stream = .delivered delivery rest ∨
    ended = true ∧ next stream = .starved delivery ∧ rest = []

/-- What a reader reports is what a read of the whole stream reports. -/
theorem Arrives.read {ended : Bool} (arrives : Arrives stream ended delivery rest) (more : Bytes)
    (none : ended = true → more = []) : read (stream ++ more) = (delivery, rest ++ more) := by
  rcases arrives with delivered | ⟨ended, starved, rfl⟩
  · rw [Frame.read, next_append delivered]
  · rw [none ended, List.append_nil, Frame.read, starved]
    rfl

/-- At the end of a stream there is something to report. -/
theorem Arrives.of_ended (stream : Bytes) : ∃ delivery rest, Arrives stream true delivery rest := by
  cases progress : next stream with
  | delivered delivery rest => exact ⟨delivery, rest, .inl progress⟩
  | starved atEnd => exact ⟨atEnd, [], .inr ⟨rfl, progress, rfl⟩⟩

/-- A frame that is reported uses up some bytes. -/
theorem Arrives.rest_lt {ended : Bool} (arrives : Arrives stream ended (.frame payload) rest) :
    rest.length < stream.length := by
  have found := arrives.read [] fun _ => rfl
  rw [List.append_nil, List.append_nil] at found
  exact read_rest_lt found

/-- Whether a stream, possibly behind some frames, holds what is no frame, even if
more bytes come. -/
inductive Halts : Bytes → Prop where
  | now {stream rest : Bytes} {delivery : Delivery}
      (delivered : next stream = .delivered delivery rest) (noFrame : delivery.isFrame = false) :
      Halts stream
  | later {stream rest payload : Bytes} (delivered : next stream = .delivered (.frame payload) rest)
      (behind : Halts rest) : Halts stream

/-- Behind a frame, a stream halts or does not halt as with the frame. -/
theorem halts_iff_of_frame (delivered : next stream = .delivered (.frame payload) rest) :
    Halts stream ↔ Halts rest := by
  refine ⟨fun halts => ?_, .later delivered⟩
  cases halts with
  | now other noFrame =>
    obtain ⟨rfl, rfl⟩ := Progress.delivered.inj (delivered.symm.trans other)
    cases noFrame
  | later other behind =>
    obtain ⟨_, rfl⟩ := Progress.delivered.inj (delivered.symm.trans other)
    exact behind

/-- A stream that halts has something to report. -/
theorem Halts.arrives (halts : Halts stream) (ended : Bool) :
    ∃ delivery rest, Arrives stream ended delivery rest ∧
      (delivery.isFrame = true → Halts rest) := by
  cases halts with
  | now delivered noFrame =>
    refine ⟨_, _, .inl delivered, fun isFrame => ?_⟩
    rw [noFrame] at isFrame
    cases isFrame
  | later delivered behind => exact ⟨_, _, .inl delivered, fun _ => behind⟩

end FoldAtlas.Frame
