import FoldAtlas.Proofs.Session.Likeness

/-!
# Leaving out frames

A list of payloads of which some are kept and some left out, and what that means for
the bytes of their frames (`Sifting.winnow`), for the messages in them
(`Sifting.messages`) and for what happens in a session to which they come
(`Sifting.sift`). It is up to the session, at the point where it dispatches a message,
whether it is fit to be left out (`OnlyIgnored`).
-/

namespace FoldAtlas

/-- The frames of some payloads, one behind the other. -/
def Frame.sequence (payloads : List Bytes) : Bytes := (payloads.map encode).flatten

/-- Payloads in their order, and whether each of them is kept. -/
abbrev Sifting := List (Bytes × Bool)

namespace Sifting

variable {sifting : Sifting} {payload stream : Bytes} {kept : Bool}
  {message : Message} {place : Nat}

/-- All payloads. -/
def all (sifting : Sifting) : List Bytes := sifting.map Prod.fst

/-- The payloads that are kept. -/
def chosen (sifting : Sifting) : List Bytes := (sifting.filter Prod.snd).map Prod.fst

/-- What is left of a stream that begins with the frames of all payloads when those
that are not kept are cut out. The stream may not yet have come in wholly. -/
def winnow : Sifting → Bytes → Bytes
  | [], stream => stream
  | (payload, kept) :: sifting, stream =>
    let size := (Frame.encode payload).length
    (if kept then stream.take size else []) ++ winnow sifting (stream.drop size)

/-- The messages in the payloads; what is no message is passed over. -/
def messages (sifting : Sifting) : List (Message × Bool) :=
  sifting.filterMap fun entry =>
    (Message.ofPayload entry.1).toOption.map fun message => (message, entry.2)

/-! ## The bytes of the frames -/

/-- The frames of some payloads, the first of them apart. -/
@[simp]
theorem sequence_all_cons (payload : Bytes) (kept : Bool) (sifting : Sifting) :
    Frame.sequence (all ((payload, kept) :: sifting)) =
      Frame.encode payload ++ Frame.sequence sifting.all := by
  simp [Frame.sequence, all]

/-- The frames of some payloads and then of others. -/
theorem sequence_all_append (done rest : Sifting) :
    Frame.sequence (all (done ++ rest)) =
      Frame.sequence done.all ++ Frame.sequence rest.all := by
  simp [Frame.sequence, all]

/-- Of a frame at the head of a stream, all is left or nothing. -/
theorem winnow_encode (payload : Bytes) (kept : Bool) (sifting : Sifting) (stream : Bytes) :
    winnow ((payload, kept) :: sifting) (Frame.encode payload ++ stream) =
      (if kept then Frame.encode payload else []) ++ sifting.winnow stream := by
  simp only [winnow, List.take_left, List.drop_left]

/-- Of some frames at the head of a stream, those that are kept are left. -/
theorem winnow_sequence (done rest : Sifting) (stream : Bytes) :
    winnow (done ++ rest) (Frame.sequence done.all ++ stream) =
      Frame.sequence done.chosen ++ rest.winnow stream := by
  induction done with
  | nil => rfl
  | cons entry done ih =>
    obtain ⟨payload, kept⟩ := entry
    rw [sequence_all_cons, List.cons_append, List.append_assoc, winnow_encode, ih]
    cases kept <;> simp [Frame.sequence, chosen]

/-- Nothing is left of nothing. -/
theorem winnow_nil (sifting : Sifting) : sifting.winnow [] = [] := by
  induction sifting with
  | nil => rfl
  | cons entry sifting ih => simp [winnow, ih]

/-- What is left of a stream stays when more comes in. -/
theorem winnow_append (sifting : Sifting) (stream bytes : Bytes) :
    ∃ more, sifting.winnow (stream ++ bytes) = sifting.winnow stream ++ more := by
  induction sifting generalizing stream bytes with
  | nil => exact ⟨bytes, rfl⟩
  | cons entry sifting ih =>
    obtain ⟨payload, kept⟩ := entry
    simp only [winnow, List.take_append, List.drop_append]
    generalize (Frame.encode payload).length = size
    by_cases within : size ≤ stream.length
    · obtain ⟨more, same⟩ := ih (stream.drop size) (bytes.drop (size - stream.length))
      refine ⟨more, ?_⟩
      have none : size - stream.length = 0 := Nat.sub_eq_zero_of_le within
      rw [none, List.drop_zero] at same
      rw [none, List.take_zero, List.drop_zero, List.append_nil, same, List.append_assoc]
    · -- the first frame is still coming in, and nothing behind it is there
      have beyond : stream.drop size = [] := List.drop_eq_nil_of_le (by omega)
      rw [beyond, winnow_nil, List.append_nil, List.nil_append]
      cases kept
      · exact ⟨_, rfl⟩
      · exact ⟨_, List.append_assoc _ _ _⟩

/-- Behind all frames, everything is left. -/
theorem winnow_append_of_whole (whole : Frame.sequence sifting.all <+: stream) (bytes : Bytes) :
    sifting.winnow (stream ++ bytes) = sifting.winnow stream ++ bytes := by
  obtain ⟨behind, rfl⟩ := whole
  have left (stream : Bytes) : sifting.winnow (Frame.sequence sifting.all ++ stream) =
      Frame.sequence sifting.chosen ++ stream := by
    have same := winnow_sequence sifting [] stream
    rwa [List.append_nil] at same
  rw [List.append_assoc, left, left, List.append_assoc]

/-- Of a stream that goes on behind all frames, the frames that are kept are left, and all
that is behind them. -/
theorem winnow_prefix {tail : Bytes} (arriving : stream <+: Frame.sequence sifting.all ++ tail) :
    sifting.winnow stream <+: Frame.sequence sifting.chosen ++ tail := by
  obtain ⟨unarrived, whole⟩ := arriving
  obtain ⟨more, same⟩ := sifting.winnow_append stream unarrived
  have left := winnow_sequence sifting [] tail
  rw [List.append_nil, ← whole, same] at left
  exact ⟨more, left⟩

/-! ## The messages in the frames -/

/-- The messages in some payloads and then in others. -/
theorem messages_append (done rest : Sifting) :
    messages (done ++ rest) = done.messages ++ rest.messages :=
  List.filterMap_append

/-- The message in a payload. -/
theorem messages_of_ok (decoded : Message.ofPayload payload = .ok message) (kept : Bool) :
    messages [(payload, kept)] = [(message, kept)] := by
  simp [messages, decoded, Except.toOption]

/-- A payload without a message. -/
theorem messages_of_error {fault : JsonFault} (refused : Message.ofPayload payload = .error fault)
    (kept : Bool) : messages [(payload, kept)] = [] := by
  simp [messages, refused, Except.toOption]

/-- Whether the message at a place is kept; beyond the payloads, everything is. -/
def keeps (sifting : Sifting) (place : Nat) : Bool :=
  (sifting.messages[place]?.map Prod.snd).getD true

/-- How many of the first messages are left out and count as strays: the responses with an
identifier. -/
def discarded (sifting : Sifting) (count : Nat) : Nat :=
  (sifting.messages.take count).countP fun entry => !entry.2 && entry.1.isIdentified

/-- The next message may be one more that is left out. -/
theorem discarded_succ (found : sifting.messages[place]? = some (message, kept)) :
    sifting.discarded (place + 1) =
      sifting.discarded place + (!kept && message.isIdentified).toNat := by
  simp only [discarded, List.take_add_one, found, Option.toList_some, List.countP_append]
  cases kept <;> cases identified : message.isIdentified <;> simp [identified]

/-- Beyond the payloads, nothing is left out. -/
theorem discarded_beyond (beyond : sifting.messages.length ≤ place) (more : Nat) :
    sifting.discarded (place + more) = sifting.discarded place := by
  rw [discarded, discarded, List.take_of_length_le beyond,
    List.take_of_length_le (Nat.le_trans beyond (Nat.le_add_right _ _))]

end Sifting

/-! ## What happens -/

/-- Whether an event changes nothing but the incoming stream and how far its reader is. -/
def SessionEvent.isStream : SessionEvent → Bool
  | .stream _ _ _ => true
  | .begin _ _ _ | .proceed _ _ _ | .dispatch _ _ | .answer _ _ | .notify _ _ _ | .install _ _
  | .detach | .abandon => false

namespace Session

/-- What happens besides to the incoming stream. -/
def timeline (events : List SessionEvent) : List SessionEvent :=
  events.filter fun event => !event.isStream

end Session

namespace Sifting

open Session

variable {sifting : Sifting} {first session : Session} {events more : List SessionEvent}
  {event : SessionEvent} {message : Message}

/-- What happens besides to the incoming stream when the messages that are not kept are left
out, from the message at a place on. -/
def sift (sifting : Sifting) : Nat → List SessionEvent → List SessionEvent
  | _, [] => []
  | place, .stream _ _ _ :: events => sifting.sift place events
  | place, .dispatch time message :: events =>
    (if sifting.keeps place then [.dispatch time message] else []) ++
      sifting.sift (place + 1) events
  | place, event :: events => event :: sifting.sift place events

/-- What is left of some events and then of others. -/
theorem sift_append (place : Nat) (events more : List SessionEvent) :
    sifting.sift place (events ++ more) =
      sifting.sift place events ++ sifting.sift (place + (dispatched events).length) more := by
  induction events generalizing place with
  | nil => rfl
  | cons event events ih =>
    cases event with
    | dispatch time message =>
      have counted : place + (dispatched (.dispatch time message :: events)).length =
          place + 1 + (dispatched events).length := by
        simp only [dispatched, List.filterMap_cons, SessionEvent.message?, List.length_cons]
        omega
      rw [List.cons_append, sift, sift, ih, counted, List.append_assoc]
    | stream inbound ended intake => exact ih place
    | _ => exact congrArg (List.cons _) (ih place)

/-- Nothing of what a session does on its own is left out. -/
theorem sift_own (own : event.isOwn = true) (place : Nat) :
    sifting.sift place [event] = [event] := by
  cases event <;> first | rfl | cases own

/-- What a session does on its own happens besides to the stream. -/
theorem timeline_own (own : event.isOwn = true) : timeline [event] = [event] := by
  cases event <;> first | rfl | cases own

/-- Whether every message that is left out is ignored at the point where it is dispatched. -/
def OnlyIgnored (sifting : Sifting) (first : Session) (events : List SessionEvent) : Prop :=
  ∀ before time message behind point, events = before ++ .dispatch time message :: behind →
    Steps first before point →
    sifting.messages[(dispatched before).length]? = some (message, false) → point.Ignores message

/-- Where nothing happens, nothing is left out. -/
theorem OnlyIgnored.nil (sifting : Sifting) (first : Session) : sifting.OnlyIgnored first [] := by
  intro before time message behind point split
  simp at split

/-- What holds of all events holds of the first of them. -/
theorem OnlyIgnored.of_append (ignored : sifting.OnlyIgnored first (events ++ more)) :
    sifting.OnlyIgnored first events := by
  intro before time message behind point split
  exact ignored before time message (behind ++ more) point (by simp [split])

/-- Where no message is dispatched, none is left out. -/
theorem OnlyIgnored.append (ignored : sifting.OnlyIgnored first events)
    (quiet : dispatched more = []) : sifting.OnlyIgnored first (events ++ more) := by
  intro before time message behind point split
  rcases List.append_eq_append_iff.mp split with ⟨between, rfl, tail⟩ | ⟨between, rfl, tail⟩
  · rw [tail, dispatched_append] at quiet
    simp [dispatched, SessionEvent.message?] at quiet
  · cases between with
    | nil =>
      rw [List.nil_append] at tail
      rw [← tail] at quiet
      simp [dispatched, SessionEvent.message?] at quiet
    | cons event between =>
      rw [List.cons_append] at tail
      obtain ⟨rfl, _⟩ := List.cons.inj tail
      exact ignored before time message between point rfl

/-- A message may be left out that is ignored where it is dispatched. -/
theorem OnlyIgnored.dispatch (ignored : sifting.OnlyIgnored first events)
    (run : Steps first events session) (time : Nat)
    (fit : sifting.messages[(dispatched events).length]? = some (message, false) →
      session.Ignores message) :
    sifting.OnlyIgnored first (events ++ [.dispatch time message]) := by
  intro before instant other behind point split front leftOut
  rcases List.append_eq_append_iff.mp split with ⟨between, rfl, tail⟩ | ⟨between, rfl, tail⟩
  · cases between with
    | nil =>
      rw [List.nil_append] at tail
      obtain ⟨same, rfl⟩ := List.cons.inj tail
      obtain ⟨rfl, rfl⟩ := SessionEvent.dispatch.inj same
      rw [List.append_nil] at front leftOut
      obtain rfl := front.deterministic run
      exact fit leftOut
    | cons event between => simp at tail
  · cases between with
    | nil =>
      rw [List.nil_append] at tail
      obtain ⟨same, rfl⟩ := List.cons.inj tail.symm
      obtain ⟨rfl, rfl⟩ := SessionEvent.dispatch.inj same
      rw [List.append_nil] at run
      obtain rfl := front.deterministic run
      exact fit (by rwa [List.append_nil])
    | cons event between =>
      rw [List.cons_append] at tail
      obtain ⟨rfl, _⟩ := List.cons.inj tail
      exact ignored before instant other between point rfl front leftOut

/-- A message that is read is kept, or is ignored where it is read. -/
theorem OnlyIgnored.read (ignored : sifting.OnlyIgnored first events)
    (run : Steps first events session) (inbound : Bytes) (time : Nat)
    (fit : sifting.keeps (dispatched events).length = true ∨
      Session.Ignores { session with inbound } message) :
    sifting.OnlyIgnored first
      (events ++ [.stream inbound session.inboundEnded session.intake, .dispatch time message]) := by
  have quiet : dispatched [.stream inbound session.inboundEnded session.intake] = [] := rfl
  have taken : Steps first (events ++ [.stream inbound session.inboundEnded session.intake])
      { session with inbound } := run.trans (.single rfl)
  have onward : sifting.OnlyIgnored first
      (events ++ [.stream inbound session.inboundEnded session.intake] ++
        [.dispatch time message]) := by
    refine (ignored.append quiet).dispatch taken time fun leftOut => ?_
    rw [dispatched_append_of_quiet events quiet] at leftOut
    refine fit.resolve_left fun keeps => ?_
    simp [Sifting.keeps, leftOut] at keeps
  rwa [List.append_assoc] at onward

end Sifting

end FoldAtlas
