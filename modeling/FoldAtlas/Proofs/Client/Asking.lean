import FoldAtlas.Proofs.Client.Execution
import FoldAtlas.Proofs.Client.Transcript

/-!
# Calls under way

What a client has told the server while one of its calls is under way. Neither
the state of the client nor the stage of its operation says whether the request
of the call has been written already; the phase of the call does
(`Client.Asked`). Nothing that happens in the background adds to a transcript.
-/

namespace FoldAtlas

namespace Session

variable {session next : Session}

/-- Whether a call that opens the greeting has brought `null` or a greeting. -/
def Welcomed (session : Session) : Prop :=
  ∃ (ticket : Nat) (call : Call) (value : Json), session.calls[ticket]? = some call ∧
    call.method = Greeting.openingMethod ∧ call.phase = .finished (.ok value) ∧
    (value.isNull = true ∨ ∃ greeting, Greeting.codec.decode value = .ok greeting)

/-- A session that has been welcomed stays so. -/
theorem Welcomed.of_reaches (welcomed : session.Welcomed) (consistent : session.Consistent)
    (reaches : session.Reaches next) : next.Welcomed := by
  obtain ⟨ticket, call, value, found, method, phase, greeted⟩ := welcomed
  obtain ⟨events, run⟩ := reaches
  obtain ⟨phaseThen, inbox, foundThen⟩ := run.call_persists consistent found
  have isOver : session.outcome? ticket = some (.ok value) := by
    simp [outcome?, found, phase, CallPhase.outcome?]
  have overThen := run.outcome_persists consistent isOver
  simp only [outcome?, foundThen, Option.bind_some, CallPhase.outcome?_eq_some_iff] at overThen
  exact ⟨ticket, _, value, foundThen, method, overThen, greeted⟩

/-! ## What is added to a transcript -/

/-- A notification that was written is the last of the transcript. -/
theorem transcript_of_notify {fault : Option StreamFault} {method : String}
    {params : Option Json} (wrote : session.notify fault method params = .ok next) :
    next.transcript = session.transcript ++ [method] := by
  rcases Client.notify_cases session fault method params with written | ⟨failure, failed⟩
  · rw [written] at wrote
    obtain rfl := Except.ok.inj wrote
    simp [transcript, Message.method?, Notification.make]
  · rw [failed] at wrote
    cases wrote

/-- An answer to the other side adds nothing. -/
theorem transcript_of_stepAnswer {surroundings : Surroundings} {index : Nat}
    (moved : session.stepAnswer surroundings index = some next) :
    next.transcript = session.transcript := by
  obtain ⟨answer, phase, noted, written, _, turn, rfl⟩ := stepAnswer_eq_some_iff.mp moved
  rcases turn.written_cases with rfl | ⟨given, rfl⟩ <;>
    simp [transcript, advanced, Message.method?]

/-- Nothing that happens in the background adds anything. -/
theorem transcript_of_background {event : SessionEvent} (background : event.isBackground = true)
    (happens : session.after? event = some next) : next.transcript = session.transcript := by
  cases event with
  | begin | proceed | notify | detach => cases background
  | answer surroundings index => exact transcript_of_stepAnswer happens
  | dispatch time message =>
    cases happens
    cases message with
    | request request => rfl
    | response response =>
      simp only [actUpon, handOver]
      split
      · rfl
      · split <;> rfl
    | notification notice =>
      simp only [actUpon, hear]
      split <;> rfl
  | install method handler =>
    cases happens
    rfl
  | stream inbound ended intake =>
    cases happens
    rfl
  | abandon =>
    cases happens
    obtain ⟨calls, _, same⟩ := session.abandonCalls_eq
    rw [same]
    rfl

/-- What an event adds to a transcript: nothing, the method of a call that goes on to wait,
or that of a notification. -/
theorem transcript_cases {event : SessionEvent} (happens : session.after? event = some next) :
    next.transcript = session.transcript ∨
      (∃ ticket call deadline, session.calls[ticket]? = some call ∧ call.phase = .registered ∧
        next.transcript = session.transcript ++ [call.method] ∧
        next.calls = (session.setPhase ticket (.waiting deadline)).calls) ∨
      ∃ fault method params, event = .notify fault method params ∧
        next.transcript = session.transcript ++ [method] := by
  cases event with
  | dispatch | answer | install | stream | abandon =>
    exact .inl (transcript_of_background rfl happens)
  | begin | detach =>
    cases happens
    exact .inl rfl
  | notify fault method params =>
    simp only [Session.after?] at happens
    split at happens
    · next written wrote =>
      cases happens
      exact .inr (.inr ⟨fault, method, params, rfl, transcript_of_notify wrote⟩)
    · cases happens
      exact .inl rfl
  | proceed turn surroundings ticket =>
    rcases (Effect.of_after? happens).sent_cases with same |
      ⟨ticket, call, deadline, found, phase, sent, calls⟩ | ⟨isAside, _⟩
    · exact .inl (congrArg (List.filterMap Message.method?) same)
    · refine .inr (.inl ⟨ticket, call, deadline, found, phase, ?_, calls⟩)
      simp [transcript, sent, Call.request, Request.make, Message.method?]
    · cases isAside

end Session

/-- An answer that ends the opening of the greeting well is `null` or a greeting. -/
theorem Greeting.acceptable_of_decodeAnswer {value : Json} {greeting : Greeting}
    (decoded : decodeAnswer value = .ok greeting) :
    value.isNull = true ∨ ∃ greeting, codec.decode value = .ok greeting := by
  simp only [decodeAnswer] at decoded
  split at decoded
  · next isNull => exact .inl isNull
  · split at decoded
    · next greeting found => exact .inr ⟨greeting, found⟩
    · cases decoded

namespace Client

variable {welcomed graceful : Prop} {before after told : Told} {session advanced : Session}
  {ticket : Nat} {method : String}

/-- A call of a method is under way or over: either its request may still be
unwritten and the server has been told what it had been told before, or the
request may be written and the server has been told what follows it. -/
def Asked (welcomed graceful : Prop) (before after : Told) (session : Session) (ticket : Nat)
    (method : String) : Prop :=
  ∃ call, session.calls[ticket]? = some call ∧ call.method = method ∧
    (call.phase.mayBeUnwritten = true ∧ Tells welcomed graceful session.transcript before ∨
      call.phase.mayBeWritten = true ∧ Tells welcomed graceful session.transcript after)

namespace Asked

/-- A call that has just begun. -/
theorem begin (tells : Tells welcomed graceful session.transcript before)
    (params : Option Json) (limit : Option Duration) :
    Asked welcomed graceful before after (session.begin method params limit).1
      session.calls.length method := by
  refine ⟨⟨session.nextId, method, params, limit, .allocated, none⟩, ?_, rfl, .inl ⟨rfl, tells⟩⟩
  simp [Session.begin]

/-- What has been told while a call is under way. -/
theorem told_cases (asked : Asked welcomed graceful before after session ticket method) :
    Tells welcomed graceful session.transcript before ∨
      Tells welcomed graceful session.transcript after := by
  obtain ⟨call, _, _, ⟨_, tells⟩ | ⟨_, tells⟩⟩ := asked
  · exact .inl tells
  · exact .inr tells

/-- Only a call that was written has a result. -/
theorem of_result {value : Json}
    (asked : Asked welcomed graceful before after session ticket method)
    (isOver : session.outcome? ticket = some (.ok value)) :
    (∃ call, session.calls[ticket]? = some call ∧ call.method = method ∧
      call.phase = .finished (.ok value)) ∧
    Tells welcomed graceful session.transcript after := by
  obtain ⟨call, found, same, tells⟩ := asked
  simp only [Session.outcome?, found, Option.bind_some, CallPhase.outcome?_eq_some_iff] at isOver
  rcases tells with ⟨unwritten, _⟩ | ⟨_, tells⟩
  · rw [isOver] at unwritten
    cases unwritten
  · exact ⟨⟨call, found, same, isOver⟩, tells⟩

/-- A call goes on; its request is all that it can write. -/
theorem stepCall {surroundings : Surroundings}
    (asked : Asked welcomed graceful before after session ticket method)
    (follows : ∀ words, Tells welcomed graceful words before →
      Tells welcomed graceful (words ++ [method]) after)
    (moved : session.stepCall surroundings ticket = some advanced) :
    Asked welcomed graceful before after advanced ticket method := by
  obtain ⟨call, found, same, tells⟩ := asked
  obtain ⟨turn, happens⟩ := Session.stepCall_happens moved
  have arrives (current : Session) (calls : current.calls = session.calls) (phase : CallPhase) :
      (current.setPhase ticket phase).calls[ticket]? = some { call with phase } := by
    simp [Session.setPhase, calls, found]
  have atCall {other : Call} (present : session.calls[ticket]? = some other) : other = call :=
    Option.some.inj (present.symm.trans found)
  have early (unwritten : call.phase.mayBeWritten = false) :
      Tells welcomed graceful session.transcript before := by
    rcases tells with ⟨_, tells⟩ | ⟨written, _⟩
    · exact tells
    · rw [unwritten] at written
      cases written
  have late (written : call.phase.mayBeUnwritten = false) :
      Tells welcomed graceful session.transcript after := by
    rcases tells with ⟨unwritten, _⟩ | ⟨_, tells⟩
    · rw [written] at unwritten
      cases unwritten
    · exact tells
  cases Session.Effect.of_after? happens with
  | refuse present phase | register present phase | failToSend present phase =>
    obtain rfl := atCall present
    have tells := early (by rw [phase]; rfl)
    exact ⟨_, arrives _ rfl _, same, .inl ⟨rfl, tells⟩⟩
  | send present phase =>
    obtain rfl := atCall present
    have tells := follows _ (early (by rw [phase]; rfl))
    refine ⟨_, arrives _ rfl _, same, .inr ⟨rfl, ?_⟩⟩
    simpa [Session.transcript, Session.setPhase, Message.method?, Call.request, Request.make,
      same] using tells
  | withdraw present phase =>
    obtain rfl := atCall present
    rcases tells with ⟨_, tells⟩ | ⟨_, tells⟩
    · exact ⟨_, arrives _ rfl _, same, .inl ⟨rfl, tells⟩⟩
    · exact ⟨_, arrives _ rfl _, same, .inr ⟨rfl, tells⟩⟩
  | take present phase | expire present phase =>
    obtain rfl := atCall present
    have tells := late (by rw [phase]; rfl)
    exact ⟨_, arrives _ rfl _, same, .inr ⟨rfl, tells⟩⟩
  | aside isAside => cases isAside

/-- In the background, a call stays as far as it is. -/
theorem background {event : SessionEvent}
    (asked : Asked welcomed graceful before after session ticket method)
    (consistent : session.Consistent) (background : event.isBackground = true)
    (happens : session.after? event = some advanced) :
    Asked welcomed graceful before after advanced ticket method := by
  obtain ⟨call, found, same, tells⟩ := asked
  obtain ⟨later, foundThen, move⟩ :=
    (Session.Effect.of_after? happens).move consistent found
  rw [move.of_background background] at foundThen
  refine ⟨_, foundThen, same, ?_⟩
  rw [Session.transcript_of_background background happens]
  exact tells

end Asked

end Client

end FoldAtlas
