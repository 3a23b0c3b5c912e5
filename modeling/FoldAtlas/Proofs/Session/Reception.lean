import FoldAtlas.Proofs.Session.Connection
import FoldAtlas.Proofs.Session.Settlement

/-!
# Reception

What becomes of a byte stream and of the calls that wait when the stream comes to
its end, however it does (`reception_is_exact`). The messages of its complete frames
are dispatched in order, up to the first point where there is no frame; then calls
are refused, and every call that has written its request and has not waited too long
comes back: with what the response to it said, or with the session being closed. Only the
handler of a notification can keep the reader from that point: one that breaks down stops
it where it is, and one that is never done holds it up.

A call is told about the end because its response is expected, and it is expected
as long as it is under way and has been handed nothing (`Expectant`).
-/

namespace FoldAtlas

namespace Session

variable {first session next last : Session} {events : List SessionEvent}
  {event : SessionEvent} {ticket other : Nat} {call later moving : Call} {handlers : Handlers}

/-! ## Whoever is under way is expected -/

/-- Whether every call that is under way and has been handed nothing is expected. -/
def Expectant (session : Session) : Prop :=
  ∀ (ticket : Nat) (call : Call), session.calls[ticket]? = some call →
    call.phase.isOutstanding = true → call.inbox = none →
    session.pending.find? (.number call.id) = some ticket

/-- Calls that share an identifier are the same. -/
theorem Consistent.id_ne (consistent : session.Consistent)
    (countable : session.calls.length < 2 ^ 64 - 1) (found : session.calls[ticket]? = some call)
    (foundToo : session.calls[other]? = some moving) (different : other ≠ ticket) :
    RequestId.number call.id ≠ .number moving.id := fun same =>
  different (consistent.ticket_eq countable foundToo found (RequestId.number.inj same).symm)

/-- A call that goes on without anybody's response becoming unexpected: whoever is
under way stays expected. -/
theorem Expectant.setPhase {phase : CallPhase} (expectant : session.Expectant)
    (present : session.calls[other]? = some moving)
    (kept : phase.isOutstanding = true → moving.phase.isOutstanding = true) :
    (session.setPhase other phase).Expectant := by
  intro ticket call found outstanding empty
  rcases found_setPhase found with ⟨rfl, before, foundThen, rfl⟩ | ⟨_, foundThen⟩
  · obtain rfl := Option.some.inj (present.symm.trans foundThen)
    exact expectant ticket moving present (kept outstanding) empty
  · exact expectant ticket call foundThen outstanding empty

/-- A call that registers becomes expected, and whoever was under way stays so. -/
theorem Expectant.register (expectant : session.Expectant) (consistent : session.Consistent)
    (countable : session.calls.length < 2 ^ 64 - 1)
    (present : session.calls[other]? = some moving) :
    ({ session with pending := session.pending.insert (.number moving.id) other }.setPhase other
      .registered).Expectant := by
  intro ticket call found outstanding empty
  rcases found_setPhase found with ⟨rfl, before, foundThen, rfl⟩ | ⟨different, foundThen⟩
  · obtain rfl := Option.some.inj (present.symm.trans foundThen)
    exact AwaitedCalls.find?_insert_self session.pending _ _
  · have apart := consistent.id_ne countable foundThen present (Ne.symm different)
    exact (AwaitedCalls.find?_insert_of_ne apart session.pending other).trans
      (expectant ticket call foundThen outstanding empty)

/-- A call that is over withdraws, and whoever else is under way stays expected. -/
theorem Expectant.withdraw (expectant : session.Expectant) (consistent : session.Consistent)
    (countable : session.calls.length < 2 ^ 64 - 1)
    (present : session.calls[other]? = some moving) (failure : Failure) :
    (session.withdraw other moving failure).Expectant := by
  intro ticket call found outstanding empty
  rcases found_setPhase found with ⟨rfl, before, foundThen, rfl⟩ | ⟨different, foundThen⟩
  · cases outstanding
  · have apart := consistent.id_ne countable foundThen present (Ne.symm different)
    exact (AwaitedCalls.find?_erase_of_ne apart session.pending).trans
      (expectant ticket call foundThen outstanding empty)

/-- A response reaches whom it is meant for, and whoever else is under way stays
expected. -/
theorem Expectant.handOver (expectant : session.Expectant) (consistent : session.Consistent)
    (countable : session.calls.length < 2 ^ 64 - 1) (response : Response) :
    (session.handOver response).Expectant := by
  rcases consistent.handOver_cases response with
    ⟨_, same⟩ | ⟨_, _, same⟩ | ⟨other, moving, present, _, _, same⟩
  · rwa [same]
  · rw [same]
    exact expectant
  · rw [same]
    intro ticket call found outstanding empty
    rcases found_deliver found with ⟨rfl, before, _, rfl⟩ | ⟨different, foundThen⟩
    · cases empty
    · have apart := consistent.id_ne countable foundThen present (Ne.symm different)
      exact (AwaitedCalls.find?_erase_of_ne apart session.pending).trans
        (expectant ticket call foundThen outstanding empty)

/-- When the calls are given up, whoever is under way has been told. -/
theorem Expectant.abandonCalls (expectant : session.Expectant) (consistent : session.Consistent) :
    session.abandonCalls.Expectant := by
  intro ticket call found outstanding empty
  rcases found_abandonCalls found with ⟨_, before, _, rfl⟩ | ⟨idle, present⟩
  · cases empty
  · have expected := expectant ticket call present outstanding empty
    exact absurd ((consistent.expected_iff present).mp expected) idle

/-- Every effect keeps whoever is under way expected. -/
theorem Expectant.effect (expectant : session.Expectant) (consistent : session.Consistent)
    (countable : session.calls.length < 2 ^ 64 - 1) (effect : session.Effect event next) :
    next.Expectant := by
  cases effect with
  | begin =>
    intro ticket call found outstanding empty
    rcases found_begin found with present | ⟨_, rfl⟩
    · exact expectant ticket call present outstanding empty
    · cases outstanding
  | refuse found phase => exact expectant.setPhase found (by simp [CallPhase.isOutstanding])
  | register found phase => exact expectant.register consistent countable found
  | @send surroundings ticket call found phase =>
    have waits :
        (session.setPhase ticket (.waiting (call.deadlineFrom surroundings.time))).Expectant :=
      expectant.setPhase found (by simp [phase, CallPhase.isOutstanding])
    exact waits
  | failToSend found phase =>
    exact expectant.setPhase found (by simp [phase, CallPhase.isOutstanding])
  | withdraw found phase => exact expectant.withdraw consistent countable found _
  | take found phase => exact expectant.setPhase found (by simp [CallPhase.isOutstanding])
  | expire found phase =>
    exact expectant.setPhase found (by simp [phase, CallPhase.isOutstanding])
  | handOver => exact expectant.handOver consistent countable _
  | detach => exact expectant
  | abandon => exact expectant.abandonCalls consistent
  | aside _ leaves =>
    intro ticket call found outstanding empty
    rw [leaves.pending]
    exact expectant ticket call (leaves.calls ▸ found) outstanding empty

/-- As long as identifiers have not run out, whoever is under way is expected. -/
theorem expectant_of_steps (run : Steps (.start handlers) events session)
    (countable : session.calls.length < 2 ^ 64 - 1) : session.Expectant := by
  induction run with
  | refl =>
    intro ticket call found
    simp [start] at found
  | step prior transition ih =>
    have effect := Effect.of_after? transition
    have before := Nat.lt_of_le_of_lt effect.length_le countable
    exact (ih before).effect (.of_start prior) before effect

/-! ## Calls that have written their requests -/

/-- Whether a call has waited too long. -/
def TimedOut (events : List SessionEvent) (ticket : Nat) : Prop :=
  ∃ surroundings, SessionEvent.proceed .expire surroundings ticket ∈ events

/-- What is known about the request of a call, and about how the call came back. -/
structure Tracked (events : List SessionEvent) (session : Session) (ticket : Nat) (call : Call) :
    Prop where
  /-- A call that is not yet to wait has not written its request. -/
  unwritten : call.phase.mayBeWritten = false → call.request ∉ session.sent
  /-- A call that has waited too long has timed out. -/
  expired : call.phase = .expired → TimedOut events ticket
  /-- A call that has written its request comes back with what it was handed, or
  because it has timed out. -/
  returned : ∀ outcome, call.phase = .finished outcome → call.request ∈ session.sent →
    TimedOut events ticket ∨ call.inbox = some outcome

/-- Whoever has timed out has done so for good. -/
theorem TimedOut.append (timedOut : TimedOut events ticket) (more : List SessionEvent) :
    TimedOut (events ++ more) ticket := by
  obtain ⟨surroundings, member⟩ := timedOut
  exact ⟨surroundings, List.mem_append_left more member⟩

/-- The request of a call is written by the call itself, which then waits. -/
theorem Effect.written (effect : session.Effect event next) (consistent : session.Consistent)
    (countable : session.calls.length < 2 ^ 64 - 1) (present : session.calls[ticket]? = some call)
    (written : call.request ∈ next.sent) :
    call.request ∈ session.sent ∨
      ∃ deadline, next.calls[ticket]? = some { call with phase := .waiting deadline } := by
  rcases effect.sent_cases with same | ⟨other, author, deadline, found, _, sent, moved⟩ |
    ⟨_, more, sent, apart⟩
  · exact .inl (same ▸ written)
  · rw [sent] at written
    refine (List.mem_append.mp written).imp_right fun last => ⟨deadline, ?_⟩
    have same : call.id = author.id :=
      RequestId.number.inj
        (congrArg Request.id (Message.request.inj (List.mem_singleton.mp last)))
    obtain rfl := consistent.ticket_eq countable present found same
    simp [moved, Session.setPhase, present]
  · rw [sent] at written
    exact .inl ((List.mem_append.mp written).resolve_right (apart _))

/-- A call that may have written its request goes on as one. -/
theorem Move.mayBeWritten (move : Move session ticket call event later)
    (written : call.phase.mayBeWritten = true) : later.phase.mayBeWritten = true := by
  cases move with
  | stay | answer | abandon => exact written
  | refuse | send | withdraw | take | expire => rfl
  | register phase | failToSend phase =>
    rw [phase] at written
    cases written

/-- A call that moves is tracked. -/
theorem Tracked.step (tracked : Tracked events session ticket call)
    (consistent : session.Consistent) (countable : session.calls.length < 2 ^ 64 - 1)
    (effect : session.Effect event next) (present : session.calls[ticket]? = some call)
    (found : next.calls[ticket]? = some later) (move : Move session ticket call event later) :
    Tracked (events ++ [event]) next ticket later := by
  have request : later.request = call.request := by
    rw [move.identity]
    rfl
  -- Unless the call has just begun to wait, its request was there before.
  have earlier (written : later.request ∈ next.sent) :
      call.request ∈ session.sent ∨ ∃ deadline, later.phase = .waiting deadline := by
    rw [request] at written
    refine (effect.written consistent countable present written).imp_right ?_
    rintro ⟨deadline, waits⟩
    obtain rfl := Option.some.inj (found.symm.trans waits)
    exact ⟨deadline, rfl⟩
  refine ⟨fun idle written => ?_, fun phase => ?_, fun outcome isOver written => ?_⟩
  · rcases earlier written with before | ⟨deadline, waits⟩
    · have started : call.phase.mayBeWritten = true := by
        by_contra unwritten
        exact tracked.unwritten (by simpa using unwritten) before
      rw [move.mayBeWritten started] at idle
      cases idle
    · rw [waits] at idle
      cases idle
  · cases move with
    | stay | answer | abandon => exact (tracked.expired phase).append _
    | expire => exact ⟨_, List.mem_append_right events (List.mem_singleton.mpr rfl)⟩
    | _ => cases phase
  · have before : call.request ∈ session.sent := by
      refine (earlier written).resolve_right ?_
      rintro ⟨deadline, waits⟩
      rw [waits] at isOver
      cases isOver
    cases move with
    | stay => exact (tracked.returned outcome isOver before).imp_left fun late => late.append _
    | refuse phase => exact absurd before (tracked.unwritten (by rw [phase]; rfl))
    | withdraw phase =>
      rcases phase with phase | ⟨phase, _⟩
      · exact absurd before (tracked.unwritten (by rw [phase]; rfl))
      · exact .inl ((tracked.expired phase).append _)
    | take _ inbox =>
      cases isOver
      exact .inr inbox
    | answer _ expected | abandon expected =>
      exact absurd isOver (consistent.not_finished present expected outcome)
    | register | send | failToSend | expire => cases isOver

/-- As long as identifiers have not run out, every call is tracked. -/
theorem Steps.tracked (run : Steps (.start handlers) events session)
    (countable : session.calls.length < 2 ^ 64 - 1)
    (found : session.calls[ticket]? = some call) : Tracked events session ticket call := by
  induction run generalizing call with
  | refl => simp [start] at found
  | @step events current next event prior transition ih =>
    have effect := Effect.of_after? transition
    have before := Nat.lt_of_le_of_lt effect.length_le countable
    have consistent := Consistent.of_start prior
    rcases effect.origin consistent found with ⟨earlier, present, move⟩ | ⟨isLast, phase, _⟩
    · exact (ih before present).step consistent before effect present found move
    · refine ⟨fun _ written => ?_, by simp [phase], by simp [phase]⟩
      -- The author of its request would be an earlier call with its identifier.
      have authored : current.HasAuthor current.calls.length
          (.make call.id call.method call.params) := by
        rcases effect.request_origin written with already | ⟨other, author, known, _, same⟩
        · exact hasAuthor_of_start prior already
        · exact ⟨other, author, (List.getElem?_eq_some_iff.mp known).1, known, same⟩
      obtain ⟨other, author, bound, known, same⟩ := authored.step effect consistent
      have sameId : author.id = call.id :=
        RequestId.number.inj (congrArg Request.id (Message.request.inj same))
      have repeated := (Consistent.of_start (prior.step transition)).ticket_eq countable known found
        sameId
      omega

/-! ## What is owed to a call -/

/-- A call that was answered has been handed what the response said. -/
theorem AnsweredBy.inbox {number : UInt64} {before : List SessionEvent} {response : Response}
    (answered : AnsweredBy first events ticket number before response)
    (consistent : first.Consistent) (run : Steps first events session)
    (found : session.calls[ticket]? = some call) : call.inbox = some response.outcome := by
  obtain ⟨time, behind, middle, rfl, front, expected, meant⟩ := answered
  obtain ⟨reached, frontToo, back⟩ := Steps.append_iff.mp run
  obtain rfl := frontToo.deterministic front
  obtain ⟨next, happens, onward⟩ := Steps.cons_iff.mp back
  cases happens
  have before := consistent.of_steps front
  obtain ⟨called, _, handed⟩ := before.handOver_expected expected meant
  obtain ⟨later, foundToo, inbox⟩ := onward.inbox_persists (before.handOver response) handed rfl
  obtain rfl := Option.some.inj (found.symm.trans foundToo)
  exact inbox

/-- What a call is owed at the end of its session: what the response said that answered
it, or else the word that the session is closed. -/
structure Owed (first : Session) (events : List SessionEvent) (ticket : Nat) (number : UInt64)
    (outcome : Except Failure Json) : Prop where
  answered : ∀ before response, AnsweredBy first events ticket number before response →
    outcome = response.outcome
  unanswered : (∀ before response, ¬ AnsweredBy first events ticket number before response) →
    outcome = .error .sessionClosed

/-- What a call has been handed is what it is owed. -/
theorem owed_of_inbox {outcome : Except Failure Json} (run : Steps (.start handlers) events session)
    (found : session.calls[ticket]? = some call) (inbox : call.inbox = some outcome) :
    Owed (.start handlers) events ticket call.id outcome where
  answered before response answered :=
    Option.some.inj (inbox.symm.trans (answered.inbox (.start handlers) run found))
  unanswered none := by
    rcases (run.explained found).handed outcome inbox with closed | ⟨before, response, answered, _⟩
    · exact closed
    · exact absurd answered (none before response)

/-- Whether a call comes back with an outcome: it has, or it will with its next step. -/
def Returns (session : Session) (ticket : Nat) (outcome : Except Failure Json) : Prop :=
  session.outcome? ticket = some outcome ∨
    ∀ surroundings, ∃ next, session.stepCall surroundings ticket = some next ∧
      next.outcome? ticket = some outcome

/-- In a closed session, a call that has written its request and has not waited too
long comes back with what it is owed. -/
theorem returns_owed (run : Steps (.start handlers) events session)
    (closed : session.closed = true) (countable : session.calls.length < 2 ^ 64 - 1)
    (found : session.calls[ticket]? = some call) (written : call.request ∈ session.sent)
    (patient : ¬ TimedOut events ticket) :
    ∃ outcome, Owed (.start handlers) events ticket call.id outcome ∧
      session.Returns ticket outcome := by
  have tracked := run.tracked countable found
  cases phase : call.phase with
  | allocated | registered | unsent failure =>
    exact absurd written (tracked.unwritten (by rw [phase]; rfl))
  | expired => exact absurd (tracked.expired phase) patient
  | finished outcome =>
    have inbox := (tracked.returned outcome phase written).resolve_left patient
    refine ⟨outcome, owed_of_inbox run found inbox, .inl ?_⟩
    simp [outcome?, found, phase, CallPhase.outcome?]
  | waiting deadline =>
    cases inbox : call.inbox with
    | none =>
      have expected := expectant_of_steps run countable ticket call found (by rw [phase]; rfl) inbox
      have none := (Consistent.of_start run).sealed closed
      have member := AwaitedCalls.mem_of_find? expected
      rw [none] at member
      cases member
    | some outcome =>
      refine ⟨outcome, owed_of_inbox run found inbox, .inr fun surroundings =>
        ⟨session.setPhase ticket (.finished outcome), ?_, ?_⟩⟩
      · simp only [stepCall, found, phase, await, inbox]
      · simp [outcome?, setPhase, found, CallPhase.outcome?]

/-! ## The end of a connection -/

/-- What is known about a connection: how what was dispatched relates to the bytes that
came in, and how calls come back when it is over. -/
structure Reception (first : Session) (inflow : Bytes) (events : List SessionEvent)
    (session : Session) : Prop where
  /-- What was dispatched are the first messages of the stream, in their order. -/
  inOrder : InOrder inflow events session
  /-- When the reader has stopped, they are all the messages before the first point
  where there is no frame, unless the handler of the last one has broken down. -/
  complete : session.intake = .stopped →
    Decided inflow events session ∨ ∃ notice, BrokenBy first events notice
  /-- A reader that has stopped leaves the session closed. -/
  closed : session.intake = .stopped → session.closed = true
  /-- If the stream has ended or holds something else than a frame, the reader stops, unless
  the handler of a notification that comes before is never done. -/
  stops : session.inboundEnded = true ∨ Frame.Halts inflow →
    ∃ more last, Turns session more last ∧
      (last.intake = .stopped ∨
        last.intake = .heldUp ∧ ∃ notice, HeldUpBy first (events ++ more) notice)
  /-- In a closed session, every call that has written its request and has not waited too
  long comes back with what it is owed. -/
  settled : session.closed = true → session.calls.length < 2 ^ 64 - 1 →
    ∀ (ticket : Nat) (call : Call), session.calls[ticket]? = some call →
      call.request ∈ session.sent → ¬ TimedOut events ticket →
      ∃ outcome, Owed first events ticket call.id outcome ∧ session.Returns ticket outcome

/-- Whatever comes in, however it is cut into pieces and wherever it ends: what is
dispatched are the messages of the stream in order, up to the first point where there
is no frame; the reader stops there, unless a handler keeps it from that, and once it has
stopped, the session is closed and every call comes back with what it is owed. -/
theorem reception_is_exact {inflow : Bytes}
    (connection : Connection (.start handlers) inflow events session) :
    Reception (.start handlers) inflow events session where
  inOrder more none := by
    cases connection.progress with
    | busy _ undecided | breaking _ undecided | heldUp _ undecided =>
      rw [undecided.messages more none]
      exact List.prefix_append _ _
    | failing _ decided | halted _ _ decided => exact (decided more none) ▸ List.prefix_rfl
    | broke _ _ inOrder => exact inOrder more none
  complete stopped := by
    cases connection.progress with
    | halted _ _ decided => exact .inl decided
    | broke _ _ _ broken => exact .inr ⟨_, broken⟩
    | busy phase | breaking phase | heldUp phase | failing phase =>
      rw [stopped] at phase
      cases phase
  closed stopped := by
    cases connection.progress with
    | halted _ closed | broke _ closed => exact closed
    | busy phase | breaking phase | heldUp phase | failing phase =>
      rw [stopped] at phase
      cases phase
  stops ends := by
    obtain ⟨more, last, turns, final⟩ := connection.stops ends
    exact ⟨more, last, turns, (connection.turns turns).progress.of_isFinal final⟩
  settled closed countable ticket call found written patient :=
    returns_owed connection.steps closed countable found written patient

/-- Two calls write their requests. -/
def twoRequests : List SessionEvent :=
  let quiet : Surroundings := ⟨0, none⟩
  [.begin "first" none none, .begin "second" none none, .proceed .advance quiet 0,
    .proceed .advance quiet 1, .proceed .advance quiet 0, .proceed .advance quiet 1]

/-- Both take what they have been handed. -/
def twoTakes : List SessionEvent := [.proceed .take ⟨3, none⟩ 0, .proceed .take ⟨3, none⟩ 1]

/-- The payload of a response to a call that brings `true`. -/
def replyPayload (number : String) : Bytes :=
  Bytes.ofText ("\x7b\"id\":" ++ number ++ ",\"jsonrpc\":\"2.0\",\"result\":true\x7d")

/-- The response to the first of two calls, a frame without a message, a blank line in
place of a header, and the response to the second call. -/
def raggedStream : Bytes :=
  Frame.encode (replyPayload "1") ++ (Frame.encode [0xFF] ++
    ([] ++ 0x0A :: Frame.encode (replyPayload "2")))

/-- Of two calls, the one that was answered before the blank line keeps its result, and
the other one learns that the session is closed. -/
theorem reception_of_raggedStream :
    ∃ events session, Connection (.start []) raggedStream events session ∧
      Reception (.start []) raggedStream events session ∧ session.intake = .stopped ∧
      dispatched events = [.response (.ok (.number 1) (.bool true))] ∧
      session.outcome? 0 = some (.ok (.bool true)) ∧
      session.outcome? 1 = some (.error .sessionClosed) := by
  have header : Frame.next ([] ++ 0x0A :: Frame.encode (replyPayload "2")) =
      .delivered (.failure .missingLength) (Frame.encode (replyPayload "2")) :=
    Frame.header_of_blank (by decide) (by decide) rfl _
  obtain ⟨asked, ran⟩ : ∃ asked, (start []).run? twoRequests = some asked := ⟨_, rfl⟩
  have asking := Connection.start.own_run (by decide) ran
  cases ran
  have fed := asking.receive raggedStream rfl
  have answered := fed.read 1 (.message rfl (.inl (Frame.next_encode (by decide) _)) rfl)
  have skipped := answered.read 1 (.junk rfl (.inl (Frame.next_encode (by decide) _)) rfl)
  have halted := skipped.read 2 (.halt rfl (.inl header) rfl)
  have stopped := halted.read 2 (.stop (.inl rfl))
  have takes : ∀ event ∈ twoTakes, event.isOwn = true := by decide
  have taken := stopped.own_run takes rfl
  exact ⟨_, _, taken, reception_is_exact taken, rfl, rfl, rfl, rfl⟩

/-- One call writes its request. -/
def oneRequest : List SessionEvent :=
  let quiet : Surroundings := ⟨0, none⟩
  [.begin "first" none none, .proceed .advance quiet 0, .proceed .advance quiet 0]

/-- The payload of a notification whose handler breaks down. -/
def crashPayload : Bytes := Bytes.ofText "\x7b\"jsonrpc\":\"2.0\",\"method\":\"crash\"\x7d"

/-- A stream of two frames, of which only the first is dispatched: it is a notification
whose handler breaks down, and the call that the second one answers learns that the
session is closed. -/
theorem breakdown_cuts_off :
    ∃ handlers inflow events session,
      Connection (.start handlers) inflow events session ∧ session.inboundEnded = true ∧
      session.intake = .stopped ∧
      Frame.messages inflow = [.notification (.make "crash" none),
        .response (.ok (.number 1) (.bool true))] ∧
      dispatched events = [.notification (.make "crash" none)] ∧
      session.outcome? 0 = some (.error .sessionClosed) := by
  have held : Frame.messages
      (Frame.encode crashPayload ++ (Frame.encode (replyPayload "1") ++ [])) =
        [.notification (.make "crash" none), .response (.ok (.number 1) (.bool true))] := by
    rw [Frame.messages_encode (by decide), Frame.messages_encode (by decide), Frame.messages_nil]
    rfl
  obtain ⟨asked, ran⟩ : ∃ asked,
      (start [("crash", .immediate .breakdown .responder)]).run? oneRequest = some asked := ⟨_, rfl⟩
  have asking := Connection.start.own_run (by decide) ran
  cases ran
  have fed := asking.receive
    (Frame.encode crashPayload ++ (Frame.encode (replyPayload "1") ++ [])) rfl
  have ended := fed.endInbound
  have crashed := ended.read 1 (.message rfl (.inl (Frame.next_encode (by decide) _)) rfl)
  have stopped := crashed.read 1 (.stop (.inr rfl))
  have takes : ∀ event ∈ [SessionEvent.proceed .take ⟨2, none⟩ 0], event.isOwn = true := by decide
  have taken := stopped.own_run takes rfl
  exact ⟨_, _, _, _, taken, rfl, rfl, held, rfl, rfl⟩

end Session

end FoldAtlas
