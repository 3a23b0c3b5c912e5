import FoldAtlas.Proofs.Session.Execution

/-!
# Effects of events

What one event can do to the calls of a session. `Session.Effect` has one
constructor for each thing that can happen to a call, with the conditions under
which it happens, and one for every event that leaves all calls alone. What is
proved of every effect holds of every event (`Effect.of_after?`).
-/

namespace FoldAtlas

/-- What a write runs into, if anything. -/
def Outlet.hindrance? : Outlet → Option StreamFault → Option Failure
  | .detached, _ => some .sessionClosed
  | .attached, fault => fault.map .stream

/-- A write runs into the end of the session or into trouble with the stream. -/
theorem Outlet.cause_of_hindrance? {outlet : Outlet} {fault : Option StreamFault}
    {failure : Failure} (hindered : outlet.hindrance? fault = some failure) :
    failure = .sessionClosed ∨ ∃ trouble, failure = .stream trouble := by
  cases outlet <;> cases fault <;> simp only [hindrance?, Option.map, reduceCtorEq,
    Option.some.injEq] at hindered <;> simp [← hindered]

/-- Whether an event is about something else than calls. -/
def SessionEvent.isAside : SessionEvent → Bool
  | .dispatch _ (.request _) | .dispatch _ (.notification _) | .answer _ _ | .notify _ _ _
  | .install _ _ | .stream _ _ _ => true
  | .begin _ _ _ | .proceed _ _ _ | .dispatch _ (.response _) | .detach | .abandon => false

namespace Session

variable {session next : Session} {ticket other : Nat} {call : Call}

/-! ## Looking calls up -/

/-- A call whose phase was set, or another one. -/
theorem found_setPhase {phase : CallPhase}
    (found : (session.setPhase ticket phase).calls[other]? = some call) :
    (other = ticket ∧ ∃ before, session.calls[ticket]? = some before ∧
      call = { before with phase }) ∨
    (other ≠ ticket ∧ session.calls[other]? = some call) := by
  rw [setPhase, List.getElem?_modify] at found
  by_cases same : ticket = other
  · subst same
    obtain ⟨before, present, rfl⟩ := Option.map_eq_some_iff.mp found
    exact .inl ⟨rfl, before, present, by simp⟩
  · exact .inr ⟨Ne.symm same, by simpa [same] using found⟩

/-- A call to which an outcome was handed over, or another one. -/
theorem found_deliver {outcome : Except Failure Json}
    (found : (session.deliver ticket outcome).calls[other]? = some call) :
    (other = ticket ∧ ∃ before, session.calls[ticket]? = some before ∧
      call = { before with inbox := some outcome }) ∨
    (other ≠ ticket ∧ session.calls[other]? = some call) := by
  rw [deliver, List.getElem?_modify] at found
  by_cases same : ticket = other
  · subst same
    obtain ⟨before, present, rfl⟩ := Option.map_eq_some_iff.mp found
    exact .inl ⟨rfl, before, present, by simp⟩
  · exact .inr ⟨Ne.symm same, by simpa [same] using found⟩

/-- The call that has just begun, or an earlier one. -/
theorem found_begin {method : String} {params : Option Json} {limit : Option Duration}
    (found : (session.begin method params limit).1.calls[other]? = some call) :
    session.calls[other]? = some call ∨
      (other = session.calls.length ∧
        call = ⟨session.nextId, method, params, limit, .allocated, none⟩) := by
  rcases Nat.lt_trichotomy other session.calls.length with before | rfl | behind
  · rw [begin, List.getElem?_append_left before] at found
    exact .inl found
  · simp only [begin, List.getElem?_concat_length, Option.some.injEq] at found
    exact .inr ⟨rfl, found.symm⟩
  · have beyond : (session.begin method params limit).1.calls.length ≤ other := by
      simp only [begin, List.length_append, List.length_singleton]
      omega
    rw [List.getElem?_eq_none beyond] at found
    cases found

/-- A call that has been told that the session is over. -/
def abandoned (call : Call) : Call := { call with inbox := some (.error .sessionClosed) }

/-- What is found when every call of a list is told that the session is over. -/
private theorem getElem?_foldl_deliver (tickets : List Nat) (session : Session) :
    (tickets.foldl (fun session ticket => session.deliver ticket (.error .sessionClosed))
      session).calls[other]? =
    if other ∈ tickets then session.calls[other]?.map abandoned else session.calls[other]? := by
  induction tickets generalizing session with
  | nil => simp
  | cons ticket rest ih =>
    rw [List.foldl_cons, ih, deliver, List.getElem?_modify]
    by_cases same : ticket = other
    · subst same
      by_cases again : ticket ∈ rest <;> cases session.calls[ticket]? <;>
        simp [again, abandoned]
    · have different : other ≠ ticket := Ne.symm same
      simp [same, different]

/-- Telling calls that the session is over changes nothing but calls. -/
private theorem foldl_deliver_eq (tickets : List Nat) (session : Session) :
    ∃ calls, calls.length = session.calls.length ∧
      tickets.foldl (fun session ticket => session.deliver ticket (.error .sessionClosed))
        session = { session with calls } := by
  induction tickets generalizing session with
  | nil => exact ⟨session.calls, rfl, rfl⟩
  | cons ticket rest ih =>
    obtain ⟨calls, sameLength, same⟩ := ih (session.deliver ticket (.error .sessionClosed))
    refine ⟨calls, ?_, same⟩
    simpa [deliver] using sameLength

/-- A session that gives up its calls is closed, expects nothing, and is
otherwise the same but for its calls. -/
theorem abandonCalls_eq (session : Session) :
    ∃ calls, calls.length = session.calls.length ∧
      session.abandonCalls = { session with calls, closed := true, pending := .empty } :=
  foldl_deliver_eq session.pending.tickets { session with closed := true, pending := .empty }

/-- The calls of a session that gives them up. -/
theorem getElem?_abandonCalls (session : Session) (other : Nat) :
    session.abandonCalls.calls[other]? =
      if other ∈ session.pending.tickets then session.calls[other]?.map abandoned
      else session.calls[other]? :=
  getElem?_foldl_deliver session.pending.tickets _

/-- A call of a session that has given up its calls: it was waiting and has been
told, or it was not. -/
theorem found_abandonCalls (found : session.abandonCalls.calls[other]? = some call) :
    (other ∈ session.pending.tickets ∧ ∃ before, session.calls[other]? = some before ∧
      call = abandoned before) ∨
    (other ∉ session.pending.tickets ∧ session.calls[other]? = some call) := by
  rw [getElem?_abandonCalls] at found
  by_cases waits : other ∈ session.pending.tickets
  · rw [if_pos waits, Option.map_eq_some_iff] at found
    obtain ⟨before, present, rfl⟩ := found
    exact .inl ⟨waits, before, present, rfl⟩
  · exact .inr ⟨waits, by simpa [waits] using found⟩

/-! ## Acting upon messages -/

/-- Handing a response over changes nothing but calls and what is known about them. -/
theorem handOver_eq (session : Session) (response : Response) :
    ∃ calls pending strays, calls.length = session.calls.length ∧
      session.handOver response = { session with calls, pending, strays } := by
  simp only [handOver]
  split
  · exact ⟨_, _, _, rfl, rfl⟩
  · split
    · exact ⟨_, _, _, rfl, rfl⟩
    · exact ⟨_, _, _, List.length_modify _ _ _, rfl⟩

/-- Giving a notification to its handler changes nothing but how far the reader is and
which handlers were used. -/
theorem hear_eq (session : Session) (time : Nat) (notice : Notification) :
    ∃ invocations intake,
      session.hear time notice = { session with invocations, intake } := by
  simp only [hear]
  split <;> exact ⟨_, _, rfl⟩

/-! ## Writing -/

/-- Writing fails with what hinders it, and succeeds if nothing does. -/
theorem write_cases (session : Session) (fault : Option StreamFault) (message : Message) :
    (session.outlet.hindrance? fault = none ∧
      session.write fault message = .ok { session with sent := session.sent ++ [message] }) ∨
    ∃ failure, session.outlet.hindrance? fault = some failure ∧
      session.write fault message = .error failure := by
  cases attached : session.outlet <;> cases fault <;> simp [write, Outlet.hindrance?, attached]

/-- A session that has written a message is otherwise the same. -/
theorem eq_of_write {fault : Option StreamFault} {message : Message}
    (written : session.write fault message = .ok next) :
    next = { session with sent := session.sent ++ [message] } := by
  rcases session.write_cases fault message with ⟨_, wrote⟩ | ⟨failure, _, failed⟩
  · exact (Except.ok.inj (wrote.symm.trans written)).symm
  · rw [failed] at written
    cases written

/-! ## Answers -/

/-- A session in which an answer has gone on. -/
def advanced (session : Session) (index : Nat) (phase : AnswerPhase)
    (noted : List Invocation) (written : List Message) : Session :=
  { session with
    answers := session.answers.modify index fun answer => { answer with phase }
    invocations := session.invocations ++ noted
    sent := session.sent ++ written }

/-- What an answer does when it goes on: its next phase, the use of a handler that is noted, and
what is written. -/
inductive AnswerTurn (session : Session) (surroundings : Surroundings) (answer : Answer) :
    AnswerPhase → List Invocation → List Message → Prop where
  /-- Nobody handles the method. -/
  | refuse (begun : answer.phase = .begun none) :
      AnswerTurn session surroundings answer
        (.replying (.failed answer.id (.unhandledMethod answer.method))) [] []
  /-- The handler is used. -/
  | use {handler : Handler} (begun : answer.phase = .begun (some handler)) :
      AnswerTurn session surroundings answer
        (answer.usePhase (handler.course (session.occasion surroundings.time answer.params)))
        [handler.invocation answer.method answer.params] []
  /-- The handler is done. -/
  | learn {deadline : Nat} {outcome : HandlerOutcome}
      (busy : answer.phase = .busy deadline outcome) (due : deadline ≤ surroundings.time) :
      AnswerTurn session surroundings answer (answer.replyPhase outcome) [] []
  /-- The response is written. -/
  | respond {response : Response} (replying : answer.phase = .replying response)
      (unhindered : session.outlet.hindrance? surroundings.fault = none) :
      AnswerTurn session surroundings answer .finished [] [.response response]
  /-- The response cannot be written. -/
  | lose {response : Response} {failure : Failure} (replying : answer.phase = .replying response)
      (hindered : session.outlet.hindrance? surroundings.fault = some failure) :
      AnswerTurn session surroundings answer .finished [] []

/-- An answer that only changes its phase. -/
theorem advanced_nil (session : Session) (index : Nat) (phase : AnswerPhase) :
    session.advanced index phase [] [] = session.setAnswer index phase := by
  simp [advanced, setAnswer]

/-- An answer that uses a handler. -/
theorem advanced_noted (session : Session) (index : Nat) (phase : AnswerPhase)
    (handler : Handler) (method : String) (params : Option Json) :
    session.advanced index phase [handler.invocation method params] [] =
      (session.note handler method params).setAnswer index phase := by
  simp [advanced, note, setAnswer]

/-- An answer that writes a message. -/
theorem advanced_written (session : Session) (index : Nat) (phase : AnswerPhase)
    (message : Message) :
    session.advanced index phase [] [message] =
      { session with sent := session.sent ++ [message] }.setAnswer index phase := by
  simp [advanced, setAnswer]

/-- An answer goes on in each of its ways. -/
theorem AnswerTurn.stepAnswer {surroundings : Surroundings} {index : Nat} {answer : Answer}
    {phase : AnswerPhase} {noted : List Invocation} {written : List Message}
    (turn : session.AnswerTurn surroundings answer phase noted written)
    (found : session.answers[index]? = some answer) :
    session.stepAnswer surroundings index = some (session.advanced index phase noted written) := by
  cases turn with
  | refuse begun => simp only [Session.stepAnswer, found, begun, advanced_nil]
  | use begun => simp only [Session.stepAnswer, found, begun, advanced_noted]
  | learn busy due => simp only [Session.stepAnswer, found, busy, due, ↓reduceIte, advanced_nil]
  | @respond response replying unhindered =>
    rcases session.write_cases surroundings.fault (.response response) with
      ⟨_, wrote⟩ | ⟨failure, hindered, _⟩
    · simp only [Session.stepAnswer, found, replying, wrote, advanced_written]
    · simp [unhindered] at hindered
  | @lose response failure replying hindered =>
    rcases session.write_cases surroundings.fault (.response response) with
      ⟨unhindered, _⟩ | ⟨_, _, failed⟩
    · simp [unhindered] at hindered
    · simp only [Session.stepAnswer, found, replying, failed, advanced_nil]

/-- An answer that goes on does so in one of its ways. -/
theorem exists_answerTurn {surroundings : Surroundings} {index : Nat}
    (moved : session.stepAnswer surroundings index = some next) :
    ∃ answer phase noted written, session.answers[index]? = some answer ∧
      session.AnswerTurn surroundings answer phase noted written ∧
      next = session.advanced index phase noted written := by
  simp only [stepAnswer] at moved
  split at moved
  · cases moved
  · next answer found =>
    refine ⟨answer, ?_⟩
    split at moved
    · next begun =>
      cases moved
      exact ⟨_, [], [], found, .refuse begun, (advanced_nil _ _ _).symm⟩
    · next handler begun =>
      cases moved
      exact ⟨_, _, _, found, .use begun, (advanced_noted _ _ _ _ _ _).symm⟩
    · next deadline outcome busy =>
      split at moved
      · next due =>
        cases moved
        exact ⟨_, [], [], found, .learn busy due, (advanced_nil _ _ _).symm⟩
      · cases moved
    · next response replying =>
      rcases session.write_cases surroundings.fault (.response response) with
        ⟨unhindered, wrote⟩ | ⟨failure, hindered, failed⟩
      · rw [wrote] at moved
        cases moved
        exact ⟨_, _, _, found, .respond replying unhindered, (advanced_written _ _ _ _).symm⟩
      · rw [failed] at moved
        cases moved
        exact ⟨_, [], [], found, .lose replying hindered, (advanced_nil _ _ _).symm⟩
    · cases moved
    · cases moved

/-- An answer goes on just in its ways. -/
theorem stepAnswer_eq_some_iff {surroundings : Surroundings} {index : Nat} :
    session.stepAnswer surroundings index = some next ↔
      ∃ answer phase noted written, session.answers[index]? = some answer ∧
        session.AnswerTurn surroundings answer phase noted written ∧
        next = session.advanced index phase noted written := by
  refine ⟨exists_answerTurn, ?_⟩
  rintro ⟨answer, phase, noted, written, found, turn, rfl⟩
  exact turn.stepAnswer found

/-- An answer writes nothing, or a response. -/
theorem AnswerTurn.written_cases {surroundings : Surroundings} {answer : Answer}
    {phase : AnswerPhase} {noted : List Invocation} {written : List Message}
    (turn : session.AnswerTurn surroundings answer phase noted written) :
    written = [] ∨ ∃ given, written = [.response given] := by
  cases turn with
  | respond => exact .inr ⟨_, rfl⟩
  | _ => exact .inl rfl

/-! ## Effects -/

/-- What leaves all calls alone: nothing about them changes, and no request is
written. -/
structure LeavesCalls (session next : Session) : Prop where
  nextId : next.nextId = session.nextId
  calls : next.calls = session.calls
  pending : next.pending = session.pending
  closed : next.closed = session.closed
  strays : next.strays = session.strays
  outlet : next.outlet = session.outlet
  sent : ∃ more, next.sent = session.sent ++ more ∧ ∀ request, Message.request request ∉ more

/-- What one event does to the calls of a session. -/
inductive Effect (session : Session) : SessionEvent → Session → Prop where
  | begin {method : String} {params : Option Json} {limit : Option Duration} :
      Effect session (.begin method params limit) (session.begin method params limit).1
  | refuse {surroundings : Surroundings} {ticket : Nat} {call : Call}
      (found : session.calls[ticket]? = some call) (phase : call.phase = .allocated)
      (closed : session.closed = true) :
      Effect session (.proceed .advance surroundings ticket)
        (session.setPhase ticket (.finished (.error .sessionClosed)))
  | register {surroundings : Surroundings} {ticket : Nat} {call : Call}
      (found : session.calls[ticket]? = some call) (phase : call.phase = .allocated)
      (isOpen : session.closed = false) :
      Effect session (.proceed .advance surroundings ticket)
        ({ session with
            pending := session.pending.insert (.number call.id) ticket }.setPhase ticket
          .registered)
  | send {surroundings : Surroundings} {ticket : Nat} {call : Call}
      (found : session.calls[ticket]? = some call) (phase : call.phase = .registered)
      (unhindered : session.outlet.hindrance? surroundings.fault = none) :
      Effect session (.proceed .advance surroundings ticket)
        ({ session with sent := session.sent ++ [call.request] }.setPhase ticket
          (.waiting (call.deadlineFrom surroundings.time)))
  | failToSend {surroundings : Surroundings} {ticket : Nat} {call : Call} {failure : Failure}
      (found : session.calls[ticket]? = some call) (phase : call.phase = .registered)
      (hindered : session.outlet.hindrance? surroundings.fault = some failure) :
      Effect session (.proceed .advance surroundings ticket)
        (session.setPhase ticket (.unsent failure))
  | withdraw {surroundings : Surroundings} {ticket : Nat} {call : Call} {failure : Failure}
      (found : session.calls[ticket]? = some call)
      (phase : call.phase = .unsent failure ∨
        call.phase = .expired ∧ failure = call.timeoutFailure) :
      Effect session (.proceed .advance surroundings ticket)
        (session.withdraw ticket call failure)
  | take {surroundings : Surroundings} {ticket : Nat} {call : Call} {deadline : Option Nat}
      {outcome : Except Failure Json}
      (found : session.calls[ticket]? = some call) (phase : call.phase = .waiting deadline)
      (inbox : call.inbox = some outcome) :
      Effect session (.proceed .take surroundings ticket)
        (session.setPhase ticket (.finished outcome))
  | expire {surroundings : Surroundings} {ticket : Nat} {call : Call} {deadline : Option Nat}
      (found : session.calls[ticket]? = some call) (phase : call.phase = .waiting deadline)
      (inbox : call.inbox = none) :
      Effect session (.proceed .expire surroundings ticket)
        (session.setPhase ticket .expired)
  | handOver {time : Nat} {response : Response} :
      Effect session (.dispatch time (.response response)) (session.handOver response)
  | detach : Effect session .detach session.detach
  | abandon : Effect session .abandon session.abandonCalls
  | aside {event : SessionEvent} {next : Session} (isAside : event.isAside = true)
      (leaves : session.LeavesCalls next) : Effect session event next

/-- A session leaves its own calls alone. -/
theorem LeavesCalls.refl (session : Session) : session.LeavesCalls session :=
  ⟨rfl, rfl, rfl, rfl, rfl, rfl, [], by simp, by simp⟩

/-- What a message that is not a request leaves alone when it is written. -/
theorem LeavesCalls.of_write {fault : Option StreamFault} {message : Message}
    (written : session.write fault message = .ok next)
    (apart : ∀ request, message ≠ .request request) : session.LeavesCalls next := by
  obtain rfl := eq_of_write written
  refine ⟨rfl, rfl, rfl, rfl, rfl, rfl, [message], rfl, fun request member => ?_⟩
  exact apart request (List.mem_singleton.mp member).symm

/-- The answer to a request of the other side leaves the calls alone. -/
theorem LeavesCalls.of_stepAnswer {surroundings : Surroundings} {index : Nat}
    (moved : session.stepAnswer surroundings index = some next) :
    session.LeavesCalls next := by
  obtain ⟨answer, phase, noted, written, _, turn, rfl⟩ := stepAnswer_eq_some_iff.mp moved
  refine ⟨rfl, rfl, rfl, rfl, rfl, rfl, written, rfl, fun request member => ?_⟩
  rcases turn.written_cases with rfl | ⟨given, rfl⟩ <;> simp at member

/-- A call that goes on does so by one of the listed effects. -/
theorem Effect.of_stepCall {surroundings : Surroundings} {ticket : Nat} {call : Call}
    (found : session.calls[ticket]? = some call)
    (moved : session.stepCall surroundings ticket = some next) :
    session.Effect (.proceed call.turn surroundings ticket) next := by
  simp only [stepCall, found] at moved
  split at moved
  · next phase =>
    obtain rfl := Option.some.inj moved
    simp only [Call.turn, phase]
    rw [Session.register]
    split
    · next closed => exact .refuse found phase closed
    · next isOpen => exact .register found phase (by simpa using isOpen)
  · next phase =>
    obtain rfl := Option.some.inj moved
    simp only [Call.turn, phase]
    rw [writeRequest]
    rcases session.write_cases surroundings.fault call.request with
      ⟨unhindered, wrote⟩ | ⟨failure, hindered, failed⟩
    · rw [wrote]
      exact .send found phase unhindered
    · rw [failed]
      exact .failToSend found phase hindered
  · next failure phase =>
    obtain rfl := Option.some.inj moved
    simp only [Call.turn, phase]
    exact .withdraw found (.inl phase)
  · next deadline phase =>
    rw [await] at moved
    split at moved
    · next outcome inbox =>
      obtain rfl := Option.some.inj moved
      simp only [Call.turn, phase, inbox]
      exact .take found phase inbox
    · next inbox =>
      split at moved
      · obtain rfl := Option.some.inj moved
        simp only [Call.turn, phase, inbox]
        exact .expire found phase inbox
      · cases moved
  · next phase =>
    obtain rfl := Option.some.inj moved
    simp only [Call.turn, phase]
    exact .withdraw found (.inr ⟨phase, rfl⟩)
  · cases moved

/-- What an event makes of a session is one of the listed effects. -/
theorem Effect.of_after? {event : SessionEvent} (happens : session.after? event = some next) :
    session.Effect event next := by
  cases event with
  | begin method params limit =>
    obtain rfl := Option.some.inj happens
    exact .begin
  | proceed turn surroundings ticket =>
    simp only [after?] at happens
    split at happens
    · next hasTurn =>
      obtain ⟨call, found, rfl⟩ := Option.map_eq_some_iff.mp hasTurn
      exact .of_stepCall found happens
    · cases happens
  | dispatch time message =>
    obtain rfl := Option.some.inj happens
    cases message with
    | response response => exact .handOver
    | request request =>
      exact .aside rfl ⟨rfl, rfl, rfl, rfl, rfl, rfl, [], by simp [actUpon], by simp⟩
    | notification notice =>
      obtain ⟨invocations, intake, heard⟩ := session.hear_eq time notice
      rw [actUpon, heard]
      exact .aside rfl ⟨rfl, rfl, rfl, rfl, rfl, rfl, [], by simp, by simp⟩
  | answer surroundings index => exact .aside rfl (.of_stepAnswer happens)
  | notify fault method params =>
    simp only [after?, Session.notify] at happens
    split at happens
    · next written =>
      obtain rfl := Option.some.inj happens
      exact .aside rfl (.of_write written (by simp))
    · obtain rfl := Option.some.inj happens
      exact .aside rfl (.refl session)
  | install method handler =>
    obtain rfl := Option.some.inj happens
    exact .aside rfl ⟨rfl, rfl, rfl, rfl, rfl, rfl, [], by simp [Session.install], by simp⟩
  | stream inbound ended intake =>
    obtain rfl := Option.some.inj happens
    exact .aside rfl ⟨rfl, rfl, rfl, rfl, rfl, rfl, [], by simp, by simp⟩
  | detach =>
    obtain rfl := Option.some.inj happens
    exact .detach
  | abandon =>
    obtain rfl := Option.some.inj happens
    exact .abandon

/-- An event adds to what was written nothing, the request of a call that goes on to
wait, or what is no request. -/
theorem Effect.sent_cases {event : SessionEvent} (effect : session.Effect event next) :
    next.sent = session.sent ∨
      (∃ ticket call deadline, session.calls[ticket]? = some call ∧ call.phase = .registered ∧
        next.sent = session.sent ++ [call.request] ∧
        next.calls = (session.setPhase ticket (.waiting deadline)).calls) ∨
      event.isAside = true ∧ ∃ more, next.sent = session.sent ++ more ∧
        ∀ request, Message.request request ∉ more := by
  cases effect with
  | send found phase => exact .inr (.inl ⟨_, _, _, found, phase, rfl, rfl⟩)
  | @handOver _ response =>
    obtain ⟨_, _, _, _, same⟩ := session.handOver_eq response
    exact .inl (by rw [same])
  | abandon =>
    obtain ⟨calls, _, abandoned⟩ := session.abandonCalls_eq
    exact .inl (by rw [abandoned])
  | aside isAside leaves => exact .inr (.inr ⟨isAside, leaves.sent⟩)
  | _ => exact .inl rfl

/-- Nothing that was written is taken back. -/
theorem Effect.sent_grows {event : SessionEvent} (effect : session.Effect event next) :
    ∃ more, next.sent = session.sent ++ more := by
  rcases effect.sent_cases with same | ⟨_, _, _, _, _, sent, _⟩ | ⟨_, more, sent, _⟩
  · exact ⟨[], by simp [same]⟩
  · exact ⟨_, sent⟩
  · exact ⟨more, sent⟩

/-- What nothing in the background changes. -/
theorem Effect.frame {event : SessionEvent} (effect : session.Effect event next)
    (background : event.isBackground = true) :
    next.outlet = session.outlet ∧ next.calls.length = session.calls.length ∧
      (next.closed = session.closed ∨ event = .abandon) := by
  cases effect with
  | @handOver _ response =>
    obtain ⟨calls, pending, strays, sameLength, same⟩ := session.handOver_eq response
    rw [same]
    exact ⟨rfl, sameLength, .inl rfl⟩
  | abandon =>
    obtain ⟨calls, sameLength, same⟩ := session.abandonCalls_eq
    rw [same]
    exact ⟨rfl, sameLength, .inr rfl⟩
  | aside _ leaves => exact ⟨leaves.outlet, by rw [leaves.calls], .inl leaves.closed⟩
  | _ => cases background

end Session

end FoldAtlas
