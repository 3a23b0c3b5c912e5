import FoldAtlas.Proofs.Envelope.Grammar
import FoldAtlas.Proofs.Session.Obligation

/-!
# Attending to requests

A request that the reader of a session comes upon is not lost: it begins one answer, and the
answer writes one response with the identifier of the request, unless the handler of the method
breaks down or is never done (`request_is_attended`). This holds for any handlers, whatever they
reply and however long they take, and whenever a method is given one, as long as the session can
write. A handler that is never done holds up no answer but its own.

A text is lost if the reader of it refuses it: for an identifier that is negative, or for
parameters that are nested too deeply (`requests_may_be_lost`).
-/

namespace FoldAtlas

namespace Session

variable {handlers : Handlers} {first session last : Session} {events more : List SessionEvent}
  {index : Nat} {answer : Answer} {assignment : Assignment}

/-- What is known of the requests that have come in and the responses to them. -/
structure Attended (first : Session) (events : List SessionEvent) (session : Session) : Prop where
  /-- Every request has one answer, which is as far as its assignment has got. -/
  guided : List.Forall₂ Assignment.Guides (assigned first events) session.answers
  /-- What was written is what the requests whose answers are settled are owed. -/
  written : (responses session.sent).Perm
    (List.zipWith Assignment.paid (assigned first events) session.answers).flatten
  /-- When all answers are settled, every request has got what it is owed, and only once. -/
  exact : session.AllSettled →
    (responses session.sent).Perm ((assigned first events).filterMap Assignment.reply?)
  /-- Every answer that is not settled goes on when its handler is done, and whichever does brings
  the end nearer. -/
  onward : ∀ (index : Nat) (answer : Answer), session.answers[index]? = some answer →
    answer.phase.isSettled = false → ∀ time, answer.phase.due ≤ time → ∃ next,
      session.after? (.answer ⟨time, none⟩ index) = some next ∧ next.ahead < session.ahead
  /-- From any time on, all answers can come to be settled, and every request then has got what it
  is owed. -/
  finishes : ∀ time, ∃ turns last, (∀ turn ∈ turns, time ≤ turn.1) ∧
    (turns.map Prod.fst).Pairwise (· ≤ ·) ∧ Steps session (answersAt turns) last ∧
      last.AllSettled ∧
      (responses last.sent).Perm
        ((assigned first (events ++ answersAt turns)).filterMap Assignment.reply?)

/-- What a session owes is known. -/
theorem attended_of_steps (run : Steps (.start handlers) events session)
    (lets : ∀ event ∈ events, event.letsRespond = true) :
    Attended (.start handlers) events session where
  guided := (tended_of_steps run lets).guided
  written := (tended_of_steps run lets).written
  exact := (tended_of_steps run lets).complete
  onward index answer found unsettled time due := by
    have late : answer.phase.due ≤ (Surroundings.mk time none).time := due
    exact onward_of_unsettled found unsettled late
  finishes time := by
    obtain ⟨turns, last, late, sorted, _, onward, settled⟩ :=
      (tended_of_steps run lets).finishes run time
    have letsAll : ∀ event ∈ events ++ answersAt turns, event.letsRespond = true := by
      rw [List.forall_mem_append]
      exact ⟨lets, letsRespond_answersAt turns⟩
    exact ⟨turns, last, late, sorted, onward, settled,
      (tended_of_steps (run.trans onward) letsAll).complete settled⟩

/-- What is known of a request that has begun the answer at an index. -/
structure Attends (first : Session) (events : List SessionEvent) (session : Session)
    (asked : Request) (handler : Option Handler) (index : Nat) : Prop where
  /-- Every request is attended to. -/
  attended : Attended first events session
  /-- This one is among them, with the handler that its method had, and so is its answer. -/
  place : ∃ used answer, (assigned first events)[index]? = some ⟨asked, handler, used⟩ ∧
    session.answers[index]? = some answer
  /-- When its answer is settled, the handler has been used, and what it is owed has been
  written. -/
  responded : ∀ used answer, (assigned first events)[index]? = some ⟨asked, handler, used⟩ →
    session.answers[index]? = some answer → answer.phase.isSettled = true →
      (handler.isSome → used.isSome) ∧
        ∀ response, Assignment.reply? ⟨asked, handler, used⟩ = some response →
          response ∈ responses session.sent

/-- An answer is settled only when its handler has been used. -/
theorem used_of_isSettled (guides : assignment.Guides answer)
    (settled : answer.phase.isSettled = true) (handled : assignment.handler.isSome) :
    assignment.used.isSome := by
  have permits := guides.permits
  obtain ⟨course, came⟩ : ∃ course, assignment.course? = some course := by
    cases current : answer.phase with
    | heldUp =>
      rw [current] at permits
      exact ⟨_, permits⟩
    | finished =>
      rw [current] at permits
      obtain ⟨outcome, comes⟩ := Option.isSome_iff_exists.mp (permits handled)
      obtain ⟨course, came, _⟩ := Option.bind_eq_some_iff.mp comes
      exact ⟨course, came⟩
    | begun | busy | replying =>
      rw [current] at settled
      cases settled
  obtain ⟨_, _, _, used, _⟩ := Assignment.course?_eq_some_iff.mp came
  exact Option.isSome_of_eq_some used

/-- A request that has come in is attended to. -/
theorem attends_of_steps {asked : Request} {handler : Option Handler} {used : Option Occasion}
    (run : Steps (.start handlers) events session)
    (lets : ∀ event ∈ events, event.letsRespond = true)
    (place : (assigned (.start handlers) events)[index]? = some ⟨asked, handler, used⟩) :
    Attends (.start handlers) events session asked handler index := by
  have tended := tended_of_steps run lets
  obtain ⟨answer, begun, _⟩ := exists_guided tended.guided place
  refine ⟨attended_of_steps run lets, ⟨used, answer, place, begun⟩,
    fun used answer here found settled => ?_⟩
  obtain ⟨assignment, same, guides⟩ := exists_guide tended.guided found
  obtain rfl := Option.some.inj (same.symm.trans here)
  refine ⟨used_of_isSettled guides settled, fun response owed => ?_⟩
  have paid : (List.zipWith Assignment.paid (assigned (.start handlers) events)
      session.answers)[index]? = some [response] := by
    simp [List.getElem?_zipWith, here, found, Assignment.paid, settled, owed]
  rw [tended.written.mem_iff, List.mem_flatten]
  exact ⟨[response], List.mem_of_getElem? paid, List.mem_singleton.mpr rfl⟩

/-- A request that the reader comes upon is not lost, whatever its parameters are, as long as
the session can write. It begins one answer, and the answer writes one response that has the
identifier of the request: what the handler of the method replies when it is used, or that there
is none. Only a handler that breaks down or is never done keeps it from that. -/
theorem request_is_attended {payload rest : Bytes} {value : Json} {asked : Request}
    (run : Steps (.start handlers) events session)
    (lets : ∀ event ∈ events, event.letsRespond = true) (reading : session.intake = .reading)
    (arrives : Frame.Arrives session.inbound session.inboundEnded (.frame payload) rest)
    (spelled : Json.read payload = .ok value) (asks : value.Asks asked)
    (surroundings : Surroundings) :
    let handler := session.handlers.find? asked.method
    let taken : List SessionEvent := [.stream rest session.inboundEnded session.intake,
      .dispatch surroundings.time (.request asked)]
    Message.ofPayload payload = .ok (.request asked) ∧
    (∀ used response, Assignment.reply? ⟨asked, handler, used⟩ = some response →
      response.id = some asked.id) ∧
    (∀ used, Assignment.reply? ⟨asked, handler, used⟩ = none ↔
      ∃ given, handler = some given ∧ ∀ occasion, used = some occasion →
        (given.course occasion).outcome? = none ∨
          (given.course occasion).outcome? = some .breakdown) ∧
    ∃ next, session.stepIntake surroundings = some next ∧
      Turn session surroundings.time taken next ∧
      next.answers = session.answers ++ [Assignment.answer ⟨asked, handler, none⟩] ∧
      ∀ more last, Steps next more last → (∀ event ∈ more, event.letsRespond = true) →
        Attends (.start handlers) (events ++ taken ++ more) last asked handler
          session.answers.length := by
  intro handler taken
  have told : Message.ofPayload payload = .ok (.request asked) :=
    ((Message.means_of_read spelled).request asked).mpr asks
  have turn : Turn session surroundings.time taken
      ({ session with inbound := rest }.actUpon surroundings.time (.request asked)) :=
    .message reading arrives told
  have moved := turn.step.resolve_right (by simp [stepKeeper, reading])
  refine ⟨told, fun _ _ => Assignment.id_of_reply?, fun _ => Assignment.reply?_eq_none_iff, _,
    moved, turn, rfl, fun more last onward letsMore => ?_⟩
  have letsAll : ∀ event ∈ events ++ taken ++ more, event.letsRespond = true := by
    rw [List.forall_mem_append, List.forall_mem_append]
    exact ⟨⟨lets, by simp [taken, SessionEvent.letsRespond]⟩, letsMore⟩
  have booked : assigned (.start handlers) (events ++ taken) =
      assigned (.start handlers) events ++ [⟨asked, handler, none⟩] := by
    simp only [assigned, books_append run]
    rfl
  have place : (assigned (.start handlers) (events ++ taken))[session.answers.length]? =
      some ⟨asked, handler, none⟩ := by
    rw [booked, ← (tended_of_steps run lets).guided.length_eq]
    simp
  have reached := run.trans turn.steps
  obtain ⟨used, placeThen⟩ := assigned_kept reached onward place
  exact attends_of_steps (reached.trans onward) letsAll placeThen

/-- A request whose members are in no order, and whose identifier is a string. -/
def itemsRequest : Bytes :=
  Bytes.ofText ("\x7b\"params\":\x7b\"items\":[1]\x7d, \"id\":\"7\"," ++
    "\"method\":\"m\",\"jsonrpc\":\"2.0\"\x7d")

/-- A handler that takes its time, and replies how many uses of handlers there were before and
what it is asked. -/
def countingHandler : Handler where
  reply occasion := .value (.array [.natural occasion.earlier.length, occasion.params.getD .null])
  delay := .ofDuration ⟨5⟩
  role := .responder

/-- A handler that is never done. -/
def endlessHandler : Handler := ⟨.value .null, fun _ => .never, .responder⟩

/-- Two methods are given handlers, a request for the one that is never done comes in and its
answer is held up, and then a request for the other one comes in. -/
def beforeRequest : List SessionEvent :=
  [.install "endless" endlessHandler, .install "m" countingHandler,
    .dispatch 1 (.request (.make 1 "endless" none)), .answer ⟨1, none⟩ 0,
    .stream (Frame.encode itemsRequest ++ []) false .reading]

/-- The method is given another handler, and the second answer goes on until it is over. -/
def behindRequest : List SessionEvent :=
  .install "m" (.immediate .breakdown .responder) :: answersAt [(3, 1), (8, 1), (9, 1)]

/-- The answer uses the handler that the method had when the request came in, and is not held up
by the other one. -/
theorem attendance_of_itemsRequest :
    ∃ session next last events asked, Steps (.start []) beforeRequest session ∧
      session.stepIntake ⟨2, none⟩ = some next ∧ Steps next behindRequest last ∧
      Attends (.start []) events last asked (some countingHandler) 1 ∧ last.AllSettled ∧
      responses last.sent =
        [.ok (.text "7") (.array [.natural 1, .object [("items", .array [.natural 1])]])] := by
  obtain ⟨session, ran⟩ : ∃ session, (start []).run? beforeRequest = some session := ⟨_, rfl⟩
  have run := steps_iff_run?.mpr ran
  have lets : ∀ event ∈ beforeRequest, event.letsRespond = true := by decide
  have letsMore : ∀ event ∈ behindRequest, event.letsRespond = true := by decide
  cases ran
  have arrives : Frame.Arrives (Frame.encode itemsRequest ++ []) false (.frame itemsRequest) [] :=
    .inl (Frame.next_encode (by decide) [])
  have spelled : Json.read itemsRequest = .ok (.object [("id", .string "7"),
      ("jsonrpc", .string "2.0"), ("method", .string "m"),
      ("params", .object [("items", .array [.natural 1])])]) := by rfl
  have asks : (Json.object [("id", .string "7"), ("jsonrpc", .string "2.0"),
      ("method", .string "m"), ("params", .object [("items", .array [.natural 1])])]).Asks
        ⟨"2.0", .text "7", "m", some (.object [("items", .array [.natural 1])])⟩ :=
    ⟨rfl, ⟨_, rfl, .text "7"⟩, rfl, rfl⟩
  obtain ⟨-, -, -, next, moved, turn, -, later⟩ :=
    request_is_attended run lets rfl arrives spelled asks ⟨2, none⟩
  cases turn with
  | message =>
    have attends := later behindRequest _ (steps_iff_run?.mpr rfl) letsMore
    exact ⟨_, _, _, _, _, run, moved, steps_iff_run?.mpr rfl, attends,
      List.all_eq_true.mp rfl, rfl⟩

/-- A request whose identifier is negative. -/
def negativeRequest : Bytes :=
  Bytes.ofText "\x7b\"jsonrpc\":\"2.0\",\"id\":-1,\"method\":\"m\"\x7d"

/-- An answer whose handler is never done is never over. -/
theorem not_isFinished_of_never {handler : Handler} (guides : assignment.Guides answer)
    (handles : assignment.handler = some handler)
    (never : ∀ occasion, handler.delay occasion = .never) : answer.phase.isFinished = false := by
  cases current : answer.phase with
  | finished =>
    have permits := guides.permits
    rw [current] at permits
    obtain ⟨outcome, comes⟩ := Option.isSome_iff_exists.mp (permits (by simp [handles]))
    obtain ⟨course, came, comes⟩ := Option.bind_eq_some_iff.mp comes
    obtain ⟨given, occasion, same, _, rfl⟩ := Assignment.course?_eq_some_iff.mp came
    obtain rfl := Option.some.inj (same.symm.trans handles)
    simp [Handler.course, never occasion, HandlerCourse.outcome?] at comes
  | _ => rfl

/-- Answers are not all over, whatever happens, once a request has been given a handler that is never
done. -/
theorem not_allAnswered_of_never {asked : Request} {handler : Handler} {used : Option Occasion}
    (run : Steps (.start handlers) events session)
    (lets : ∀ event ∈ events, event.letsRespond = true)
    (place : (assigned (.start handlers) events)[index]? = some ⟨asked, some handler, used⟩)
    (never : ∀ occasion, handler.delay occasion = .never)
    (onward : Steps session more last) (letsMore : ∀ event ∈ more, event.letsRespond = true) :
    ¬ last.AllAnswered := by
  intro all
  obtain ⟨usedThen, placeThen⟩ := assigned_kept run onward place
  have tended := tended_of_steps (run.trans onward) (List.forall_mem_append.mpr ⟨lets, letsMore⟩)
  obtain ⟨answer, found, guides⟩ := exists_guided tended.guided placeThen
  have unfinished := not_isFinished_of_never guides rfl never
  rw [all _ (List.mem_of_getElem? found)] at unfinished
  cases unfinished

/-- Not every request begins an answer: not one whose identifier is a negative integer, nor
one whose parameters are nested too deeply. Not every answer that is over has responded: not one
whose handler has broken down. And not every answer can come to be over: not one whose handler is
never done. -/
theorem requests_may_be_lost :
    ¬ (∀ (session : Session) (payload : Bytes) (value : Json) (version method : String)
        (id : Int32), Json.read payload = .ok value →
      value.member? "jsonrpc" = some (.string version) →
      value.member? "method" = some (.string method) →
      value.member? "id" = some (.integer id.toInt) →
      ∃ answer, (session.accept 0 (.frame payload)).answers = session.answers ++ [answer]) ∧
    ¬ (∀ (session : Session) (value : Json) (asked : Request), value.sorted = value →
      value.AllNumbers Json.Number.Returns → value.Asks asked →
      ∃ answer, (session.accept 0 (.frame (Bytes.ofText value.compact))).answers =
        session.answers ++ [answer]) ∧
    ¬ (∀ (handlers : Handlers) (events : List SessionEvent) (session : Session),
      Steps (.start handlers) events session → (∀ event ∈ events, event.letsRespond = true) →
      session.AllAnswered →
      (responses session.sent).length = (requests events).length) ∧
    ¬ (∀ (handlers : Handlers) (events : List SessionEvent) (session : Session),
      Steps (.start handlers) events session → (∀ event ∈ events, event.letsRespond = true) →
      ∃ more last, Steps session more last ∧ (∀ event ∈ more, event.letsRespond = true) ∧
        last.AllAnswered) := by
  refine ⟨fun claimed => ?_, fun claimed => ?_, fun claimed => ?_, fun claimed => ?_⟩
  · obtain ⟨answer, begun⟩ := claimed (.start []) negativeRequest
      (.object [("id", .integer (-1)), ("jsonrpc", .string "2.0"), ("method", .string "m")])
      "2.0" "m" (-1) rfl rfl rfl rfl
    have dropped : ((start []).accept 0 (.frame negativeRequest)).answers = [] := rfl
    rw [dropped] at begun
    cases begun
  · obtain ⟨same, returns, refused⟩ := Message.deepRequest_refused
    obtain ⟨answer, begun⟩ := claimed (.start []) _ _ same returns
      (Message.requestFor_asks (Message.enclosed 127))
    simp only [accept, refused] at begun
    cases begun
  · have counted := claimed [("m", .immediate .breakdown .responder)]
      [.dispatch 0 (.request (.make 1 "m" none)), .answer ⟨0, none⟩ 0] _
      (steps_iff_run?.mpr rfl) (by decide) (List.all_eq_true.mp rfl)
    cases counted
  · have asks : Steps (.start [("m", endlessHandler)]) [.dispatch 0 (.request (.make 1 "m" none))]
        _ := .single rfl
    have lets : ∀ event ∈ [SessionEvent.dispatch 0 (.request (.make 1 "m" none))],
        event.letsRespond = true := by decide
    have place : (assigned (.start [("m", endlessHandler)])
        [.dispatch 0 (.request (.make 1 "m" none))])[0]? =
          some ⟨.make 1 "m" none, some endlessHandler, none⟩ := rfl
    obtain ⟨more, last, onward, letsMore, all⟩ := claimed _ _ _ asks lets
    exact not_allAnswered_of_never asks lets place (fun _ => rfl) onward letsMore all

end Session

end FoldAtlas
