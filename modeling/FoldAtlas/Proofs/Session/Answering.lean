import FoldAtlas.Proofs.Session.Obligation
import Mathlib.Data.List.Perm.Subperm

/-!
# Answering the other side

A session with the handlers that every client has answers each request of the other
side with the one response that is due to it (`Request.due`), whatever else happens
and in whatever order its answers go on (`requests_are_answered`). What comes in and is
no request is never answered: all that is written besides is this side's own
(`others_of_start`). What comes in and is no response has nothing to do with the calls
of this side, even if it carries the identifier of one.

The handlers that every client has are done at once and reply with what is due, so this is a case
of what every session owes (`Session.Tended`): only that nobody else's handler is ever used is to
be added (`Session.AllStandard`).
-/

namespace FoldAtlas

/-! ## What is due -/

/-- How many settings some parameters ask for: none, unless they list items. -/
def itemsAsked (params : Option Json) : Nat :=
  ((params.bind (·.member? "items")).bind Json.items?).elim 0 List.length

/-- The response that is due to a request: no setting is known, some methods only want
to be acknowledged, and every other one is refused. -/
def Response.due (id : RequestId) (method : String) (params : Option Json) : Response :=
  if method = "workspace/configuration" then
    .ok id (.array (List.replicate (itemsAsked params) .null))
  else if method ∈ ["client/registerCapability", "client/unregisterCapability",
      "window/workDoneProgress/create", "window/logMessage", "window/showMessage"] then
    .ok id .null
  else .failed id ⟨-32601, "Method not found: " ++ method, none⟩

/-- The response that is due to a request. -/
def Request.due (asked : Request) : Response := .due asked.id asked.method asked.params

/-- The handler that knows no settings counts the items. -/
theorem HandlerReply.itemCount_eq (params : Option Json) :
    itemCount params = itemsAsked params := by
  cases params with
  | none => rfl
  | some params =>
    simp only [itemCount, itemsAsked, Option.bind_some]
    cases params.member? "items" with
    | none => rfl
    | some items => cases items <;> rfl

/-- The handlers that every client has are done at once and reply with what is due, and what they
do not handle is due to be refused. -/
theorem Handlers.standard_due (method : String) :
    match Handlers.standard.find? method with
    | none => ∀ id params, Response.failed id (.unhandledMethod method) = .due id method params
    | some handler => ∀ occasion, handler.delay occasion = .atOnce ∧
        ∀ id, (handler.reply occasion).response? id = some (.due id method occasion.params) := by
  by_cases listed : method ∈ Handler.settingsMethod :: Handler.acknowledgedMethods
  · simp only [Handler.settingsMethod, Handler.acknowledgedMethods, List.mem_cons,
      List.not_mem_nil, or_false] at listed
    rcases listed with rfl | rfl | rfl | rfl | rfl | rfl
    · simp only [Response.due, ← HandlerReply.itemCount_eq]
      exact fun occasion => ⟨rfl, fun id => rfl⟩
    all_goals exact fun occasion => ⟨rfl, fun id => rfl⟩
  · have absent : Handlers.standard.find? method = none := by
      have keys : Handlers.standard.map Prod.fst =
          Handler.settingsMethod :: Handler.acknowledgedMethods := rfl
      exact Keyed.lookup_eq_none_iff.mpr (keys ▸ listed)
    obtain ⟨unset, unacknowledged⟩ := not_or.mp (mt List.mem_cons.mpr listed)
    rw [absent]
    exact fun id params => ((if_neg unset).trans (if_neg unacknowledged)).symm

namespace Assignment

variable {assignment : Assignment} {answer : Answer} {response : Response}
  {course : HandlerCourse}

/-- Whether the handler is the one that every client has for the method. -/
def IsStandard (assignment : Assignment) : Prop :=
  assignment.handler = Handlers.standard.find? assignment.asked.method

/-- The handlers that every client has are done at once. -/
theorem IsStandard.isPrompt (standard : assignment.IsStandard) : assignment.IsPrompt := by
  intro handler handles occasion
  have replies := Handlers.standard_due assignment.asked.method
  rw [← standard, handles] at replies
  exact (replies occasion).1

/-- What becomes of the use of a handler that every client has: it replies with what is due. -/
theorem IsStandard.course_done (standard : assignment.IsStandard)
    (guides : assignment.Guides answer) (came : assignment.course? = some course) :
    ∃ outcome, course = .done outcome ∧
      outcome.response? assignment.asked.id = some assignment.asked.due := by
  obtain ⟨handler, occasion, handles, used, rfl⟩ := course?_eq_some_iff.mp came
  have replies := Handlers.standard_due assignment.asked.method
  rw [← standard, handles] at replies
  refine ⟨handler.reply occasion, by simp only [Handler.course, (replies occasion).1], ?_⟩
  rw [(replies occasion).2, guides.given occasion used]
  rfl

/-- No request is owed anything but what is due. -/
theorem IsStandard.due_of_reply? (standard : assignment.IsStandard)
    (guides : assignment.Guides answer) (replied : assignment.reply? = some response) :
    response = assignment.asked.due := by
  cases handles : assignment.handler with
  | none =>
    have replies := Handlers.standard_due assignment.asked.method
    rw [← standard, handles] at replies
    simp only [reply?, handles, Option.some.injEq] at replied
    exact replied.symm.trans (replies _ _)
  | some handler =>
    have owed := replied
    simp only [reply?, handles] at owed
    obtain ⟨_, comes, _⟩ := Option.bind_eq_some_iff.mp owed
    obtain ⟨_, came, _⟩ := Option.bind_eq_some_iff.mp comes
    obtain ⟨outcome, rfl, responds⟩ := standard.course_done guides came
    rw [reply?_of_course came] at replied
    exact Option.some.inj (replied.symm.trans responds)

/-- A request whose answer is over is owed what is due. -/
theorem IsStandard.reply?_of_finished (standard : assignment.IsStandard)
    (guides : assignment.Guides answer) (finished : answer.phase = .finished) :
    assignment.reply? = some assignment.asked.due := by
  cases owed : assignment.reply? with
  | some response => rw [standard.due_of_reply? guides owed]
  | none =>
    obtain ⟨handler, handles, _⟩ := reply?_eq_none_iff.mp owed
    have permits := guides.permits
    rw [finished] at permits
    obtain ⟨_, comes⟩ := Option.isSome_iff_exists.mp (permits (by simp [handles]))
    obtain ⟨_, came, _⟩ := Option.bind_eq_some_iff.mp comes
    obtain ⟨outcome, rfl, responds⟩ := standard.course_done guides came
    rw [reply?_of_course came] at owed
    exact absurd (owed.symm.trans responds) (by simp)

/-- An answer whose handler is one that every client has is settled only when it is over. -/
theorem IsStandard.isSettled_eq (standard : assignment.IsStandard)
    (guides : assignment.Guides answer) : answer.phase.isSettled = answer.phase.isFinished := by
  cases current : answer.phase with
  | heldUp =>
    have permits := guides.permits
    rw [current] at permits
    obtain ⟨_, wrong, _⟩ := standard.course_done guides permits
    cases wrong
  | _ => rfl

end Assignment

/-! ## How far answers are -/

/-- How many steps are left of an answer whose handler replies at once. -/
def AnswerPhase.remaining : AnswerPhase → Nat
  | .begun _ | .busy _ _ | .heldUp => 2
  | .replying _ => 1
  | .finished => 0

/-- Whether an event lets a session answer: it neither closes the outgoing stream nor
gives a method a handler, and no response fails to be written. -/
def SessionEvent.letsAnswer : SessionEvent → Bool
  | .detach | .install _ _ => false
  | .answer surroundings _ => surroundings.fault.isNone
  | .begin _ _ _ | .proceed _ _ _ | .dispatch _ _ | .notify _ _ _ | .stream _ _ _ | .abandon =>
    true

/-- What lets a session answer lets it respond. -/
theorem SessionEvent.letsRespond_of_letsAnswer {event : SessionEvent}
    (lets : event.letsAnswer = true) : event.letsRespond = true := by
  cases event with
  | detach | install => cases lets
  | _ => exact lets

namespace Session

variable {first session next : Session} {events more : List SessionEvent} {event : SessionEvent}
  {index : Nat} {answer : Answer} {assignment : Assignment} {phase : AnswerPhase}
  {noted : List Invocation} {written : List Message} {surroundings : Surroundings}

/-- How many steps the answers of a session are still to take. -/
def unanswered (session : Session) : Nat := (session.answers.map (·.phase.remaining)).sum

/-- All answers are over when no step is left. -/
theorem unanswered_eq_zero_iff : session.unanswered = 0 ↔ session.AllAnswered := by
  have nothingLeft (phase : AnswerPhase) : phase.remaining = 0 ↔ phase.isFinished = true := by
    cases phase <;> simp [AnswerPhase.remaining, AnswerPhase.isFinished]
  simp only [unanswered, AllAnswered, List.sum_eq_zero_iff_forall_eq_nat, List.forall_mem_map,
    nothingLeft]

/-- Whether all requests find the handlers that every client has. -/
def AllStandard (first : Session) (events : List SessionEvent) : Prop :=
  ∀ assignment ∈ assigned first events, assignment.IsStandard

/-- As long as no method is given a handler, all requests find those that every client has. -/
theorem standard_of_steps (run : Steps (.start .standard) events session)
    (lets : ∀ event ∈ events, event.letsAnswer = true) :
    session.handlers = .standard ∧ AllStandard (.start .standard) events := by
  induction run with
  | refl => exact ⟨rfl, fun assignment member => by cases member⟩
  | @step events session next event prior happens ih =>
    rw [List.forall_mem_append, List.forall_mem_singleton] at lets
    obtain ⟨handlers, standard⟩ := ih lets.1
    cases concerns : event.concernsAnswers with
    | false =>
      refine ⟨(sameAnswers_of_after? concerns happens).handlers.trans handlers, ?_⟩
      rw [AllStandard, assigned_append_singleton prior happens, book_of_apart concerns]
      exact standard
    | true =>
      cases event with
      | begin | proceed | notify | stream | abandon => cases concerns
      | detach | install => cases lets.2
      | answer surroundings index =>
        refine ⟨?_, forall_assigned_of_answer (fun _ _ held => held) standard prior happens⟩
        obtain ⟨_, _, _, _, _, _, rfl⟩ := stepAnswer_eq_some_iff.mp happens
        exact handlers
      | dispatch time message =>
        cases message with
        | response | notification => cases concerns
        | request asked =>
          rw [AllStandard, assigned_append_singleton prior happens, book, List.forall_mem_append,
            List.forall_mem_singleton]
          cases happens
          exact ⟨handlers, standard, by rw [handlers]; rfl⟩

/-- What is known of a session with the handlers that every client has. -/
structure Answering (events : List SessionEvent) (session : Session) : Prop where
  run : Steps (.start .standard) events session
  tended : Tended (.start .standard) events session
  standard : AllStandard (.start .standard) events

/-- As long as nothing keeps a session from answering, all is known of its answers. -/
theorem answering_of_steps (run : Steps (.start .standard) events session)
    (lets : ∀ event ∈ events, event.letsAnswer = true) : Answering events session where
  run := run
  tended := tended_of_steps run fun event member =>
    SessionEvent.letsRespond_of_letsAnswer (lets event member)
  standard := (standard_of_steps run lets).2

/-- What some requests have got is due to them, and when their answers are over, it is all that
is due. -/
theorem paid_due {assignments : List Assignment} {answers : List Answer}
    (guided : List.Forall₂ Assignment.Guides assignments answers)
    (standard : ∀ assignment ∈ assignments, assignment.IsStandard) :
    (List.zipWith Assignment.paid assignments answers).flatten.Sublist
        (assignments.map fun assignment => assignment.asked.due) ∧
      ((∀ answer ∈ answers, answer.phase.isFinished = true) →
        (List.zipWith Assignment.paid assignments answers).flatten =
          assignments.map fun assignment => assignment.asked.due) := by
  induction guided with
  | nil => exact ⟨.slnil, fun _ => rfl⟩
  | @cons assignment answer assignments answers guides _ ih =>
    rw [List.forall_mem_cons] at standard
    obtain ⟨within, whole⟩ := ih standard.2
    simp only [List.zipWith_cons_cons, List.flatten_cons, List.map_cons, List.forall_mem_cons]
    have paid : assignment.paid answer =
        if answer.phase.isFinished then [assignment.asked.due] else [] := by
      rw [Assignment.paid, standard.1.isSettled_eq guides]
      cases current : answer.phase with
      | finished =>
        rw [standard.1.reply?_of_finished guides current]
        rfl
      | _ => rfl
    rw [paid]
    refine ⟨?_, fun finished => ?_⟩
    · cases answer.phase.isFinished with
      | true => exact .cons_cons _ within
      | false => exact .cons _ within
    · rw [finished.1, whole finished.2]
      rfl

/-- What is due to the requests that have come in. -/
theorem Answering.map_due (answering : Answering events session) :
    ((assigned (.start .standard) events).map fun assignment => assignment.asked.due) =
      (requests events).map Request.due := by
  rw [← map_asked_assigned answering.run, List.map_map]
  rfl

/-- When all answers are over, the responses are those that are due. -/
theorem Answering.complete (answering : Answering events session) (all : session.AllAnswered) :
    (responses session.sent).Perm ((requests events).map Request.due) := by
  have whole := (paid_due answering.tended.guided answering.standard).2 all
  rw [← answering.map_due, ← whole]
  exact answering.tended.written

/-- Where an answer is, a request of a standard handler guides it. -/
theorem Answering.guides (answering : Answering events session)
    (found : session.answers[index]? = some answer) :
    ∃ assignment : Assignment, assignment.IsStandard ∧ assignment.Guides answer := by
  obtain ⟨assignment, place, guides⟩ := exists_guide answering.tended.guided found
  exact ⟨assignment, answering.standard assignment (List.mem_of_getElem? place), guides⟩

/-- An answer whose handler is one that every client has takes one step to learn what to respond
and one to respond. -/
theorem AnswerTurn.remaining (turn : session.AnswerTurn surroundings answer phase noted written)
    (standard : assignment.IsStandard) (guides : assignment.Guides answer) :
    phase.remaining + 1 = answer.phase.remaining := by
  have permits := guides.permits
  cases turn with
  | refuse begun => simp [begun, AnswerPhase.remaining]
  | @use handler begun =>
    rw [begun] at permits
    have replies := Handlers.standard_due assignment.asked.method
    rw [← standard, ← permits.1] at replies
    obtain ⟨atOnce, responds⟩ :=
      replies (session.occasion surroundings.time answer.params)
    simp [begun, Handler.course, atOnce, Answer.usePhase, Answer.replyPhase, responds,
      AnswerPhase.remaining]
  | learn busy =>
    rw [busy] at permits
    obtain ⟨_, wrong, _⟩ := standard.course_done guides permits
    cases wrong
  | respond replying | lose replying => simp [replying, AnswerPhase.remaining]

/-- An answer that is not over goes on when it can write, and every step counts. -/
theorem Answering.onward (answering : Answering events session)
    (found : session.answers[index]? = some answer) (unfinished : answer.phase.isFinished = false)
    (time : Nat) :
    ∃ next, session.after? (.answer ⟨time, none⟩ index) = some next ∧
      next.unanswered + 1 = session.unanswered := by
  obtain ⟨assignment, standard, guides⟩ := answering.guides found
  have unsettled := (standard.isSettled_eq guides).trans unfinished
  have late : answer.phase.due ≤ (Surroundings.mk time none).time := by
    rw [due_of_prompt guides standard.isPrompt]
    exact Nat.zero_le time
  obtain ⟨phase, noted, written, turn⟩ := session.exists_turn unsettled late
  refine ⟨_, stepAnswer_eq_some_iff.mpr ⟨answer, phase, noted, written, found, turn, rfl⟩, ?_⟩
  have counts := turn.remaining standard guides
  have changed : (session.advanced index phase noted written).unanswered +
      answer.phase.remaining = session.unanswered + phase.remaining := total_advanced found _
  omega

/-- Answers that go on, one step of one answer after the other. -/
def answerSteps (order : List Nat) : List SessionEvent := order.map (.answer ⟨0, none⟩)

/-- All answers come to an end, and no time need pass. -/
theorem exists_answerSteps (run : Steps (.start .standard) events session)
    (lets : ∀ event ∈ events, event.letsAnswer = true) :
    ∃ order last, Steps session (answerSteps order) last ∧ last.AllAnswered ∧
      (responses last.sent).Perm ((requests events).map Request.due) := by
  have answering := answering_of_steps run lets
  have prompt : AllPrompt (.start .standard) events := fun assignment member =>
    (answering.standard assignment member).isPrompt
  obtain ⟨turns, last, _, _, atOnce, onward, settled⟩ := answering.tended.finishes run 0
  have letsAll : ∀ event ∈ events ++ answersAt turns, event.letsAnswer = true := by
    rw [List.forall_mem_append, answersAt, List.forall_mem_map]
    exact ⟨lets, fun _ _ => rfl⟩
  have answeringThen := answering_of_steps (run.trans onward) letsAll
  have all : last.AllAnswered := by
    intro answer member
    obtain ⟨index, found⟩ := List.mem_iff_getElem?.mp member
    obtain ⟨assignment, standard, guides⟩ := answeringThen.guides found
    exact (standard.isSettled_eq guides).symm.trans (settled answer member)
  have sameSteps : answersAt turns = answerSteps (turns.map Prod.snd) := by
    simp only [answersAt, answerSteps, List.map_map]
    refine List.map_congr_left fun turn member => ?_
    simp [atOnce prompt turn member]
  have responded := answeringThen.complete all
  rw [requests_append, requests_answersAt, List.append_nil] at responded
  exact ⟨turns.map Prod.snd, last, sameSteps ▸ onward, all, responded⟩

/-! ## Requests and their responses -/

/-- Acting upon a message writes nothing. -/
theorem sent_actUpon (session : Session) (time : Nat) (message : Message) :
    (session.actUpon time message).sent = session.sent := by
  cases message with
  | request => rfl
  | response given =>
    obtain ⟨_, _, _, _, same⟩ := session.handOver_eq given
    rw [actUpon, same]
  | notification notice =>
    obtain ⟨_, _, heard⟩ := session.hear_eq time notice
    rw [actUpon, heard]

/-- A message that is no response leaves the calls alone. -/
theorem calls_actUpon {message : Message} (apart : message.response? = none) (session : Session)
    (time : Nat) :
    (session.actUpon time message).pending = session.pending ∧
      (session.actUpon time message).calls = session.calls := by
  cases message with
  | request => exact ⟨rfl, rfl⟩
  | response => cases apart
  | notification notice =>
    obtain ⟨_, _, heard⟩ := session.hear_eq time notice
    rw [actUpon, heard]
    exact ⟨rfl, rfl⟩

/-- A notification is written by this side only. -/
theorem notice_of_after? {notice : Notification} (happens : session.after? event = some next)
    (written : .notification notice ∈ next.sent) :
    .notification notice ∈ session.sent ∨
      ∃ fault method params,
        event = .notify fault method params ∧ notice = .make method params := by
  cases event with
  | begin | install | stream | detach =>
    cases happens
    exact .inl written
  | abandon =>
    cases happens
    obtain ⟨_, _, same⟩ := session.abandonCalls_eq
    exact .inl (by rwa [same] at written)
  | dispatch time message =>
    cases happens
    exact .inl (session.sent_actUpon time message ▸ written)
  | proceed turn surroundings ticket =>
    rcases (Effect.of_after? happens).sent_cases with
      same | ⟨_, call, _, _, _, sent, _⟩ | ⟨isAside, _⟩
    · exact .inl (same ▸ written)
    · rw [sent] at written
      exact .inl ((List.mem_append.mp written).resolve_right (by simp [Call.request]))
    · cases isAside
  | answer surroundings index =>
    obtain ⟨_, _, _, responded, _, turn, rfl⟩ := stepAnswer_eq_some_iff.mp happens
    refine .inl ((List.mem_append.mp written).resolve_right fun member => ?_)
    rcases turn.written_cases with rfl | ⟨given, rfl⟩ <;> simp at member
  | notify fault method params =>
    simp only [after?] at happens
    split at happens
    · next wrote =>
      cases happens
      rw [eq_of_write wrote] at written
      rcases List.mem_append.mp written with before | now
      · exact .inl before
      · exact .inr ⟨fault, method, params, rfl, by simpa using now⟩
    · cases happens
      exact .inl written

/-- Every notification that was written is one of this side. -/
theorem notice_of_start {handlers : Handlers} {notice : Notification}
    (run : Steps (.start handlers) events session)
    (written : .notification notice ∈ session.sent) :
    ∃ fault method params, .notify fault method params ∈ events ∧ notice = .make method params := by
  induction run with
  | refl => simp [start] at written
  | step _ happens ih =>
    rcases notice_of_after? happens written with before | ⟨fault, method, params, rfl, made⟩
    · obtain ⟨fault, method, params, member, made⟩ := ih before
      exact ⟨fault, method, params, List.mem_append_left _ member, made⟩
    · exact ⟨fault, method, params, by simp, made⟩

/-- What was written and is no response is the request of a call of this side, or a
notification of its own. -/
theorem others_of_start {handlers : Handlers} {message : Message}
    (run : Steps (.start handlers) events session) (written : message ∈ session.sent)
    (apart : message.response? = none) :
    (∃ call ∈ session.calls, message = call.request) ∨
      ∃ fault method params, .notify fault method params ∈ events ∧
        message = .notification (.make method params) := by
  cases message with
  | response => cases apart
  | request asked =>
    obtain ⟨ticket, call, _, found, same⟩ := hasAuthor_of_start run written
    exact .inl ⟨call, List.mem_of_getElem? found, same.symm⟩
  | notification notice =>
    obtain ⟨fault, method, params, member, rfl⟩ := notice_of_start run written
    exact .inr ⟨fault, method, params, member, rfl⟩

/-- What is known about the requests that have come in and the responses to them. -/
structure Answered (events : List SessionEvent) (session : Session) : Prop where
  /-- Every response that was written is due to a request of its own. -/
  sound : (responses session.sent).Subperm ((requests events).map Request.due)
  /-- When all answers are over, every request has been responded to exactly once. -/
  exact : session.AllAnswered →
    (responses session.sent).Perm ((requests events).map Request.due)
  /-- Every answer that is not over can go on, and whichever does brings the end nearer. -/
  onward : ∀ (index : Nat) (answer : Answer), session.answers[index]? = some answer →
    answer.phase.isFinished = false → ∀ time, ∃ next,
      session.after? (.answer ⟨time, none⟩ index) = some next ∧
        next.unanswered + 1 = session.unanswered
  /-- All answers can come to an end. -/
  finishes : ∃ order last, Steps session (answerSteps order) last ∧ last.AllAnswered ∧
    (responses last.sent).Perm ((requests events).map Request.due)
  /-- What was written and is no response is a request or a notification of this side. -/
  others : ∀ message ∈ session.sent, message.response? = none →
    (∃ call ∈ session.calls, message = call.request) ∨
      ∃ fault method params, .notify fault method params ∈ events ∧
        message = .notification (.make method params)
  /-- A message writes nothing when it is acted upon, and only a request begins an answer. -/
  quiet : ∀ (time : Nat) (message : Message),
    (session.actUpon time message).sent = session.sent ∧
      (message.request? = none → (session.actUpon time message).answers = session.answers)
  /-- Neither a message that is no response nor an answer that goes on touches the calls. -/
  apart : ∀ event next, session.after? event = some next →
    (∃ surroundings index, event = .answer surroundings index) ∨
      (∃ time message, event = .dispatch time message ∧ message.response? = none) →
    next.pending = session.pending ∧ next.calls = session.calls

/-- Whatever comes in and in whatever order answers go on: every request is answered with
the one response that is due to it, everything else that is written is this side's own,
and no request or notification has anything to do with the calls of this side. -/
theorem requests_are_answered (run : Steps (.start .standard) events session)
    (lets : ∀ event ∈ events, event.letsAnswer = true) : Answered events session where
  sound := by
    have answering := answering_of_steps run lets
    rw [← answering.map_due, answering.tended.written.subperm_right]
    exact (paid_due answering.tended.guided answering.standard).1.subperm
  exact := (answering_of_steps run lets).complete
  onward _ _ found unfinished time := (answering_of_steps run lets).onward found unfinished time
  finishes := exists_answerSteps run lets
  others _ written apart := others_of_start run written apart
  quiet time message :=
    ⟨session.sent_actUpon time message,
      fun apart => (sameAnswers_actUpon apart session time).answers⟩
  apart event next happens quiet := by
    rcases quiet with ⟨surroundings, index, rfl⟩ | ⟨time, message, rfl, apart⟩
    · have leaves := LeavesCalls.of_stepAnswer happens
      exact ⟨leaves.pending, leaves.calls⟩
    · cases happens
      exact calls_actUpon apart session time

/-- A call waits while requests come in, one of which carries its identifier; their
answers go on in an order of their own, and only then does the call get its response. -/
def collidingRequests : List SessionEvent :=
  let quiet : Surroundings := ⟨0, none⟩
  let settings := Json.object [("items", .array [.null, .bool true])]
  [.begin "slow" none none, .proceed .advance quiet 0, .proceed .advance quiet 0,
    .dispatch 1 (.request ⟨"2.0", .number 1, "workspace/configuration", some settings⟩),
    .dispatch 1 (.notification (.make "window/logMessage" none)),
    .dispatch 1 (.request ⟨"2.0", .text "1", "workspace/unheardOf", none⟩)] ++
  answerSteps [1, 0, 1] ++
  [.dispatch 2 (.request ⟨"2.0", .number 7, "window/showMessage", none⟩)] ++
  answerSteps [2, 2, 0] ++
  [.dispatch 3 (.response (.ok (.number 1) (.bool true))), .proceed .take ⟨3, none⟩ 0]

/-- Each of the requests gets its own response, and the call the one that is meant for it. -/
theorem answers_of_collidingRequests :
    ∃ session, Steps (.start .standard) collidingRequests session ∧
      Answered collidingRequests session ∧ session.AllAnswered ∧
      responses session.sent = [.failed (.text "1") (.unhandledMethod "workspace/unheardOf"),
        .ok (.number 7) .null, .ok (.number 1) (.array [.null, .null])] ∧
      session.outcome? 0 = some (.ok (.bool true)) := by
  obtain ⟨session, ran⟩ : ∃ session, (start .standard).run? collidingRequests = some session :=
    ⟨_, rfl⟩
  have run := steps_iff_run?.mpr ran
  have lets : ∀ event ∈ collidingRequests, event.letsAnswer = true := by decide
  refine ⟨session, run, requests_are_answered run lets, ?_⟩
  cases ran
  refine ⟨?_, rfl, rfl⟩
  rw [← unanswered_eq_zero_iff]
  rfl

end Session

end FoldAtlas
