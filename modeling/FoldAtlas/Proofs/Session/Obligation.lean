import FoldAtlas.Proofs.Session.Connection
import Mathlib.Algebra.GroupWithZero.Nat
import Mathlib.Data.List.Forall2

/-!
# What the other side is owed

Each request of the other side is owed a response: what the handler of its method replies, or
that there is none. The handler may reply anything, take any time, break down or never be done,
so what is owed is known only when the handler has been used. An `Assignment` keeps a request,
the handler that its method had when the request came in, and the occasion on which the handler
was used; `Session.assigned` finds the assignments of an execution.

An answer is settled when it is over, or when its handler is never done. `Session.Tended` is what
an execution keeps as long as nothing hinders the responses: every answer is as far as its
assignment has got, and what was written are the responses of those that are settled. One answer
goes on by an `AnswerTurn`, and however many others there are, all of them can come to be settled
(`Tended.finishes`).
-/

namespace FoldAtlas

namespace Message

/-- The request that a message is. -/
def request? : Message → Option Request
  | .request asked => some asked
  | .response _ | .notification _ => none

/-- The response that a message is. -/
def response? : Message → Option Response
  | .response given => some given
  | .request _ | .notification _ => none

end Message

namespace AnswerPhase

/-- Whether an answer is over. -/
def isFinished : AnswerPhase → Bool
  | .finished => true
  | .begun _ | .busy _ _ | .heldUp | .replying _ => false

/-- Whether an answer goes no further: it is over, or its handler is never done. -/
def isSettled : AnswerPhase → Bool
  | .heldUp | .finished => true
  | .begun _ | .busy _ _ | .replying _ => false

/-- How many steps an answer may still take. -/
def ahead : AnswerPhase → Nat
  | .begun _ => 3
  | .busy _ _ => 2
  | .replying _ => 1
  | .heldUp | .finished => 0

/-- The time from which an answer can go on. -/
def due : AnswerPhase → Nat
  | .busy deadline _ => deadline
  | .begun _ | .heldUp | .replying _ | .finished => 0

end AnswerPhase

/-! ## Assignments -/

/-- A request that has come in. -/
structure Assignment where
  /-- The request. -/
  asked : Request
  /-- The handler that its method had then, if there was one. -/
  handler : Option Handler
  /-- The occasion on which its answer went on first, which is when a handler is used. -/
  used : Option Occasion

namespace Assignment

/-- What became of the use of the handler, if it has been used. -/
def course? (assignment : Assignment) : Option HandlerCourse :=
  assignment.handler.bind fun handler => assignment.used.map handler.course

/-- What comes of the use of the handler, if it has been used and is ever done. -/
def outcome? (assignment : Assignment) : Option HandlerOutcome :=
  assignment.course?.bind HandlerCourse.outcome?

/-- The response that a request is owed, if there is one: that nobody handles its method, or
what the handler has replied. A handler that breaks down or is never done gives none. -/
def reply? (assignment : Assignment) : Option Response :=
  match assignment.handler with
  | none => some (.failed assignment.asked.id (.unhandledMethod assignment.asked.method))
  | some _ => assignment.outcome?.bind (HandlerOutcome.response? assignment.asked.id)

/-- The answer that a request begins. -/
def answer (assignment : Assignment) : Answer :=
  ⟨assignment.asked.id, assignment.asked.method, assignment.asked.params,
    .begun assignment.handler⟩

/-- An assignment whose answer goes on. Only the first time is the handler used. -/
def use (assignment : Assignment) (occasion : Occasion) : Assignment :=
  { assignment with used := assignment.used.or (some occasion) }

/-- Whether the handler, if there is one, is always done at once. -/
def IsPrompt (assignment : Assignment) : Prop :=
  ∀ handler, assignment.handler = some handler → ∀ occasion, handler.delay occasion = .atOnce

/-- Whether an answer may be at a phase: what it waits for or is to write is what the use of its
handler has come to. -/
def Permits (assignment : Assignment) : AnswerPhase → Prop
  | .begun handler => handler = assignment.handler ∧ assignment.used = none
  | .busy deadline outcome => assignment.course? = some (.busy deadline outcome)
  | .heldUp => assignment.course? = some .endless
  | .replying response => assignment.reply? = some response
  | .finished => assignment.handler.isSome → assignment.outcome?.isSome

/-- Whether an answer is one to a request, and as far as its assignment has got. -/
structure Guides (assignment : Assignment) (answer : Answer) : Prop where
  id : answer.id = assignment.asked.id
  method : answer.method = assignment.asked.method
  params : answer.params = assignment.asked.params
  /-- The handler is given the parameters of the request. -/
  given : ∀ occasion, assignment.used = some occasion → occasion.params = assignment.asked.params
  permits : assignment.Permits answer.phase

/-- The responses that have been written for a request whose answer is as given. -/
def paid (assignment : Assignment) (answer : Answer) : List Response :=
  if answer.phase.isSettled then assignment.reply?.toList else []

variable {assignment : Assignment} {answer : Answer} {response : Response} {handler : Handler}
  {occasion : Occasion} {outcome : HandlerOutcome} {course : HandlerCourse}

/-- What becomes of a handler is what it has come to on the occasion on which it was used. -/
theorem course?_eq_some_iff :
    assignment.course? = some course ↔ ∃ handler occasion, assignment.handler = some handler ∧
      assignment.used = some occasion ∧ handler.course occasion = course := by
  simp [course?, Option.bind_eq_some_iff]

/-- A handler that has been used is not used again. -/
theorem use_of_course (came : assignment.course? = some course) (occasion : Occasion) :
    assignment.use occasion = assignment := by
  obtain ⟨_, earlier, _, used, _⟩ := course?_eq_some_iff.mp came
  rw [use, used, Option.some_or, ← used]

/-- What a request is owed when its handler has been used. -/
theorem reply?_of_course (came : assignment.course? = some course) :
    assignment.reply? = course.outcome?.bind (HandlerOutcome.response? assignment.asked.id) := by
  cases handles : assignment.handler with
  | none => simp [course?, handles] at came
  | some handler => simp only [reply?, outcome?, handles, came, Option.bind_some]

/-- What a request is owed stays when its answer goes on. -/
theorem reply?_use (replied : assignment.reply? = some response) (occasion : Occasion) :
    (assignment.use occasion).reply? = some response ∧
      (assignment.use occasion).Permits .finished := by
  cases handles : assignment.handler with
  | none =>
    have same : (assignment.use occasion).reply? = assignment.reply? := by
      simp only [reply?, use, handles]
    exact ⟨same.trans replied, by simp [Permits, use, handles]⟩
  | some handler =>
    have owed := replied
    simp only [reply?, handles] at owed
    obtain ⟨outcome, comes, _⟩ := Option.bind_eq_some_iff.mp owed
    obtain ⟨course, came, _⟩ := Option.bind_eq_some_iff.mp comes
    rw [use_of_course came]
    exact ⟨replied, fun _ => by simp [comes]⟩

/-- A response that is owed has the identifier of the request. -/
theorem id_of_reply? (replied : assignment.reply? = some response) :
    response.id = some assignment.asked.id := by
  simp only [reply?] at replied
  split at replied
  · cases replied
    rfl
  · obtain ⟨outcome, _, responds⟩ := Option.bind_eq_some_iff.mp replied
    cases outcome <;> cases responds <;> rfl

/-- A request is owed nothing only as long as its handler has not been used, or if the handler
then breaks down or is never done. -/
theorem reply?_eq_none_iff :
    assignment.reply? = none ↔
      ∃ handler, assignment.handler = some handler ∧
        ∀ occasion, assignment.used = some occasion →
          (handler.course occasion).outcome? = none ∨
            (handler.course occasion).outcome? = some .breakdown := by
  have silent (id : RequestId) (outcome : HandlerOutcome) :
      outcome.response? id = none ↔ outcome = .breakdown := by
    cases outcome <;> simp [HandlerOutcome.response?]
  obtain ⟨asked, handler, used⟩ := assignment
  cases handler with
  | none => simp [reply?]
  | some handler =>
    cases used with
    | none => simp [reply?, outcome?, course?]
    | some occasion =>
      cases comes : (handler.course occasion).outcome? <;>
        simp [reply?, outcome?, course?, comes, silent]

/-- The answer that a request begins is one to it. -/
theorem guides_answer (unused : assignment.used = none) : assignment.Guides assignment.answer :=
  ⟨rfl, rfl, rfl, by simp [unused], rfl, unused⟩

/-- An answer that is not settled has got no response yet. -/
theorem paid_of_unsettled (assignment : Assignment) (unsettled : answer.phase.isSettled = false) :
    assignment.paid answer = [] := by
  simp [paid, unsettled]

/-- What comes behind an answer that learns what its handler has come to: a response that is
still to be written, or none. -/
theorem permits_replyPhase (id : answer.id = assignment.asked.id)
    (came : assignment.course? = some course) (comes : course.outcome? = some outcome) :
    assignment.Permits (answer.replyPhase outcome) ∧
      assignment.paid { answer with phase := answer.replyPhase outcome } = [] := by
  have owed := reply?_of_course came
  rw [comes, Option.bind_some, ← id] at owed
  simp only [Answer.replyPhase]
  cases responds : outcome.response? answer.id with
  | none => exact ⟨fun _ => by simp [outcome?, came, comes], by simp [paid, owed, responds]⟩
  | some response => exact ⟨owed.trans responds, paid_of_unsettled _ rfl⟩

/-- What comes behind an answer whose handler has been used: nothing is written yet. -/
theorem permits_usePhase (id : answer.id = assignment.asked.id)
    (came : assignment.course? = some course) :
    assignment.Permits (answer.usePhase course) ∧
      assignment.paid { answer with phase := answer.usePhase course } = [] := by
  cases course with
  | done outcome => exact permits_replyPhase id came rfl
  | busy deadline outcome => exact ⟨came, paid_of_unsettled _ rfl⟩
  | endless => exact ⟨came, by simp [paid, reply?_of_course came, HandlerCourse.outcome?]⟩

end Assignment

/-! ## One answer goes on -/

namespace Session

variable {session next : Session} {surroundings : Surroundings} {assignment : Assignment}
  {answer : Answer} {phase : AnswerPhase} {noted : List Invocation} {written : List Message}
  {index : Nat}

/-- The responses among some messages. -/
def responses (messages : List Message) : List Response := messages.filterMap Message.response?

/-- What some messages and then others respond. -/
theorem responses_append (front back : List Message) :
    responses (front ++ back) = responses front ++ responses back :=
  List.filterMap_append

/-- An answer that goes on is not settled. -/
theorem AnswerTurn.unsettled (turn : session.AnswerTurn surroundings answer phase noted written) :
    answer.phase.isSettled = false := by
  cases turn with
  | refuse phase | use phase | learn phase | respond phase | lose phase =>
    simp only [phase, AnswerPhase.isSettled]

/-- An answer that goes on has fewer steps ahead. -/
theorem AnswerTurn.ahead_lt (turn : session.AnswerTurn surroundings answer phase noted written) :
    phase.ahead < answer.phase.ahead := by
  have replying (outcome : HandlerOutcome) : (answer.replyPhase outcome).ahead < 2 := by
    simp only [Answer.replyPhase]
    split <;> simp [AnswerPhase.ahead]
  cases turn with
  | refuse phase | respond phase | lose phase => simp [phase, AnswerPhase.ahead]
  | learn busy =>
    rw [busy]
    exact replying _
  | @use handler begun =>
    rw [begun]
    cases handler.course (session.occasion surroundings.time answer.params) with
    | done outcome => exact Nat.lt_succ_of_lt (replying outcome)
    | busy | endless => simp [Answer.usePhase, AnswerPhase.ahead]

/-- An answer that goes on and is not hindered is then as far as its assignment has got, and its
request has got what it writes. -/
theorem AnswerTurn.guides (turn : session.AnswerTurn surroundings answer phase noted written)
    (guides : assignment.Guides answer)
    (unhindered : session.outlet.hindrance? surroundings.fault = none) :
    let later := assignment.use (session.occasion surroundings.time assignment.asked.params)
    later.Guides { answer with phase } ∧ later.paid { answer with phase } = responses written := by
  intro later
  obtain ⟨id, method, params, given, permits⟩ := guides
  have givenThen : ∀ occasion, later.used = some occasion →
      occasion.params = later.asked.params := by
    intro occasion used
    rcases Option.or_eq_some_iff.mp used with earlier | ⟨_, now⟩
    · exact given occasion earlier
    · exact Option.some.inj now ▸ rfl
  suffices later.Permits phase ∧ later.paid { answer with phase } = responses written from
    ⟨⟨id, method, params, givenThen, this.1⟩, this.2⟩
  cases turn with
  | refuse begun =>
    rw [begun] at permits
    refine ⟨?_, Assignment.paid_of_unsettled _ rfl⟩
    simp only [Assignment.Permits, Assignment.reply?, later, Assignment.use, ← permits.1, id,
      method]
  | @use handler begun =>
    rw [begun] at permits
    have used : later.used = some (session.occasion surroundings.time answer.params) := by
      simp [later, Assignment.use, permits.2, params]
    exact Assignment.permits_usePhase id
      (Assignment.course?_eq_some_iff.mpr ⟨handler, _, permits.1.symm, used, rfl⟩)
  | learn busy =>
    rw [busy] at permits
    have same : later = assignment := Assignment.use_of_course permits _
    rw [same]
    exact Assignment.permits_replyPhase id permits rfl
  | respond replying =>
    rw [replying] at permits
    obtain ⟨owed, came⟩ := Assignment.reply?_use permits
      (session.occasion surroundings.time assignment.asked.params)
    exact ⟨came, by simp [Assignment.paid, AnswerPhase.isSettled, later, owed, responses,
      Message.response?]⟩
  | lose _ hindered => simp [unhindered] at hindered

/-- An answer that is not settled goes on from some time on. -/
theorem exists_turn (session : Session) (unsettled : answer.phase.isSettled = false)
    (late : answer.phase.due ≤ surroundings.time) :
    ∃ phase noted written, session.AnswerTurn surroundings answer phase noted written := by
  cases current : answer.phase with
  | begun handler =>
    cases handler with
    | none => exact ⟨_, _, _, .refuse current⟩
    | some handler => exact ⟨_, _, _, .use current⟩
  | busy deadline outcome =>
    rw [current] at late
    exact ⟨_, _, _, .learn current late⟩
  | replying response =>
    cases hindered : session.outlet.hindrance? surroundings.fault with
    | none => exact ⟨_, _, _, .respond current hindered⟩
    | some failure => exact ⟨_, _, _, .lose current hindered⟩
  | heldUp | finished =>
    rw [current] at unsettled
    cases unsettled

/-! ## What is said of all answers -/

/-- The sum of a weight over all answers. -/
def total (session : Session) (weight : AnswerPhase → Nat) : Nat :=
  (session.answers.map fun answer => weight answer.phase).sum

/-- When one answer goes on, its weight changes. -/
theorem total_advanced (found : session.answers[index]? = some answer)
    (weight : AnswerPhase → Nat) :
    (session.advanced index phase noted written).total weight + weight answer.phase =
      session.total weight + weight phase := by
  obtain ⟨bound, rfl⟩ := List.getElem?_eq_some_iff.mp found
  obtain ⟨front, answer, back, split, apart, moved⟩ :=
    List.exists_of_modify (fun answer : Answer => { answer with phase }) bound
  have here : session.answers[index] = answer := by simp [split, ← apart]
  rw [here, total, advanced, moved, total, split]
  simp only [List.map_append, List.map_cons, List.sum_append, List.sum_cons]
  omega

/-- Whether all answers of a session are over. -/
def AllAnswered (session : Session) : Prop :=
  ∀ answer ∈ session.answers, answer.phase.isFinished = true

/-- Whether all answers of a session are over or never will be. -/
def AllSettled (session : Session) : Prop :=
  ∀ answer ∈ session.answers, answer.phase.isSettled = true

/-! ## The assignments of an execution -/

variable {first middle last : Session} {events more : List SessionEvent} {event : SessionEvent}
  {assignments : List Assignment}

/-- The requests that some events dispatch. -/
def requests (events : List SessionEvent) : List Request :=
  (dispatched events).filterMap Message.request?

/-- What some events and then others ask. -/
theorem requests_append (events more : List SessionEvent) :
    requests (events ++ more) = requests events ++ requests more := by
  rw [requests, dispatched_append, List.filterMap_append]
  rfl

/-- The assignments behind an event. -/
def book (session : Session) (assignments : List Assignment) : SessionEvent → List Assignment
  | .dispatch _ (.request asked) =>
    assignments ++ [⟨asked, session.handlers.find? asked.method, none⟩]
  | .answer surroundings index =>
    assignments.modify index fun assignment =>
      assignment.use (session.occasion surroundings.time assignment.asked.params)
  | .dispatch _ (.response _) | .dispatch _ (.notification _) | .begin _ _ _ | .proceed _ _ _
  | .notify _ _ _ | .install _ _ | .stream _ _ _ | .detach | .abandon => assignments

/-- The assignments behind some events that happen to a session one after the other. -/
def books : Session → List Assignment → List SessionEvent → List Assignment
  | _, assignments, [] => assignments
  | session, assignments, event :: events =>
    match session.after? event with
    | none => assignments
    | some next => books next (session.book assignments event) events

/-- The assignments of an execution. -/
def assigned (first : Session) (events : List SessionEvent) : List Assignment :=
  books first [] events

/-- The assignments behind some events and then others. -/
theorem books_append (run : Steps first events middle) (assignments : List Assignment) :
    books first assignments (events ++ more) =
      books middle (books first assignments events) more := by
  induction events generalizing first assignments with
  | nil =>
    cases steps_iff_run?.mp run
    rfl
  | cons event events ih =>
    obtain ⟨next, happens, onward⟩ := Steps.cons_iff.mp run
    simp only [List.cons_append, books, happens]
    exact ih onward _

/-- The assignments of an execution that takes one more step. -/
theorem assigned_append_singleton (run : Steps first events session)
    (happens : session.after? event = some next) :
    assigned first (events ++ [event]) = session.book (assigned first events) event := by
  simp only [assigned, books_append run, books, happens]

/-- The requests of an execution are those that have come in. -/
theorem map_asked_assigned (run : Steps first events session) :
    (assigned first events).map Assignment.asked = requests events := by
  induction run with
  | refl => rfl
  | @step events session next event run happens ih =>
    rw [assigned_append_singleton run happens, requests_append, ← ih]
    have used (surroundings : Surroundings) (index : Nat) :
        ((assigned first events).modify index fun assignment => assignment.use
          (session.occasion surroundings.time assignment.asked.params)).map Assignment.asked =
            (assigned first events).map Assignment.asked := by
      refine List.ext_getElem? fun place => ?_
      simp only [List.getElem?_map, List.getElem?_modify]
      cases (assigned first events)[place]? with
      | none => rfl
      | some assignment => by_cases same : index = place <;> simp [same, Assignment.use]
    cases event with
    | dispatch time message =>
      cases message with
      | request asked => exact List.map_append
      | response | notification => exact (List.append_nil _).symm
    | answer surroundings index => exact (used surroundings index).trans (List.append_nil _).symm
    | _ => exact (List.append_nil _).symm

/-- An assignment keeps its place, its request and its handler. -/
theorem book_kept (session : Session) (event : SessionEvent)
    (found : assignments[index]? = some assignment) :
    ∃ used, (session.book assignments event)[index]? = some { assignment with used } := by
  have bound := (List.getElem?_eq_some_iff.mp found).1
  cases event with
  | dispatch time message =>
    cases message with
    | request asked => exact ⟨assignment.used, (List.getElem?_append_left bound).trans found⟩
    | response | notification => exact ⟨assignment.used, found⟩
  | answer surroundings other =>
    by_cases same : other = index
    · exact ⟨_, by simp [book, found, same]; rfl⟩
    · exact ⟨assignment.used, by simp [book, found, same]⟩
  | _ => exact ⟨assignment.used, found⟩

/-- The assignments of an execution keep their places, their requests and their handlers. -/
theorem assigned_kept (run : Steps first events session) (onward : Steps session more last)
    (found : (assigned first events)[index]? = some assignment) :
    ∃ used, (assigned first (events ++ more))[index]? = some { assignment with used } := by
  induction onward with
  | refl => exact ⟨assignment.used, by simpa using found⟩
  | step prior happens ih =>
    obtain ⟨used, before⟩ := ih
    rw [← List.append_assoc, assigned_append_singleton (run.trans prior) happens]
    obtain ⟨later, still⟩ := book_kept _ _ before
    exact ⟨later, still⟩

/-! ## What leaves the answers alone -/

end Session

namespace SessionEvent

/-- Whether an event lets a session respond: it does not close the outgoing stream, and no
response fails to be written. -/
def letsRespond : SessionEvent → Bool
  | .detach => false
  | .answer surroundings _ => surroundings.fault.isNone
  | .begin _ _ _ | .proceed _ _ _ | .dispatch _ _ | .notify _ _ _ | .install _ _
  | .stream _ _ _ | .abandon => true

/-- Whether an event is about answers, or about what they rely on. -/
def concernsAnswers : SessionEvent → Bool
  | .dispatch _ (.request _) | .answer _ _ | .install _ _ | .detach => true
  | .dispatch _ (.response _) | .dispatch _ (.notification _) | .begin _ _ _ | .proceed _ _ _
  | .notify _ _ _ | .stream _ _ _ | .abandon => false

end SessionEvent

namespace Session

variable {first session next last : Session} {events more : List SessionEvent}
  {event : SessionEvent} {index : Nat} {answer : Answer} {phase : AnswerPhase}
  {noted : List Invocation} {written : List Message} {surroundings : Surroundings}
  {assignment : Assignment}

/-- What leaves the answers and what they rely on alone and writes no response. -/
structure SameAnswers (session next : Session) : Prop where
  handlers : next.handlers = session.handlers
  outlet : next.outlet = session.outlet
  answers : next.answers = session.answers
  responses : responses next.sent = responses session.sent

/-- A message that is no request leaves the answers alone. -/
theorem sameAnswers_actUpon {message : Message} (apart : message.request? = none)
    (session : Session) (time : Nat) : session.SameAnswers (session.actUpon time message) := by
  cases message with
  | request asked => cases apart
  | response given =>
    obtain ⟨_, _, _, _, same⟩ := session.handOver_eq given
    rw [actUpon, same]
    exact ⟨rfl, rfl, rfl, rfl⟩
  | notification notice =>
    obtain ⟨_, _, heard⟩ := session.hear_eq time notice
    rw [actUpon, heard]
    exact ⟨rfl, rfl, rfl, rfl⟩

/-- A call that goes on leaves the answers alone. -/
theorem sameAnswers_of_proceed {turn : CallTurn} {ticket : Nat}
    (happens : session.after? (.proceed turn surroundings ticket) = some next) :
    session.SameAnswers next := by
  cases Effect.of_after? happens with
  | send =>
    refine ⟨rfl, rfl, rfl, ?_⟩
    simp [setPhase, Session.responses, Call.request, Message.response?]
  | aside isAside => cases isAside
  | _ => exact ⟨rfl, rfl, rfl, rfl⟩

/-- A notification that is written leaves the answers alone. -/
theorem sameAnswers_of_notify {fault : Option StreamFault} {method : String} {params : Option Json}
    (happens : session.after? (.notify fault method params) = some next) :
    session.SameAnswers next := by
  simp only [after?] at happens
  split at happens
  · next written =>
    cases happens
    rw [eq_of_write written]
    refine ⟨rfl, rfl, rfl, ?_⟩
    simp [Session.responses, Message.response?]
  · cases happens
    exact ⟨rfl, rfl, rfl, rfl⟩

/-- What is not about answers leaves them alone. -/
theorem sameAnswers_of_after? (apart : event.concernsAnswers = false)
    (happens : session.after? event = some next) : session.SameAnswers next := by
  cases event with
  | answer | install | detach => cases apart
  | begin | stream =>
    cases happens
    exact ⟨rfl, rfl, rfl, rfl⟩
  | proceed => exact sameAnswers_of_proceed happens
  | notify => exact sameAnswers_of_notify happens
  | dispatch time message =>
    cases happens
    cases message with
    | request asked => cases apart
    | response | notification => exact sameAnswers_actUpon rfl session time
  | abandon =>
    cases happens
    obtain ⟨calls, _, same⟩ := session.abandonCalls_eq
    rw [same]
    exact ⟨rfl, rfl, rfl, rfl⟩

/-- What is not about answers makes no assignment and uses no handler for one. -/
theorem book_of_apart (apart : event.concernsAnswers = false) (session : Session)
    (assignments : List Assignment) : session.book assignments event = assignments := by
  cases event with
  | dispatch time message =>
    cases message with
    | request asked => cases apart
    | response | notification => rfl
  | answer => cases apart
  | _ => rfl

/-! ## What an execution keeps -/

/-- What holds between the requests that have come in, the answers to them and the responses
that were written. -/
structure Tended (first : Session) (events : List SessionEvent) (session : Session) : Prop where
  attached : session.outlet = .attached
  guided : List.Forall₂ Assignment.Guides (assigned first events) session.answers
  written : (responses session.sent).Perm
    (List.zipWith Assignment.paid (assigned first events) session.answers).flatten

/-- A request that comes in is one more to answer. -/
theorem Tended.of_request (tended : Tended first events session)
    (run : Steps first events session) (time : Nat) (asked : Request) :
    Tended first (events ++ [.dispatch time (.request asked)])
      (session.actUpon time (.request asked)) := by
  have booked : assigned first (events ++ [.dispatch time (.request asked)]) =
      assigned first events ++ [⟨asked, session.handlers.find? asked.method, none⟩] :=
    assigned_append_singleton run rfl
  refine ⟨tended.attached, ?_, ?_⟩
  · rw [booked]
    exact List.rel_append tended.guided (.cons (Assignment.guides_answer rfl) .nil)
  · rw [booked, actUpon, List.zipWith_append tended.guided.length_eq, List.flatten_append]
    simpa [Assignment.paid, AnswerPhase.isSettled] using tended.written

/-- Where an answer is, there is the assignment that guides it. -/
theorem exists_split {assignments : List Assignment} {answers : List Answer}
    (guided : List.Forall₂ Assignment.Guides assignments answers)
    (found : answers[index]? = some answer) :
    ∃ front assignment back frontToo backToo, assignments = front ++ assignment :: back ∧
      answers = frontToo ++ answer :: backToo ∧ front.length = index ∧ frontToo.length = index ∧
      List.Forall₂ Assignment.Guides front frontToo ∧ assignment.Guides answer ∧
      List.Forall₂ Assignment.Guides back backToo := by
  induction guided generalizing index with
  | nil => cases found
  | @cons assignment other assignments answers guides guided ih =>
    cases index with
    | zero =>
      obtain rfl := Option.some.inj found
      exact ⟨[], _, _, [], _, rfl, rfl, rfl, rfl, .nil, guides, guided⟩
    | succ index =>
      obtain ⟨front, here, back, frontToo, backToo, rfl, rfl, place, placeToo, before, guidesToo,
        behind⟩ := ih found
      exact ⟨assignment :: front, here, back, other :: frontToo, backToo, rfl, rfl,
        congrArg (· + 1) place, congrArg (· + 1) placeToo, .cons guides before, guidesToo, behind⟩

/-- An answer has the assignment in its place. -/
theorem exists_guide {assignments : List Assignment} {answers : List Answer}
    (guided : List.Forall₂ Assignment.Guides assignments answers)
    (found : answers[index]? = some answer) :
    ∃ assignment, assignments[index]? = some assignment ∧ assignment.Guides answer := by
  obtain ⟨front, assignment, back, _, _, rfl, _, rfl, _, _, guides, _⟩ :=
    exists_split guided found
  exact ⟨assignment, by simp, guides⟩

/-- An assignment has the answer in its place. -/
theorem exists_guided {assignments : List Assignment} {answers : List Answer}
    (guided : List.Forall₂ Assignment.Guides assignments answers)
    (place : assignments[index]? = some assignment) :
    ∃ answer, answers[index]? = some answer ∧ assignment.Guides answer := by
  obtain ⟨sameLength, each⟩ := List.forall₂_iff_get.mp guided
  obtain ⟨bound, rfl⟩ := List.getElem?_eq_some_iff.mp place
  exact ⟨_, List.getElem?_eq_getElem (sameLength ▸ bound), each index bound _⟩

/-- A list in which the element behind some others changes. -/
theorem modify_behind {α : Type} (front back : List α) (here : α) (change : α → α) :
    (front ++ here :: back).modify front.length change = front ++ change here :: back := by
  induction front with
  | nil => rfl
  | cons other front ih => simpa using ih

/-- An answer that goes on responds what its request is owed, and nothing else changes. -/
theorem Tended.of_turn (tended : Tended first events session) (run : Steps first events session)
    (found : session.answers[index]? = some answer)
    (turn : session.AnswerTurn surroundings answer phase noted written)
    (unhindered : surroundings.fault = none) :
    Tended first (events ++ [.answer surroundings index])
      (session.advanced index phase noted written) := by
  have happens : session.after? (.answer surroundings index) =
      some (session.advanced index phase noted written) :=
    stepAnswer_eq_some_iff.mpr ⟨answer, phase, noted, written, found, turn, rfl⟩
  obtain ⟨front, assignment, back, frontToo, backToo, listed, answers, rfl, place, before, guides,
    behind⟩ := exists_split tended.guided found
  obtain ⟨guidesThen, pays⟩ := turn.guides guides (by
    simp [unhindered, tended.attached, Outlet.hindrance?])
  have booked : assigned first (events ++ [.answer surroundings front.length]) =
      front ++ assignment.use (session.occasion surroundings.time assignment.asked.params) ::
        back := by
    rw [assigned_append_singleton run happens, listed]
    exact modify_behind front back assignment _
  have moved : (session.advanced front.length phase noted written).answers =
      frontToo ++ { answer with phase } :: backToo := by
    simp only [advanced, answers, ← place]
    exact modify_behind frontToo backToo answer _
  refine ⟨tended.attached, ?_, ?_⟩
  · rw [booked, moved]
    exact List.rel_append before (.cons guidesThen behind)
  · have paid := tended.written
    rw [listed, answers, List.zipWith_append place.symm, List.zipWith_cons_cons,
      Assignment.paid_of_unsettled _ turn.unsettled, List.flatten_append, List.flatten_cons,
      List.nil_append] at paid
    rw [booked, moved, List.zipWith_append place.symm, List.zipWith_cons_cons, pays,
      List.flatten_append, List.flatten_cons, advanced, responses_append]
    refine (paid.append_right _).trans ?_
    rw [List.append_assoc]
    exact List.perm_append_comm.append_left _

/-- Whatever lets a session respond keeps what it owes. -/
theorem Tended.of_after? (tended : Tended first events session) (run : Steps first events session)
    (lets : event.letsRespond = true) (happens : session.after? event = some next) :
    Tended first (events ++ [event]) next := by
  cases concerns : event.concernsAnswers with
  | false =>
    have same := sameAnswers_of_after? concerns happens
    have booked : assigned first (events ++ [event]) = assigned first events :=
      (assigned_append_singleton run happens).trans (book_of_apart concerns _ _)
    refine ⟨same.outlet.trans tended.attached, ?_, ?_⟩
    · rw [booked, same.answers]
      exact tended.guided
    · rw [booked, same.answers, same.responses]
      exact tended.written
  | true =>
    cases event with
    | begin | proceed | notify | stream | abandon => cases concerns
    | detach => cases lets
    | install method handler =>
      have booked := assigned_append_singleton run happens
      cases happens
      refine ⟨tended.attached, ?_, ?_⟩
      · rw [booked]
        exact tended.guided
      · rw [booked]
        exact tended.written
    | dispatch time message =>
      cases message with
      | response | notification => cases concerns
      | request asked =>
        cases happens
        exact tended.of_request run time asked
    | answer surroundings index =>
      obtain ⟨answer, phase, noted, written, found, turn, rfl⟩ := stepAnswer_eq_some_iff.mp happens
      exact tended.of_turn run found turn (Option.isNone_iff_eq_none.mp lets)

/-- An execution in which nothing keeps a session from responding keeps what it owes. -/
theorem tended_of_steps {handlers : Handlers} (run : Steps (.start handlers) events session)
    (lets : ∀ event ∈ events, event.letsRespond = true) :
    Tended (.start handlers) events session := by
  induction run with
  | refl => exact ⟨rfl, .nil, .nil⟩
  | step prior happens ih =>
    rw [List.forall_mem_append, List.forall_mem_singleton] at lets
    exact (ih lets.1).of_after? prior lets.2 happens

/-- When all answers are settled, the responses are those that the requests are owed. -/
theorem Tended.complete (tended : Tended first events session) (all : session.AllSettled) :
    (responses session.sent).Perm ((assigned first events).filterMap Assignment.reply?) := by
  have settled {assignments : List Assignment} {answers : List Answer}
      (guided : List.Forall₂ Assignment.Guides assignments answers)
      (all : ∀ answer ∈ answers, answer.phase.isSettled = true) :
      (List.zipWith Assignment.paid assignments answers).flatten =
        assignments.filterMap Assignment.reply? := by
    induction guided with
    | nil => rfl
    | @cons assignment answer _ _ _ _ ih =>
      rw [List.forall_mem_cons] at all
      rw [List.zipWith_cons_cons, List.flatten_cons, ih all.2, Assignment.paid, if_pos all.1]
      cases owed : assignment.reply? <;> simp [owed]
  exact settled tended.guided all ▸ tended.written

/-! ## All answers come to be settled -/

/-- Steps of answers that can write, at given times. -/
def answersAt (turns : List (Nat × Nat)) : List SessionEvent :=
  turns.map fun turn => .answer ⟨turn.1, none⟩ turn.2

/-- Steps of answers that can write let a session respond. -/
theorem letsRespond_answersAt (turns : List (Nat × Nat)) :
    ∀ event ∈ answersAt turns, event.letsRespond = true := by
  rw [answersAt, List.forall_mem_map]
  exact fun _ _ => rfl

/-- Answers that go on are no requests. -/
theorem requests_answersAt (turns : List (Nat × Nat)) : requests (answersAt turns) = [] := by
  induction turns with
  | nil => rfl
  | cons turn turns ih => exact ih

/-- How many steps the answers of a session may still take. -/
def ahead (session : Session) : Nat := session.total AnswerPhase.ahead

/-- Every answer that is not settled goes on when its handler is done, and whichever does brings
the end nearer. -/
theorem onward_of_unsettled (found : session.answers[index]? = some answer)
    (unsettled : answer.phase.isSettled = false) (late : answer.phase.due ≤ surroundings.time) :
    ∃ next, session.after? (.answer surroundings index) = some next ∧
      next.ahead < session.ahead := by
  obtain ⟨phase, noted, written, turn⟩ := session.exists_turn unsettled late
  refine ⟨_, stepAnswer_eq_some_iff.mpr ⟨answer, phase, noted, written, found, turn, rfl⟩, ?_⟩
  have fewer := turn.ahead_lt
  have changed : (session.advanced index phase noted written).ahead + answer.phase.ahead =
      session.ahead + phase.ahead := total_advanced found _
  omega

/-- What is said of all assignments, no matter whether their handlers have been used, can still be
said when an answer has gone on. -/
theorem forall_assigned_of_answer {property : Assignment → Prop}
    (kept : ∀ assignment occasion, property assignment → property (assignment.use occasion))
    (holds : ∀ assignment ∈ assigned first events, property assignment)
    (run : Steps first events session)
    (happens : session.after? (.answer surroundings index) = some next) :
    ∀ assignment ∈ assigned first (events ++ [.answer surroundings index]),
      property assignment := by
  intro assignment member
  rw [assigned_append_singleton run happens, book, List.mem_iff_getElem?] at member
  obtain ⟨place, found⟩ := member
  rw [List.getElem?_modify] at found
  obtain ⟨before, here, rfl⟩ := Option.map_eq_some_iff.mp found
  have held := holds before (List.mem_of_getElem? here)
  split
  · exact kept _ _ held
  · exact held

/-- Whether the handlers of all requests are always done at once. -/
def AllPrompt (first : Session) (events : List SessionEvent) : Prop :=
  ∀ assignment ∈ assigned first events, assignment.IsPrompt

/-- An answer whose handler is done at once can go on at any time. -/
theorem due_of_prompt (guides : assignment.Guides answer) (prompt : assignment.IsPrompt) :
    answer.phase.due = 0 := by
  cases current : answer.phase with
  | busy deadline outcome =>
    have permits := guides.permits
    rw [current] at permits
    obtain ⟨handler, handles, came⟩ := Option.bind_eq_some_iff.mp permits
    obtain ⟨occasion, _, course⟩ := Option.map_eq_some_iff.mp came
    simp [Handler.course, prompt handler handles occasion] at course
  | _ => rfl

/-- All answers can come to be settled, one step after the other, from any time on. If all
handlers are done at once, no time need pass. The induction is on the steps ahead. -/
theorem Tended.finishes (tended : Tended first events session) (run : Steps first events session)
    (time : Nat) :
    ∃ turns last, (∀ turn ∈ turns, time ≤ turn.1) ∧ (turns.map Prod.fst).Pairwise (· ≤ ·) ∧
      (AllPrompt first events → ∀ turn ∈ turns, turn.1 = time) ∧
      Steps session (answersAt turns) last ∧ last.AllSettled := by
  induction size : session.ahead using Nat.strongRecOn generalizing session events time with
  | _ size ih =>
    by_cases all : session.AllSettled
    · exact ⟨[], session, by simp, .nil, by simp, .refl, all⟩
    · simp only [AllSettled, not_forall] at all
      obtain ⟨answer, member, unsettled⟩ := all
      obtain ⟨index, found⟩ := List.mem_iff_getElem?.mp member
      obtain ⟨later, rises, isDue, isLater⟩ : ∃ later, time ≤ later ∧ answer.phase.due ≤ later ∧
          (answer.phase.due = 0 → later = time) :=
        ⟨max time answer.phase.due, Nat.le_max_left _ _, Nat.le_max_right _ _, by omega⟩
      have late : answer.phase.due ≤ (Surroundings.mk later none).time := isDue
      obtain ⟨next, happens, nearer⟩ := onward_of_unsettled found (by simpa using unsettled) late
      have tendedThen := tended.of_after? run rfl happens
      obtain ⟨turns, last, behind, sorted, promptly, onward, settled⟩ :=
        ih _ (size ▸ nearer) tendedThen (run.trans (.single happens)) later rfl
      refine ⟨(later, index) :: turns, last, ?_, ?_, fun prompt => ?_,
        Steps.cons_iff.mpr ⟨_, happens, onward⟩, settled⟩
      · rw [List.forall_mem_cons]
        exact ⟨rises, fun turn member => Nat.le_trans rises (behind turn member)⟩
      · rw [List.map_cons, List.pairwise_cons]
        exact ⟨List.forall_mem_map.mpr behind, sorted⟩
      · obtain ⟨assignment, place, guides⟩ := exists_guide tended.guided found
        have now := isLater (due_of_prompt guides (prompt assignment (List.mem_of_getElem? place)))
        rw [List.forall_mem_cons]
        exact ⟨now, fun turn member =>
          (promptly (forall_assigned_of_answer (fun _ _ held => held) prompt run happens) turn
            member).trans now⟩

end Session

end FoldAtlas
