import FoldAtlas.Session.Call
import FoldAtlas.Session.Handler

/-!
# Sessions

One side of a connection over which both sides call each other. A session
allocates identifiers, keeps the calls that wait for responses, writes messages
and answers what the other side asks.

A session changes only in steps. `stepCall` and `stepAnswer` advance one call
and one answer by one phase, and `none` means that there is nothing to do for
now. `write` is the only way out: a message that could not be written leaves no
trace in `sent`. `abandonCalls` is the only way to close: from then on no call is
registered any more.
-/

namespace FoldAtlas

/-- What a step finds around it. Writing succeeds or fails within the step; that
it waits because the other side has stopped to read, and perhaps for ever, is left
out. -/
structure Surroundings where
  /-- The time, in milliseconds. -/
  time : Nat
  /-- What writing would run into, if anything. -/
  fault : Option StreamFault
deriving DecidableEq, Repr, Inhabited

/-- How far the answer to a request of the other side is. -/
inductive AnswerPhase where
  /-- The request has been read, and the handler of its method looked up. -/
  | begun (handler : Option Handler)
  /-- The handler is busy up to a point in time. -/
  | busy (deadline : Nat) (outcome : HandlerOutcome)
  /-- The handler is never done. -/
  | heldUp
  /-- The response is to be written. -/
  | replying (response : Response)
  /-- It is over. -/
  | finished
deriving Inhabited

/-- The answer to a request of the other side. -/
structure Answer where
  /-- The identifier of the request. -/
  id : RequestId
  method : String
  /-- The parameters, if there are any. -/
  params : Option Json
  /-- How far the answer is. -/
  phase : AnswerPhase

/-- How far the reader of the incoming stream is. -/
inductive IntakePhase where
  /-- It waits for a frame. -/
  | reading
  /-- It waits for the handler of a notification up to a point in time. -/
  | handling (deadline : Nat) (breaksDown : Bool)
  /-- It waits for the handler of a notification, which is never done. -/
  | heldUp
  /-- The stream has failed it, and it is to tell the calls that wait. -/
  | failing
  /-- A handler has broken it down, and somebody else is to tell the calls. -/
  | broken
  /-- It is over. -/
  | stopped
deriving DecidableEq, Repr, Inhabited

/-- Whether a session can still write. -/
inductive Outlet where
  /-- It can. -/
  | attached
  /-- The outgoing stream has been closed. -/
  | detached
deriving DecidableEq, Repr, Inhabited

/-- One side of a connection. -/
structure Session where
  /-- The next identifier. -/
  nextId : UInt64
  /-- Every call made so far. -/
  calls : List Call
  /-- The calls that wait for a response. -/
  pending : AwaitedCalls
  /-- Whether calls are refused. -/
  closed : Bool
  /-- How many responses answered no call. The count has no bound, as one of 64
  bits has that no stream can reach. -/
  strays : Nat
  /-- Whether the session can still write. -/
  outlet : Outlet
  /-- The messages written so far. -/
  sent : List Message
  /-- What to do with what the other side asks and tells. -/
  handlers : Handlers
  /-- The answers to every request of the other side so far. -/
  answers : List Answer
  /-- Every use of a handler so far. -/
  invocations : List Invocation
  /-- The bytes that have come in and are not yet read. -/
  inbound : Bytes
  /-- Whether no more bytes will come. -/
  inboundEnded : Bool
  /-- How far the reader of the incoming stream is. -/
  intake : IntakePhase
deriving Inhabited

namespace Session

/-- A session at its start. -/
def start (handlers : Handlers) : Session where
  nextId := 1
  calls := []
  pending := .empty
  closed := false
  strays := 0
  outlet := .attached
  sent := []
  handlers := handlers
  answers := []
  invocations := []
  inbound := []
  inboundEnded := false
  intake := .reading

/-- Write a message, unless writing fails. It does either at once: see
`Surroundings`. -/
def write (session : Session) (fault : Option StreamFault) (message : Message) :
    Except Failure Session :=
  match session.outlet, fault with
  | .detached, _ => .error .sessionClosed
  | .attached, some fault => .error (.stream fault)
  | .attached, none => .ok { session with sent := session.sent ++ [message] }

/-- Write a notification. -/
def notify (session : Session) (fault : Option StreamFault) (method : String)
    (params : Option Json) : Except Failure Session :=
  session.write fault (.notification (.make method params))

/-- Give a method a handler. -/
def install (session : Session) (method : String) (handler : Handler) : Session :=
  { session with handlers := session.handlers.install method handler }

/-! ## Calls -/

/-- Move a call to another phase. -/
def setPhase (session : Session) (ticket : Nat) (phase : CallPhase) : Session :=
  { session with calls := session.calls.modify ticket fun call => { call with phase } }

/-- Begin a call: it gets the next identifier. The second part of the answer is
the number under which the session keeps it. -/
def begin (session : Session) (method : String) (params : Option Json)
    (limit : Option Duration) : Session × Nat :=
  ({ session with
      nextId := session.nextId + 1
      calls := session.calls ++ [⟨session.nextId, method, params, limit, .allocated, none⟩] },
    session.calls.length)

/-- The outcome of a call that is over. -/
def outcome? (session : Session) (ticket : Nat) : Option (Except Failure Json) :=
  session.calls[ticket]?.bind fun call => call.phase.outcome?

/-- Expect the response to a call, unless calls are refused. -/
def register (session : Session) (ticket : Nat) (call : Call) : Session :=
  if session.closed then session.setPhase ticket (.finished (.error .sessionClosed))
  else
    { session with
      pending := session.pending.insert (.number call.id) ticket }.setPhase ticket .registered

/-- No longer expect the response to a call, which is over. -/
def withdraw (session : Session) (ticket : Nat) (call : Call) (failure : Failure) :
    Session :=
  { session with pending := session.pending.erase (.number call.id) }.setPhase ticket
    (.finished (.error failure))

/-- Write the request of a call. -/
def writeRequest (session : Session) (surroundings : Surroundings) (ticket : Nat)
    (call : Call) : Session :=
  match session.write surroundings.fault call.request with
  | .ok session =>
    session.setPhase ticket (.waiting (call.deadlineFrom surroundings.time))
  | .error failure => session.setPhase ticket (.unsent failure)

/-- Advance a call that waits: an outcome that has been handed over counts even
if the call has waited long enough. -/
def await (session : Session) (surroundings : Surroundings) (ticket : Nat) (call : Call)
    (deadline : Option Nat) : Option Session :=
  match call.inbox with
  | some outcome => some (session.setPhase ticket (.finished outcome))
  | none =>
    if isDue deadline surroundings.time then some (session.setPhase ticket .expired)
    else none

/-- Advance a call by one phase. -/
def stepCall (session : Session) (surroundings : Surroundings) (ticket : Nat) :
    Option Session :=
  match session.calls[ticket]? with
  | none => none
  | some call =>
    match call.phase with
    | .allocated => some (session.register ticket call)
    | .registered => some (session.writeRequest surroundings ticket call)
    | .unsent failure => some (session.withdraw ticket call failure)
    | .waiting deadline => session.await surroundings ticket call deadline
    | .expired => some (session.withdraw ticket call call.timeoutFailure)
    | .finished _ => none

/-- Hand an outcome over to a call. -/
def deliver (session : Session) (ticket : Nat) (outcome : Except Failure Json) : Session :=
  { session with
    calls := session.calls.modify ticket fun call => { call with inbox := some outcome } }

/-- The call that waits for the response with an identifier, and the identifier
under which it waits: the same one, or the number that it spells. -/
def awaited? (session : Session) (id : RequestId) : Option (RequestId × Nat) :=
  match session.pending.find? id with
  | some ticket => some (id, ticket)
  | none =>
    match id.spelled? with
    | none => none
    | some value =>
      (session.pending.find? (.number value)).map fun ticket => (.number value, ticket)

/-- Hand a response over to the call that waits for it. A response without
identifier is dropped, one that no call waits for is counted. -/
def handOver (session : Session) (response : Response) : Session :=
  match response.id with
  | none => session
  | some id =>
    match session.awaited? id with
    | none => { session with strays := session.strays + 1 }
    | some (awaited, ticket) =>
      { session with pending := session.pending.erase awaited }.deliver ticket
        response.outcome

/-- Refuse calls from now on, and let every call that waits fail. -/
def abandonCalls (session : Session) : Session :=
  session.pending.tickets.foldl (fun session ticket => session.deliver ticket
      (.error .sessionClosed))
    { session with closed := true, pending := .empty }

/-- Close the outgoing stream. -/
def detach (session : Session) : Session := { session with outlet := .detached }

/-! ## Answers -/

/-- Move an answer to another phase. -/
def setAnswer (session : Session) (index : Nat) (phase : AnswerPhase) : Session :=
  { session with answers := session.answers.modify index fun answer => { answer with phase } }

/-- What a handler that is used now can know. -/
def occasion (session : Session) (time : Nat) (params : Option Json) : Occasion :=
  ⟨session.invocations, time, params⟩

/-- Note the use of a handler. -/
def note (session : Session) (handler : Handler) (method : String) (params : Option Json) :
    Session :=
  { session with invocations := session.invocations ++ [handler.invocation method params] }

end Session

namespace HandlerOutcome

/-- The response that an outcome makes to the request with an identifier, if it makes one. -/
def response? (id : RequestId) : HandlerOutcome → Option Response
  | .value result => some (.ok id result)
  | .error refusal => some (.failed id refusal)
  | .breakdown => none

end HandlerOutcome

namespace Answer

/-- The phase of an answer whose handler is done. -/
def replyPhase (answer : Answer) (outcome : HandlerOutcome) : AnswerPhase :=
  match outcome.response? answer.id with
  | some response => .replying response
  | none => .finished

/-- The phase of an answer whose handler has been used. -/
def usePhase (answer : Answer) : HandlerCourse → AnswerPhase
  | .done outcome => answer.replyPhase outcome
  | .busy deadline outcome => .busy deadline outcome
  | .endless => .heldUp

end Answer

namespace Session

/-- Advance an answer by one phase. A response that cannot be written is lost. -/
def stepAnswer (session : Session) (surroundings : Surroundings) (index : Nat) :
    Option Session :=
  match session.answers[index]? with
  | none => none
  | some answer =>
    match answer.phase with
    | .begun none =>
      some (session.setAnswer index
        (.replying (.failed answer.id (.unhandledMethod answer.method))))
    | .begun (some handler) =>
      let course := handler.course (session.occasion surroundings.time answer.params)
      some ((session.note handler answer.method answer.params).setAnswer index
        (answer.usePhase course))
    | .busy deadline outcome =>
      if deadline ≤ surroundings.time then
        some (session.setAnswer index (answer.replyPhase outcome))
      else none
    | .replying response =>
      match session.write surroundings.fault (.response response) with
      | .ok session => some (session.setAnswer index .finished)
      | .error _ => some (session.setAnswer index .finished)
    | .heldUp | .finished => none

end Session

end FoldAtlas
