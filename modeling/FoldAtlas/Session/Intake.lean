import FoldAtlas.Session.Basic

/-!
# The incoming stream

How a session reads what the other side sends. Frames are read one after the
other; a frame that holds no message is dropped. A response is handed over, a
request begins an answer, and a notification is given to its handler, for which
the reader waits. Reading stops for good at the end of the stream, at the first
thing that is not a frame, and when the handler of a notification breaks down;
the session then refuses calls. It goes no further either when such a handler is
never done, but then nobody is told. A reader that the stream fails sees to that
itself. One that a handler has broken down cannot, and its keeper does so a
little later: what has its turn before the keeper may still call.
-/

namespace FoldAtlas

namespace Session

/-- Bytes come in. After the end of the stream there are none. -/
def receive (session : Session) (bytes : Bytes) : Session :=
  if session.inboundEnded then session
  else { session with inbound := session.inbound ++ bytes }

/-- The incoming stream ends. -/
def endInbound (session : Session) : Session := { session with inboundEnded := true }

/-- Whether the handler of a notification has broken down, and the reader with it. -/
def afterHandler (breaksDown : Bool) : IntakePhase := if breaksDown then .broken else .reading

/-- The phase of the reader when the handler of a notification has been used. -/
def handlingPhase : HandlerCourse → IntakePhase
  | .done outcome => afterHandler outcome.isBreakdown
  | .busy deadline outcome => .handling deadline outcome.isBreakdown
  | .endless => .heldUp

/-- Give a notification to its handler, if it has one. -/
def hear (session : Session) (time : Nat) (notice : Notification) : Session :=
  match session.handlers.find? notice.method with
  | none => session
  | some handler =>
    { session.note handler notice.method notice.params with
      intake := handlingPhase (handler.course (session.occasion time notice.params)) }

/-- Act upon a message. -/
def actUpon (session : Session) (time : Nat) : Message → Session
  | .response response => session.handOver response
  | .request request =>
    { session with
      answers := session.answers ++
        [⟨request.id, request.method, request.params,
          .begun (session.handlers.find? request.method)⟩] }
  | .notification notice => session.hear time notice

/-- Act upon what a read of the stream reports. -/
def accept (session : Session) (time : Nat) : Frame.Delivery → Session
  | .frame payload =>
    match Message.ofPayload payload with
    | .ok message => session.actUpon time message
    | .error _ => session
  | .failure _ | .endOfStream => { session with intake := .failing }

/-- Advance the reader by one step. -/
def stepIntake (session : Session) (surroundings : Surroundings) : Option Session :=
  match session.intake with
  | .reading =>
    match Frame.next session.inbound with
    | .delivered delivery rest =>
      some ({ session with inbound := rest }.accept surroundings.time delivery)
    | .starved atEnd =>
      if session.inboundEnded then
        some ({ session with inbound := [] }.accept surroundings.time atEnd)
      else none
  | .handling deadline breaksDown =>
    if deadline ≤ surroundings.time then
      some { session with intake := afterHandler breaksDown }
    else none
  | .failing => some { session.abandonCalls with intake := .stopped }
  | .heldUp | .broken | .stopped => none

/-- Advance the keeper of the reader by one step: when the reader has broken
down, the keeper tells the calls that wait. -/
def stepKeeper (session : Session) : Option Session :=
  match session.intake with
  | .broken => some { session.abandonCalls with intake := .stopped }
  | .reading | .handling _ _ | .heldUp | .failing | .stopped => none

end Session

end FoldAtlas
