import FoldAtlas.Analysis

/-!
# Rehearsals

A rehearsal runs a client in a time of its own, against streams that somebody
else fills. Several actors take part: the reader of the incoming stream and its
keeper, the answers to the requests of the other side, and jobs, which are the
calls and operations that were begun. An actor that can go on stands in a queue and goes
on until it has to wait; one that waits joins the queue when it can go on again.
This makes a run unique where the steps of a session alone leave it open.
-/

namespace FoldAtlas

/-- What a job brings. -/
inductive JobResult where
  /-- The result of a call, or nothing. -/
  | value (value : Json)
  /-- The result of an operation. -/
  | operation (result : OperationResult)
  /-- The report of an analysis. -/
  | report (report : Findings)
deriving Repr

namespace JobResult

/-- Write a result. -/
def encode : JobResult → Json
  | .value found => found
  | .operation result => result.encode
  | .report found => Findings.codec.encode found

end JobResult

/-- How a job ends. -/
inductive JobEnding where
  /-- With a result. -/
  | returned (result : JobResult)
  /-- With a failure. -/
  | failed (failure : Failure)
  /-- Not at all: it breaks down. -/
  | brokeDown
deriving Repr

namespace JobEnding

/-- The ending of a job that only makes a call. -/
def ofOutcome : Except Failure Json → JobEnding
  | .ok value => .returned (.value value)
  | .error failure => .failed failure

/-- The ending of a job that is an operation. -/
def ofEnding : Ending → JobEnding
  | .returned result => .returned (.operation result)
  | .failed failure => .failed failure
  | .brokeDown => .brokeDown

end JobEnding

/-- What was begun in the background. -/
inductive Job where
  /-- A call that has not begun. -/
  | makeCall (method : String) (params : Option Json) (limit : Option Duration)
  | call (ticket : Nat)
  /-- A notification. -/
  | notify (method : String) (params : Option Json)
  /-- The end of a session, before the outgoing stream is closed. -/
  | close
  /-- The end of a session, before the calls that wait are told. -/
  | drain
  | operation (operation : Operation)
  | analysis (subject : AnalysisSubject) (analysis : Analysis)
  /-- The job is over. -/
  | over (ending : JobEnding)
deriving Repr

namespace Job

/-- The ending of a job that is over. -/
def ending? : Job → Option JobEnding
  | .over ending => some ending
  | _ => none

/-- The number of the call that a job waits for. -/
def ticket? : Job → Option Nat
  | .call ticket
  | .operation (.greet (.asked ticket)) | .operation (.ask _ (.asked ticket))
  | .operation (.finish (.asked ticket))
  | .analysis _ (.running _ (.greet (.asked ticket)))
  | .analysis _ (.running _ (.ask _ (.asked ticket))) => some ticket
  | _ => none

/-- Advance a job by one step. -/
def step (client : Client) (surroundings : Surroundings) : Job → Option (Client × Job)
  | .makeCall method params limit =>
    let (session, ticket) := client.session.begin method params limit
    some ({ client with session }, .call ticket)
  | .call ticket =>
    match client.session.outcome? ticket with
    | some outcome => some (client, .over (.ofOutcome outcome))
    | none =>
      (client.session.stepCall surroundings ticket).map fun session =>
        ({ client with session }, .call ticket)
  | .notify method params =>
    match client.session.notify surroundings.fault method params with
    | .ok session => some ({ client with session }, .over (.returned (.value .null)))
    | .error failure => some (client, .over (.failed failure))
  | .close => some ({ client with session := client.session.detach }, .drain)
  | .drain =>
    some ({ client with session := client.session.abandonCalls }, .over (.returned (.value .null)))
  | .operation (.over ending) => some (client, .over (.ofEnding ending))
  | .operation current =>
    (client.step surroundings current).map fun (client, next) => (client, .operation next)
  | .analysis _ (.reported report) =>
    some (client, .over (.returned (.report report)))
  | .analysis _ (.failed failure) => some (client, .over (.failed failure))
  | .analysis _ .brokeDown => some (client, .over .brokeDown)
  | .analysis subject current =>
    (current.step subject client surroundings).map fun (client, next) =>
      (client, .analysis subject next)
  | .over _ => none

end Job

/-- Who can go on in a rehearsal. -/
inductive Actor where
  /-- The reader of the incoming stream. -/
  | intake
  /-- The keeper of the reader. -/
  | keeper
  /-- An answer, by its place among the answers. -/
  | answer (index : Nat)
  /-- A job, by its place among the jobs. -/
  | job (index : Nat)
deriving DecidableEq, Repr, Inhabited

/-- A client in a time of its own. -/
structure Rehearsal where
  client : Client
  /-- Everything that was begun in the background. -/
  jobs : List Job
  /-- The time, in milliseconds. -/
  time : Nat
  /-- Whether the other side reads what the client writes. -/
  listening : Bool
  /-- The actors that can go on, in turn. -/
  ready : List Actor
  /-- The actors that wait, in the order in which they began to. -/
  waiting : List Actor

namespace Rehearsal

/-- A rehearsal at its start. -/
def start (client : Client) : Rehearsal where
  client := client
  jobs := []
  time := 0
  listening := true
  ready := []
  waiting := [.intake, .keeper]

/-- What a step finds around it: who writes to somebody who no longer reads has
a broken pipe. -/
def surroundings (rehearsal : Rehearsal) : Surroundings where
  time := rehearsal.time
  fault := if rehearsal.listening then none else some .brokenPipe

/-- Change the session of the client. -/
def withSession (rehearsal : Rehearsal) (session : Session) : Rehearsal :=
  { rehearsal with client := { rehearsal.client with session } }

/-- Advance an actor by one step, if it can go on. -/
def stepActor (rehearsal : Rehearsal) : Actor → Option Rehearsal
  | .intake =>
    (rehearsal.client.session.stepIntake rehearsal.surroundings).map rehearsal.withSession
  | .keeper => rehearsal.client.session.stepKeeper.map rehearsal.withSession
  | .answer index =>
    (rehearsal.client.session.stepAnswer rehearsal.surroundings index).map
      rehearsal.withSession
  | .job index =>
    match rehearsal.jobs[index]? with
    | none => none
    | some job =>
      (job.step rehearsal.client rehearsal.surroundings).map fun (client, job) =>
        { rehearsal with client, jobs := rehearsal.jobs.set index job }

/-- Whether an actor can go on. -/
def canGoOn (rehearsal : Rehearsal) (actor : Actor) : Bool :=
  (rehearsal.stepActor actor).isSome

/-- The point in time up to which a call waits. -/
def callDeadline (rehearsal : Rehearsal) (ticket : Nat) : Option Nat :=
  match rehearsal.client.session.calls[ticket]? with
  | some call =>
    match call.phase with
    | .waiting deadline => deadline
    | _ => none
  | none => none

/-- The point in time up to which an actor waits. -/
def deadline (rehearsal : Rehearsal) : Actor → Option Nat
  | .intake =>
    match rehearsal.client.session.intake with
    | .handling deadline _ => some deadline
    | _ => none
  | .keeper => none
  | .answer index =>
    match rehearsal.client.session.answers[index]? with
    | some answer =>
      match answer.phase with
      | .busy deadline _ => some deadline
      | _ => none
    | none => none
  | .job index =>
    match rehearsal.jobs[index]?.bind Job.ticket? with
    | some ticket => rehearsal.callDeadline ticket
    | none => none

/-- Let the actors whose time has come join the queue, in the order in which they
began to wait. -/
def wakeDue (rehearsal : Rehearsal) : Rehearsal :=
  let isDue (actor : Actor) := FoldAtlas.isDue (rehearsal.deadline actor) rehearsal.time
  { rehearsal with
    ready := rehearsal.ready ++ rehearsal.waiting.filter isDue
    waiting := rehearsal.waiting.filter fun actor => !isDue actor }

/-- Let the actors that can go on join the queue. -/
def wake (rehearsal : Rehearsal) : Rehearsal :=
  { rehearsal with
    ready := rehearsal.ready ++ rehearsal.waiting.filter rehearsal.canGoOn
    waiting := rehearsal.waiting.filter fun actor => !rehearsal.canGoOn actor }

/-- Let the answers behind the first `known` ones join the queue. -/
def admitAnswers (known : Nat) (rehearsal : Rehearsal) : Rehearsal :=
  let added := rehearsal.client.session.answers.length - known
  { rehearsal with
    ready := rehearsal.ready ++ (List.range added).map fun index => .answer (known + index) }

/-- One step of the actor whose turn it is. An actor that has to wait leaves the
queue. -/
def advance (rehearsal : Rehearsal) : Option Rehearsal :=
  match rehearsal.ready with
  | [] => none
  | actor :: rest =>
    match rehearsal.stepActor actor with
    | some next => some ((next.admitAnswers rehearsal.client.session.answers.length).wake)
    | none => some { rehearsal with ready := rest, waiting := rehearsal.waiting ++ [actor] }

/-- At most so many steps. -/
def advanceUpTo : (bound : Nat) → Rehearsal → Rehearsal
  | 0, rehearsal => rehearsal
  | bound + 1, rehearsal =>
    match rehearsal.advance with
    | none => rehearsal
    | some next => advanceUpTo bound next

/-- More steps than a rehearsal can take before every actor waits: each actor
has few stages, and each byte of the incoming stream is read once. -/
def stepBound (rehearsal : Rehearsal) : Nat :=
  16 * rehearsal.client.session.inbound.length +
    64 * (rehearsal.jobs.length + rehearsal.client.session.answers.length + 1)

/-- Go on until every actor waits. -/
def settle (rehearsal : Rehearsal) : Rehearsal :=
  let woken := rehearsal.wake
  advanceUpTo woken.stepBound woken

/-- Begin a job in the background. -/
def begin (rehearsal : Rehearsal) (job : Job) : Rehearsal :=
  { rehearsal with
    jobs := rehearsal.jobs ++ [job]
    ready := rehearsal.ready ++ [.job rehearsal.jobs.length] }

/-- Move on to a point in time. The actors whose time has come then join the
queue, but nobody goes on yet. -/
def moveTo (rehearsal : Rehearsal) (time : Nat) : Rehearsal :=
  { rehearsal with time }.wakeDue

/-- The next point in time up to which an actor waits. -/
def nextDeadline? (rehearsal : Rehearsal) : Option Nat :=
  (rehearsal.waiting.filterMap rehearsal.deadline).min?

/-- Let time pass up to a limit, in at most `bound` moves before the last. Whoever
is due on the way goes on at that time, and what is begun then may fall due on
the way too. -/
def passTo (limit : Nat) : (bound : Nat) → Rehearsal → Rehearsal
  | 0, rehearsal => rehearsal.settle.moveTo limit
  | bound + 1, rehearsal =>
    let settled := rehearsal.settle
    match settled.nextDeadline? with
    | none => settled.moveTo limit
    | some due =>
      if limit < due then settled.moveTo limit
      else passTo limit bound (settled.moveTo due)

/-- Let time pass. Every move but the last takes at least a millisecond, so there
are no more moves than milliseconds. -/
def pass (rehearsal : Rehearsal) (span : Nat) : Rehearsal :=
  passTo (rehearsal.time + span) span rehearsal

/-- Whether the other side has seen the end of what the client writes. -/
def outputEnded (rehearsal : Rehearsal) : Bool :=
  rehearsal.listening && rehearsal.client.session.outlet == .detached

end Rehearsal

end FoldAtlas
