import FoldAtlas.Proofs.Frame.Payloads
import FoldAtlas.Proofs.Session.Registration

/-!
# Connections

A session whose messages come from a byte stream. `Turn` says once what the reader
of the stream and its keeper do in one step, and `Connection` strings such turns
together with bytes that come in and with everything that a session does on its own,
in any order. A connection is an execution of its session (`Connection.steps`).

What has been dispatched and what is still to be read make up what has come in
(`Undecided`), until the reader comes upon something else than a frame (`Decided`).
Else it goes no further only for the handler of a notification that breaks down
(`BrokenBy`) or is never done (`HeldUpBy`).
-/

namespace FoldAtlas

namespace SessionEvent

/-- The message that an event dispatches. -/
def message? : SessionEvent → Option Message
  | .dispatch _ message => some message
  | _ => none

/-- Whether an event has nothing to do with the incoming stream. -/
def isOwn : SessionEvent → Bool
  | .dispatch _ _ | .stream _ _ _ => false
  | .begin _ _ _ | .proceed _ _ _ | .answer _ _ | .notify _ _ _ | .install _ _ | .detach
  | .abandon => true

/-- Only what comes off the stream is dispatched. -/
theorem message?_of_isOwn {event : SessionEvent} (own : event.isOwn = true) :
    event.message? = none := by
  cases event <;> first | rfl | cases own

end SessionEvent

namespace Session

/-- The messages that some events dispatch, in order. -/
def dispatched (events : List SessionEvent) : List Message :=
  events.filterMap SessionEvent.message?

variable {session next : Session} {event : SessionEvent} {events more : List SessionEvent}

/-! ## The stream of a session -/

/-- What leaves the incoming stream and the reader of it alone. -/
structure SameStream (session next : Session) : Prop where
  inbound : next.inbound = session.inbound
  inboundEnded : next.inboundEnded = session.inboundEnded
  intake : next.intake = session.intake

/-- A session leaves its own stream alone. -/
theorem SameStream.refl (session : Session) : session.SameStream session := ⟨rfl, rfl, rfl⟩

/-- Giving up the calls leaves the stream alone. -/
theorem sameStream_abandonCalls (session : Session) :
    session.SameStream session.abandonCalls := by
  obtain ⟨calls, _, same⟩ := session.abandonCalls_eq
  rw [same]
  exact ⟨rfl, rfl, rfl⟩

/-- Handing a response over leaves the stream alone. -/
theorem sameStream_handOver (session : Session) (response : Response) :
    session.SameStream (session.handOver response) := by
  obtain ⟨_, _, _, _, same⟩ := session.handOver_eq response
  rw [same]
  exact ⟨rfl, rfl, rfl⟩

/-- Writing leaves the stream alone. -/
theorem sameStream_of_write {fault : Option StreamFault} {message : Message}
    (written : session.write fault message = .ok next) : session.SameStream next := by
  rw [eq_of_write written]
  exact ⟨rfl, rfl, rfl⟩

/-- The answer to a request leaves the stream alone. -/
theorem sameStream_of_stepAnswer {surroundings : Surroundings} {index : Nat}
    (moved : session.stepAnswer surroundings index = some next) : session.SameStream next := by
  obtain ⟨_, _, _, _, _, _, rfl⟩ := stepAnswer_eq_some_iff.mp moved
  exact ⟨rfl, rfl, rfl⟩

/-- What a session does on its own leaves the stream alone. -/
theorem sameStream_of_isOwn (own : event.isOwn = true)
    (happens : session.after? event = some next) : session.SameStream next := by
  cases event with
  | dispatch | stream => cases own
  | begin | install | detach =>
    cases happens
    exact ⟨rfl, rfl, rfl⟩
  | proceed =>
    cases Effect.of_after? happens with
    | aside isAside => cases isAside
    | _ => exact ⟨rfl, rfl, rfl⟩
  | answer => exact sameStream_of_stepAnswer happens
  | notify fault method params =>
    simp only [after?] at happens
    split at happens
    · next written =>
      cases happens
      exact sameStream_of_write written
    · cases happens
      exact .refl session
  | abandon =>
    cases happens
    exact session.sameStream_abandonCalls

/-! ## Turns of the reader -/

/-- What the reader, or its keeper, does in one step. -/
inductive Turn (session : Session) (time : Nat) : List SessionEvent → Session → Prop where
  | message {payload rest : Bytes} {message : Message} (reading : session.intake = .reading)
      (arrives : Frame.Arrives session.inbound session.inboundEnded (.frame payload) rest)
      (decoded : Message.ofPayload payload = .ok message) :
      Turn session time
        [.stream rest session.inboundEnded session.intake, .dispatch time message]
        ({ session with inbound := rest }.actUpon time message)
  /-- A frame holds no message. -/
  | junk {payload rest : Bytes} {fault : JsonFault} (reading : session.intake = .reading)
      (arrives : Frame.Arrives session.inbound session.inboundEnded (.frame payload) rest)
      (refused : Message.ofPayload payload = .error fault) :
      Turn session time [.stream rest session.inboundEnded session.intake]
        { session with inbound := rest }
  /-- There is no frame. -/
  | halt {delivery : Frame.Delivery} {rest : Bytes} (reading : session.intake = .reading)
      (arrives : Frame.Arrives session.inbound session.inboundEnded delivery rest)
      (noFrame : delivery.isFrame = false) :
      Turn session time [.stream rest session.inboundEnded .failing]
        { session with inbound := rest, intake := .failing }
  /-- The handler of a notification is done. -/
  | resume {deadline : Nat} {breaksDown : Bool}
      (handling : session.intake = .handling deadline breaksDown) (due : deadline ≤ time) :
      Turn session time
        [.stream session.inbound session.inboundEnded
          (afterHandler breaksDown)]
        { session with intake := afterHandler breaksDown }
  /-- The calls that wait are told that the session is over. -/
  | stop (halted : session.intake = .failing ∨ session.intake = .broken) :
      Turn session time
        [.abandon, .stream session.abandonCalls.inbound session.abandonCalls.inboundEnded
          .stopped]
        { session.abandonCalls with intake := .stopped }

/-- What the reader makes of a report is a turn. -/
theorem Turn.of_accept {time : Nat} {delivery : Frame.Delivery} {rest : Bytes}
    (reading : session.intake = .reading)
    (arrives : Frame.Arrives session.inbound session.inboundEnded delivery rest) :
    ∃ events, Turn session time events ({ session with inbound := rest }.accept time delivery) := by
  cases delivery with
  | frame payload =>
    simp only [accept]
    cases decoded : Message.ofPayload payload with
    | ok message => exact ⟨_, .message reading arrives decoded⟩
    | error fault => exact ⟨_, .junk reading arrives decoded⟩
  | failure error => exact ⟨_, .halt reading arrives rfl⟩
  | endOfStream => exact ⟨_, .halt reading arrives rfl⟩

/-- Every step of the reader or its keeper is a turn. -/
theorem Turn.of_step {surroundings : Surroundings}
    (moved : session.stepIntake surroundings = some next ∨ session.stepKeeper = some next) :
    ∃ events, Turn session surroundings.time events next := by
  rcases moved with moved | moved
  · simp only [stepIntake] at moved
    split at moved
    · next reading =>
      split at moved
      · next delivery rest delivered =>
        cases moved
        exact Turn.of_accept reading (.inl delivered)
      · next atEnd starved =>
        split at moved
        · next ended =>
          cases moved
          exact Turn.of_accept reading (.inr ⟨ended, starved, rfl⟩)
        · cases moved
    · next deadline breaksDown handling =>
      split at moved
      · next due =>
        cases moved
        exact ⟨_, .resume handling due⟩
      · cases moved
    · next failing =>
      cases moved
      exact ⟨_, .stop (.inl failing)⟩
    all_goals cases moved
  · simp only [stepKeeper] at moved
    split at moved
    · next broken =>
      cases moved
      exact ⟨_, .stop (.inr broken)⟩
    all_goals cases moved

/-- Every turn is a step of the reader or its keeper. -/
theorem Turn.step {surroundings : Surroundings}
    (turn : Turn session surroundings.time events next) :
    session.stepIntake surroundings = some next ∨ session.stepKeeper = some next := by
  have reads {delivery : Frame.Delivery} {rest : Bytes} (reading : session.intake = .reading)
      (arrives : Frame.Arrives session.inbound session.inboundEnded delivery rest) :
      session.stepIntake surroundings =
        some ({ session with inbound := rest }.accept surroundings.time delivery) := by
    rcases arrives with delivered | ⟨ended, starved, rfl⟩
    · simp only [stepIntake, reading, delivered]
    · simp only [stepIntake, reading, starved, ended, ↓reduceIte]
  cases turn with
  | message reading arrives decoded =>
    exact .inl (by simp only [reads reading arrives, accept, decoded])
  | junk reading arrives refused =>
    exact .inl (by simp only [reads reading arrives, accept, refused])
  | @halt delivery rest reading arrives noFrame =>
    refine .inl ((reads reading arrives).trans ?_)
    cases delivery with
    | frame payload => cases noFrame
    | failure _ | endOfStream => rfl
  | resume handling due => exact .inl (by simp only [stepIntake, handling, due, ↓reduceIte])
  | stop halted =>
    rcases halted with failing | broken
    · exact .inl (by simp only [stepIntake, failing])
    · exact .inr (by simp only [stepKeeper, broken])

/-- A turn is an execution of its session. -/
theorem Turn.steps {time : Nat} (turn : Turn session time events next) :
    Steps session events next := by
  cases turn with
  | message => exact .step (.single rfl) rfl
  | junk | halt | resume => exact .single rfl
  | stop => exact .step (.single rfl) rfl

/-! ## Connections -/

/-- A session that has come from another one by what it does on its own, by bytes that
came in, and by turns of the reader: all bytes that came in, all events, and the
session. -/
inductive Connection (first : Session) : Bytes → List SessionEvent → Session → Prop where
  | start : Connection first [] [] first
  | own {inflow : Bytes} {events : List SessionEvent} {session next : Session}
      {event : SessionEvent} (prior : Connection first inflow events session)
      (own : event.isOwn = true) (happens : session.after? event = some next) :
      Connection first inflow (events ++ [event]) next
  | receive {inflow : Bytes} {events : List SessionEvent} {session : Session}
      (prior : Connection first inflow events session) (bytes : Bytes)
      (live : session.inboundEnded = false) :
      Connection first (inflow ++ bytes)
        (events ++ [.stream (session.inbound ++ bytes) false session.intake])
        (session.receive bytes)
  | endInbound {inflow : Bytes} {events : List SessionEvent} {session : Session}
      (prior : Connection first inflow events session) :
      Connection first inflow (events ++ [.stream session.inbound true session.intake])
        session.endInbound
  | read {inflow : Bytes} {events more : List SessionEvent} {session next : Session}
      (prior : Connection first inflow events session) (time : Nat)
      (turn : Turn session time more next) : Connection first inflow (events ++ more) next

/-- Some turns of the reader, one after the other. -/
inductive Turns : Session → List SessionEvent → Session → Prop where
  | refl {session : Session} : Turns session [] session
  | step {session next last : Session} {time : Nat} {events more : List SessionEvent}
      (turn : Turn session time events next) (onward : Turns next more last) :
      Turns session (events ++ more) last

variable {first last : Session} {inflow : Bytes} {time : Nat}

/-- Bytes come in as long as the stream has not ended. -/
theorem receive_of_live (live : session.inboundEnded = false) (bytes : Bytes) :
    session.receive bytes =
      { session with inbound := session.inbound ++ bytes, inboundEnded := false } := by
  simp only [receive, live, Bool.false_eq_true, ↓reduceIte]

/-- A connection is an execution of its session. -/
theorem Connection.steps (connection : Connection first inflow events session) :
    Steps first events session := by
  induction connection with
  | start => exact .refl
  | own _ _ happens ih => exact .step ih happens
  | receive _ bytes live ih => exact .step ih (by rw [receive_of_live live]; rfl)
  | endInbound _ ih => exact .step ih rfl
  | read _ _ turn ih => exact ih.trans turn.steps

/-- A connection goes on with what its session does on its own. -/
theorem Connection.own_run (connection : Connection first inflow events session)
    (own : ∀ event ∈ more, event.isOwn = true) (ran : session.run? more = some last) :
    Connection first inflow (events ++ more) last := by
  induction more generalizing events session with
  | nil =>
    cases ran
    simpa using connection
  | cons event more ih =>
    obtain ⟨next, happens, onward⟩ := Steps.cons_iff.mp (steps_iff_run?.mpr ran)
    have gone := connection.own (own event List.mem_cons_self) happens
    have later := ih gone (fun other member => own other (List.mem_cons_of_mem _ member))
      (steps_iff_run?.mp onward)
    simpa using later

/-- A connection goes on with turns of the reader. -/
theorem Connection.turns (connection : Connection first inflow events session)
    (turns : Turns session more last) : Connection first inflow (events ++ more) last := by
  induction turns generalizing events with
  | refl => simpa using connection
  | @step session next last time events more turn _ ih =>
    rw [← List.append_assoc]
    exact ih (connection.read time turn)

/-! ## How far the reader is -/

/-- Whether the last message that was dispatched is a notification, and what comes of the use
of its handler, if the handler is ever done. -/
def LastHeard (first : Session) (events : List SessionEvent) (notice : Notification)
    (outcome? : Option HandlerOutcome) : Prop :=
  ∃ before time behind middle handler,
    events = before ++ .dispatch time (.notification notice) :: behind ∧
    Steps first before middle ∧ middle.handlers.find? notice.method = some handler ∧
    (handler.course (middle.occasion time notice.params)).outcome? = outcome? ∧
    dispatched behind = []

/-- Whether the handler of the notification that was dispatched last breaks down. -/
def BrokenBy (first : Session) (events : List SessionEvent) (notice : Notification) : Prop :=
  LastHeard first events notice (some .breakdown)

/-- Whether the handler of the notification that was dispatched last is never done. -/
def HeldUpBy (first : Session) (events : List SessionEvent) (notice : Notification) : Prop :=
  LastHeard first events notice none

/-- Whether what has been dispatched and what is still to be read make up what has come
in. -/
structure Undecided (inflow : Bytes) (events : List SessionEvent) (session : Session) : Prop where
  messages : ∀ more, (session.inboundEnded = true → more = []) →
    Frame.messages (inflow ++ more) = dispatched events ++ Frame.messages (session.inbound ++ more)
  halts : session.inboundEnded = false → ∀ more,
    Frame.Halts (inflow ++ more) ↔ Frame.Halts (session.inbound ++ more)

/-- Whether what has been dispatched is all that there is, whatever comes in later. -/
def Decided (inflow : Bytes) (events : List SessionEvent) (session : Session) : Prop :=
  ∀ more, (session.inboundEnded = true → more = []) →
    Frame.messages (inflow ++ more) = dispatched events

/-- Whether what has been dispatched are the first messages of what comes in. -/
def InOrder (inflow : Bytes) (events : List SessionEvent) (session : Session) : Prop :=
  ∀ more, (session.inboundEnded = true → more = []) →
    dispatched events <+: Frame.messages (inflow ++ more)

end Session

namespace IntakePhase

/-- Whether the reader reads on, if need be when a handler is done. -/
def isBusy : IntakePhase → Bool
  | .reading | .handling _ false => true
  | .handling _ true | .heldUp | .failing | .broken | .stopped => false

/-- Whether a handler breaks the reader down, or has done so. -/
def isBreaking : IntakePhase → Bool
  | .broken | .handling _ true => true
  | .reading | .handling _ false | .heldUp | .failing | .stopped => false

/-- Whether the reader goes no further: it is over, or waits for a handler that is never done. -/
def isFinal : IntakePhase → Bool
  | .heldUp | .stopped => true
  | .reading | .handling _ _ | .failing | .broken => false

end IntakePhase

namespace Session

variable {session next first last : Session} {event : SessionEvent}
  {events more : List SessionEvent} {inflow : Bytes} {time : Nat} {notice : Notification}
  {outcome? : Option HandlerOutcome}

/-- How far the reader of a connection is. -/
inductive Progress (first : Session) (inflow : Bytes) (events : List SessionEvent)
    (session : Session) : Prop where
  | busy (phase : session.intake.isBusy = true) (undecided : Undecided inflow events session)
  | breaking {notice : Notification} (phase : session.intake.isBreaking = true)
      (undecided : Undecided inflow events session) (broken : BrokenBy first events notice)
  | heldUp {notice : Notification} (phase : session.intake = .heldUp)
      (undecided : Undecided inflow events session) (held : HeldUpBy first events notice)
  | failing (phase : session.intake = .failing) (decided : Decided inflow events session)
  | halted (phase : session.intake = .stopped) (closed : session.closed = true)
      (decided : Decided inflow events session)
  | broke {notice : Notification} (phase : session.intake = .stopped)
      (closed : session.closed = true) (inOrder : InOrder inflow events session)
      (broken : BrokenBy first events notice)

/-- What some events and then others dispatch. -/
theorem dispatched_append (events more : List SessionEvent) :
    dispatched (events ++ more) = dispatched events ++ dispatched more :=
  List.filterMap_append

/-- Events that dispatch nothing. -/
theorem dispatched_append_of_quiet (events : List SessionEvent) (quiet : dispatched more = []) :
    dispatched (events ++ more) = dispatched events := by
  rw [dispatched_append, quiet, List.append_nil]

/-- What was dispatched last stays so while nothing is dispatched. -/
theorem LastHeard.append (heard : LastHeard first events notice outcome?)
    (quiet : dispatched more = []) : LastHeard first (events ++ more) notice outcome? := by
  obtain ⟨before, time, behind, middle, handler, rfl, run, found, comes, silent⟩ := heard
  refine ⟨before, time, behind ++ more, middle, handler, by simp, run, found, comes, ?_⟩
  rw [dispatched_append_of_quiet behind quiet, silent]

/-- Whether all that may still come in behind some bytes may have come in behind fewer
of them. -/
def MayFollow (inflow : Bytes) (session : Session) (later : Bytes) (next : Session) : Prop :=
  ∀ bytes, (next.inboundEnded = true → bytes = []) →
    ∃ more, (session.inboundEnded = true → more = []) ∧ later ++ bytes = inflow ++ more

/-- What is decided stays so. -/
theorem Decided.append {later : Bytes} (decided : Decided inflow events session)
    (quiet : dispatched more = []) (follows : MayFollow inflow session later next) :
    Decided later (events ++ more) next := fun bytes none => by
  obtain ⟨front, noneBefore, same⟩ := follows bytes none
  rw [same, dispatched_append_of_quiet events quiet]
  exact decided front noneBefore

/-- What is in order stays so. -/
theorem InOrder.append {later : Bytes} (inOrder : InOrder inflow events session)
    (quiet : dispatched more = []) (follows : MayFollow inflow session later next) :
    InOrder later (events ++ more) next := fun bytes none => by
  obtain ⟨front, noneBefore, same⟩ := follows bytes none
  rw [same, dispatched_append_of_quiet events quiet]
  exact inOrder front noneBefore

/-- What dispatches nothing leaves the reader where it is, if it leaves what is
undecided so. -/
theorem Progress.append {later : Bytes} (progress : Progress first inflow events session)
    (quiet : dispatched more = []) (phase : next.intake = session.intake)
    (closed : session.closed = true → next.closed = true)
    (follows : MayFollow inflow session later next)
    (onward : Undecided inflow events session → Undecided later (events ++ more) next) :
    Progress first later (events ++ more) next := by
  cases progress with
  | busy isBusy undecided => exact .busy (phase ▸ isBusy) (onward undecided)
  | breaking isBreaking undecided broken =>
    exact .breaking (phase ▸ isBreaking) (onward undecided) (broken.append quiet)
  | heldUp heldUp undecided held =>
    exact .heldUp (phase.trans heldUp) (onward undecided) (held.append quiet)
  | failing failing decided =>
    exact .failing (phase.trans failing) (decided.append quiet follows)
  | halted stopped wasClosed decided =>
    exact .halted (phase.trans stopped) (closed wasClosed) (decided.append quiet follows)
  | broke stopped wasClosed inOrder broken =>
    exact .broke (phase.trans stopped) (closed wasClosed) (inOrder.append quiet follows)
      (broken.append quiet)

/-- What leaves the stream alone lets the same come in. -/
theorem MayFollow.of_ended (inflow : Bytes) (ended : next.inboundEnded = session.inboundEnded) :
    MayFollow inflow session inflow next :=
  fun bytes none => ⟨bytes, ended ▸ none, rfl⟩

/-- What is undecided stays so while the stream is left alone. -/
theorem Undecided.of_same (undecided : Undecided inflow events session)
    (inbound : next.inbound = session.inbound) (ended : next.inboundEnded = session.inboundEnded)
    (quiet : dispatched more = []) : Undecided inflow (events ++ more) next where
  messages bytes none := by
    rw [dispatched_append_of_quiet events quiet, inbound]
    exact undecided.messages bytes (ended ▸ none)
  halts live bytes := by
    rw [inbound]
    exact undecided.halts (ended ▸ live) bytes

/-- What dispatches nothing and leaves the stream alone leaves the reader where it is. -/
theorem Progress.of_same (progress : Progress first inflow events session)
    (same : session.SameStream next) (quiet : dispatched more = [])
    (closed : session.closed = true → next.closed = true) :
    Progress first inflow (events ++ more) next :=
  progress.append quiet same.intake closed (.of_ended inflow same.inboundEnded)
    fun undecided => undecided.of_same same.inbound same.inboundEnded quiet

/-- Bytes that come in leave the reader where it is. -/
theorem Progress.receive (progress : Progress first inflow events session) (bytes : Bytes)
    (live : session.inboundEnded = false) :
    Progress first (inflow ++ bytes)
      (events ++ [.stream (session.inbound ++ bytes) false session.intake])
      (session.receive bytes) := by
  have unending (more : Bytes) : session.inboundEnded = true → bytes ++ more = [] := by
    rw [live]
    rintro ⟨⟩
  rw [receive_of_live live]
  refine progress.append rfl rfl id ?_ fun undecided => ⟨fun more _ => ?_, fun _ more => ?_⟩
  · exact fun more _ => ⟨bytes ++ more, unending more, List.append_assoc inflow bytes more⟩
  · rw [dispatched_append_of_quiet events rfl, List.append_assoc,
      undecided.messages _ (unending more), List.append_assoc]
  · rw [List.append_assoc, undecided.halts live, List.append_assoc]

/-- The end of the stream leaves the reader where it is. -/
theorem Progress.endInbound (progress : Progress first inflow events session) :
    Progress first inflow (events ++ [.stream session.inbound true session.intake])
      session.endInbound := by
  refine progress.append rfl rfl id ?_ fun undecided => ⟨fun more none => ?_, fun live => ?_⟩
  · exact fun more none => ⟨more, fun _ => none rfl, rfl⟩
  · rw [dispatched_append_of_quiet events rfl]
    exact undecided.messages more fun _ => none rfl
  · cases live

/-! ## What a turn makes of it -/

/-- Acting upon a message leaves the stream alone. -/
theorem inbound_actUpon (session : Session) (time : Nat) (message : Message) :
    (session.actUpon time message).inbound = session.inbound ∧
      (session.actUpon time message).inboundEnded = session.inboundEnded := by
  cases message with
  | request asked => exact ⟨rfl, rfl⟩
  | response response =>
    have same := session.sameStream_handOver response
    exact ⟨same.inbound, same.inboundEnded⟩
  | notification notice =>
    obtain ⟨_, _, heard⟩ := session.hear_eq time notice
    rw [actUpon, heard]
    exact ⟨rfl, rfl⟩

/-- Whether a session gives a notification to a handler, and what comes of that, if the handler
is ever done. -/
def Hears (session : Session) (time : Nat) (message : Message)
    (outcome? : Option HandlerOutcome) : Prop :=
  ∃ notice handler, message = .notification notice ∧
    session.handlers.find? notice.method = some handler ∧
    (handler.course (session.occasion time notice.params)).outcome? = outcome?

/-- A reader that acts upon a message reads on, unless the message is a notification
whose handler breaks down or is never done. -/
theorem intake_actUpon (session : Session) (time : Nat) (message : Message)
    (reading : session.intake = .reading) :
    (session.actUpon time message).intake.isBusy = true ∨
      ((session.actUpon time message).intake.isBreaking = true ∧
        session.Hears time message (some .breakdown)) ∨
      ((session.actUpon time message).intake = .heldUp ∧ session.Hears time message none) := by
  cases message with
  | request asked => exact .inl (by simp only [actUpon, reading, IntakePhase.isBusy])
  | response response =>
    refine .inl ?_
    simp only [actUpon, (session.sameStream_handOver response).intake, reading,
      IntakePhase.isBusy]
  | notification notice =>
    simp only [actUpon, hear]
    split
    · exact .inl (by simp only [reading, IntakePhase.isBusy])
    · next handler found =>
      have heard : session.Hears time (.notification notice)
          (handler.course (session.occasion time notice.params)).outcome? :=
        ⟨notice, handler, rfl, found, rfl⟩
      revert heard
      cases handler.course (session.occasion time notice.params) with
      | endless => exact fun heard => .inr (.inr ⟨rfl, heard⟩)
      | done outcome | busy deadline outcome =>
        intro heard
        cases outcome with
        | breakdown => exact .inr (.inl ⟨rfl, heard⟩)
        | value | error => exact .inl rfl

/-- Only a busy reader reads. -/
theorem Progress.undecided_of_reading (progress : Progress first inflow events session)
    (reading : session.intake = .reading) : Undecided inflow events session := by
  cases progress with
  | busy _ undecided | breaking _ undecided | heldUp _ undecided => exact undecided
  | failing phase | halted phase | broke phase =>
    rw [reading] at phase
    cases phase

/-- What is undecided when a frame has been taken off the stream. -/
theorem Undecided.of_frame {payload rest : Bytes} (undecided : Undecided inflow events session)
    (next : Session)
    (arrives : Frame.Arrives session.inbound session.inboundEnded (.frame payload) rest)
    (inbound : next.inbound = rest) (ended : next.inboundEnded = session.inboundEnded)
    (told : dispatched more = (Message.ofPayload payload).toOption.toList) :
    Undecided inflow (events ++ more) next where
  messages bytes none := by
    have none := ended ▸ none
    rw [undecided.messages bytes none, Frame.messages_of_frame (arrives.read bytes none), inbound,
      dispatched_append, told, List.append_assoc]
  halts live bytes := by
    have live := ended ▸ live
    have delivered : Frame.next session.inbound = .delivered (.frame payload) rest := by
      rcases arrives with delivered | ⟨ended, _⟩
      · exact delivered
      · rw [live] at ended
        cases ended
    rw [undecided.halts live bytes, inbound,
      Frame.halts_iff_of_frame (Frame.next_append delivered bytes)]

/-- A reader that has waited for a handler reads on, or is broken down. -/
theorem Progress.resume {deadline : Nat} {breaksDown : Bool}
    (progress : Progress first inflow events session)
    (handling : session.intake = .handling deadline breaksDown) :
    Progress first inflow
      (events ++ [.stream session.inbound session.inboundEnded
        (afterHandler breaksDown)])
      { session with intake := afterHandler breaksDown } := by
  cases progress with
  | busy isBusy undecided =>
    cases breaksDown with
    | false => exact .busy rfl (undecided.of_same rfl rfl rfl)
    | true =>
      rw [handling] at isBusy
      cases isBusy
  | breaking isBreaking undecided broken =>
    cases breaksDown with
    | false =>
      rw [handling] at isBreaking
      cases isBreaking
    | true => exact .breaking rfl (undecided.of_same rfl rfl rfl) (broken.append rfl)
  | heldUp phase | failing phase | halted phase | broke phase =>
    rw [handling] at phase
    cases phase

/-- A reader that the stream has failed or that is broken down stops. -/
theorem Progress.stop (progress : Progress first inflow events session)
    (halted : session.intake = .failing ∨ session.intake = .broken) :
    Progress first inflow
      (events ++ [.abandon, .stream session.abandonCalls.inbound
        session.abandonCalls.inboundEnded .stopped])
      { session.abandonCalls with intake := .stopped } := by
  obtain ⟨calls, _, abandoned⟩ := session.abandonCalls_eq
  have closed : session.abandonCalls.closed = true := by rw [abandoned]
  have ended : session.abandonCalls.inboundEnded = session.inboundEnded := by rw [abandoned]
  cases progress with
  | failing _ decided => exact .halted rfl closed (decided.append rfl (.of_ended inflow ended))
  | breaking _ undecided broken =>
    refine .broke rfl closed (fun bytes none => ?_) (broken.append rfl)
    rw [dispatched_append_of_quiet events rfl, undecided.messages bytes (ended ▸ none)]
    exact List.prefix_append _ _
  | busy phase | heldUp phase | halted phase | broke phase =>
    rcases halted with halted | halted <;> rw [halted] at phase <;> cases phase

/-- A turn of the reader gets it on. -/
theorem Progress.turn (progress : Progress first inflow events session)
    (run : Steps first events session) (turn : Turn session time more next) :
    Progress first inflow (events ++ more) next := by
  cases turn with
  | @message payload rest message reading arrives decoded =>
    have undecided := progress.undecided_of_reading reading
    obtain ⟨inbound, ended⟩ := { session with inbound := rest }.inbound_actUpon time message
    have told : dispatched
        [.stream rest session.inboundEnded session.intake, .dispatch time message] =
          (Message.ofPayload payload).toOption.toList := by
      rw [decoded]
      rfl
    have onward := undecided.of_frame _ arrives inbound ended told
    have before : Steps first (events ++ [.stream rest session.inboundEnded session.intake])
        { session with inbound := rest } := run.trans (.single rfl)
    rcases { session with inbound := rest }.intake_actUpon time message reading with
      isBusy | ⟨isBreaking, notice, handler, rfl, found, breaks⟩ |
      ⟨heldUp, notice, handler, rfl, found, endless⟩
    · exact .busy isBusy onward
    · exact .breaking isBreaking onward
        ⟨_, time, [], _, handler, by simp, before, found, breaks, rfl⟩
    · exact .heldUp heldUp onward
        ⟨_, time, [], _, handler, by simp, before, found, endless, rfl⟩
  | @junk payload rest fault reading arrives refused =>
    have undecided := progress.undecided_of_reading reading
    have told : dispatched [.stream rest session.inboundEnded session.intake] =
        (Message.ofPayload payload).toOption.toList := by
      rw [refused]
      rfl
    have onward := undecided.of_frame { session with inbound := rest } arrives rfl rfl told
    exact .busy (by simp only [reading, IntakePhase.isBusy]) onward
  | halt reading arrives noFrame =>
    have undecided := progress.undecided_of_reading reading
    refine .failing rfl fun bytes none => ?_
    rw [undecided.messages bytes none, Frame.messages_of_noFrame (arrives.read bytes none) noFrame,
      List.append_nil]
    exact (dispatched_append_of_quiet events rfl).symm
  | resume handling => exact progress.resume handling
  | stop halted => exact progress.stop halted

/-- The reader of every connection is somewhere. -/
theorem Connection.progress {handlers : Handlers}
    (connection : Connection (.start handlers) inflow events session) :
    Progress (.start handlers) inflow events session := by
  induction connection with
  | start => exact .busy rfl ⟨fun _ _ => rfl, fun _ _ => .rfl⟩
  | own _ own happens ih =>
    refine ih.of_same (sameStream_of_isOwn own happens) ?_
      (Effect.of_after? happens).closed
    simp only [dispatched, List.filterMap_cons, SessionEvent.message?_of_isOwn own,
      List.filterMap_nil]
  | receive _ bytes live ih => exact ih.receive bytes live
  | endInbound _ ih => exact ih.endInbound
  | read prior _ turn ih => exact ih.turn prior.steps turn

/-- A reader that goes no further has stopped, or waits for a handler that is never done. -/
theorem Progress.of_isFinal (progress : Progress first inflow events session)
    (final : session.intake.isFinal = true) :
    session.intake = .stopped ∨
      session.intake = .heldUp ∧ ∃ notice, HeldUpBy first events notice := by
  cases phase : session.intake with
  | stopped => exact .inl rfl
  | heldUp =>
    cases progress with
    | heldUp _ _ held => exact .inr ⟨rfl, _, held⟩
    | busy other | breaking other | failing other | halted other | broke other =>
      rw [phase] at other
      cases other
  | reading | handling | failing | broken =>
    rw [phase] at final
    cases final

/-! ## The reader stops -/

/-- Whether some turns of the reader lead to a point where it goes no further. -/
def Stops (session : Session) : Prop :=
  ∃ events last, Turns session events last ∧ last.intake.isFinal = true

/-- A reader stops if it does so behind a turn. -/
theorem Stops.of_turn (time : Nat) (turn : Turn session time events next) (stops : next.Stops) :
    session.Stops := by
  obtain ⟨more, last, turns, stopped⟩ := stops
  exact ⟨_, last, .step turn turns, stopped⟩

/-- A reader that the stream has failed or that is broken down stops. -/
theorem stops_of_halted (halted : session.intake = .failing ∨ session.intake = .broken) :
    session.Stops :=
  .of_turn 0 (.stop halted) ⟨[], _, .refl, rfl⟩

/-- A reader that a handler breaks down stops. -/
theorem stops_of_isBreaking (isBreaking : session.intake.isBreaking = true) : session.Stops := by
  cases phase : session.intake with
  | broken => exact stops_of_halted (.inr phase)
  | handling deadline breaksDown =>
    rw [phase] at isBreaking
    cases breaksDown with
    | false => cases isBreaking
    | true =>
      have resumes := Turn.resume phase (Nat.le_refl deadline)
      exact .of_turn deadline resumes (stops_of_halted (.inr rfl))
  | reading | heldUp | failing | stopped =>
    rw [phase] at isBreaking
    cases isBreaking

/-- A busy reader stops if it does so when it reads on. -/
theorem stops_of_isBusy (isBusy : session.intake.isBusy = true)
    (onward : { session with intake := .reading }.Stops) : session.Stops := by
  cases phase : session.intake with
  | reading =>
    rw [← phase] at onward
    exact onward
  | handling deadline breaksDown =>
    rw [phase] at isBusy
    cases breaksDown with
    | true => cases isBusy
    | false => exact .of_turn deadline (.resume phase (Nat.le_refl deadline)) onward
  | heldUp | failing | broken | stopped =>
    rw [phase] at isBusy
    cases isBusy

/-- A reader that comes upon the end of the stream, or upon something else than a
frame, stops. The induction is on the bytes that are not read yet. -/
theorem stops_of_reading (reading : session.intake = .reading)
    (ends : session.inboundEnded = true ∨ Frame.Halts session.inbound) : session.Stops := by
  induction size : session.inbound.length using Nat.strongRecOn generalizing session with
  | _ size ih =>
    obtain ⟨delivery, rest, arrives, endsBehind⟩ : ∃ delivery rest,
        Frame.Arrives session.inbound session.inboundEnded delivery rest ∧
        (delivery.isFrame = true → session.inboundEnded = true ∨ Frame.Halts rest) := by
      rcases ends with ended | halts
      · obtain ⟨delivery, rest, arrives⟩ := Frame.Arrives.of_ended session.inbound
        exact ⟨delivery, rest, ended ▸ arrives, fun _ => .inl ended⟩
      · obtain ⟨delivery, rest, arrives, behind⟩ := halts.arrives session.inboundEnded
        exact ⟨delivery, rest, arrives, fun isFrame => .inr (behind isFrame)⟩
    cases delivery with
    | failure error => exact .of_turn 0 (.halt reading arrives rfl) (stops_of_halted (.inl rfl))
    | endOfStream => exact .of_turn 0 (.halt reading arrives rfl) (stops_of_halted (.inl rfl))
    | frame payload =>
      have shorter := arrives.rest_lt
      have behind := endsBehind rfl
      cases decoded : Message.ofPayload payload with
      | error fault =>
        refine .of_turn 0 (.junk reading arrives decoded) ?_
        exact ih rest.length (size ▸ shorter) reading behind rfl
      | ok message =>
        refine .of_turn 0 (.message reading arrives decoded) ?_
        obtain ⟨inbound, ended⟩ := { session with inbound := rest }.inbound_actUpon 0 message
        rcases { session with inbound := rest }.intake_actUpon 0 message reading with
          isBusy | ⟨isBreaking, _⟩ | ⟨heldUp, _⟩
        · refine stops_of_isBusy isBusy (ih rest.length (size ▸ shorter) rfl ?_ ?_)
          · simp only [inbound, ended]
            exact behind
          · simp only [inbound]
        · exact stops_of_isBreaking isBreaking
        · exact ⟨[], _, .refl, by rw [heldUp]; rfl⟩

/-- However far the reader of a connection is: if the stream has ended or holds
something else than a frame, the reader stops. -/
theorem Connection.stops {handlers : Handlers}
    (connection : Connection (.start handlers) inflow events session)
    (ends : session.inboundEnded = true ∨ Frame.Halts inflow) : session.Stops := by
  cases connection.progress with
  | busy isBusy undecided =>
    refine stops_of_isBusy isBusy (stops_of_reading rfl ?_)
    cases ended : session.inboundEnded with
    | true => exact .inl rfl
    | false =>
      refine .inr ?_
      have halts := undecided.halts ended []
      rw [List.append_nil, List.append_nil] at halts
      exact halts.mp (ends.resolve_left (by simp [ended]))
  | breaking isBreaking => exact stops_of_isBreaking isBreaking
  | failing failing => exact stops_of_halted (.inl failing)
  | heldUp final | halted final | broke final =>
    exact ⟨[], session, .refl, by rw [final]; rfl⟩

end Session

end FoldAtlas
