import FoldAtlas.Session.Intake
import Mathlib.Data.List.Induction

/-!
# Executions of a session

A session changes by events, and `Session.after?` says what an event makes of it
with the functions that a rehearsal runs. `Session.Steps` strings events
together without any schedule: a call may go on at any time and may find any
surroundings, a message may be dispatched at any time, and the session may be
detached or give up its calls at any time. The reader, its keeper and the answers
to the other side take only steps of this kind, and only such as happen in the
background of whoever makes calls (`stepIntake_proceeds`, `stepKeeper_proceeds`).

`Session.Effect` says once what an event can do to the calls of a session.
-/

namespace FoldAtlas

namespace CallPhase

/-- The phases between the registration of a call and its return. -/
def isOutstanding : CallPhase → Bool
  | .registered | .unsent _ | .waiting _ | .expired => true
  | .allocated | .finished _ => false

/-- Whether the request of a call may still be unwritten. -/
def mayBeUnwritten : CallPhase → Bool
  | .allocated | .registered | .unsent _ | .finished (.error _) => true
  | .waiting _ | .expired | .finished (.ok _) => false

/-- Whether the request of a call may be written. -/
def mayBeWritten : CallPhase → Bool
  | .waiting _ | .expired | .finished _ => true
  | .allocated | .registered | .unsent _ => false

end CallPhase

/-- What a call does when it goes on. -/
inductive CallTurn where
  /-- It registers, writes its request, or withdraws. -/
  | advance
  /-- It takes the outcome that it has been handed. -/
  | take
  /-- It has waited long enough. -/
  | expire
deriving DecidableEq, Repr

/-- What a call does when it goes on next. -/
def Call.turn (call : Call) : CallTurn :=
  match call.phase, call.inbox with
  | .waiting _, some _ => .take
  | .waiting _, none => .expire
  | _, _ => .advance

/-- One thing that happens in a session. -/
inductive SessionEvent where
  /-- A call begins. -/
  | begin (method : String) (params : Option Json) (limit : Option Duration)
  /-- A call goes on. -/
  | proceed (turn : CallTurn) (surroundings : Surroundings) (ticket : Nat)
  /-- A message that has come in is acted upon. -/
  | dispatch (time : Nat) (message : Message)
  /-- The answer to a request of the other side goes on. -/
  | answer (surroundings : Surroundings) (index : Nat)
  /-- A notification is written, or fails to be. -/
  | notify (fault : Option StreamFault) (method : String) (params : Option Json)
  /-- A method is given a handler. -/
  | install (method : String) (handler : Handler)
  /-- The incoming stream and the reader of it change. -/
  | stream (inbound : Bytes) (ended : Bool) (intake : IntakePhase)
  /-- The outgoing stream is closed. -/
  | detach
  /-- The calls that wait are told that the session is over. -/
  | abandon

/-- Whether an event is no deed of whoever makes calls and writes notifications. -/
def SessionEvent.isBackground : SessionEvent → Bool
  | .dispatch _ _ | .answer _ _ | .install _ _ | .stream _ _ _ | .abandon => true
  | .begin _ _ _ | .proceed _ _ _ | .notify _ _ _ | .detach => false

namespace Session

/-- What an event makes of a session; `none` if it cannot happen now. -/
def after? (session : Session) : SessionEvent → Option Session
  | .begin method params limit => some (session.begin method params limit).1
  | .proceed turn surroundings ticket =>
    if session.calls[ticket]?.map Call.turn = some turn then
      session.stepCall surroundings ticket
    else none
  | .dispatch time message => some (session.actUpon time message)
  | .answer surroundings index => session.stepAnswer surroundings index
  | .notify fault method params =>
    match session.notify fault method params with
    | .ok next => some next
    | .error _ => some session
  | .install method handler => some (session.install method handler)
  | .stream inbound ended intake => some { session with inbound, inboundEnded := ended, intake }
  | .detach => some session.detach
  | .abandon => some session.abandonCalls

/-- Zero or more events that lead from one session to another. -/
inductive Steps (session : Session) : List SessionEvent → Session → Prop where
  | refl : Steps session [] session
  | step {events : List SessionEvent} {current next : Session} {event : SessionEvent}
      (prior : Steps session events current) (transition : current.after? event = some next) :
      Steps session (events ++ [event]) next

/-- What some events make of a session, one after the other; `none` if one of
them cannot happen in its turn. -/
def run? (session : Session) (events : List SessionEvent) : Option Session :=
  events.foldlM after? session

variable {first middle last : Session} {events more : List SessionEvent}
  {event : SessionEvent}

/-- An execution is a run that every event of it can happen in. -/
theorem steps_iff_run? : Steps first events last ↔ first.run? events = some last := by
  constructor
  · intro steps
    induction steps with
    | refl => rfl
    | step prior transition ih =>
      rw [run?] at ih ⊢
      simp [List.foldlM_append, ih, transition]
  · intro ran
    induction events using List.reverseRecOn generalizing last with
    | nil =>
      obtain rfl : first = last := by simpa [run?] using ran
      exact .refl
    | append_singleton events event ih =>
      simp only [run?, List.foldlM_append, List.foldlM_cons, List.foldlM_nil, bind_pure,
        Option.bind_eq_bind, Option.bind_eq_some_iff] at ran
      obtain ⟨middle, before, transition⟩ := ran
      exact .step (ih before) transition

namespace Steps

/-- One event is an execution. -/
theorem single (transition : first.after? event = some last) : Steps first [event] last :=
  .step .refl transition

/-- An execution of some events and then others passes through a session. -/
theorem append_iff :
    Steps first (events ++ more) last ↔
      ∃ middle, Steps first events middle ∧ Steps middle more last := by
  simp [steps_iff_run?, run?, List.foldlM_append, Option.bind_eq_some_iff]

/-- Executions that meet compose. -/
theorem trans (front : Steps first events middle) (back : Steps middle more last) :
    Steps first (events ++ more) last :=
  append_iff.mpr ⟨middle, front, back⟩

/-- An execution begins with its first event. -/
theorem cons_iff :
    Steps first (event :: events) last ↔
      ∃ middle, first.after? event = some middle ∧ Steps middle events last := by
  simp [steps_iff_run?, run?, Option.bind_eq_some_iff]

/-- The events of an execution determine where it ends. -/
theorem deterministic {other : Session} (run : Steps first events last)
    (rerun : Steps first events other) : last = other := by
  rw [steps_iff_run?] at run rerun
  exact Option.some.inj (run.symm.trans rerun)

end Steps

/-! ## The reader and its keeper -/

/-- Some events in the background lead from one session to another. -/
def Proceeds (session next : Session) : Prop :=
  ∃ events, Steps session events next ∧ ∀ event ∈ events, event.isBackground = true

namespace Proceeds

theorem single (background : event.isBackground = true)
    (transition : first.after? event = some last) : Proceeds first last :=
  ⟨[event], .single transition, by simpa using background⟩

theorem trans (front : Proceeds first middle) (back : Proceeds middle last) :
    Proceeds first last := by
  obtain ⟨events, run, background⟩ := front
  obtain ⟨more, onward, backgroundToo⟩ := back
  refine ⟨events ++ more, run.trans onward, fun event member => ?_⟩
  exact (List.mem_append.mp member).elim (background event) (backgroundToo event)

end Proceeds

/-- The reader and the incoming stream may change at any time. -/
theorem proceeds_stream (session : Session) (inbound : Bytes) (ended : Bool)
    (intake : IntakePhase) :
    Proceeds session { session with inbound, inboundEnded := ended, intake } := by
  have happens : session.after? (.stream inbound ended intake) =
      some { session with inbound, inboundEnded := ended, intake } := rfl
  exact .single rfl happens

/-- Acting upon what a read of the stream reports happens in the background. -/
theorem accept_proceeds (session : Session) (time : Nat) (delivery : Frame.Delivery) :
    Proceeds session (session.accept time delivery) := by
  cases delivery with
  | frame payload =>
    simp only [accept]
    cases Message.ofPayload payload with
    | ok message =>
      have happens : session.after? (.dispatch time message) =
          some (session.actUpon time message) := rfl
      exact .single rfl happens
    | error _ => exact ⟨[], .refl, by simp⟩
  | failure _ => exact session.proceeds_stream session.inbound session.inboundEnded .failing
  | endOfStream => exact session.proceeds_stream session.inbound session.inboundEnded .failing

/-- Giving up the calls and stopping to read happens in the background. -/
theorem stop_proceeds (session : Session) :
    Proceeds session { session.abandonCalls with intake := .stopped } := by
  have abandons : session.after? .abandon = some session.abandonCalls := rfl
  have stops := session.abandonCalls.proceeds_stream session.abandonCalls.inbound
    session.abandonCalls.inboundEnded .stopped
  exact Proceeds.trans (.single rfl abandons) stops

/-- A step of the reader is an execution in the background. -/
theorem stepIntake_proceeds {session next : Session} {surroundings : Surroundings}
    (moved : session.stepIntake surroundings = some next) : Proceeds session next := by
  simp only [stepIntake] at moved
  split at moved
  · split at moved
    · next delivery rest _ =>
      obtain rfl := Option.some.inj moved
      have taken := session.proceeds_stream rest session.inboundEnded session.intake
      exact taken.trans ({ session with inbound := rest }.accept_proceeds _ delivery)
    · next atEnd _ =>
      split at moved
      · obtain rfl := Option.some.inj moved
        have taken := session.proceeds_stream [] session.inboundEnded session.intake
        exact taken.trans ({ session with inbound := [] }.accept_proceeds _ atEnd)
      · cases moved
  · next deadline breaksDown _ =>
    split at moved
    · obtain rfl := Option.some.inj moved
      exact session.proceeds_stream session.inbound session.inboundEnded
        (afterHandler breaksDown)
    · cases moved
  · obtain rfl := Option.some.inj moved
    exact session.stop_proceeds
  all_goals cases moved

/-- A step of the reader's keeper is an execution in the background. -/
theorem stepKeeper_proceeds {session next : Session} (moved : session.stepKeeper = some next) :
    Proceeds session next := by
  simp only [stepKeeper] at moved
  split at moved
  · obtain rfl := Option.some.inj moved
    exact session.stop_proceeds
  all_goals cases moved

/-! ## Calls -/

/-- Some events lead from one session to another. -/
def Reaches (session next : Session) : Prop := ∃ events, Steps session events next

theorem Reaches.refl (session : Session) : session.Reaches session := ⟨[], .refl⟩

theorem Reaches.single (transition : first.after? event = some last) : first.Reaches last :=
  ⟨[event], .single transition⟩

/-- A step of a call is an event, in which it is the call's turn. -/
theorem stepCall_happens {session next : Session} {surroundings : Surroundings} {ticket : Nat}
    (moved : session.stepCall surroundings ticket = some next) :
    ∃ turn, session.after? (.proceed turn surroundings ticket) = some next := by
  cases found : session.calls[ticket]? with
  | none => simp [stepCall, found] at moved
  | some call => exact ⟨call.turn, by simp [after?, found, moved]⟩

/-- A step of a call is an execution. -/
theorem stepCall_reaches {session next : Session} {surroundings : Surroundings} {ticket : Nat}
    (moved : session.stepCall surroundings ticket = some next) : session.Reaches next := by
  obtain ⟨turn, happens⟩ := stepCall_happens moved
  exact .single happens

end Session

end FoldAtlas
