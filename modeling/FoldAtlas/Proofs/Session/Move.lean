import FoldAtlas.Proofs.Session.Consistency

/-!
# Moves of a call

What one event of a consistent session does to one of its calls. A call is moved
by its own turn, by the response that is meant for it, and by the end of the
session; every other event lets it stay. From this follows what a call keeps
however its session goes on: its identity, its outcome once it is over, and the
outcome that it has been handed.
-/

namespace FoldAtlas

/-- A call has an outcome when it is over. -/
theorem CallPhase.outcome?_eq_some_iff {phase : CallPhase} {outcome : Except Failure Json} :
    phase.outcome? = some outcome ↔ phase = .finished outcome := by
  cases phase <;> simp [outcome?]

namespace Session

/-- What an event does to the call with a ticket. -/
inductive Move (session : Session) (ticket : Nat) (call : Call) : SessionEvent → Call → Prop where
  | stay {event : SessionEvent} : Move session ticket call event call
  | refuse {surroundings : Surroundings} (phase : call.phase = .allocated)
      (closed : session.closed = true) :
      Move session ticket call (.proceed .advance surroundings ticket)
        { call with phase := .finished (.error .sessionClosed) }
  | register {surroundings : Surroundings} (phase : call.phase = .allocated)
      (isOpen : session.closed = false) :
      Move session ticket call (.proceed .advance surroundings ticket)
        { call with phase := .registered }
  | send {surroundings : Surroundings} (phase : call.phase = .registered) :
      Move session ticket call (.proceed .advance surroundings ticket)
        { call with phase := .waiting (call.deadlineFrom surroundings.time) }
  | failToSend {surroundings : Surroundings} {failure : Failure}
      (phase : call.phase = .registered)
      (cause : failure = .sessionClosed ∨ ∃ fault, failure = .stream fault) :
      Move session ticket call (.proceed .advance surroundings ticket)
        { call with phase := .unsent failure }
  | withdraw {surroundings : Surroundings} {failure : Failure}
      (phase : call.phase = .unsent failure ∨
        call.phase = .expired ∧ failure = call.timeoutFailure) :
      Move session ticket call (.proceed .advance surroundings ticket)
        { call with phase := .finished (.error failure) }
  | take {surroundings : Surroundings} {deadline : Option Nat}
      {outcome : Except Failure Json} (phase : call.phase = .waiting deadline)
      (inbox : call.inbox = some outcome) :
      Move session ticket call (.proceed .take surroundings ticket)
        { call with phase := .finished outcome }
  | expire {surroundings : Surroundings} {deadline : Option Nat}
      (phase : call.phase = .waiting deadline) (inbox : call.inbox = none) :
      Move session ticket call (.proceed .expire surroundings ticket)
        { call with phase := .expired }
  | answer {time : Nat} {response : Response} (meant : response.Names call.id)
      (expected : session.pending.find? (.number call.id) = some ticket) :
      Move session ticket call (.dispatch time (.response response))
        { call with inbox := some response.outcome }
  | abandon (expected : session.pending.find? (.number call.id) = some ticket) :
      Move session ticket call .abandon (abandoned call)

variable {session next : Session} {ticket : Nat} {call later : Call} {event : SessionEvent}

/-- A call whose phase is set moves if it is the one, and stays otherwise. -/
private theorem move_setPhase {other : Nat} {moving : Call} {phase : CallPhase}
    (present : session.calls[ticket]? = some call)
    (found : session.calls[other]? = some moving)
    (moved : Move session other moving event { moving with phase }) :
    ∃ later, (session.setPhase other phase).calls[ticket]? = some later ∧
      Move session ticket call event later := by
  by_cases same : other = ticket
  · subst same
    obtain rfl := Option.some.inj (found.symm.trans present)
    exact ⟨{ moving with phase }, by simp [setPhase, present], moved⟩
  · exact ⟨call, by simp [setPhase, same, present], .stay⟩

/-- An effect on a session moves each of its calls. -/
theorem Effect.move (effect : session.Effect event next) (consistent : session.Consistent)
    (present : session.calls[ticket]? = some call) :
    ∃ later, next.calls[ticket]? = some later ∧ Move session ticket call event later := by
  cases effect with
  | begin =>
    have bound := (List.getElem?_eq_some_iff.mp present).1
    exact ⟨call, by rw [Session.begin, List.getElem?_append_left bound, present], .stay⟩
  | refuse found phase closed => exact move_setPhase present found (.refuse phase closed)
  | register found phase isOpen => exact move_setPhase present found (.register phase isOpen)
  | send found phase => exact move_setPhase present found (.send phase)
  | failToSend found phase hindered =>
    exact move_setPhase present found
      (.failToSend phase (Outlet.cause_of_hindrance? hindered))
  | withdraw found phase => exact move_setPhase present found (.withdraw phase)
  | take found phase inbox => exact move_setPhase present found (.take phase inbox)
  | expire found phase inbox => exact move_setPhase present found (.expire phase inbox)
  | @handOver time response =>
    rcases consistent.handOver_cases response with
      ⟨_, same⟩ | ⟨_, _, same⟩ | ⟨other, owner, found, meant, expected, same⟩
    · exact ⟨call, by rw [same, present], .stay⟩
    · exact ⟨call, by rw [same]; exact present, .stay⟩
    · rw [same]
      by_cases own : other = ticket
      · subst own
        obtain rfl := Option.some.inj (found.symm.trans present)
        exact ⟨_, by simp [deliver, present], .answer meant expected⟩
      · exact ⟨call, by simp [deliver, own, present], .stay⟩
  | abandon =>
    by_cases waits : ticket ∈ session.pending.tickets
    · exact ⟨abandoned call, by simp [getElem?_abandonCalls, waits, present],
        .abandon ((consistent.expected_iff present).mpr waits)⟩
    · exact ⟨call, by simp [getElem?_abandonCalls, waits, present], .stay⟩
  | detach => exact ⟨call, present, .stay⟩
  | aside _ leaves => exact ⟨call, by rw [leaves.calls, present], .stay⟩

/-- Only the beginning of a call adds one. -/
theorem Effect.length_calls (effect : session.Effect event next) :
    next.calls.length = session.calls.length ∨
      ∃ method params limit, event = .begin method params limit ∧
        next = (session.begin method params limit).1 := by
  cases effect with
  | begin => exact .inr ⟨_, _, _, rfl, rfl⟩
  | @handOver _ response =>
    obtain ⟨_, _, _, sameLength, same⟩ := session.handOver_eq response
    exact .inl (by rw [same, sameLength])
  | abandon =>
    obtain ⟨calls, sameLength, same⟩ := session.abandonCalls_eq
    exact .inl (by rw [same, sameLength])
  | detach => exact .inl rfl
  | aside _ leaves => exact .inl (by rw [leaves.calls])
  | _ => exact .inl (by simp [setPhase, Session.withdraw])

/-- A call of the session that an effect leads to was moved or has just begun. -/
theorem Effect.origin (effect : session.Effect event next) (consistent : session.Consistent)
    (found : next.calls[ticket]? = some later) :
    (∃ call, session.calls[ticket]? = some call ∧ Move session ticket call event later) ∨
    (ticket = session.calls.length ∧ later.phase = .allocated ∧ later.inbox = none) := by
  cases present : session.calls[ticket]? with
  | some call =>
    obtain ⟨moved, foundToo, move⟩ := effect.move consistent present
    obtain rfl := Option.some.inj (found.symm.trans foundToo)
    exact .inl ⟨call, rfl, move⟩
  | none =>
    refine .inr ?_
    have beyond := List.getElem?_eq_none_iff.mp present
    have within := (List.getElem?_eq_some_iff.mp found).1
    rcases effect.length_calls with same | ⟨method, params, limit, rfl, rfl⟩
    · omega
    · rcases found_begin found with before | ⟨isLast, rfl⟩
      · rw [present] at before
        cases before
      · exact ⟨isLast, rfl, rfl⟩

/-- There are as many calls as before unless one begins. -/
theorem Effect.sameLength (effect : session.Effect event next)
    (unbegun : ∀ method params limit, event ≠ .begin method params limit) :
    next.calls.length = session.calls.length :=
  effect.length_calls.resolve_right fun ⟨method, params, limit, begins, _⟩ =>
    unbegun method params limit begins

/-- A call of a session that has as many calls as before was moved. -/
theorem Effect.origin_of_sameLength (effect : session.Effect event next)
    (consistent : session.Consistent) (sameLength : next.calls.length = session.calls.length)
    (found : next.calls[ticket]? = some later) :
    ∃ call, session.calls[ticket]? = some call ∧ Move session ticket call event later := by
  refine (effect.origin consistent found).resolve_right fun ⟨beyond, _⟩ => ?_
  have within := (List.getElem?_eq_some_iff.mp found).1
  omega

/-- No event takes a call away. -/
theorem Effect.length_le (effect : session.Effect event next) :
    session.calls.length ≤ next.calls.length := by
  rcases effect.length_calls with same | ⟨method, params, limit, _, rfl⟩
  · omega
  · simp [Session.begin]

/-- A call keeps its identity. -/
theorem Move.identity (move : Move session ticket call event later) :
    later = { call with phase := later.phase, inbox := later.inbox } := by
  cases move <;> rfl

/-- In the background, a call is at most handed an outcome. -/
theorem Move.of_background (move : Move session ticket call event later)
    (background : event.isBackground = true) : later = { call with inbox := later.inbox } := by
  cases move with
  | stay | answer | abandon => rfl
  | _ => cases background

/-- A call that is over stays as it ended. -/
theorem Move.finished {outcome : Except Failure Json}
    (move : Move session ticket call event later) (consistent : session.Consistent)
    (present : session.calls[ticket]? = some call) (isOver : call.phase = .finished outcome) :
    later = call := by
  cases move with
  | stay => rfl
  | withdraw phase => rcases phase with phase | ⟨phase, _⟩ <;> simp [isOver] at phase
  | answer meant expected | abandon expected =>
    have outstanding := (consistent.of_expected present expected).1
    simp [isOver, CallPhase.isOutstanding] at outstanding
  | _ phase => simp [isOver] at phase

/-- A call keeps the outcome that it has been handed. -/
theorem Move.inbox {outcome : Except Failure Json}
    (move : Move session ticket call event later) (consistent : session.Consistent)
    (present : session.calls[ticket]? = some call) (inbox : call.inbox = some outcome) :
    later.inbox = some outcome := by
  cases move with
  | answer meant expected | abandon expected =>
    have empty := (consistent.of_expected present expected).2
    rw [inbox] at empty
    cases empty
  | _ => exact inbox

namespace Steps

variable {last : Session} {events : List SessionEvent}

/-- A call is never taken away, and keeps its identity. -/
theorem call_persists (run : Steps session events last) (consistent : session.Consistent)
    (present : session.calls[ticket]? = some call) :
    ∃ phase inbox, last.calls[ticket]? = some { call with phase, inbox } := by
  induction run with
  | refl => exact ⟨call.phase, call.inbox, present⟩
  | step prior transition ih =>
    obtain ⟨phase, inbox, found⟩ := ih
    obtain ⟨later, moved, move⟩ :=
      (Effect.of_after? transition).move (consistent.of_steps prior) found
    exact ⟨later.phase, later.inbox, by rw [moved, move.identity]⟩

/-- The outcome of a call that is over does not change any more. -/
theorem outcome_persists {outcome : Except Failure Json} (run : Steps session events last)
    (consistent : session.Consistent) (isOver : session.outcome? ticket = some outcome) :
    last.outcome? ticket = some outcome := by
  induction run with
  | refl => exact isOver
  | step prior transition ih =>
    obtain ⟨call, found, ended⟩ := Option.bind_eq_some_iff.mp ih
    have finished := CallPhase.outcome?_eq_some_iff.mp ended
    have before := consistent.of_steps prior
    obtain ⟨later, moved, move⟩ := (Effect.of_after? transition).move before found
    obtain rfl := move.finished before found finished
    simp [outcome?, moved, ended]

/-- The outcome that a call has been handed stays with it. -/
theorem inbox_persists {outcome : Except Failure Json} (run : Steps session events last)
    (consistent : session.Consistent) (present : session.calls[ticket]? = some call)
    (inbox : call.inbox = some outcome) :
    ∃ later, last.calls[ticket]? = some later ∧ later.inbox = some outcome := by
  induction run with
  | refl => exact ⟨call, present, inbox⟩
  | step prior transition ih =>
    obtain ⟨current, found, handed⟩ := ih
    have before := consistent.of_steps prior
    obtain ⟨later, moved, move⟩ := (Effect.of_after? transition).move before found
    exact ⟨later, moved, move.inbox before found handed⟩

/-- No execution takes a call away. -/
theorem length_le (run : Steps session events last) :
    session.calls.length ≤ last.calls.length := by
  induction run with
  | refl => exact Nat.le_refl _
  | step _ transition ih => exact Nat.le_trans ih (Effect.of_after? transition).length_le

end Steps

end Session

end FoldAtlas
