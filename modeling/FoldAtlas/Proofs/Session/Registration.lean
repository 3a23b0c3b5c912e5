import FoldAtlas.Proofs.Session.Move

/-!
# Registration

Which calls a session expects responses to. As long as fewer identifiers have
been given out than 64 bits can count, every one of them belongs to one call,
every expected response to one call between its registration and its return, and
no registration takes the place of another (`Registry`). A closed session
expects nothing any more, and turns away every call that begins later
(`TurnsAway`).
-/

namespace FoldAtlas

namespace Session

/-- Whether a call is between its registration and its return, with an identifier. -/
def Holds (session : Session) (ticket : Nat) (id : RequestId) : Prop :=
  ∃ call : Call, session.calls[ticket]? = some call ∧ call.phase.isOutstanding = true ∧
    id = .number call.id

/-- Whether a request is that of one of the first calls of a session. -/
def HasAuthor (session : Session) (known : Nat) (request : Request) : Prop :=
  ∃ (ticket : Nat) (call : Call), ticket < known ∧ session.calls[ticket]? = some call ∧
    call.request = .request request

/-- What holds between the calls of a session and the responses that it expects. -/
structure Registry (session : Session) : Prop where
  /-- No identifier was given out twice. -/
  distinctIds : (session.calls.map Call.id).Nodup
  /-- Every identifier is at least one. -/
  positiveIds : ∀ call ∈ session.calls, 1 ≤ call.id
  /-- No identifier is expected twice. -/
  distinctKeys : session.pending.Distinct
  /-- What is expected are numbers that were given out. -/
  numbered : ∀ id ticket, (id, ticket) ∈ session.pending.entries →
    ∃ number, id = .number number ∧ 1 ≤ number ∧ number < session.nextId
  /-- An expected identifier belongs to exactly one call that is under way. -/
  owned : ∀ id ticket, (id, ticket) ∈ session.pending.entries →
    ∀ other, session.Holds other id ↔ other = ticket
  /-- Registering a call adds an entry and replaces none. -/
  registers : ∀ surroundings (ticket : Nat) (call : Call) next,
    session.calls[ticket]? = some call → call.phase = .allocated → session.closed = false →
    session.stepCall surroundings ticket = some next →
    next.pending.entries = session.pending.entries ++ [(.number call.id, ticket)]
  /-- No response to a call that has returned is expected. -/
  returned : ∀ call ∈ session.calls, call.phase.outcome?.isSome = true →
    session.pending.find? (.number call.id) = none

/-- What a session that was closed when it had some calls is later. -/
structure TurnsAway (known : Nat) (later : Session) : Prop where
  /-- It is still closed. -/
  closed : later.closed = true
  /-- It expects no response. -/
  expectsNothing : later.pending.entries = []
  /-- A call that began since has failed with the session being closed, or will
  with its next step, which neither expects nor writes anything. -/
  refuses : ∀ (ticket : Nat) (call : Call), known ≤ ticket → later.calls[ticket]? = some call →
    call.phase = .finished (.error .sessionClosed) ∨
    call.phase = .allocated ∧ ∀ surroundings, ∃ next,
      later.stepCall surroundings ticket = some next ∧
      next.outcome? ticket = some (.error .sessionClosed) ∧
      next.pending = later.pending ∧ next.sent = later.sent
  /-- Every request that was ever written is that of an earlier call. -/
  writesNothing : ∀ request, Message.request request ∈ later.sent →
    later.HasAuthor known request

/-! ## Identifiers -/

variable {session next : Session} {ticket : Nat} {call : Call} {event : SessionEvent}

namespace Consistent

/-- The identifier of a call as a number. -/
theorem id_toNat (consistent : session.Consistent)
    (countable : session.calls.length < 2 ^ 64 - 1)
    (found : session.calls[ticket]? = some call) : call.id.toNat = ticket + 1 := by
  have bound := (List.getElem?_eq_some_iff.mp found).1
  rw [consistent.numbered found, UInt64.toNat_ofNat', Nat.mod_eq_of_lt (by omega)]

/-- No identifier is given out twice. -/
theorem nodup_ids (consistent : session.Consistent)
    (countable : session.calls.length < 2 ^ 64 - 1) : (session.calls.map Call.id).Nodup := by
  rw [List.Nodup, List.pairwise_map, List.pairwise_iff_getElem]
  intro first second firstBound secondBound before same
  have foundFirst := List.getElem?_eq_getElem firstBound
  have foundSecond := List.getElem?_eq_getElem secondBound
  have repeated := consistent.ticket_eq countable foundFirst foundSecond same
  omega

/-- Every identifier is at least one, and less than the next one. -/
theorem id_bounds (consistent : session.Consistent)
    (countable : session.calls.length < 2 ^ 64 - 1)
    (found : session.calls[ticket]? = some call) :
    1 ≤ call.id ∧ call.id < session.nextId := by
  have bound := (List.getElem?_eq_some_iff.mp found).1
  have value := consistent.id_toNat countable found
  rw [UInt64.le_iff_toNat_le, UInt64.lt_iff_toNat_lt, consistent.nextId,
    UInt64.toNat_ofNat', Nat.mod_eq_of_lt (by omega), value]
  simp only [UInt64.reduceToNat]
  omega

/-- The response to a call that is not under way is not expected. -/
theorem unexpected (consistent : session.Consistent)
    (countable : session.calls.length < 2 ^ 64 - 1)
    (found : session.calls[ticket]? = some call) (idle : call.phase.isOutstanding = false) :
    session.pending.find? (.number call.id) = none := by
  cases expected : session.pending.find? (.number call.id) with
  | none => rfl
  | some other =>
    obtain rfl := consistent.expected_self countable found expected
    rw [(consistent.of_expected found expected).1] at idle
    cases idle

/-- Consistent sessions that have not run out of identifiers keep their registry. -/
theorem registry (consistent : session.Consistent)
    (countable : session.calls.length < 2 ^ 64 - 1) : session.Registry where
  distinctIds := consistent.nodup_ids countable
  positiveIds call member := by
    obtain ⟨ticket, found⟩ := List.mem_iff_getElem?.mp member
    exact (consistent.id_bounds countable found).1
  distinctKeys := consistent.distinct
  numbered id ticket member := by
    obtain ⟨owner, found, rfl, _⟩ := consistent.owned member
    exact ⟨owner.id, rfl, consistent.id_bounds countable found⟩
  owned id ticket member other := by
    obtain ⟨owner, found, rfl, outstanding, _⟩ := consistent.owned member
    constructor
    · rintro ⟨holder, present, _, same⟩
      exact consistent.ticket_eq countable present found (RequestId.number.inj same).symm
    · rintro rfl
      exact ⟨owner, found, outstanding, rfl⟩
  registers surroundings ticket call next found phase isOpen moved := by
    have absent := consistent.unexpected countable found (by rw [phase]; rfl)
    simp only [stepCall, found, phase, register, isOpen, Bool.false_eq_true, ↓reduceIte,
      Option.some.injEq] at moved
    rw [← moved]
    exact AwaitedCalls.entries_insert_of_absent ticket absent
  returned call member isOver := by
    obtain ⟨ticket, found⟩ := List.mem_iff_getElem?.mp member
    refine consistent.unexpected countable found ?_
    cases phase : call.phase <;> simp_all [CallPhase.outcome?, CallPhase.isOutstanding]

end Consistent

/-! ## Closed sessions -/

/-- A closed session is never opened again. -/
theorem Effect.closed (effect : session.Effect event next) (closed : session.closed = true) :
    next.closed = true := by
  cases effect with
  | @handOver _ response =>
    obtain ⟨_, _, _, _, same⟩ := session.handOver_eq response
    rw [same, closed]
  | abandon =>
    obtain ⟨calls, _, same⟩ := session.abandonCalls_eq
    rw [same]
  | aside _ leaves => rw [leaves.closed, closed]
  | _ => exact closed

/-- A request is written by a call that is registered. -/
theorem Effect.request_origin {request : Request} (effect : session.Effect event next)
    (written : .request request ∈ next.sent) :
    .request request ∈ session.sent ∨
      ∃ (ticket : Nat) (call : Call), session.calls[ticket]? = some call ∧ call.phase = .registered ∧
        call.request = .request request := by
  rcases effect.sent_cases with
    same | ⟨ticket, call, _, found, phase, sent, _⟩ | ⟨_, more, sent, apart⟩
  · exact .inl (same ▸ written)
  · rw [sent] at written
    rcases List.mem_append.mp written with before | now
    · exact .inl before
    · exact .inr ⟨ticket, call, found, phase, (List.mem_singleton.mp now).symm⟩
  · rw [sent] at written
    exact .inl ((List.mem_append.mp written).resolve_right (apart request))

/-- A request keeps its author. -/
theorem HasAuthor.step {known : Nat} {request : Request}
    (authored : session.HasAuthor known request) (effect : session.Effect event next)
    (consistent : session.Consistent) : next.HasAuthor known request := by
  obtain ⟨ticket, call, bound, found, same⟩ := authored
  obtain ⟨later, moved, move⟩ := effect.move consistent found
  refine ⟨ticket, later, bound, moved, ?_⟩
  rw [move.identity]
  exact same

/-- Every request that a session has written is that of one of its calls. -/
theorem hasAuthor_of_start {handlers : Handlers} {events : List SessionEvent}
    {request : Request} (run : Steps (.start handlers) events session)
    (written : .request request ∈ session.sent) :
    session.HasAuthor session.calls.length request := by
  induction run with
  | refl => simp [Session.start] at written
  | @step _ current next _ prior transition ih =>
    have effect := Effect.of_after? transition
    have known : current.HasAuthor next.calls.length request := by
      rcases effect.request_origin written with before | ⟨ticket, call, found, _, same⟩
      · obtain ⟨ticket, call, bound, known⟩ := ih before
        exact ⟨ticket, call, Nat.lt_of_lt_of_le bound effect.length_le, known⟩
      · have bound := (List.getElem?_eq_some_iff.mp found).1
        exact ⟨ticket, call, Nat.lt_of_lt_of_le bound effect.length_le, found, same⟩
    exact known.step effect (.of_start prior)

/-- A call that begins in a closed session gets no further than its first step. -/
theorem Move.late (move : Move session ticket call event later) (closed : session.closed = true)
    (late : call.phase = .allocated ∨ call.phase = .finished (.error .sessionClosed)) :
    later.phase = .allocated ∨ later.phase = .finished (.error .sessionClosed) := by
  cases move with
  | stay | answer | abandon => exact late
  | refuse => exact .inr rfl
  | register _ isOpen =>
    rw [closed] at isOpen
    cases isOpen
  | withdraw phase => rcases phase with phase | ⟨phase, _⟩ <;> simp [phase] at late
  | _ phase => simp [phase] at late

/-- A closed session turns away whoever begins a call later. -/
theorem Steps.turnsAway {events : List SessionEvent} {later : Session}
    (run : Steps session events later) (consistent : session.Consistent)
    (closed : session.closed = true)
    (authored : ∀ request, Message.request request ∈ session.sent →
      session.HasAuthor session.calls.length request) :
    TurnsAway session.calls.length later := by
  -- What the induction carries, without the step that a late call is about to take.
  suffices carried : later.closed = true ∧
      (∀ (ticket : Nat) (call : Call), session.calls.length ≤ ticket →
        later.calls[ticket]? = some call →
          call.phase = .allocated ∨ call.phase = .finished (.error .sessionClosed)) ∧
      ∀ request, Message.request request ∈ later.sent →
        later.HasAuthor session.calls.length request by
    obtain ⟨stillClosed, late, written⟩ := carried
    refine ⟨stillClosed, (consistent.of_steps run).sealed stillClosed, ?_, written⟩
    intro ticket call beyond found
    rcases late ticket call beyond found with phase | phase
    · refine .inr ⟨phase, fun surroundings =>
        ⟨later.setPhase ticket (.finished (.error .sessionClosed)), ?_, ?_, rfl, rfl⟩⟩
      · simp only [stepCall, found, phase, register, stillClosed, ↓reduceIte]
      · simp [outcome?, setPhase, found, CallPhase.outcome?]
    · exact .inl phase
  induction run with
  | refl =>
    refine ⟨closed, fun ticket call beyond found => ?_, authored⟩
    have within := (List.getElem?_eq_some_iff.mp found).1
    omega
  | step prior transition ih =>
    obtain ⟨stillClosed, late, earlier⟩ := ih
    have before := consistent.of_steps prior
    have effect := Effect.of_after? transition
    refine ⟨effect.closed stillClosed, fun ticket call beyond found => ?_,
      fun request written => ?_⟩
    · rcases effect.origin before found with ⟨current, present, move⟩ | ⟨_, phase, _⟩
      · exact move.late stillClosed (late ticket current beyond present)
      · exact .inl phase
    · rcases effect.request_origin written with already | ⟨ticket, call, found, phase, same⟩
      · exact (earlier request already).step effect before
      · have bound : ticket < session.calls.length := by
          refine Nat.lt_of_not_le fun beyond => ?_
          have out := late ticket call beyond found
          simp [phase] at out
        exact HasAuthor.step ⟨ticket, call, bound, found, same⟩ effect before

/-- Whatever has happened in a session so far, as long as its identifiers have not
run out: it knows exactly whose responses it expects, and if it is closed, it
expects nothing and turns away every later call, however it goes on. -/
theorem registration_is_exact {handlers : Handlers} {events : List SessionEvent}
    {session : Session} (run : Steps (.start handlers) events session)
    (countable : session.calls.length < 2 ^ 64 - 1) :
    session.Registry ∧
      (session.closed = true → ∀ more later, Steps session more later →
        TurnsAway session.calls.length later) := by
  have consistent := Consistent.of_start run
  refine ⟨consistent.registry countable, fun closed more later onward => ?_⟩
  exact onward.turnsAway consistent closed fun request written => hasAuthor_of_start run written

/-- Three calls: the first is answered under a string that spells its number, the
second cannot be written, and the third still waits when the session ends. -/
def threeCalls : List SessionEvent :=
  let quiet : Surroundings := ⟨0, none⟩
  [.begin "first" none none, .proceed .advance quiet 0, .proceed .advance quiet 0,
    .begin "second" none (some ⟨5⟩), .begin "third" none none,
    .proceed .advance quiet 2, .proceed .advance quiet 1,
    .proceed .advance ⟨1, some .brokenPipe⟩ 1,
    .dispatch 2 (.response (.ok (.text "+1") .null)), .proceed .take quiet 0,
    .proceed .advance quiet 1, .proceed .advance quiet 2, .abandon]

/-- What is known about the registrations of three calls. -/
theorem registration_of_threeCalls :
    ∃ session, Steps (.start []) threeCalls session ∧ session.calls.length < 2 ^ 64 - 1 ∧
      session.calls.length = 3 ∧ session.closed = true ∧ session.Registry ∧
      TurnsAway 3 session := by
  obtain ⟨session, ran⟩ : ∃ session, (start []).run? threeCalls = some session := ⟨_, rfl⟩
  have run := steps_iff_run?.mpr ran
  have shape : session.calls.length = 3 ∧ session.closed = true := by
    obtain rfl := Option.some.inj ran
    exact ⟨rfl, rfl⟩
  have countable : session.calls.length < 2 ^ 64 - 1 := by omega
  obtain ⟨registry, turnsAway⟩ := registration_is_exact run countable
  exact ⟨session, run, countable, shape.1, shape.2, registry,
    shape.1 ▸ turnsAway shape.2 [] session .refl⟩

end Session

end FoldAtlas
