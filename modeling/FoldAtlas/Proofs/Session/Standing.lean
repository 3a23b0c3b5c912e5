import FoldAtlas.Proofs.Session.Registration

/-!
# Where a call stands

What becomes of one call depends on little of its session: on the call itself,
on whether its response is expected, and on whether the session is closed and
can still write. `Standing` is that much, `Standing.after` is what an event
makes of it, and an execution moves the standing of a call event by event
(`Steps.standing`). When a call takes the outcome that it has been handed makes
no difference to its standing.

`Standing.receive_after` is the one fact about orders: a response may come
earlier or later than another event, unless the call stops to wait in between.
-/

namespace FoldAtlas

namespace Response

/-- The number of the call that a response is meant for. -/
def addressee? (response : Response) : Option UInt64 :=
  response.id.bind fun id =>
    match id with
    | .number number => some number
    | .text value => (RequestId.text value).spelled?

/-- A response is meant for the call that it is addressed to. -/
theorem addressee?_eq_some_iff {response : Response} {number : UInt64} :
    response.addressee? = some number ↔ response.Names number := by
  cases identified : response.id with
  | none => simp [addressee?, Names, identified]
  | some id => cases id <;> simp [addressee?, Names, identified, RequestId.spelled?]

end Response

namespace SessionEvent

/-- The response that an event dispatches. -/
def response? : SessionEvent → Option Response
  | .dispatch _ (.response response) => some response
  | _ => none

/-- Whether an event is that of a call taking its outcome. -/
def isTake : SessionEvent → Bool
  | .proceed .take _ _ => true
  | _ => false

/-- Whether an event is that of a call having waited long enough, or of calls
being given up. -/
def isEnd : SessionEvent → Bool
  | .proceed .expire _ _ | .abandon => true
  | _ => false

/-- Whether an event begins a call. -/
def isBegin : SessionEvent → Bool
  | .begin _ _ _ => true
  | _ => false

end SessionEvent

namespace Call

/-- The outcome of a call that is over, or that waits and has been handed one. -/
def verdict? (call : Call) : Option (Except Failure Json) :=
  match call.phase, call.inbox with
  | .finished outcome, _ => some outcome
  | .waiting _, inbox => inbox
  | _, _ => none

/-- A call that has taken the outcome that it was handed while waiting, and has
forgotten any that came too late. -/
def settled (call : Call) : Call :=
  match call.phase, call.inbox with
  | .waiting _, some outcome => { call with phase := .finished outcome, inbox := none }
  | .finished _, _ => { call with inbox := none }
  | _, _ => call

/-- A settled call has the outcome that there was to take. -/
theorem outcome?_settled (call : Call) : call.settled.phase.outcome? = call.verdict? := by
  cases call with
  | mk id method params limit phase inbox =>
    cases phase <;> cases inbox <;> rfl

/-- A call that has begun to do something is not undone by settling. -/
theorem settled_started {call : Call} (started : call.phase ≠ .allocated) :
    call.settled.phase ≠ .allocated := by
  simp only [settled]
  split <;> simp_all

/-- A call that has been handed nothing is settled. -/
theorem settled_of_empty {call : Call} (empty : call.inbox = none) : call.settled = call := by
  cases call with
  | mk id method params limit phase inbox =>
    obtain rfl : inbox = none := empty
    cases phase <;> rfl

end Call

/-- Where a call stands. -/
structure Standing where
  /-- How many calls have begun. -/
  known : Nat
  /-- The call, once it has begun. -/
  call? : Option Call
  /-- Whether its response is expected. -/
  expected : Bool
  /-- Whether calls are refused. -/
  closed : Bool
  /-- Whether requests can still be written. -/
  outlet : Outlet

namespace Standing

/-- The call goes on in another phase. -/
def enter (standing : Standing) (call : Call) (phase : CallPhase) : Standing :=
  { standing with call? := some { call with phase }.settled }

/-- The call registers, writes its request, or withdraws. -/
def advance (standing : Standing) (surroundings : Surroundings) : Standing :=
  match standing.call? with
  | none => standing
  | some call =>
    match call.phase with
    | .allocated =>
      if standing.closed then standing.enter call (.finished (.error .sessionClosed))
      else { standing with expected := true }.enter call .registered
    | .registered =>
      match standing.outlet.hindrance? surroundings.fault with
      | none => standing.enter call (.waiting (call.deadlineFrom surroundings.time))
      | some failure => standing.enter call (.unsent failure)
    | .unsent failure =>
      { standing with expected := false }.enter call (.finished (.error failure))
    | .expired =>
      { standing with expected := false }.enter call (.finished (.error call.timeoutFailure))
    | .waiting _ | .finished _ => standing

/-- The call is handed an outcome, if it expects one. -/
def receive (standing : Standing) (outcome : Except Failure Json) : Standing :=
  if standing.expected then
    { standing with
      expected := false
      call? := standing.call?.map fun call => { call with inbox := some outcome }.settled }
  else standing

/-- What an event makes of the standing of the call with a ticket. -/
def after (ticket : Nat) (standing : Standing) : SessionEvent → Standing
  | .begin method params limit =>
    { standing with
      known := standing.known + 1
      call? :=
        if standing.known = ticket then
          some ⟨.ofNat (ticket + 1), method, params, limit, .allocated, none⟩
        else standing.call? }
  | .proceed .advance surroundings other =>
    if other = ticket then standing.advance surroundings else standing
  | .proceed .expire _ other =>
    if other = ticket then
      { standing with call? := standing.call?.map fun call => { call with phase := .expired } }
    else standing
  | .dispatch _ (.response response) =>
    if response.addressee? = some (.ofNat (ticket + 1)) then standing.receive response.outcome
    else standing
  | .detach => { standing with outlet := .detached }
  | .abandon => { standing.receive (.error .sessionClosed) with closed := true }
  | .proceed .take _ _ | .dispatch _ (.request _) | .dispatch _ (.notification _) | .answer _ _
  | .notify _ _ _ | .install _ _ | .stream _ _ _ => standing

/-- The turn of a call makes nothing of the standing of another one. -/
theorem after_of_ne {standing : Standing} {turn : CallTurn} {surroundings : Surroundings}
    {ticket other : Nat} (different : other ≠ ticket) :
    standing.after ticket (.proceed turn surroundings other) = standing := by
  cases turn <;> simp only [after, if_neg different]

/-- The outcome of the call, if it has one or is about to take it. -/
def outcome? (standing : Standing) : Option (Except Failure Json) :=
  standing.call?.bind fun call => call.phase.outcome?

end Standing

namespace Session

/-- The outcome of a call that is over or about to be. -/
def verdict? (session : Session) (ticket : Nat) : Option (Except Failure Json) :=
  session.calls[ticket]?.bind Call.verdict?

/-- Where a call of a session stands. -/
def standing (session : Session) (ticket : Nat) : Standing where
  known := session.calls.length
  call? := session.calls[ticket]?.map Call.settled
  expected := session.pending.tickets.contains ticket
  closed := session.closed
  outlet := session.outlet

variable {session next : Session} {ticket other : Nat} {call : Call} {event : SessionEvent}

/-- The verdict on a call can be read off its standing. -/
theorem outcome?_standing (session : Session) (ticket : Nat) :
    (session.standing ticket).outcome? = session.verdict? ticket := by
  cases found : session.calls[ticket]? <;>
    simp [Standing.outcome?, standing, verdict?, found, Call.outcome?_settled]

/-! ## Executions move standings -/

namespace Consistent

/-- Whose responses are expected when that to one call no longer is. -/
theorem mem_tickets_erase (consistent : session.Consistent) (ticket : Nat)
    (countable : session.calls.length < 2 ^ 64 - 1)
    (found : session.calls[other]? = some call) :
    ticket ∈ (session.pending.erase (.number call.id)).tickets ↔
      ticket ∈ session.pending.tickets ∧ ticket ≠ other := by
  simp only [AwaitedCalls.tickets, List.mem_map, AwaitedCalls.mem_erase, Prod.exists,
    exists_eq_right]
  constructor
  · rintro ⟨id, member, different⟩
    refine ⟨⟨id, member⟩, ?_⟩
    rintro rfl
    obtain ⟨owner, present, rfl, _⟩ := consistent.owned member
    obtain rfl := Option.some.inj (found.symm.trans present)
    exact different rfl
  · rintro ⟨⟨id, member⟩, different⟩
    obtain ⟨owner, present, rfl, _⟩ := consistent.owned member
    refine ⟨_, member, fun same => different ?_⟩
    exact consistent.ticket_eq countable present found (RequestId.number.inj same)

/-- Whose responses are expected when that to a call which has just begun is. -/
theorem mem_tickets_insert (consistent : session.Consistent) (ticket : Nat)
    (countable : session.calls.length < 2 ^ 64 - 1)
    (found : session.calls[other]? = some call) (phase : call.phase = .allocated) :
    ticket ∈ (session.pending.insert (.number call.id) other).tickets ↔
      ticket ∈ session.pending.tickets ∨ ticket = other := by
  have absent := consistent.unexpected countable found (by rw [phase]; rfl)
  simp [AwaitedCalls.tickets, AwaitedCalls.entries_insert_of_absent other absent]

/-- A response is expected for a call under the number of its ticket. -/
theorem mem_tickets_iff (consistent : session.Consistent) :
    ticket ∈ session.pending.tickets ↔
      session.pending.find? (.number (.ofNat (ticket + 1))) = some ticket := by
  constructor
  · intro waits
    obtain ⟨⟨id, _⟩, member, rfl⟩ := List.mem_map.mp waits
    obtain ⟨owner, present, rfl, _⟩ := consistent.owned member
    rw [← consistent.numbered present]
    exact consistent.distinct.find?_eq_some_iff.mpr member
  · intro found
    exact List.mem_map.mpr ⟨_, consistent.distinct.find?_eq_some_iff.mp found, rfl⟩

/-- Where a call stands that is handed an outcome which it expects. -/
theorem receive_standing (consistent : session.Consistent)
    (expected : ticket ∈ session.pending.tickets) (outcome : Except Failure Json) :
    (session.standing ticket).receive outcome =
      { session.standing ticket with
        expected := false
        call? := session.calls[ticket]?.map fun call =>
          { call with inbox := some outcome }.settled } := by
  obtain ⟨⟨id, _⟩, member, rfl⟩ := List.mem_map.mp expected
  obtain ⟨owner, present, _, _, empty⟩ := consistent.owned member
  simp [Standing.receive, Session.standing, expected, present, Call.settled_of_empty empty]

end Consistent

/-- A call that expects no outcome is handed none. -/
theorem receive_standing_of_unexpected (unexpected : ticket ∉ session.pending.tickets)
    (outcome : Except Failure Json) :
    (session.standing ticket).receive outcome = session.standing ticket := by
  simp [Standing.receive, standing, unexpected]

/-- A call that has nothing to take goes on from the phase that it is in. -/
private theorem standing_after_advance (found : session.calls[ticket]? = some call)
    (settled : call.settled = call) (surroundings : Surroundings) :
    (session.standing ticket).after ticket (.proceed .advance surroundings ticket) =
      { session.standing ticket with call? := some call }.advance surroundings := by
  simp [Standing.after, standing, found, settled]

/-- When one call of a session takes a turn, the others stay where they stand, so
that it is enough to know where this one stands then. -/
private theorem standing_proceeded {turn : CallTurn} {surroundings : Surroundings}
    {phase : CallPhase} (found : session.calls[other]? = some call) (pending : AwaitedCalls)
    (sent : List Message)
    (elsewhere : ticket ≠ other →
      (ticket ∈ pending.tickets ↔ ticket ∈ session.pending.tickets))
    (own : { session.standing other with expected := pending.tickets.contains other }.enter
        call phase =
      (session.standing other).after other (.proceed turn surroundings other)) :
    ({ session with pending, sent }.setPhase other phase).standing ticket =
      (session.standing ticket).after ticket (.proceed turn surroundings other) := by
  by_cases same : other = ticket
  · subst same
    rw [← own]
    simp [standing, setPhase, Standing.enter, found]
  · have expected : pending.tickets.contains ticket =
        session.pending.tickets.contains ticket := by
      rw [Bool.eq_iff_iff, List.contains_iff_mem, List.contains_iff_mem]
      exact elsewhere (Ne.symm same)
    rw [Standing.after_of_ne same]
    simp only [standing, setPhase, expected, List.length_modify, List.getElem?_modify, same,
      ↓reduceIte, id_map']

/-- Where a call stands when a response is handed over. -/
theorem Consistent.standing_handOver (consistent : session.Consistent)
    (countable : session.calls.length < 2 ^ 64 - 1) (response : Response) (ticket : Nat) :
    (session.handOver response).standing ticket =
      if response.addressee? = some (.ofNat (ticket + 1)) then
        (session.standing ticket).receive response.outcome
      else session.standing ticket := by
  rcases consistent.handOver_cases response with
    ⟨unidentified, same⟩ | ⟨_, unheard, same⟩ | ⟨other, call, found, meant, expected, same⟩
  · rw [same, if_neg (by simp [Response.addressee?, unidentified])]
  · have stays : (session.handOver response).standing ticket = session.standing ticket := by
      rw [same]
      rfl
    rw [stays]
    split
    · next addressed =>
      have absent := unheard _ (Response.addressee?_eq_some_iff.mp addressed)
      refine (receive_standing_of_unexpected ?_ _).symm
      rw [consistent.mem_tickets_iff, absent]
      simp
    · rfl
  · have number := consistent.numbered found
    have erased := consistent.mem_tickets_erase ticket countable found
    by_cases own : other = ticket
    · subst own
      have waits : other ∈ session.pending.tickets := by
        rw [consistent.mem_tickets_iff, ← number]
        exact expected
      rw [same, if_pos (by rw [← number]; exact Response.addressee?_eq_some_iff.mpr meant),
        consistent.receive_standing waits]
      simp [Session.standing, Session.deliver, found, erased]
    · have stays : (session.handOver response).standing ticket = session.standing ticket := by
        rw [same]
        have expects : (session.pending.erase (.number call.id)).tickets.contains ticket =
            session.pending.tickets.contains ticket := by
          rw [Bool.eq_iff_iff, List.contains_iff_mem, List.contains_iff_mem, erased]
          exact and_iff_left (Ne.symm own)
        simp only [Session.standing, Session.deliver, expects, List.length_modify,
          List.getElem?_modify, own, ↓reduceIte, id_map']
      rw [stays]
      split
      · next addressed =>
        have meantToo := Response.addressee?_eq_some_iff.mp addressed
        refine (receive_standing_of_unexpected ?_ _).symm
        rw [consistent.mem_tickets_iff, ← meant.unique meantToo, expected]
        simp [own]
      · rfl

/-- Where a call stands when one begins. -/
theorem Consistent.standing_begin (consistent : session.Consistent) (method : String)
    (params : Option Json) (limit : Option Duration) (ticket : Nat) :
    (session.begin method params limit).1.standing ticket =
      (session.standing ticket).after ticket (.begin method params limit) := by
  rcases Nat.lt_trichotomy ticket session.calls.length with known | rfl | unknown
  · simp only [Standing.after, Session.standing, Session.begin, List.length_append,
      List.length_singleton, List.getElem?_append_left known, Nat.ne_of_gt known, ↓reduceIte]
  · simp [Standing.after, Session.standing, Session.begin, consistent.nextId, Call.settled]
  · have absent : session.calls[ticket]? = none :=
      List.getElem?_eq_none (Nat.le_of_lt unknown)
    have absentThen (call : Call) : (session.calls ++ [call])[ticket]? = none :=
      List.getElem?_eq_none (by rw [List.length_append]; exact unknown)
    simp only [Standing.after, Session.standing, Session.begin, List.length_append,
      List.length_singleton, absent, absentThen, Nat.ne_of_lt unknown, ↓reduceIte]

/-- Where a call stands when all that are expected are given up. -/
theorem Consistent.standing_abandonCalls (consistent : session.Consistent) (ticket : Nat) :
    session.abandonCalls.standing ticket = (session.standing ticket).after ticket .abandon := by
  obtain ⟨calls, sameLength, same⟩ := session.abandonCalls_eq
  have found := session.getElem?_abandonCalls ticket
  rw [same] at found ⊢
  rw [Standing.after]
  by_cases waits : ticket ∈ session.pending.tickets
  · rw [if_pos waits] at found
    rw [consistent.receive_standing waits]
    simp only [Session.standing, found, sameLength, Option.map_map]
    rfl
  · rw [if_neg waits] at found
    rw [receive_standing_of_unexpected waits]
    have unexpected : session.pending.tickets.contains ticket = false := by simpa using waits
    simp only [Session.standing, found, sameLength, unexpected]
    rfl

/-- An effect on a session moves the standing of each of its calls. -/
theorem Effect.standing (effect : session.Effect event next) (consistent : session.Consistent)
    (countable : next.calls.length < 2 ^ 64 - 1) (ticket : Nat) :
    next.standing ticket = (session.standing ticket).after ticket event := by
  have before : session.calls.length < 2 ^ 64 - 1 :=
    Nat.lt_of_le_of_lt effect.length_le countable
  cases effect with
  | begin => exact consistent.standing_begin _ _ _ ticket
  | refuse found phase closed =>
    refine standing_proceeded found session.pending session.sent (fun _ => .rfl) ?_
    rw [standing_after_advance found (by simp [Call.settled, phase])]
    simp [Standing.advance, phase, Session.standing, closed, Standing.enter]
  | register found phase isOpen =>
    have expects (any : Nat) := consistent.mem_tickets_insert any before found phase
    refine standing_proceeded found _ session.sent
      (fun different => (expects ticket).trans (or_iff_left different)) ?_
    rw [standing_after_advance found (by simp [Call.settled, phase])]
    simp [Standing.advance, phase, Session.standing, isOpen, Standing.enter, expects]
  | send found phase unhindered =>
    refine standing_proceeded found session.pending _ (fun _ => .rfl) ?_
    rw [standing_after_advance found (by simp [Call.settled, phase])]
    simp [Standing.advance, phase, Session.standing, unhindered, Standing.enter]
  | failToSend found phase hindered =>
    refine standing_proceeded found session.pending session.sent (fun _ => .rfl) ?_
    rw [standing_after_advance found (by simp [Call.settled, phase])]
    simp [Standing.advance, phase, Session.standing, hindered, Standing.enter]
  | withdraw found phase =>
    have expects (any : Nat) := consistent.mem_tickets_erase any before found
    refine standing_proceeded found _ session.sent
      (fun different => (expects ticket).trans (and_iff_left different)) ?_
    -- the request could not be written, or it was and has not been answered in time
    rcases phase with phase | ⟨phase, rfl⟩ <;>
      rw [standing_after_advance found (by simp [Call.settled, phase])] <;>
      simp [Standing.advance, phase, Session.standing, Standing.enter, expects]
  | take found phase inbox =>
    refine standing_proceeded found session.pending session.sent (fun _ => .rfl) ?_
    simp [Standing.after, Session.standing, Standing.enter, found, Call.settled, phase, inbox]
  | expire found phase inbox =>
    refine standing_proceeded found session.pending session.sent (fun _ => .rfl) ?_
    simp [Standing.after, Session.standing, Standing.enter, found, Call.settled, phase, inbox]
  | handOver => exact consistent.standing_handOver before _ ticket
  | detach => rfl
  | abandon => exact consistent.standing_abandonCalls ticket
  | aside isAside leaves =>
    have same : next.standing ticket = session.standing ticket := by
      simp only [Session.standing, leaves.calls, leaves.pending, leaves.closed, leaves.outlet]
    rw [same]
    unfold SessionEvent.isAside at isAside
    split at isAside <;> first | rfl | cases isAside

/-- An execution moves the standing of each call, event by event. -/
theorem Steps.standing {events : List SessionEvent} {last : Session}
    (run : Steps session events last) (consistent : session.Consistent)
    (countable : last.calls.length < 2 ^ 64 - 1) (ticket : Nat) :
    last.standing ticket = events.foldl (Standing.after ticket) (session.standing ticket) := by
  induction run with
  | refl => rfl
  | step prior transition ih =>
    have effect := Effect.of_after? transition
    have before := Nat.lt_of_le_of_lt effect.length_le countable
    rw [effect.standing (consistent.of_steps prior) countable, ih before, List.foldl_append,
      List.foldl_cons, List.foldl_nil]

end Session

/-! ## Responses that come earlier or later -/

namespace Standing

variable {standing : Standing} {ticket : Nat} {event : SessionEvent}

/-- What is kept of a call that has registered: it has begun, and as long as its
response is expected, it has not returned and has not been handed anything. -/
structure Registered (ticket : Nat) (standing : Standing) : Prop where
  known : ticket < standing.known
  call : ∃ call, standing.call? = some call ∧ call.phase ≠ .allocated ∧
    (standing.expected = true → call.phase.isOutstanding = true ∧ call.inbox = none)

namespace Registered

variable (registered : standing.Registered ticket)
include registered

/-- A registered call that no longer expects a response. -/
theorem unexpect : { standing with expected := false }.Registered ticket := by
  obtain ⟨call, present, started, _⟩ := registered.call
  exact ⟨registered.known, call, present, started, by simp⟩

/-- A registered call that enters another phase, without returning while its
response is expected. -/
theorem enter {call : Call} {phase : CallPhase} (present : standing.call? = some call)
    (started : phase ≠ .allocated)
    (kept : standing.expected = true → phase.isOutstanding = true) :
    (standing.enter call phase).Registered ticket := by
  obtain ⟨_, presentToo, _, waits⟩ := registered.call
  obtain rfl := Option.some.inj (present.symm.trans presentToo)
  refine ⟨registered.known, _, rfl, Call.settled_started started, fun expected => ?_⟩
  have empty : { call with phase }.inbox = none := (waits expected).2
  rw [Call.settled_of_empty empty]
  exact ⟨kept expected, empty⟩

/-- A registered call that goes on. -/
theorem advance (surroundings : Surroundings) :
    (standing.advance surroundings).Registered ticket := by
  obtain ⟨call, present, started, _⟩ := registered.call
  simp only [Standing.advance, present]
  split
  · next phase => exact absurd phase started
  · split
    · exact registered.enter present (by simp) fun _ => rfl
    · exact registered.enter present (by simp) fun _ => rfl
  · exact registered.unexpect.enter present (by simp) (by simp)
  · exact registered.unexpect.enter present (by simp) (by simp)
  · exact registered
  · exact registered

/-- A registered call that is handed an outcome. -/
theorem receive (outcome : Except Failure Json) :
    (standing.receive outcome).Registered ticket := by
  obtain ⟨call, present, started, _⟩ := registered.call
  simp only [Standing.receive]
  split
  · refine ⟨registered.known, _, by rw [present]; rfl, ?_, by simp⟩
    exact Call.settled_started started
  · exact registered

/-- Events that are no end of a call keep it registered. -/
theorem after (quiet : event.isEnd = false) : (standing.after ticket event).Registered ticket := by
  cases event with
  | begin method params limit =>
    obtain ⟨call, present, kept⟩ := registered.call
    refine ⟨Nat.lt_succ_of_lt registered.known, call, ?_, kept⟩
    simp [Standing.after, present, Nat.ne_of_gt registered.known]
  | proceed turn surroundings other =>
    cases turn with
    | advance =>
      rw [Standing.after]
      split
      · exact registered.advance surroundings
      · exact registered
    | take => exact registered
    | expire => cases quiet
  | dispatch time message =>
    cases message with
    | response response =>
      rw [Standing.after]
      split
      · exact registered.receive response.outcome
      · exact registered
    | request _ | notification _ => exact registered
  | detach => exact ⟨registered.known, registered.call⟩
  | abandon => cases quiet
  | answer _ _ | notify _ _ _ | install _ _ | stream _ _ _ => exact registered

end Registered

/-- A registered call may be handed an outcome before it goes on or after. -/
theorem receive_advance (registered : standing.Registered ticket) (surroundings : Surroundings)
    (outcome : Except Failure Json) :
    (standing.receive outcome).advance surroundings =
      (standing.advance surroundings).receive outcome := by
  obtain ⟨⟨id, method, params, limit, phase, inbox⟩, present, started, waits⟩ := registered.call
  cases expected : standing.expected with
  | false =>
    cases phase with
    | allocated => exact absurd rfl started
    | registered =>
      cases hindered : standing.outlet.hindrance? surroundings.fault <;>
        simp [Standing.receive, Standing.advance, Standing.enter, present, expected, hindered]
    | _ => simp [Standing.receive, Standing.advance, Standing.enter, present, expected]
  | true =>
    obtain ⟨outstanding, rfl⟩ : phase.isOutstanding = true ∧ inbox = none := waits expected
    cases phase with
    | allocated | finished _ => cases outstanding
    | registered =>
      cases hindered : standing.outlet.hindrance? surroundings.fault <;>
        simp [Standing.receive, Standing.advance, Standing.enter, present, expected, hindered,
          Call.settled, Call.deadlineFrom]
    | _ =>
      simp [Standing.receive, Standing.advance, Standing.enter, present, expected, Call.settled,
        Call.timeoutFailure]

/-- A registered call may be handed an outcome before an event or after, unless
the event is an end or hands it an outcome too. -/
theorem receive_after (registered : standing.Registered ticket) (quiet : event.isEnd = false)
    (apart : ∀ response, event.response? = some response →
      response.addressee? ≠ some (.ofNat (ticket + 1)))
    (outcome : Except Failure Json) :
    (standing.receive outcome).after ticket event =
      (standing.after ticket event).receive outcome := by
  cases event with
  | begin method params limit =>
    have known : standing.known ≠ ticket := Nat.ne_of_gt registered.known
    simp only [Standing.after, Standing.receive, known]
    split <;> simp
  | proceed turn surroundings other =>
    cases turn with
    | advance =>
      simp only [Standing.after]
      split
      · exact receive_advance registered surroundings outcome
      · rfl
    | take => rfl
    | expire => cases quiet
  | dispatch time message =>
    cases message with
    | response response => simp only [Standing.after, apart response rfl, ↓reduceIte]
    | request _ | notification _ => rfl
  | detach => cases waits : standing.expected <;> simp [Standing.after, Standing.receive, waits]
  | abandon => cases quiet
  | answer _ _ | notify _ _ _ | install _ _ | stream _ _ _ => rfl

end Standing

end FoldAtlas
