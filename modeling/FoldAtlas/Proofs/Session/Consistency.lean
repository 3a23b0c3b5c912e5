import FoldAtlas.Proofs.Session.Effect
import Mathlib.Algebra.Group.Nat.Defs

/-!
# Consistent sessions

The invariant that ties the identifiers, the expected responses and the phases
of a session's calls together. It holds at the start, every event keeps it, and
so every execution does (`Consistent.of_steps`). Identifiers are counted in 64
bits; as long as none is repeated, a call is known by its identifier
(`Consistent.ticket_eq`).
-/

namespace FoldAtlas

namespace Response

/-- Whether a response is meant for the call with a number: its identifier is the
number, or a string that spells it. -/
def Names (response : Response) (number : UInt64) : Prop :=
  ∃ id, response.id = some id ∧ (id = .number number ∨ id.spelled? = some number)

/-- A response is meant for one number only. -/
theorem Names.unique {response : Response} {first second : UInt64}
    (one : response.Names first) (two : response.Names second) : first = second := by
  obtain ⟨id, present, one⟩ := one
  obtain ⟨other, presentToo, two⟩ := two
  obtain rfl := Option.some.inj (present.symm.trans presentToo)
  rcases one with rfl | one <;> rcases two with two | two
  · exact RequestId.number.inj two
  · cases two
  · subst two; cases one
  · exact Option.some.inj (one.symm.trans two)

end Response

namespace Session

/-- The identifiers of calls are counted from one, what is expected is the
response to a call between its registration and its return that has not been
handed an outcome, and a closed session expects nothing. -/
structure Consistent (session : Session) : Prop where
  nextId : session.nextId = UInt64.ofNat (session.calls.length + 1)
  numbered : ∀ {ticket : Nat} {call : Call}, session.calls[ticket]? = some call →
    call.id = UInt64.ofNat (ticket + 1)
  unasked : ∀ {ticket : Nat} {call : Call}, session.calls[ticket]? = some call →
    call.phase = .allocated → call.inbox = none
  distinct : session.pending.Distinct
  owned : ∀ {id : RequestId} {ticket : Nat}, (id, ticket) ∈ session.pending.entries →
    ∃ call, session.calls[ticket]? = some call ∧ id = .number call.id ∧
      call.phase.isOutstanding = true ∧ call.inbox = none
  sealed : session.closed = true → session.pending.entries = []

namespace Consistent

variable {session next : Session} {ticket other : Nat} {call : Call}

/-- A session is consistent at its start. -/
theorem start (handlers : Handlers) : (Session.start handlers).Consistent where
  nextId := rfl
  numbered found := by simp [Session.start] at found
  unasked found := by simp [Session.start] at found
  distinct := List.nodup_nil
  owned member := by simp [Session.start, AwaitedCalls.empty] at member
  sealed _ := rfl

/-- The response to a call is expected under its identifier or not at all. -/
theorem expected_iff (consistent : session.Consistent)
    (found : session.calls[ticket]? = some call) :
    session.pending.find? (.number call.id) = some ticket ↔
      ticket ∈ session.pending.tickets := by
  rw [consistent.distinct.find?_eq_some_iff]
  constructor
  · exact fun member => List.mem_map.mpr ⟨_, member, rfl⟩
  · intro waits
    obtain ⟨⟨id, _⟩, member, rfl⟩ := List.mem_map.mp waits
    obtain ⟨owner, present, rfl, _⟩ := consistent.owned member
    obtain rfl := Option.some.inj (found.symm.trans present)
    exact member

/-- A call whose response is expected is under way and has no outcome yet. -/
theorem of_expected (consistent : session.Consistent)
    (found : session.calls[ticket]? = some call)
    (expected : session.pending.find? (.number call.id) = some ticket) :
    call.phase.isOutstanding = true ∧ call.inbox = none := by
  obtain ⟨owner, present, _, outstanding, inbox⟩ :=
    consistent.owned (consistent.distinct.find?_eq_some_iff.mp expected)
  obtain rfl := Option.some.inj (found.symm.trans present)
  exact ⟨outstanding, inbox⟩

/-- Only numbers are expected. -/
theorem find?_text (consistent : session.Consistent) (value : String) :
    session.pending.find? (.text value) = none := by
  rw [AwaitedCalls.find?_eq_none_iff]
  intro ticket member
  obtain ⟨_, _, numeric, _⟩ := consistent.owned member
  cases numeric

/-- As long as no identifier is repeated, it belongs to one call. -/
theorem ticket_eq (consistent : session.Consistent)
    (countable : session.calls.length < 2 ^ 64 - 1) {first second : Call}
    (foundFirst : session.calls[ticket]? = some first)
    (foundSecond : session.calls[other]? = some second) (same : first.id = second.id) :
    ticket = other := by
  have firstBound := (List.getElem?_eq_some_iff.mp foundFirst).1
  have secondBound := (List.getElem?_eq_some_iff.mp foundSecond).1
  rw [consistent.numbered foundFirst, consistent.numbered foundSecond] at same
  have values := congrArg UInt64.toNat same
  simp only [UInt64.toNat_ofNat'] at values
  omega

/-- As long as no identifier is repeated, whoever is expected under the
identifier of a call is that call. -/
theorem expected_self (consistent : session.Consistent)
    (countable : session.calls.length < 2 ^ 64 - 1)
    (found : session.calls[ticket]? = some call)
    (expected : session.pending.find? (.number call.id) = some other) : other = ticket := by
  obtain ⟨owner, present, same, _⟩ :=
    consistent.owned (consistent.distinct.find?_eq_some_iff.mp expected)
  exact consistent.ticket_eq countable present found (RequestId.number.inj same).symm

/-! ## What keeps a session consistent -/

/-- What does not concern the calls does not matter. -/
theorem of_fields (consistent : session.Consistent) (nextId : next.nextId = session.nextId)
    (calls : next.calls = session.calls) (pending : next.pending = session.pending)
    (closed : next.closed = session.closed) : next.Consistent where
  nextId := by rw [nextId, calls, consistent.nextId]
  numbered found := consistent.numbered (calls ▸ found)
  unasked found := consistent.unasked (calls ▸ found)
  distinct := pending ▸ consistent.distinct
  owned member := by
    rw [calls]
    exact consistent.owned (pending ▸ member)
  sealed isClosed := by
    rw [pending]
    exact consistent.sealed (closed ▸ isClosed)

/-- Beginning a call. -/
theorem begin (consistent : session.Consistent) (method : String) (params : Option Json)
    (limit : Option Duration) : (session.begin method params limit).1.Consistent where
  nextId := by
    simp only [Session.begin, consistent.nextId, List.length_append, List.length_singleton]
    rw [UInt64.ofNat_add (session.calls.length + 1) 1]
    rfl
  numbered found := by
    rcases found_begin found with before | ⟨rfl, rfl⟩
    · exact consistent.numbered before
    · exact consistent.nextId
  unasked found phase := by
    rcases found_begin found with before | ⟨rfl, rfl⟩
    · exact consistent.unasked before phase
    · rfl
  distinct := consistent.distinct
  owned member := by
    obtain ⟨owner, present, same⟩ := consistent.owned member
    refine ⟨owner, ?_, same⟩
    rw [Session.begin, List.getElem?_append_left (List.getElem?_eq_some_iff.mp present).1]
    exact present
  sealed := consistent.sealed

/-- Moving a call on, unless that ends it while its response is expected. -/
theorem setPhase (consistent : session.Consistent) (ticket : Nat) {phase : CallPhase}
    (started : phase ≠ .allocated)
    (kept : phase.isOutstanding = true ∨ ticket ∉ session.pending.tickets) :
    (session.setPhase ticket phase).Consistent where
  nextId := by simpa [Session.setPhase] using consistent.nextId
  numbered found := by
    rcases found_setPhase found with ⟨rfl, before, present, rfl⟩ | ⟨_, present⟩
    · exact (consistent.numbered present :)
    · exact consistent.numbered present
  unasked found allocated := by
    rcases found_setPhase found with ⟨rfl, before, present, rfl⟩ | ⟨_, present⟩
    · exact absurd allocated started
    · exact consistent.unasked present allocated
  distinct := consistent.distinct
  owned {id other} member := by
    obtain ⟨owner, present, same, outstanding, inbox⟩ := consistent.owned member
    by_cases moved : ticket = other
    · subst moved
      have waits : ticket ∈ session.pending.tickets := List.mem_map.mpr ⟨_, member, rfl⟩
      refine ⟨{ owner with phase }, by simp [Session.setPhase, present], same, ?_, inbox⟩
      exact kept.resolve_right (not_not_intro waits)
    · refine ⟨owner, ?_, same, outstanding, inbox⟩
      simpa [Session.setPhase, moved] using present
  sealed := consistent.sealed

/-- Handing an outcome over to a call that is under way and no longer expected. -/
theorem deliver (consistent : session.Consistent) {outcome : Except Failure Json}
    (started : ∀ call, session.calls[ticket]? = some call → call.phase ≠ .allocated)
    (unexpected : ticket ∉ session.pending.tickets) :
    (session.deliver ticket outcome).Consistent where
  nextId := by simpa [Session.deliver] using consistent.nextId
  numbered found := by
    rcases found_deliver found with ⟨rfl, before, present, rfl⟩ | ⟨_, present⟩
    · exact (consistent.numbered present :)
    · exact consistent.numbered present
  unasked found allocated := by
    rcases found_deliver found with ⟨rfl, before, present, rfl⟩ | ⟨_, present⟩
    · exact absurd allocated (started before present)
    · exact consistent.unasked present allocated
  distinct := consistent.distinct
  owned {id other} member := by
    obtain ⟨owner, present, same⟩ := consistent.owned member
    refine ⟨owner, ?_, same⟩
    have different : ticket ≠ other := by
      rintro rfl
      exact unexpected (List.mem_map.mpr ⟨_, member, rfl⟩)
    simpa [Session.deliver, different] using present
  sealed := consistent.sealed

/-- No longer expecting a response. -/
theorem erase (consistent : session.Consistent) (id : RequestId) :
    { session with pending := session.pending.erase id }.Consistent where
  nextId := consistent.nextId
  numbered := consistent.numbered
  unasked := consistent.unasked
  distinct := consistent.distinct.erase id
  owned member := consistent.owned (AwaitedCalls.mem_erase.mp member).1
  sealed closed := by
    simp [AwaitedCalls.erase, Keyed.without, consistent.sealed closed]

/-- Expecting the response to a call that is under way, in an open session. -/
theorem insert (consistent : session.Consistent)
    (found : session.calls[ticket]? = some call) (outstanding : call.phase.isOutstanding = true)
    (inbox : call.inbox = none) (isOpen : session.closed = false) :
    { session with pending := session.pending.insert (.number call.id) ticket }.Consistent where
  nextId := consistent.nextId
  numbered := consistent.numbered
  unasked := consistent.unasked
  distinct := consistent.distinct.insert _ _
  owned member := by
    rcases AwaitedCalls.mem_insert.mp member with ⟨earlier, _⟩ | same
    · exact consistent.owned earlier
    · obtain ⟨rfl, rfl⟩ := Prod.mk.inj same
      exact ⟨call, found, rfl, outstanding, inbox⟩
  sealed closed := by
    rw [isOpen] at closed
    cases closed

/-- An erased number is expected for no call with that identifier. -/
theorem not_mem_tickets_erase (consistent : session.Consistent)
    (found : session.calls[ticket]? = some call) :
    ticket ∉ (session.pending.erase (.number call.id)).tickets := by
  have erased := consistent.erase (.number call.id)
  rw [← erased.expected_iff found]
  simp

/-- What a response can do: nothing if it has no identifier; be counted if nobody
expects it; or be handed over to the one call that it is meant for. -/
theorem handOver_cases (consistent : session.Consistent) (response : Response) :
    (response.id = none ∧ session.handOver response = session) ∨
    (response.id ≠ none ∧ (∀ number, response.Names number →
        session.pending.find? (.number number) = none) ∧
      session.handOver response = { session with strays := session.strays + 1 }) ∨
    ∃ ticket call, session.calls[ticket]? = some call ∧ response.Names call.id ∧
      session.pending.find? (.number call.id) = some ticket ∧
      session.handOver response =
        { session with pending := session.pending.erase (.number call.id) }.deliver ticket
          response.outcome := by
  cases identified : response.id with
  | none => exact .inl ⟨rfl, by simp [handOver, identified]⟩
  | some id =>
    refine .inr ?_
    have names (number : UInt64) : response.Names number ↔
        id = .number number ∨ id.spelled? = some number := by
      simp [Response.Names, identified]
    have hit {number : UInt64} {ticket : Nat} (meant : response.Names number)
        (awaited : session.awaited? id = some (.number number, ticket))
        (expected : session.pending.find? (.number number) = some ticket) :
        ∃ ticket call, session.calls[ticket]? = some call ∧ response.Names call.id ∧
          session.pending.find? (.number call.id) = some ticket ∧
          session.handOver response =
            { session with pending := session.pending.erase (.number call.id) }.deliver ticket
              response.outcome := by
      obtain ⟨owner, present, same, _⟩ :=
        consistent.owned (consistent.distinct.find?_eq_some_iff.mp expected)
      obtain rfl := RequestId.number.inj same
      exact ⟨ticket, owner, present, meant, expected, by simp [handOver, identified, awaited]⟩
    cases id with
    | number number =>
      cases expected : session.pending.find? (.number number) with
      | none =>
        refine .inl ⟨by simp, fun other meant => ?_, by
          simp [handOver, identified, awaited?, expected, RequestId.spelled?]⟩
        rcases (names other).mp meant with same | spelled
        · rwa [← RequestId.number.inj same]
        · cases spelled
      | some ticket =>
        exact .inr (hit ((names number).mpr (.inl rfl)) (by simp [awaited?, expected]) expected)
    | text value =>
      have unheard := consistent.find?_text value
      cases spelled : (RequestId.text value).spelled? with
      | none =>
        refine .inl ⟨by simp, fun other meant => ?_, by
          simp [handOver, identified, awaited?, unheard, spelled]⟩
        rcases (names other).mp meant with same | meant
        · cases same
        · rw [spelled] at meant
          cases meant
      | some number =>
        cases expected : session.pending.find? (.number number) with
        | none =>
          refine .inl ⟨by simp, fun other meant => ?_, by
            simp [handOver, identified, awaited?, unheard, spelled, expected]⟩
          rcases (names other).mp meant with same | meant
          · cases same
          · rw [spelled] at meant
            rwa [← Option.some.inj meant]
        | some ticket =>
          exact .inr (hit ((names number).mpr (.inr spelled))
            (by simp [awaited?, unheard, spelled, expected]) expected)

/-- Handing a response over. -/
theorem handOver (consistent : session.Consistent) (response : Response) :
    (session.handOver response).Consistent := by
  rcases consistent.handOver_cases response with
    ⟨_, same⟩ | ⟨_, _, same⟩ | ⟨ticket, call, found, _, expected, same⟩
  · rwa [same]
  · rw [same]
    exact consistent.of_fields rfl rfl rfl rfl
  · rw [same]
    refine (consistent.erase _).deliver ?_ (consistent.not_mem_tickets_erase found)
    intro owner present allocated
    obtain rfl := Option.some.inj (found.symm.trans present)
    have outstanding := (consistent.of_expected found expected).1
    rw [allocated] at outstanding
    cases outstanding

/-- Giving up the calls. -/
theorem abandonCalls (consistent : session.Consistent) : session.abandonCalls.Consistent := by
  obtain ⟨calls, sameLength, same⟩ := session.abandonCalls_eq
  have pending : session.abandonCalls.pending.entries = [] := by
    rw [same]
    rfl
  constructor
  · rw [same]
    exact sameLength ▸ consistent.nextId
  · intro ticket call found
    rcases found_abandonCalls found with ⟨_, before, present, rfl⟩ | ⟨_, present⟩
    · exact (consistent.numbered present :)
    · exact consistent.numbered present
  · intro ticket call found allocated
    rcases found_abandonCalls found with ⟨waits, before, present, rfl⟩ | ⟨_, present⟩
    · have expected := (consistent.expected_iff present).mpr waits
      have outstanding := (consistent.of_expected present expected).1
      rw [show before.phase = .allocated from allocated] at outstanding
      cases outstanding
    · exact consistent.unasked present allocated
  · simp [AwaitedCalls.Distinct, pending]
  · simp [pending]
  · exact fun _ => pending

/-- Every effect keeps a session consistent. -/
theorem of_effect {event : SessionEvent} (consistent : session.Consistent)
    (effect : session.Effect event next) : next.Consistent := by
  cases effect with
  | begin => exact consistent.begin _ _ _
  | refuse found phase closed =>
    refine consistent.setPhase _ (by simp) (.inr ?_)
    simp [AwaitedCalls.tickets, consistent.sealed closed]
  | @register surroundings ticket call found phase isOpen =>
    have inbox := consistent.unasked found phase
    have moved : (session.setPhase ticket .registered).Consistent :=
      consistent.setPhase ticket (by simp) (.inl rfl)
    have present : (session.setPhase ticket .registered).calls[ticket]? =
        some { call with phase := .registered } := by
      simp [Session.setPhase, found]
    exact (moved.insert present rfl inbox isOpen :)
  | @send surroundings ticket call found phase =>
    have moved : (session.setPhase ticket
        (.waiting (call.deadlineFrom surroundings.time))).Consistent :=
      consistent.setPhase ticket (by simp) (.inl rfl)
    exact moved.of_fields rfl rfl rfl rfl
  | failToSend found phase => exact consistent.setPhase _ (by simp) (.inl rfl)
  | withdraw found phase =>
    exact (consistent.erase _).setPhase _ (by simp) (.inr (consistent.not_mem_tickets_erase found))
  | take found phase inbox =>
    refine consistent.setPhase _ (by simp) (.inr fun waits => ?_)
    have expected := (consistent.expected_iff found).mpr waits
    rw [(consistent.of_expected found expected).2] at inbox
    cases inbox
  | expire found phase inbox => exact consistent.setPhase _ (by simp) (.inl rfl)
  | handOver => exact consistent.handOver _
  | detach => exact consistent.of_fields rfl rfl rfl rfl
  | abandon => exact consistent.abandonCalls
  | aside _ leaves =>
    exact consistent.of_fields leaves.nextId leaves.calls leaves.pending leaves.closed

/-- Every execution keeps a session consistent. -/
theorem of_steps {events : List SessionEvent} (consistent : session.Consistent)
    (run : Steps session events next) : next.Consistent := by
  induction run with
  | refl => exact consistent
  | step _ transition ih => exact ih.of_effect (.of_after? transition)

/-- Every session that can come about is consistent. -/
theorem of_start {handlers : Handlers} {events : List SessionEvent}
    (run : Steps (.start handlers) events session) : session.Consistent :=
  (start handlers).of_steps run

end Consistent

end Session

end FoldAtlas
