import FoldAtlas.Proofs.Session.Reordering

/-!
# Settlement

How calls end, seen from what comes in. A call that returns what the other side
answered owes it to the one response that was dispatched while the session
expected it (`AnsweredBy`), and every response that has an identifier either
settles one expected call or is counted as a stray (`Accounts`). Responses to
several calls may come in any order (`Reordering`).
-/

namespace FoldAtlas

/-- Whether an outcome is what the other side answered: a result, an error, or
both at once, which breaks the protocol. -/
def isReply : Except Failure Json → Bool
  | .ok _ | .error (.rpc _ _) | .error (.protocol _) => true
  | .error _ => false

namespace Session

/-- Whether, in an execution, a response is dispatched behind some of the events,
while the session expects the response to a call, and is meant for it. -/
def AnsweredBy (first : Session) (events : List SessionEvent) (ticket : Nat) (number : UInt64)
    (before : List SessionEvent) (response : Response) : Prop :=
  ∃ time behind middle, events = before ++ .dispatch time (.response response) :: behind ∧
    Steps first before middle ∧ middle.pending.find? (.number number) = some ticket ∧
    response.Names number

/-- Whether a session takes notice of a response either by no longer expecting
that to one call, or by counting a stray. -/
def Accounts (session : Session) (response : Response) (next : Session) : Prop :=
  (∃ number ticket front back, response.Names number ∧
      session.pending.entries = front ++ (.number number, ticket) :: back ∧
      next.pending.entries = front ++ back ∧ next.strays = session.strays) ∨
  ((∀ number, response.Names number → session.pending.find? (.number number) = none) ∧
      next.pending = session.pending ∧ next.strays = session.strays + 1)

/-- What is known about the outcomes of calls after an execution. -/
structure Settlement (first : Session) (events : List SessionEvent) (session : Session) :
    Prop where
  /-- The outcome of a call that is over never changes. -/
  once : ∀ ticket outcome, session.outcome? ticket = some outcome → ∀ more later,
    Steps session more later → later.outcome? ticket = some outcome
  /-- A call that returns a reply was answered by one response only, and returns
  what that response says. -/
  caused : ∀ (ticket : Nat) (call : Call) outcome, session.calls[ticket]? = some call →
    call.phase = .finished outcome → isReply outcome = true →
    ∃ before response, AnsweredBy first events ticket call.id before response ∧
      response.outcome = outcome ∧
      ∀ others another, AnsweredBy first events ticket call.id others another →
        others = before ∧ another = response
  /-- Every response that has an identifier is accounted for. -/
  accounted : ∀ time (response : Response), response.id ≠ none →
    ∃ next, session.after? (.dispatch time (.response response)) = some next ∧
      session.Accounts response next
  /-- The order of responses to several calls makes no difference to any call,
  as long as identifiers have not run out. -/
  reordered : ∀ numbers left right, session.Reordering numbers left right →
    ∀ one other, Steps session left one → Steps session right other →
    ∀ more rest oneEnd otherEnd, Steps one more oneEnd → Steps other rest otherEnd →
    more.filter (!·.isTake) = rest.filter (!·.isTake) → oneEnd.calls.length < 2 ^ 64 - 1 →
    ∀ ticket, oneEnd.verdict? ticket = otherEnd.verdict? ticket

variable {first session next last : Session} {events before others : List SessionEvent}
  {event : SessionEvent} {ticket : Nat} {number : UInt64} {call later : Call}
  {response another : Response}

/-! ## What a response does -/

/-- A response to an expected call is handed over to it. -/
theorem Consistent.handOver_expected (consistent : session.Consistent)
    (expected : session.pending.find? (.number number) = some ticket)
    (meant : response.Names number) :
    ∃ call, session.calls[ticket]? = some call ∧
      (session.handOver response).calls[ticket]? =
        some { call with inbox := some response.outcome } := by
  rcases consistent.handOver_cases response with
    ⟨unidentified, _⟩ | ⟨_, unheard, _⟩ | ⟨other, call, found, meantToo, expectedToo, same⟩
  · obtain ⟨id, identified, _⟩ := meant
    rw [unidentified] at identified
    cases identified
  · rw [unheard number meant] at expected
    cases expected
  · rw [meant.unique meantToo, expectedToo] at expected
    obtain rfl := Option.some.inj expected
    exact ⟨call, found, by rw [same]; simp [Session.deliver, found]⟩

/-- Every response that has an identifier is accounted for. -/
theorem Consistent.accounts (consistent : session.Consistent) (identified : response.id ≠ none) :
    session.Accounts response (session.handOver response) := by
  rcases consistent.handOver_cases response with
    ⟨unidentified, _⟩ | ⟨_, unheard, same⟩ | ⟨ticket, call, _, meant, expected, same⟩
  · exact absurd unidentified identified
  · refine .inr ⟨unheard, ?_⟩
    rw [same]
    exact ⟨rfl, rfl⟩
  · obtain ⟨front, back, entries, erased⟩ := consistent.distinct.exists_split expected
    refine .inl ⟨call.id, ticket, front, back, meant, entries, ?_⟩
    rw [same]
    exact ⟨erased, rfl⟩

/-! ## What a reply is owed to -/

/-- An answer stays one as the execution goes on. -/
theorem AnsweredBy.append (answered : AnsweredBy first events ticket number before response)
    (more : List SessionEvent) :
    AnsweredBy first (events ++ more) ticket number before response := by
  obtain ⟨time, behind, middle, rfl, rest⟩ := answered
  exact ⟨time, behind ++ more, middle, by simp, rest⟩

/-- What is known about the outcomes that a call has seen. -/
structure Explained (first : Session) (events : List SessionEvent) (ticket : Nat) (call : Call) :
    Prop where
  /-- What the call was handed, a response said, or it was given up. -/
  handed : ∀ outcome, call.inbox = some outcome → outcome = .error .sessionClosed ∨
    ∃ before response, AnsweredBy first events ticket call.id before response ∧
      response.outcome = outcome
  /-- A reply that the call returns was handed to it. -/
  returned : ∀ outcome, call.phase = .finished outcome → isReply outcome = true →
    call.inbox = some outcome
  /-- What keeps the call from writing its request is no reply. -/
  unsent : ∀ failure, call.phase = .unsent failure → isReply (.error failure) = false

/-- A call whose response is expected has not returned. -/
theorem Consistent.not_finished (consistent : session.Consistent)
    (present : session.calls[ticket]? = some call)
    (expected : session.pending.find? (.number call.id) = some ticket)
    (outcome : Except Failure Json) : call.phase ≠ .finished outcome := by
  intro isOver
  have outstanding := (consistent.of_expected present expected).1
  rw [isOver] at outstanding
  cases outstanding

/-- A move of a call leaves everything about it explained. -/
theorem Explained.step (explained : Explained first events ticket call)
    (run : Steps first events session) (consistent : session.Consistent)
    (present : session.calls[ticket]? = some call)
    (move : Move session ticket call event later) :
    Explained first (events ++ [event]) ticket later := by
  have handed : ∀ outcome, call.inbox = some outcome → outcome = .error .sessionClosed ∨
      ∃ before response, AnsweredBy first (events ++ [event]) ticket call.id before response ∧
        response.outcome = outcome := by
    intro outcome inbox
    refine (explained.handed outcome inbox).imp_right ?_
    rintro ⟨before, response, answered, same⟩
    exact ⟨before, response, answered.append [event], same⟩
  cases move with
  | stay => exact ⟨handed, explained.returned, explained.unsent⟩
  | refuse => exact ⟨handed, by rintro _ ⟨⟩ ⟨⟩, by simp⟩
  | register | send | expire => exact ⟨handed, by simp, by simp⟩
  | failToSend phase cause =>
    refine ⟨handed, by simp, ?_⟩
    rintro _ ⟨⟩
    rcases cause with rfl | ⟨fault, rfl⟩ <;> rfl
  | @withdraw surroundings failure phase =>
    have noReply : isReply (.error failure) = false := by
      rcases phase with phase | ⟨_, rfl⟩
      · exact explained.unsent failure phase
      · rfl
    refine ⟨handed, ?_, by simp⟩
    rintro _ ⟨⟩ reply
    rw [noReply] at reply
    cases reply
  | take phase inbox => exact ⟨handed, by rintro _ ⟨⟩ _; exact inbox, by simp⟩
  | @answer time response meant expected =>
    refine ⟨?_, fun outcome isOver => ?_, explained.unsent⟩
    · rintro _ ⟨⟩
      exact .inr ⟨events, response, ⟨time, [], session, rfl, run, expected, meant⟩, rfl⟩
    · exact absurd isOver (consistent.not_finished present expected outcome)
  | abandon expected =>
    refine ⟨?_, fun outcome isOver => ?_, explained.unsent⟩
    · rintro _ ⟨⟩
      exact .inl rfl
    · exact absurd isOver (consistent.not_finished present expected outcome)

/-- Everything about the calls of a session that can come about is explained. -/
theorem Steps.explained {handlers : Handlers} (run : Steps (.start handlers) events last)
    (found : last.calls[ticket]? = some call) :
    Explained (.start handlers) events ticket call := by
  induction run generalizing call with
  | refl => simp [start] at found
  | step prior transition ih =>
    have consistent := Consistent.of_start prior
    rcases (Effect.of_after? transition).origin consistent found with
      ⟨earlier, present, move⟩ | ⟨_, phase, inbox⟩
    · exact (ih present).step prior consistent present move
    · exact ⟨by simp [inbox], by simp [phase], by simp [phase]⟩

/-- Once a call has been answered, its response is not expected any more. -/
theorem Consistent.not_expected_again (consistent : session.Consistent) {time : Nat}
    (expected : session.pending.find? (.number number) = some ticket)
    (meant : response.Names number)
    (onward : Steps session (.dispatch time (.response response) :: events) last) :
    last.pending.find? (.number number) ≠ some ticket := by
  intro again
  obtain ⟨next, happens, more⟩ := Steps.cons_iff.mp onward
  obtain rfl := Option.some.inj happens
  obtain ⟨call, _, answered⟩ := consistent.handOver_expected expected meant
  have after := consistent.handOver response
  obtain ⟨later, found, inbox⟩ := more.inbox_persists after answered rfl
  obtain ⟨owner, present, _, _, empty⟩ :=
    (after.of_steps more).owned (AwaitedCalls.mem_of_find? again)
  obtain rfl := Option.some.inj (found.symm.trans present)
  rw [inbox] at empty
  cases empty

/-- A call is answered by one response only. -/
theorem AnsweredBy.unique (one : AnsweredBy first events ticket number before response)
    (two : AnsweredBy first events ticket number others another)
    (consistent : first.Consistent) : others = before ∧ another = response := by
  obtain ⟨time, behind, middle, split, run, expected, meant⟩ := one
  obtain ⟨timeToo, behindToo, middleToo, splitToo, runToo, expectedToo, meantToo⟩ := two
  -- Of two different places, the later one is reached through the earlier one.
  rcases List.append_eq_append_iff.mp (split.symm.trans splitToo) with
    ⟨between, rfl, rest⟩ | ⟨between, rfl, rest⟩
  · cases between with
    | nil => simp_all
    | cons answer between =>
      obtain ⟨rfl, _⟩ := List.cons.inj rest
      obtain ⟨reached, front, back⟩ := Steps.append_iff.mp runToo
      obtain rfl := front.deterministic run
      have before := consistent.of_steps run
      exact absurd expectedToo (before.not_expected_again expected meant back)
  · cases between with
    | nil => simp_all
    | cons answer between =>
      obtain ⟨rfl, _⟩ := List.cons.inj rest
      obtain ⟨reached, front, back⟩ := Steps.append_iff.mp run
      obtain rfl := front.deterministic runToo
      have before := consistent.of_steps runToo
      exact absurd expected (before.not_expected_again expectedToo meantToo back)

/-- However an execution has gone so far: no call ends twice; a call that returns
a reply owes it to the first response that was meant for it while it was
expected; every response is accounted for; and responses to several calls may
come in any order. -/
theorem settlement_is_exact {handlers : Handlers} {events : List SessionEvent}
    {session : Session} (run : Steps (.start handlers) events session) :
    Settlement (.start handlers) events session where
  once ticket outcome isOver more later onward :=
    onward.outcome_persists (.of_start run) isOver
  caused ticket call outcome found isOver reply := by
    have explained := run.explained found
    have handed := explained.handed outcome (explained.returned outcome isOver reply)
    rcases handed with rfl | ⟨before, response, answered, same⟩
    · cases reply
    · exact ⟨before, response, answered, same, fun others another answeredToo =>
        answered.unique answeredToo (.start handlers)⟩
  accounted time response identified :=
    ⟨_, rfl, (Consistent.of_start run).accounts identified⟩
  reordered _ _ _ reordering _ _ left right _ _ _ _ onward onwardToo alike countable ticket :=
    reordering.verdict_eq (.of_start run) left right onward onwardToo alike countable ticket

/-- Two calls that both wait. -/
def twoCalls : List SessionEvent :=
  let quiet : Surroundings := ⟨0, none⟩
  [.begin "first" none none, .begin "second" none (some ⟨9⟩),
    .proceed .advance quiet 0, .proceed .advance quiet 1,
    .proceed .advance quiet 1, .proceed .advance quiet 0]

/-- The responses to two calls, in the order of the calls. -/
def inOrder : List SessionEvent :=
  [.dispatch 1 (.response (.ok (.number 1) .null)), .detach,
    .dispatch 2 (.response (.failed (.text "2") ⟨7, "no", none⟩))]

/-- The responses to two calls, the second one first. It is taken at once. -/
def outOfOrder : List SessionEvent :=
  [.dispatch 1 (.response (.failed (.text "2") ⟨7, "no", none⟩)), .proceed .take ⟨1, none⟩ 1,
    .detach, .dispatch 2 (.response (.ok (.number 1) .null))]

/-- How two calls end whose responses may come in either order. -/
theorem settlement_of_twoCalls :
    ∃ session one other, Steps (.start []) twoCalls session ∧
      Settlement (.start []) twoCalls session ∧
      Steps session inOrder one ∧ Steps session outOfOrder other ∧
      session.Reordering [1, 2] inOrder outOfOrder ∧
      one.outcome? 1 = none ∧ other.outcome? 1 = some (.error (.rpc 7 "no")) ∧
      ∀ ticket, one.verdict? ticket = other.verdict? ticket := by
  obtain ⟨session, ran⟩ : ∃ session, (start []).run? twoCalls = some session := ⟨_, rfl⟩
  have run := steps_iff_run?.mpr ran
  have settlement := settlement_is_exact run
  obtain ⟨one, ranOne⟩ : ∃ one, session.run? inOrder = some one := by
    rw [← Option.some.inj ran]
    exact ⟨_, rfl⟩
  obtain ⟨other, ranOther⟩ : ∃ other, session.run? outOfOrder = some other := by
    rw [← Option.some.inj ran]
    exact ⟨_, rfl⟩
  have left := steps_iff_run?.mpr ranOne
  have right := steps_iff_run?.mpr ranOther
  have reordering : session.Reordering [1, 2] inOrder outOfOrder := by
    rw [← Option.some.inj ran]
    refine ⟨?_, ?_, .swap _ _ [], rfl, by decide⟩
    · intro number member
      obtain rfl | rfl : number = 1 ∨ number = 2 := by simpa using member
      all_goals exact ⟨_, rfl⟩
    · intro number member
      obtain rfl | rfl : number = 1 ∨ number = 2 := by simpa using member
      all_goals rfl
  have countable : one.calls.length < 2 ^ 64 - 1 := by
    rw [left.length_eq, run.length_eq]
    decide
  refine ⟨session, one, other, run, settlement, left, right, reordering, ?_, ?_, fun ticket =>
    settlement.reordered _ _ _ reordering one other left right [] [] one other .refl .refl rfl
      countable ticket⟩
  · rw [← Option.some.inj ran] at ranOne
    rw [← Option.some.inj ranOne]
    rfl
  · rw [← Option.some.inj ran] at ranOther
    rw [← Option.some.inj ranOther]
    rfl

end Session

end FoldAtlas
