import FoldAtlas.Proofs.Session.Standing

/-!
# Responses in another order

Two executions of one session in which the same things happen, except that a
group of responses, one to each of several calls that are expecting them, comes
in another order and at other points among everything else, and that calls take
their outcomes whenever they like. As long as no call expires and none is given
up before the group is through, every call ends the same way in both, however
the session goes on (`Reordering.verdict_eq`).
-/

namespace FoldAtlas

namespace SessionEvent

/-- The response that an event dispatches to one of some calls. -/
def responseTo? (numbers : List UInt64) (event : SessionEvent) : Option Response :=
  event.response?.filter fun response => response.addressee?.any numbers.contains

/-- The responses to some calls, in the order in which they are dispatched. -/
def responsesTo (numbers : List UInt64) (events : List SessionEvent) : List Response :=
  events.filterMap (responseTo? numbers)

/-- Whether an event is neither a response to one of some calls nor a call taking
its outcome. -/
def isApart (numbers : List UInt64) (event : SessionEvent) : Bool :=
  !event.isTake && (event.responseTo? numbers).isNone

variable {numbers : List UInt64} {number : UInt64} {event : SessionEvent} {response : Response}

/-- A response to one of some calls is a response that is addressed to it. -/
theorem responseTo?_eq_some_iff :
    event.responseTo? numbers = some response ↔
      event.response? = some response ∧ ∃ number ∈ numbers, response.addressee? = some number := by
  cases addressed : response.addressee? <;>
    simp +contextual [responseTo?, Option.filter_eq_some_iff, addressed]

/-- A response to a call is a response that is addressed to it. -/
theorem responseTo?_singleton :
    event.responseTo? [number] = some response ↔
      event.response? = some response ∧ response.addressee? = some number := by
  simp only [responseTo?_eq_some_iff, List.mem_singleton, exists_eq_left]

/-- The responses to one call are among those to several. -/
theorem responsesTo_singleton (member : number ∈ numbers) (events : List SessionEvent) :
    responsesTo [number] events =
      (responsesTo numbers events).filter (·.addressee? = some number) := by
  have same : responseTo? [number] = fun event =>
      (event.responseTo? numbers).filter (·.addressee? = some number) := by
    funext event
    refine Option.ext fun response => ?_
    simp only [responseTo?_eq_some_iff, List.mem_singleton, exists_eq_left,
      Option.filter_eq_some_iff, decide_eq_true_eq, and_assoc, and_congr_right_iff]
    exact fun _ => ⟨fun addressed => ⟨⟨number, member, addressed⟩, addressed⟩, And.right⟩
  rw [responsesTo, responsesTo, List.filter_filterMap, same]

/-- Only calls taking their outcomes are set apart from nothing. -/
theorem isApart_nil (event : SessionEvent) : event.isApart [] = !event.isTake := by
  have answersNone : event.responseTo? [] = none :=
    Option.eq_none_iff_forall_ne_some.mpr fun response answers => by
      simp [responseTo?_eq_some_iff] at answers
  simp [isApart, answersNone]

/-- No call begins with a response, or by taking its outcome. -/
theorem countP_isBegin_filter (numbers : List UInt64) (events : List SessionEvent) :
    (events.filter (isApart numbers)).countP isBegin = events.countP isBegin := by
  rw [List.countP_filter]
  refine List.countP_congr fun event _ => ?_
  cases event <;> simp [isBegin, isApart, isTake, responseTo?, response?]

/-- What is no response to a call is not addressed to it. -/
theorem not_addressed_of_responseTo? (unanswered : event.responseTo? [number] = none)
    (dispatched : event.response? = some response) : response.addressee? ≠ some number := by
  intro addressed
  have answers := responseTo?_singleton.mpr ⟨dispatched, addressed⟩
  rw [unanswered] at answers
  cases answers

end SessionEvent

open SessionEvent

namespace Session

/-- Whether two sequences of events differ only in when the responses to some
calls are dispatched, and in when calls take their outcomes. -/
structure Reordering (session : Session) (numbers : List UInt64)
    (events others : List SessionEvent) : Prop where
  /-- The session expects the responses. -/
  expected : ∀ number ∈ numbers, ∃ ticket, session.pending.find? (.number number) = some ticket
  /-- There is one response to each of the calls. -/
  once : ∀ number ∈ numbers, (responsesTo [number] events).length = 1
  /-- The responses are the same, in any order. -/
  permuted : (responsesTo numbers events).Perm (responsesTo numbers others)
  /-- Everything else is the same. -/
  kept : events.filter (isApart numbers) = others.filter (isApart numbers)
  /-- No call expires and none is given up. -/
  undisturbed : ∀ event ∈ events, event.isEnd = false

end Session

/-! ## Events that leave a call alone -/

namespace Standing

variable {standing : Standing} {ticket : Nat} {event : SessionEvent} {response : Response}
  {numbers : List UInt64} {events : List SessionEvent}

/-- A call taking its outcome changes no standing. -/
theorem after_of_isTake (take : event.isTake = true) : standing.after ticket event = standing := by
  unfold isTake at take
  split at take
  · rfl
  · cases take

/-- What a response changes. -/
theorem after_of_response? (dispatched : event.response? = some response) :
    standing.after ticket event =
      if response.addressee? = some (.ofNat (ticket + 1)) then standing.receive response.outcome
      else standing := by
  unfold response? at dispatched
  split at dispatched
  · obtain rfl := Option.some.inj dispatched
    rfl
  · cases dispatched

/-- Only what is neither a response to another call nor a call taking its outcome
matters to a call. -/
theorem foldl_after_eq_filter (ticket : Nat) (standing : Standing)
    (elsewhere : ∀ event ∈ events, ∀ response, event.responseTo? numbers = some response →
      response.addressee? ≠ some (.ofNat (ticket + 1))) :
    events.foldl (Standing.after ticket) standing =
      (events.filter (isApart numbers)).foldl (Standing.after ticket) standing := by
  induction events generalizing standing with
  | nil => rfl
  | cons event rest ih =>
    have ihRest (standing : Standing) := ih standing fun other member =>
      elsewhere other (List.mem_cons_of_mem _ member)
    cases apart : event.isApart numbers with
    | true => rw [List.filter_cons_of_pos apart, List.foldl_cons, List.foldl_cons, ihRest]
    | false =>
      have idle : standing.after ticket event = standing := by
        cases take : event.isTake with
        | true => exact after_of_isTake take
        | false =>
          simp only [isApart, take, Bool.not_false, Bool.true_and,
            Option.isNone_eq_false_iff, Option.isSome_iff_exists] at apart
          obtain ⟨response, answers⟩ := apart
          rw [after_of_response? (responseTo?_eq_some_iff.mp answers).1]
          exact if_neg (elsewhere event List.mem_cons_self response answers)
      rw [List.filter_cons_of_neg (by simp [apart]), List.foldl_cons, idle, ihRest]

/-- The outcome that a registered call is handed in the end might as well come
first. -/
theorem foldl_after_receive (registered : standing.Registered ticket)
    (quiet : ∀ event ∈ events, event.isEnd = false)
    (apart : ∀ event ∈ events, ∀ response, event.response? = some response →
      response.addressee? ≠ some (.ofNat (ticket + 1)))
    (outcome : Except Failure Json) :
    (events.foldl (Standing.after ticket) standing).receive outcome =
      events.foldl (Standing.after ticket) (standing.receive outcome) := by
  induction events generalizing standing with
  | nil => rfl
  | cons event rest ih =>
    have quietNow := quiet event List.mem_cons_self
    rw [List.foldl_cons, List.foldl_cons,
      receive_after registered quietNow (apart event List.mem_cons_self)]
    exact ih (registered.after quietNow)
      (fun other member => quiet other (List.mem_cons_of_mem _ member))
      (fun other member => apart other (List.mem_cons_of_mem _ member))

/-- The one response to a registered call may come before everything else. -/
theorem foldl_after_answered (registered : standing.Registered ticket)
    (quiet : ∀ event ∈ events, event.isEnd = false)
    (answered : responsesTo [.ofNat (ticket + 1)] events = [response])
    (member : .ofNat (ticket + 1) ∈ numbers) :
    events.foldl (Standing.after ticket) standing =
      (events.filter (isApart numbers)).foldl (Standing.after ticket)
        (standing.receive response.outcome) := by
  obtain ⟨front, answer, back, rfl, before, answers, behind⟩ :=
    List.filterMap_eq_cons_iff.mp answered
  rw [List.filterMap_eq_nil_iff] at behind
  obtain ⟨dispatched, addressed⟩ := responseTo?_singleton.mp answers
  have quietFront : ∀ event ∈ front, event.isEnd = false := fun event member =>
    quiet event (List.mem_append_left _ member)
  have apartFront : ∀ event ∈ front, ∀ response, event.response? = some response →
      response.addressee? ≠ some (.ofNat (ticket + 1)) := fun event member response =>
    not_addressed_of_responseTo? (before event member)
  have elsewhere : ∀ event ∈ front ++ back, ∀ response,
      event.responseTo? numbers = some response →
        response.addressee? ≠ some (.ofNat (ticket + 1)) := by
    intro event among response toOneOf
    refine not_addressed_of_responseTo? ?_ (responseTo?_eq_some_iff.mp toOneOf).1
    exact (List.mem_append.mp among).elim (before event) (behind event)
  have grouped : answer.isApart numbers = false := by
    have toOneOf : answer.responseTo? numbers = some response :=
      responseTo?_eq_some_iff.mpr ⟨dispatched, _, member, addressed⟩
    simp [isApart, toOneOf]
  calc (front ++ answer :: back).foldl (Standing.after ticket) standing
      = back.foldl (Standing.after ticket)
          ((front.foldl (Standing.after ticket) standing).receive response.outcome) := by
        rw [List.foldl_append, List.foldl_cons, after_of_response? dispatched, if_pos addressed]
    _ = (front ++ back).foldl (Standing.after ticket) (standing.receive response.outcome) := by
        rw [foldl_after_receive registered quietFront apartFront, List.foldl_append]
    _ = ((front ++ back).filter (isApart numbers)).foldl (Standing.after ticket)
          (standing.receive response.outcome) := foldl_after_eq_filter _ _ elsewhere
    _ = ((front ++ answer :: back).filter (isApart numbers)).foldl (Standing.after ticket)
          (standing.receive response.outcome) := by
        rw [List.filter_append, List.filter_append, List.filter_cons_of_neg (by simp [grouped])]

end Standing

namespace Session

variable {session next last : Session} {event : SessionEvent}
  {numbers : List UInt64} {events others more rest : List SessionEvent} {ticket : Nat}

/-- Every call that there is has begun, and only those. -/
theorem Effect.length_eq (effect : session.Effect event next) :
    next.calls.length = session.calls.length + [event].countP isBegin := by
  rcases effect.length_calls with same | ⟨method, params, limit, rfl, rfl⟩
  · cases effect with
    | begin => simp [Session.begin] at same
    | aside isAside => cases event <;> simp_all [SessionEvent.isAside, isBegin]
    | _ => simpa [isBegin] using same
  · simp [Session.begin, isBegin]

/-- How many calls there are after an execution. -/
theorem Steps.length_eq (run : Steps session events last) :
    last.calls.length = session.calls.length + events.countP isBegin := by
  induction run with
  | refl => rfl
  | step _ transition ih =>
    rw [(Effect.of_after? transition).length_eq, ih, List.countP_append, Nat.add_assoc]

/-- A call whose response is expected is registered. -/
theorem Consistent.registered (consistent : session.Consistent)
    (expected : ticket ∈ session.pending.tickets) :
    (session.standing ticket).Registered ticket := by
  obtain ⟨⟨id, _⟩, member, rfl⟩ := List.mem_map.mp expected
  obtain ⟨call, present, _, outstanding, empty⟩ := consistent.owned member
  refine ⟨(List.getElem?_eq_some_iff.mp present).1, call, ?_, ?_, fun _ => ⟨outstanding, empty⟩⟩
  · simp [Session.standing, present, Call.settled_of_empty empty]
  · intro phase
    rw [phase] at outstanding
    cases outstanding

namespace Reordering

variable (reordering : session.Reordering numbers events others)
include reordering

/-- Nothing ends a call in the other sequence of events, either. -/
theorem undisturbed_others : ∀ event ∈ others, event.isEnd = false := by
  intro event member
  cases ends : event.isEnd with
  | false => rfl
  | true =>
    have apart : event.isApart numbers = true := by
      unfold isEnd at ends
      split at ends
      · rfl
      · rfl
      · cases ends
    have among : event ∈ others.filter (isApart numbers) := List.mem_filter.mpr ⟨member, apart⟩
    rw [← reordering.kept] at among
    rw [← ends, reordering.undisturbed event (List.mem_filter.mp among).1]

/-- Both sequences of events dispatch the same response to each of the calls. -/
theorem answered {number : UInt64} (member : number ∈ numbers) :
    ∃ response, responsesTo [number] events = [response] ∧
      responsesTo [number] others = [response] := by
  obtain ⟨response, answered⟩ := List.length_eq_one_iff.mp (reordering.once number member)
  refine ⟨response, answered, List.perm_singleton.mp ?_⟩
  rw [← answered, responsesTo_singleton member, responsesTo_singleton member]
  exact (reordering.permuted.filter _).symm

/-- As many calls begin in both sequences of events. -/
theorem countP_isBegin : events.countP isBegin = others.countP isBegin := by
  rw [← countP_isBegin_filter numbers events, reordering.kept, countP_isBegin_filter]

/-- Every call stands the same after both sequences of events. -/
theorem foldl_after_eq (consistent : session.Consistent)
    (countable : session.calls.length < 2 ^ 64 - 1) (known : ticket < 2 ^ 64 - 1) :
    events.foldl (Standing.after ticket) (session.standing ticket) =
      others.foldl (Standing.after ticket) (session.standing ticket) := by
  by_cases member : .ofNat (ticket + 1) ∈ numbers
  · obtain ⟨owner, expected⟩ := reordering.expected _ member
    have found := consistent.distinct.find?_eq_some_iff.mp expected
    obtain ⟨call, present, same, _⟩ := consistent.owned found
    have bound := (List.getElem?_eq_some_iff.mp present).1
    obtain rfl : owner = ticket := by
      rw [consistent.numbered present] at same
      have values := congrArg UInt64.toNat (RequestId.number.inj same)
      simp only [UInt64.toNat_ofNat'] at values
      omega
    have registered := consistent.registered (consistent.mem_tickets_iff.mpr expected)
    obtain ⟨response, answered, answeredToo⟩ := reordering.answered member
    rw [Standing.foldl_after_answered registered reordering.undisturbed answered member,
      Standing.foldl_after_answered registered reordering.undisturbed_others answeredToo member,
      reordering.kept]
  · have elsewhere (event : SessionEvent) (response : Response)
        (answers : event.responseTo? numbers = some response) :
        response.addressee? ≠ some (.ofNat (ticket + 1)) := by
      obtain ⟨_, number, among, addressed⟩ := responseTo?_eq_some_iff.mp answers
      rw [addressed]
      rintro ⟨⟩
      exact member among
    have filtered (events : List SessionEvent) :=
      Standing.foldl_after_eq_filter ticket (session.standing ticket) fun event (_ : event ∈ events) =>
        elsewhere event
    rw [filtered events, filtered others, reordering.kept]

/-- However two executions that differ in this way go on alike, every call ends
the same way in both. -/
theorem verdict_eq {one other oneEnd otherEnd : Session} (consistent : session.Consistent)
    (run : Steps session events one) (rerun : Steps session others other)
    (onward : Steps one more oneEnd) (onwardToo : Steps other rest otherEnd)
    (alike : more.filter (!·.isTake) = rest.filter (!·.isTake))
    (countable : oneEnd.calls.length < 2 ^ 64 - 1) (ticket : Nat) :
    oneEnd.verdict? ticket = otherEnd.verdict? ticket := by
  simp only [← isApart_nil] at alike
  have sameBegun : more.countP isBegin = rest.countP isBegin := by
    rw [← countP_isBegin_filter [] more, alike, countP_isBegin_filter]
  have sameLength : otherEnd.calls.length = oneEnd.calls.length := by
    rw [onward.length_eq, onwardToo.length_eq, run.length_eq, rerun.length_eq,
      reordering.countP_isBegin, sameBegun]
  by_cases known : ticket < oneEnd.calls.length
  · have countableFirst : session.calls.length < 2 ^ 64 - 1 :=
      Nat.lt_of_le_of_lt (run.trans onward).length_le countable
    have filtered (events : List SessionEvent) (standing : Standing) :=
      Standing.foldl_after_eq_filter ticket standing fun event
        (_ : event ∈ events) response (answers : event.responseTo? [] = some response) => by
          simp [responseTo?_eq_some_iff] at answers
    rw [← outcome?_standing, ← outcome?_standing,
      (run.trans onward).standing consistent countable,
      (rerun.trans onwardToo).standing consistent (sameLength ▸ countable),
      List.foldl_append, List.foldl_append,
      reordering.foldl_after_eq consistent countableFirst (Nat.lt_trans known countable),
      filtered more, filtered rest, alike]
  · have unknown := Nat.le_of_not_lt known
    simp [verdict?, unknown, sameLength]

end Reordering

end Session

end FoldAtlas
