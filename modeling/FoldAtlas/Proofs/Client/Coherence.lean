import FoldAtlas.Proofs.Client.History
import FoldAtlas.Proofs.Session.Registration

/-!
# What fits together in a client

The invariant of a client that carries out one operation after the other. Its session has no
call under way but the one that its operation waits for (`Session.OnlyAwaits`), and its state,
its document and how far its end is fit the stage of the operation (`Client.Fits`). Both are
kept by every event (`Coherent.after?`). Between two operations, therefore, a client
expects no response, has a document exactly in the state that says so, and is never stuck in
the middle of its end.

No call fails because of the state of a client (`Call.IsCandid`): whoever sees such a failure
knows that the operation was called out of its place.
-/

namespace FoldAtlas

/-- Whether a failure says that the state of a client does not admit an operation. -/
def Failure.isRefusal : Failure → Bool
  | .invalidState _ _ => true
  | .serverStart _ | .framing _ | .rpc _ _ | .protocol _ | .sessionClosed | .timeout _
  | .stream _ | .json _ => false

/-- The failure that a call has met or ended with. -/
def CallPhase.failure? : CallPhase → Option Failure
  | .unsent failure | .finished (.error failure) => some failure
  | .allocated | .registered | .waiting _ | .expired | .finished (.ok _) => none

/-- A call that does not fail because of the state of a client. -/
structure Call.IsCandid (call : Call) : Prop where
  phase : ∀ failure, call.phase.failure? = some failure → failure.isRefusal = false
  inbox : ∀ failure, call.inbox = some (.error failure) → failure.isRefusal = false

/-- No response refuses an operation. -/
theorem Response.isRefusal_of_outcome {response : Response} {failure : Failure}
    (failed : response.outcome = .error failure) : failure.isRefusal = false := by
  simp only [Response.outcome] at failed
  split at failed <;> cases failed <;> rfl

namespace Session

variable {session next : Session} {event : SessionEvent} {ticket : Nat} {call later : Call}

/-- A call stays candid. -/
theorem Move.isCandid (move : Move session ticket call event later) (candid : call.IsCandid) :
    later.IsCandid := by
  cases move with
  | stay => exact candid
  | refuse =>
    refine ⟨fun failure same => ?_, candid.inbox⟩
    cases same
    rfl
  | register | send | expire => exact ⟨by simp [CallPhase.failure?], candid.inbox⟩
  | failToSend phase cause =>
    refine ⟨fun failure same => ?_, candid.inbox⟩
    cases same
    rcases cause with rfl | ⟨fault, rfl⟩ <;> rfl
  | withdraw phase =>
    refine ⟨fun failure same => ?_, candid.inbox⟩
    cases same
    rcases phase with phase | ⟨_, rfl⟩
    · exact candid.phase _ (by rw [phase]; rfl)
    · rfl
  | @take _ _ outcome phase inbox =>
    refine ⟨fun failure same => ?_, candid.inbox⟩
    cases outcome with
    | ok value => cases same
    | error failure =>
      cases same
      exact candid.inbox _ inbox
  | answer =>
    exact ⟨candid.phase, fun failure same => Response.isRefusal_of_outcome (Option.some.inj same)⟩
  | abandon =>
    refine ⟨candid.phase, fun failure same => ?_⟩
    cases same
    rfl

/-- A session in which every call is over but the one with a ticket, if there is one. -/
structure OnlyAwaits (session : Session) (awaited : Option Nat) : Prop where
  consistent : session.Consistent
  candid : ∀ call ∈ session.calls, call.IsCandid
  others : ∀ ticket call, session.calls[ticket]? = some call → awaited ≠ some ticket →
    call.phase.outcome?.isSome

namespace OnlyAwaits

variable {awaited : Option Nat}

/-- A session at its start has no calls. -/
theorem start (handlers : Handlers) : (Session.start handlers).OnlyAwaits none where
  consistent := .start handlers
  candid call among := by simp [Session.start] at among
  others ticket call found := by simp [Session.start] at found

/-- Whatever happens but the beginning of a call. -/
theorem after? (only : session.OnlyAwaits awaited) (happens : session.after? event = some next)
    (unbegun : ∀ method params limit, event ≠ .begin method params limit) :
    next.OnlyAwaits awaited := by
  have effect := Effect.of_after? happens
  have sameLength := effect.sameLength unbegun
  refine ⟨only.consistent.of_effect effect, fun later among => ?_, fun ticket later found other => ?_⟩
  · obtain ⟨ticket, found⟩ := List.mem_iff_getElem?.mp among
    obtain ⟨call, present, move⟩ := effect.origin_of_sameLength only.consistent sameLength found
    exact move.isCandid (only.candid call (List.mem_of_getElem? present))
  · obtain ⟨call, present, move⟩ := effect.origin_of_sameLength only.consistent sameLength found
    have isOver := only.others ticket call present other
    obtain ⟨outcome, ended⟩ := Option.isSome_iff_exists.mp isOver
    rw [move.finished only.consistent present (CallPhase.outcome?_eq_some_iff.mp ended)]
    exact isOver

/-- A call goes on. -/
theorem stepCall {surroundings : Surroundings} (only : session.OnlyAwaits awaited)
    (moved : session.stepCall surroundings ticket = some next) : next.OnlyAwaits awaited := by
  obtain ⟨turn, happens⟩ := stepCall_happens moved
  exact only.after? happens (by simp)

/-- A notification is written. -/
theorem notify {fault : Option StreamFault} {method : String} {params : Option Json}
    (only : session.OnlyAwaits awaited) (wrote : session.notify fault method params = .ok next) :
    next.OnlyAwaits awaited := by
  have happens : session.after? (.notify fault method params) = some next := by
    simp only [Session.after?, wrote]
  exact only.after? happens (by simp)

/-- A call begins, and is waited for. -/
theorem begin (only : session.OnlyAwaits none) (method : String) (params : Option Json)
    (limit : Option Duration) :
    (session.begin method params limit).1.OnlyAwaits (some session.calls.length) where
  consistent := only.consistent.begin method params limit
  candid call among := by
    rcases List.mem_append.mp among with before | fresh
    · exact only.candid call before
    · obtain rfl := List.mem_singleton.mp fresh
      exact ⟨by simp [CallPhase.failure?], by simp⟩
  others ticket call found other := by
    rcases found_begin found with before | ⟨rfl, _⟩
    · exact only.others ticket call before (by simp)
    · exact absurd rfl other

/-- A call that is over need not be waited for any longer. -/
theorem finish (only : session.OnlyAwaits (some ticket))
    (isOver : (session.outcome? ticket).isSome) : session.OnlyAwaits none where
  consistent := only.consistent
  candid := only.candid
  others other call found _ := by
    by_cases same : ticket = other
    · subst same
      simpa [outcome?, found] using isOver
    · exact only.others other call found (by simpa using same)

/-- A session that waits for nothing expects no response. -/
theorem pending_eq (only : session.OnlyAwaits none) : session.pending = .empty := by
  have nothing : session.pending.entries = [] := by
    refine List.eq_nil_iff_forall_not_mem.mpr fun ⟨id, ticket⟩ among => ?_
    obtain ⟨call, found, _, outstanding, _⟩ := only.consistent.owned among
    obtain ⟨outcome, ended⟩ := Option.isSome_iff_exists.mp (only.others ticket call found (by simp))
    rw [CallPhase.outcome?_eq_some_iff.mp ended] at outstanding
    cases outstanding
  exact congrArg AwaitedCalls.mk nothing

/-- A call that has failed was not refused. -/
theorem isRefusal_of_outcome? {failure : Failure} (only : session.OnlyAwaits awaited)
    (failed : session.outcome? ticket = some (.error failure)) : failure.isRefusal = false := by
  obtain ⟨call, found, ended⟩ := Option.bind_eq_some_iff.mp failed
  have phase := CallPhase.outcome?_eq_some_iff.mp ended
  exact (only.candid call (List.mem_of_getElem? found)).phase failure (by rw [phase]; rfl)

end OnlyAwaits

end Session

/-- No answer to the greeting refuses an operation. -/
theorem Greeting.isRefusal_of_decodeAnswer {value : Json} {failure : Failure}
    (failed : Greeting.decodeAnswer value = .error failure) : failure.isRefusal = false := by
  simp only [Greeting.decodeAnswer] at failed
  split at failed
  · cases failed
  · split at failed <;> cases failed
    rfl

/-- No answer to a query refuses an operation. -/
theorem Query.isRefusal_of_decode {query : Query} {value : Json} {failure : Failure}
    (failed : query.decode value = .error failure) : failure.isRefusal = false := by
  cases query <;> simp only [Query.decode] at failed <;> split at failed
  case folding.isTrue | symbols.isTrue => cases failed
  all_goals
    split at failed <;> cases failed
    rfl

namespace Session

variable {session next : Session} {event : SessionEvent} {ticket : Nat}

/-- A notification that could not be written was not refused. -/
theorem isRefusal_of_notify {fault : Option StreamFault} {method : String} {params : Option Json}
    {failure : Failure} (failed : session.notify fault method params = .error failure) :
    failure.isRefusal = false := by
  rcases session.write_cases fault (.notification (.make method params)) with
    ⟨_, wrote⟩ | ⟨other, hindered, same⟩
  · rw [Session.notify, wrote] at failed
    cases failed
  · obtain rfl := Except.error.inj (same.symm.trans failed)
    rcases Outlet.cause_of_hindrance? hindered with rfl | ⟨fault, rfl⟩ <;> rfl

/-- Whether a call has a time limit, and keeps to it if it waits. -/
def IsBounded (session : Session) (ticket : Nat) : Prop :=
  ∃ call, session.calls[ticket]? = some call ∧ call.limit.isSome ∧
    ∀ deadline, call.phase = .waiting deadline → deadline.isSome

/-- A call that has begun with a limit keeps to it. -/
theorem isBounded_begin (session : Session) (method : String) (params : Option Json)
    (limit : Duration) :
    (session.begin method params (some limit)).1.IsBounded session.calls.length :=
  ⟨_, List.getElem?_concat_length, rfl, by simp⟩

/-- Whatever happens, a call keeps to its limit. -/
theorem IsBounded.after? (bounded : session.IsBounded ticket) (consistent : session.Consistent)
    (happens : session.after? event = some next) : next.IsBounded ticket := by
  obtain ⟨call, found, limited, due⟩ := bounded
  obtain ⟨later, foundThen, move⟩ := (Effect.of_after? happens).move consistent found
  refine ⟨later, foundThen, by rw [move.identity]; exact limited, fun deadline waits => ?_⟩
  cases move with
  | stay | answer | abandon => exact due deadline waits
  | send =>
    cases waits
    simpa [Call.deadlineFrom] using limited
  | _ => cases waits

end Session

/-- Whether an operation is over because the state of its client did not admit it. -/
def Operation.isRefused : Operation → Bool
  | .over (.failed failure) => failure.isRefusal
  | .over (.returned _) | .over .brokeDown | .greet _ | .openDocument _ _ _ _ | .ask _ _
  | .finish _ => false

/-- The call that an operation waits for. -/
def Operation.ticket? : Operation → Option Nat
  | .greet (.asked ticket) | .ask _ (.asked ticket) | .finish (.asked ticket) => some ticket
  | .greet _ | .openDocument _ _ _ _ | .ask _ _ | .finish _ | .over _ => none

/-- An operation that has just begun waits for no call. -/
theorem Operation.ticket?_of_isFresh {operation : Operation} (fresh : operation.isFresh = true) :
    operation.ticket? = none := by
  cases operation with
  | greet stage | openDocument _ _ _ stage | ask _ stage | finish stage =>
    cases stage <;> first | rfl | cases fresh
  | «over» => cases fresh

/-- The state in which an operation may begin, and the name under which it is refused in any
other. The end may begin in any state. -/
inductive Operation.Demands : Operation → String → Lifecycle → Prop where
  | greet : Demands (.greet .begun) Greeting.openingMethod .uninitialized
  | openDocument {document : AnnouncedDocument} {languageId text : String} :
      Demands (.openDocument document languageId text .begun) Client.openingMethod .ready
  | ask {query : Query} : Demands (.ask query .begun) query.method .documentOpen

namespace Client

/-- A client whose session is over for good. -/
structure IsGone (client : Client) : Prop where
  state : client.state = .closed
  detached : client.session.outlet = .detached
  closed : client.session.closed = true
  released : client.process ≠ .held

/-- What fits together in a client between two operations. -/
def Idles (client : Client) : Prop :=
  match client.state with
  | .uninitialized | .initializing | .ready => client.document = none
  | .documentOpen => client.document.isSome
  | .shuttingDown => False
  | .closed => client.IsGone

/-- What fits together in a client at each stage of its operation. -/
def Fits (client : Client) : Operation → Prop
  | .greet (.asked _) | .greet (.answered _) =>
    client.state = .initializing ∧ client.document = none
  | .openDocument _ _ _ .announcing | .openDocument _ _ _ .announced =>
    client.state = .documentOpen ∧ client.document = none
  | .ask _ .admitted | .ask _ (.asked _) =>
    client.state = .documentOpen ∧ client.document.isSome
  | .finish (.asked ticket) =>
    client.state = .shuttingDown ∧ client.session.IsBounded ticket
  | .finish .leaving | .finish .detaching => client.state = .shuttingDown
  | .finish .draining =>
    client.state = .shuttingDown ∧ client.session.outlet = .detached
  | .finish .releasing =>
    client.state = .shuttingDown ∧ client.session.outlet = .detached ∧
      client.session.closed = true
  | .finish .settling =>
    client.state = .shuttingDown ∧ client.session.outlet = .detached ∧
      client.session.closed = true ∧ client.process ≠ .held
  | .greet .begun | .openDocument _ _ _ .begun | .ask _ .begun | .finish .begun | .over _ =>
    client.Idles

/-- A client that is as it should be at a stage of its operation. -/
structure Coherent (client : Client) (operation : Operation) : Prop where
  only : client.session.OnlyAwaits operation.ticket?
  fits : client.Fits operation

/-- What a stage makes of a client: it is as it should be, the operation does not begin again,
and it is refused only if it began out of its place. -/
structure Advances (client : Client) (operation : Operation) (next : Client) (after : Operation) :
    Prop where
  coherent : next.Coherent after
  past : after.isFresh = false
  candid : (∀ name wanted, operation.Demands name wanted → client.state = wanted) →
    after.isRefused = false

variable {client next : Client} {operation after : Operation} {surroundings : Surroundings}

/-- A stage of the greeting. -/
theorem Coherent.stepGreeting {stage : GreetingStage}
    (coherent : client.Coherent (.greet stage))
    (moved : client.stepGreeting surroundings stage = some (next, after)) :
    client.Advances (.greet stage) next after := by
  obtain ⟨only, fits⟩ := coherent
  cases stage with
  | begun =>
    simp only [Client.stepGreeting] at moved
    split at moved
    · next state =>
      have unopened : client.document = none := by simpa only [Fits, Idles, state] using fits
      have moved := Option.some.inj moved
      rcases beginCall_cases { client with state := .initializing } Greeting.openingMethod
        (some client.greetingParams) (fun ticket => .greet (.asked ticket)) with
        broke | ⟨limit, begun⟩
      · rw [broke] at moved
        cases moved
        exact ⟨⟨only, unopened⟩, rfl, fun _ => rfl⟩
      · rw [begun] at moved
        cases moved
        exact ⟨⟨only.begin _ _ limit, rfl, unopened⟩, rfl, fun _ => rfl⟩
    · next misplaced =>
      cases moved
      exact ⟨⟨only, fits⟩, rfl, fun placed => absurd (placed _ _ .greet) misplaced⟩
  | asked ticket =>
    obtain ⟨state, unopened⟩ := fits
    have idles : client.Idles := by simpa only [Idles, state] using unopened
    rcases await_cases moved with ⟨outcome, isOver, went⟩ | ⟨session, stepped, rfl, rfl⟩
    · have done := only.finish (Option.isSome_of_eq_some isOver)
      cases outcome with
      | error failure =>
        cases went
        exact ⟨⟨done, idles⟩, rfl, fun _ => only.isRefusal_of_outcome? isOver⟩
      | ok value =>
        cases decoded : Greeting.decodeAnswer value with
        | error failure =>
          simp only [decoded] at went
          cases went
          exact ⟨⟨done, idles⟩, rfl, fun _ => Greeting.isRefusal_of_decodeAnswer decoded⟩
        | ok greeting =>
          simp only [decoded] at went
          cases went
          exact ⟨⟨done, state, unopened⟩, rfl, fun _ => rfl⟩
    · exact ⟨⟨only.stepCall stepped, state, unopened⟩, rfl, fun _ => rfl⟩
  | answered greeting =>
    obtain ⟨state, unopened⟩ := fits
    simp only [Client.stepGreeting] at moved
    split at moved
    · next failure failed =>
      cases moved
      exact ⟨⟨only, by simpa only [Fits, Idles, state] using unopened⟩, rfl,
        fun _ => Session.isRefusal_of_notify failed⟩
    · next session wrote =>
      rw [if_pos state] at moved
      cases moved
      exact ⟨⟨only.notify wrote, unopened⟩, rfl, fun _ => rfl⟩

/-- A stage of the announcement of a document. -/
theorem Coherent.stepOpening {document : AnnouncedDocument} {languageId text : String}
    {stage : OpeningStage}
    (coherent : client.Coherent (.openDocument document languageId text stage))
    (moved : client.stepOpening surroundings document languageId text stage =
      some (next, after)) :
    client.Advances (.openDocument document languageId text stage) next after := by
  obtain ⟨only, fits⟩ := coherent
  cases stage with
  | begun =>
    simp only [Client.stepOpening] at moved
    split at moved
    · next state =>
      have unopened : client.document = none := by simpa only [Fits, Idles, state] using fits
      cases moved
      exact ⟨⟨only, rfl, unopened⟩, rfl, fun _ => rfl⟩
    · next misplaced =>
      cases moved
      exact ⟨⟨only, fits⟩, rfl, fun placed => absurd (placed _ _ .openDocument) misplaced⟩
  | announcing =>
    obtain ⟨state, unopened⟩ := fits
    simp only [Client.stepOpening] at moved
    split at moved
    · next failure failed =>
      cases moved
      exact ⟨⟨only, unopened⟩, rfl, fun _ => Session.isRefusal_of_notify failed⟩
    · next session wrote =>
      cases moved
      exact ⟨⟨only.notify wrote, state, unopened⟩, rfl, fun _ => rfl⟩
  | announced =>
    obtain ⟨state, _⟩ := fits
    cases moved
    exact ⟨⟨only, by simp only [Fits, Idles, state, Option.isSome_some]⟩, rfl, fun _ => rfl⟩

/-- A stage of a query. -/
theorem Coherent.stepQuery {query : Query} {stage : QueryStage}
    (coherent : client.Coherent (.ask query stage))
    (moved : client.stepQuery surroundings query stage = some (next, after)) :
    client.Advances (.ask query stage) next after := by
  obtain ⟨only, fits⟩ := coherent
  cases stage with
  | begun =>
    simp only [Client.stepQuery] at moved
    split at moved
    · next state =>
      cases moved
      exact ⟨⟨only, state, by simpa only [Fits, Idles, state] using fits⟩, rfl, fun _ => rfl⟩
    · next misplaced =>
      cases moved
      exact ⟨⟨only, fits⟩, rfl, fun placed => absurd (placed _ _ .ask) misplaced⟩
  | admitted =>
    obtain ⟨state, opened⟩ := fits
    have idles : client.Idles := by simpa only [Idles, state] using opened
    simp only [Client.stepQuery] at moved
    split at moved
    · next missing =>
      rw [missing] at opened
      cases opened
    · next document _ =>
      have moved := Option.some.inj moved
      rcases beginCall_cases client query.method (some document.reference)
        (fun ticket => .ask query (.asked ticket)) with broke | ⟨limit, begun⟩
      · rw [broke] at moved
        cases moved
        exact ⟨⟨only, idles⟩, rfl, fun _ => rfl⟩
      · rw [begun] at moved
        cases moved
        exact ⟨⟨only.begin _ _ limit, state, opened⟩, rfl, fun _ => rfl⟩
  | asked ticket =>
    obtain ⟨state, opened⟩ := fits
    have idles : client.Idles := by simpa only [Idles, state] using opened
    rcases await_cases moved with ⟨outcome, isOver, went⟩ | ⟨session, stepped, rfl, rfl⟩
    · have done := only.finish (Option.isSome_of_eq_some isOver)
      cases outcome with
      | error failure =>
        cases went
        exact ⟨⟨done, idles⟩, rfl, fun _ => only.isRefusal_of_outcome? isOver⟩
      | ok value =>
        cases decoded : query.decode value with
        | error failure =>
          simp only [decoded] at went
          cases went
          exact ⟨⟨done, idles⟩, rfl, fun _ => Query.isRefusal_of_decode decoded⟩
        | ok result =>
          simp only [decoded] at went
          cases went
          exact ⟨⟨done, idles⟩, rfl, fun _ => rfl⟩
    · exact ⟨⟨only.stepCall stepped, state, opened⟩, rfl, fun _ => rfl⟩

/-- The call that ends a session has a limit that can be counted. -/
theorem exists_limitOf_endingMethod (limits : Limits) :
    ∃ limit, limits.limitOf endingMethod = .within limit :=
  ⟨_, rfl⟩

/-- A client that has begun to end its session asks the server to end if it is graceful, and
goes on to tell it otherwise. -/
theorem advances_of_ending (only : client.session.OnlyAwaits none)
    (moved : (if client.limits.graceful then
        some ({ client with state := .shuttingDown }.beginCall endingMethod none
          fun ticket => .finish (.asked ticket))
      else some ({ client with state := .shuttingDown }, .finish .leaving)) =
        some (next, after)) :
    client.Advances (.finish .begun) next after := by
  split at moved
  · obtain ⟨limit, within⟩ := exists_limitOf_endingMethod client.limits
    simp only [beginCall, within] at moved
    cases moved
    have bounded := client.session.isBounded_begin endingMethod none limit
    exact ⟨⟨only.begin _ _ _, rfl, bounded⟩, rfl, fun _ => rfl⟩
  · cases moved
    exact ⟨⟨only, rfl⟩, rfl, fun _ => rfl⟩

/-- A stage of the end of the session. -/
theorem Coherent.stepEnding {stage : EndingStage} (coherent : client.Coherent (.finish stage))
    (moved : client.stepEnding surroundings stage = some (next, after)) :
    client.Advances (.finish stage) next after := by
  obtain ⟨only, fits⟩ := coherent
  cases stage with
  | begun =>
    simp only [Client.stepEnding] at moved
    split at moved
    case h_1 | h_2 =>
      cases moved
      exact ⟨⟨only, fits⟩, rfl, fun _ => rfl⟩
    case h_3 | h_4 =>
      cases moved
      exact ⟨⟨only, rfl⟩, rfl, fun _ => rfl⟩
    case h_5 | h_6 => exact advances_of_ending only moved
  | asked ticket =>
    obtain ⟨state, bounded⟩ := fits
    rcases await_cases moved with ⟨outcome, isOver, went⟩ | ⟨session, stepped, rfl, rfl⟩
    · cases went
      exact ⟨⟨only.finish (Option.isSome_of_eq_some isOver), state⟩, rfl, fun _ => rfl⟩
    · obtain ⟨turn, happens⟩ := Session.stepCall_happens stepped
      exact ⟨⟨only.stepCall stepped, state, bounded.after? only.consistent happens⟩, rfl, fun _ => rfl⟩
  | leaving =>
    simp only [Client.stepEnding] at moved
    split at moved
    · cases moved
      exact ⟨⟨only, fits⟩, rfl, fun _ => rfl⟩
    · next session wrote =>
      cases moved
      exact ⟨⟨only.notify wrote, fits⟩, rfl, fun _ => rfl⟩
  | detaching =>
    cases moved
    have happens : client.session.after? .detach = some client.session.detach := rfl
    exact ⟨⟨only.after? happens (by simp), fits, rfl⟩, rfl, fun _ => rfl⟩
  | draining =>
    obtain ⟨state, detached⟩ := fits
    cases moved
    have happens : client.session.after? .abandon = some client.session.abandonCalls := rfl
    obtain ⟨calls, _, same⟩ := client.session.abandonCalls_eq
    refine ⟨⟨only.after? happens (by simp), state, ?_, ?_⟩, rfl, fun _ => rfl⟩
    · simpa only [same] using detached
    · simp only [same]
  | releasing =>
    obtain ⟨state, detached, closed⟩ := fits
    simp only [Client.stepEnding] at moved
    split at moved
    · cases moved
      exact ⟨⟨only, state, detached, closed, by simp⟩, rfl, fun _ => rfl⟩
    all_goals
      next process =>
      cases moved
      exact ⟨⟨only, state, detached, closed, by simp [process]⟩, rfl, fun _ => rfl⟩
  | settling =>
    obtain ⟨_, detached, closed, released⟩ := fits
    cases moved
    exact ⟨⟨only, rfl, detached, closed, released⟩, rfl, fun _ => rfl⟩

/-- A stage of any operation. -/
theorem Coherent.step (coherent : client.Coherent operation)
    (moved : client.step surroundings operation = some (next, after)) :
    client.Advances operation next after := by
  cases operation with
  | greet stage => exact coherent.stepGreeting moved
  | openDocument document languageId text stage => exact coherent.stepOpening moved
  | ask query stage => exact coherent.stepQuery moved
  | finish stage => exact coherent.stepEnding moved
  | «over» => cases moved

/-- A client that is gone stays so, whatever happens in the background. -/
theorem IsGone.background {event : SessionEvent} {session : Session} (gone : client.IsGone)
    (background : event.isBackground = true)
    (happens : client.session.after? event = some session) : IsGone { client with session } := by
  have effect := Session.Effect.of_after? happens
  have outlet : session.outlet = client.session.outlet := (effect.frame background).1
  exact ⟨gone.state, outlet.trans gone.detached, effect.closed gone.closed, gone.released⟩

/-- What happens in the background leaves fitting what fits. -/
theorem Fits.background {event : SessionEvent} {session : Session} (fits : client.Fits operation)
    (consistent : client.session.Consistent) (background : event.isBackground = true)
    (happens : client.session.after? event = some session) :
    Fits { client with session } operation := by
  have effect := Session.Effect.of_after? happens
  have outlet : session.outlet = client.session.outlet := (effect.frame background).1
  have idles (idles : client.Idles) : Idles { client with session } := by
    simp only [Idles] at idles ⊢
    split at idles
    case h_6 => exact idles.background background happens
    all_goals exact idles
  cases operation with
  | greet stage | openDocument _ _ _ stage | ask _ stage =>
    cases stage with
    | begun => exact idles fits
    | _ => exact fits
  | finish stage =>
    cases stage with
    | begun => exact idles fits
    | asked ticket => exact ⟨fits.1, fits.2.after? consistent happens⟩
    | leaving | detaching => exact fits
    | draining => exact ⟨fits.1, outlet.trans fits.2⟩
    | releasing => exact ⟨fits.1, outlet.trans fits.2.1, effect.closed fits.2.2⟩
    | settling => exact ⟨fits.1, outlet.trans fits.2.1, effect.closed fits.2.2.1, fits.2.2.2⟩
  | «over» => exact idles fits

/-- What happens in the background leaves a client as it should be. -/
theorem Coherent.background {event : SessionEvent} {session : Session}
    (coherent : client.Coherent operation) (background : event.isBackground = true)
    (happens : client.session.after? event = some session) :
    Coherent { client with session } operation where
  only := by
    refine coherent.only.after? happens ?_
    rintro method params limit rfl
    cases background
  fits := coherent.fits.background coherent.only.consistent background happens

/-- An operation may begin whenever the one before is over. -/
theorem Coherent.begin {ending : Ending} (coherent : client.Coherent (.over ending))
    (fresh : operation.isFresh = true) : client.Coherent operation where
  only := by
    rw [Operation.ticket?_of_isFresh fresh]
    exact coherent.only
  fits := by
    cases operation with
    | greet stage | openDocument _ _ _ stage | ask _ stage | finish stage =>
      cases stage <;> first | exact coherent.fits | cases fresh
    | «over» => cases fresh

/-- Whatever happens to a client leaves it as it should be. -/
theorem Coherent.after? {event : ClientEvent} (coherent : client.Coherent operation)
    (happens : client.after? operation event = some (next, after)) : next.Coherent after := by
  cases event with
  | begin fresh =>
    simp only [Client.after?] at happens
    split at happens
    · next allowed =>
      cases happens
      obtain ⟨isOver, isFresh⟩ := Bool.and_eq_true_iff.mp allowed
      cases operation with
      | «over» ending => exact coherent.begin isFresh
      | _ => cases isOver
    · cases happens
  | advance surroundings => exact (coherent.step happens).coherent
  | background event =>
    simp only [Client.after?] at happens
    split at happens
    · next background =>
      obtain ⟨session, transition, same⟩ := Option.map_eq_some_iff.mp happens
      cases same
      exact coherent.background background transition
    · cases happens

/-- Every execution leaves a client as it should be. -/
theorem Coherent.of_steps {first last : Client × Operation} {events : List ClientEvent}
    (coherent : first.1.Coherent first.2) (run : Steps first events last) :
    last.1.Coherent last.2 := by
  induction run with
  | refl => exact coherent
  | step _ transition ih => exact ih.after? transition

/-- A client is as it should be at its start. -/
theorem coherent_start (limits : Limits) (rootUri : String) (processId : Nat)
    (process : ServerProcess) (ending : Ending) :
    (start limits rootUri processId process).Coherent (.over ending) :=
  ⟨.start .standard, rfl⟩

/-- Every client that has a history is as it should be. -/
theorem History.coherent {limits : Limits} {rootUri : String} {processId : Nat}
    {process : ServerProcess} {episodes : List Episode}
    (history : History (start limits rootUri processId process) episodes client) :
    ∃ ending, client.Coherent (.over ending) := by
  obtain ⟨ending, run⟩ := history.steps (.returned .nothing)
  exact ⟨ending, (coherent_start limits rootUri processId process _).of_steps run⟩

end Client

end FoldAtlas
