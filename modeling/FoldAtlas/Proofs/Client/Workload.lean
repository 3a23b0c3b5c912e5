import FoldAtlas.Proofs.Client.Execution

/-!
# Operations under way together

A client may have several operations under way at the same time. `Workload` is a
client with every operation that was begun on it, and `Workload.Steps` strings
events together without any schedule: an operation may begin at any time,
whatever else is under way, each one may go on by a stage at any time and find
any surroundings, and anything may happen in the background in between.

`Client.Stage` says once what one stage of an operation can do to a client, `Client.Utters`
what the operation says thereby, and `Workload.Change` what one event can do to a
workload.
-/

namespace FoldAtlas

/-- Whether an operation has claimed the document of its client and has not yet
returned: it is to write the announcement, or has just written it. -/
def Operation.isOpening : Operation → Bool
  | .openDocument _ _ _ .announcing | .openDocument _ _ _ .announced => true
  | _ => false

/-- Whether an operation has claimed the document and is to write its announcement. -/
def Operation.isAnnouncing : Operation → Bool
  | .openDocument _ _ _ .announcing => true
  | _ => false

/-- An operation that is not opening a document is not announcing one. -/
theorem Operation.isAnnouncing_of_isOpening {operation : Operation}
    (idle : operation.isOpening = false) : operation.isAnnouncing = false := by
  cases operation with
  | openDocument document languageId text stage =>
    cases stage with
    | begun | announced => rfl
    | announcing => cases idle
  | _ => rfl

/-- An operation that has just begun is not announcing a document. -/
theorem Operation.isAnnouncing_of_isFresh {operation : Operation}
    (fresh : operation.isFresh = true) : operation.isAnnouncing = false := by
  cases operation with
  | openDocument document languageId text stage =>
    cases stage with
    | begun => rfl
    | announcing | announced => cases fresh
  | _ => rfl

namespace Client

/-! ## Stages -/

/-- What one stage of an operation can do to a client. -/
inductive Stage (client : Client) (surroundings : Surroundings) :
    Operation → Client → Operation → Prop where
  /-- Nothing happens to the client. -/
  | pass {operation after : Operation} (before : operation.isOpening = false)
      (behind : after.isOpening = false) : Stage client surroundings operation client after
  /-- The call that the operation waits for goes on. -/
  | proceed {operation : Operation} {ticket : Nat} {session : Session}
      (before : operation.isOpening = false)
      (moved : client.session.stepCall surroundings ticket = some session) :
      Stage client surroundings operation { client with session } operation
  | greet {limit : Option Duration} (state : client.state = .uninitialized) :
      Stage client surroundings (.greet .begun)
        { client with
          state := .initializing
          session := (client.session.begin Greeting.openingMethod (some client.greetingParams)
            limit).1 }
        (.greet (.asked client.session.calls.length))
  /-- The limit of the call that greets cannot be counted. -/
  | greetInVain (state : client.state = .uninitialized) :
      Stage client surroundings (.greet .begun) { client with state := .initializing }
        (.over .brokeDown)
  | welcome {greeting : Greeting} {session : Session}
      (wrote : client.session.notify surroundings.fault Greeting.closingMethod
        (some (.object [])) = .ok session)
      (state : client.state = .initializing) :
      Stage client surroundings (.greet (.answered greeting))
        { client with session, state := .ready } (.over (.returned (.greeting greeting)))
  /-- The greeting is over too late. -/
  | welcomeInVain {greeting : Greeting} {session : Session}
      (wrote : client.session.notify surroundings.fault Greeting.closingMethod
        (some (.object [])) = .ok session)
      (state : client.state ≠ .initializing) :
      Stage client surroundings (.greet (.answered greeting)) { client with session }
        (.over (.failed (.invalidState Greeting.openingMethod client.state)))
  | claim {document : AnnouncedDocument} {languageId text : String}
      (state : client.state = .ready) :
      Stage client surroundings (.openDocument document languageId text .begun)
        { client with state := .documentOpen }
        (.openDocument document languageId text .announcing)
  | takeBack {document : AnnouncedDocument} {languageId text : String} {failure : Failure}
      (failed : client.session.notify surroundings.fault openingMethod
        (some (document.announcement languageId text)) = .error failure) :
      Stage client surroundings (.openDocument document languageId text .announcing)
        { client with state := .ready } (.over (.failed failure))
  | announce {document : AnnouncedDocument} {languageId text : String} {session : Session}
      (wrote : client.session.notify surroundings.fault openingMethod
        (some (document.announcement languageId text)) = .ok session) :
      Stage client surroundings (.openDocument document languageId text .announcing)
        { client with session } (.openDocument document languageId text .announced)
  | publish {document : AnnouncedDocument} {languageId text : String} :
      Stage client surroundings (.openDocument document languageId text .announced)
        { client with document := some document } (.over (.returned (.document document)))
  | ask {query : Query} {document : AnnouncedDocument} {limit : Option Duration}
      (known : client.document = some document) :
      Stage client surroundings (.ask query .admitted)
        { client with
          session := (client.session.begin query.method (some document.reference) limit).1 }
        (.ask query (.asked client.session.calls.length))
  /-- The end begins without a call. -/
  | end {after : Operation}
      (state : client.state ≠ .shuttingDown ∧ client.state ≠ .closed)
      (behind : after.isOpening = false) :
      Stage client surroundings (.finish .begun) { client with state := .shuttingDown } after
  /-- The end begins with a call. -/
  | endAsking {limit : Option Duration}
      (state : client.state = .ready ∨ client.state = .documentOpen)
      (graceful : client.limits.graceful = true) :
      Stage client surroundings (.finish .begun)
        { client with
          state := .shuttingDown
          session := (client.session.begin endingMethod none limit).1 }
        (.finish (.asked client.session.calls.length))
  | leave {session : Session}
      (wrote : client.session.notify surroundings.fault leavingMethod none = .ok session) :
      Stage client surroundings (.finish .leaving) { client with session } (.finish .detaching)
  | detach :
      Stage client surroundings (.finish .detaching)
        { client with session := client.session.detach } (.finish .draining)
  | drain :
      Stage client surroundings (.finish .draining)
        { client with session := client.session.abandonCalls } (.finish .releasing)
  | release :
      Stage client surroundings (.finish .releasing) { client with process := .released }
        (.finish .settling)
  | settle :
      Stage client surroundings (.finish .settling) { client with state := .closed }
        (.over (.returned .nothing))

namespace Stage

variable {client next : Client} {surroundings : Surroundings} {operation after : Operation}

/-- Waiting for a call is a stage. -/
theorem of_await {ticket : Nat} {waiting : Operation}
    {goOn : Except Failure Json → Client × Operation} (before : waiting.isOpening = false)
    (kept : ∀ outcome, (goOn outcome).1 = client ∧ (goOn outcome).2.isOpening = false)
    (moved : client.await surroundings ticket waiting goOn = some (next, after)) :
    client.Stage surroundings waiting next after := by
  rcases await_cases moved with ⟨outcome, _, same⟩ | ⟨session, stepped, rfl, rfl⟩
  · obtain ⟨stays, behind⟩ := kept outcome
    rw [same] at stays behind
    subst stays
    exact .pass before behind
  · exact .proceed before stepped

/-- A stage of the greeting. -/
theorem of_stepGreeting {stage : GreetingStage}
    (moved : client.stepGreeting surroundings stage = some (next, after)) :
    client.Stage surroundings (.greet stage) next after := by
  cases stage with
  | begun =>
    simp only [stepGreeting] at moved
    split at moved
    · next state =>
      have moved := Option.some.inj moved
      rcases beginCall_cases { client with state := .initializing } Greeting.openingMethod
        (some client.greetingParams) (fun ticket => .greet (.asked ticket)) with
        broke | ⟨limit, begun⟩
      · rw [broke] at moved
        cases moved
        exact .greetInVain state
      · rw [begun] at moved
        cases moved
        exact .greet state
    · cases moved
      exact .pass rfl rfl
  | asked ticket =>
    refine of_await rfl (fun outcome => ?_) moved
    cases outcome with
    | error failure => exact ⟨rfl, rfl⟩
    | ok value =>
      cases decoded : Greeting.decodeAnswer value <;> simp [decoded, Operation.isOpening]
  | answered greeting =>
    simp only [stepGreeting] at moved
    split at moved
    · cases moved
      exact .pass rfl rfl
    · next session wrote =>
      split at moved
      · next state =>
        cases moved
        exact .welcome wrote state
      · next state =>
        cases moved
        exact .welcomeInVain wrote state

/-- A stage of the announcement of a document. -/
theorem of_stepOpening {document : AnnouncedDocument} {languageId text : String}
    {stage : OpeningStage}
    (moved : client.stepOpening surroundings document languageId text stage =
      some (next, after)) :
    client.Stage surroundings (.openDocument document languageId text stage) next after := by
  cases stage with
  | begun =>
    simp only [stepOpening] at moved
    split at moved
    · next state =>
      cases moved
      exact .claim state
    · cases moved
      exact .pass rfl rfl
  | announcing =>
    simp only [stepOpening] at moved
    split at moved
    · next failed =>
      cases moved
      exact .takeBack failed
    · next session wrote =>
      cases moved
      exact .announce wrote
  | announced =>
    cases moved
    exact .publish

/-- A stage of a query. -/
theorem of_stepQuery {query : Query} {stage : QueryStage}
    (moved : client.stepQuery surroundings query stage = some (next, after)) :
    client.Stage surroundings (.ask query stage) next after := by
  cases stage with
  | begun =>
    simp only [stepQuery] at moved
    split at moved <;> cases moved <;> exact .pass rfl rfl
  | admitted =>
    simp only [stepQuery] at moved
    split at moved
    · cases moved
      exact .pass rfl rfl
    · next document known =>
      have moved := Option.some.inj moved
      rcases beginCall_cases client query.method (some document.reference)
        (fun ticket => .ask query (.asked ticket)) with broke | ⟨limit, begun⟩
      · rw [broke] at moved
        cases moved
        exact .pass rfl rfl
      · rw [begun] at moved
        cases moved
        exact .ask known
  | asked ticket =>
    refine of_await rfl (fun outcome => ?_) moved
    cases outcome with
    | error failure => exact ⟨rfl, rfl⟩
    | ok value =>
      cases decoded : query.decode value <;> simp [decoded, Operation.isOpening]

/-- The beginning of the end of a session in which there is something to end. -/
theorem of_ending (state : client.state = .ready ∨ client.state = .documentOpen)
    (moved : (if client.limits.graceful then
        some ({ client with state := .shuttingDown }.beginCall endingMethod none
          fun ticket => .finish (.asked ticket))
      else some ({ client with state := .shuttingDown }, .finish .leaving)) =
        some (next, after)) :
    client.Stage surroundings (.finish .begun) next after := by
  have present : client.state ≠ .shuttingDown ∧ client.state ≠ .closed := by
    rcases state with state | state <;> simp [state]
  split at moved
  · next graceful =>
    have moved := Option.some.inj moved
    rcases beginCall_cases { client with state := .shuttingDown } endingMethod none
      (fun ticket => .finish (.asked ticket)) with broke | ⟨limit, begun⟩
    · rw [broke] at moved
      cases moved
      exact .end present rfl
    · rw [begun] at moved
      cases moved
      exact .endAsking state graceful
  · cases moved
    exact .end present rfl

/-- A stage of the end of the session. -/
theorem of_stepEnding {stage : EndingStage}
    (moved : client.stepEnding surroundings stage = some (next, after)) :
    client.Stage surroundings (.finish stage) next after := by
  cases stage with
  | begun =>
    simp only [stepEnding] at moved
    split at moved
    · cases moved
      exact .pass rfl rfl
    · cases moved
      exact .pass rfl rfl
    · next state =>
      cases moved
      exact .end (by simp [state]) rfl
    · next state =>
      cases moved
      exact .end (by simp [state]) rfl
    · next state => exact of_ending (.inl state) moved
    · next state => exact of_ending (.inr state) moved
  | asked ticket => exact of_await rfl (fun _ => ⟨rfl, rfl⟩) moved
  | leaving =>
    simp only [stepEnding] at moved
    split at moved
    · cases moved
      exact .pass rfl rfl
    · next session wrote =>
      cases moved
      exact .leave wrote
  | detaching =>
    cases moved
    exact .detach
  | draining =>
    cases moved
    exact .drain
  | releasing =>
    simp only [stepEnding] at moved
    split at moved <;> cases moved
    · exact .release
    · exact .pass rfl rfl
    · exact .pass rfl rfl
  | settling =>
    cases moved
    exact .settle

/-- Whatever a stage of an operation does is one of the things listed. -/
theorem of_step (moved : client.step surroundings operation = some (next, after)) :
    client.Stage surroundings operation next after := by
  cases operation with
  | greet stage => exact of_stepGreeting moved
  | openDocument document languageId text stage => exact of_stepOpening moved
  | ask query stage => exact of_stepQuery moved
  | finish stage => exact of_stepEnding moved
  | «over» ending => cases moved

end Stage

/-- What an operation says in one stage: which event it lets happen in the session of its
client. -/
inductive Utters (client : Client) : Operation → SessionEvent → Prop where
  | greet {limit : Option Duration} :
      Utters client (.greet .begun)
        (.begin Greeting.openingMethod (some client.greetingParams) limit)
  | welcome {greeting : Greeting} {fault : Option StreamFault} :
      Utters client (.greet (.answered greeting))
        (.notify fault Greeting.closingMethod (some (.object [])))
  | announce {document : AnnouncedDocument} {languageId text : String}
      {fault : Option StreamFault} :
      Utters client (.openDocument document languageId text .announcing)
        (.notify fault openingMethod (some (document.announcement languageId text)))
  | ask {query : Query} {document : AnnouncedDocument} {limit : Option Duration}
      (known : client.document = some document) :
      Utters client (.ask query .admitted) (.begin query.method (some document.reference) limit)
  | endAsking {limit : Option Duration} :
      Utters client (.finish .begun) (.begin endingMethod none limit)
  | leave {fault : Option StreamFault} :
      Utters client (.finish .leaving) (.notify fault leavingMethod none)
  /-- The call that the operation waits for goes on. -/
  | proceed {operation : Operation} {turn : CallTurn} {surroundings : Surroundings}
      {ticket : Nat} : Utters client operation (.proceed turn surroundings ticket)
  | detach : Utters client (.finish .detaching) .detach
  | drain : Utters client (.finish .draining) .abandon

/-- A stage leaves the session alone, or lets one event happen in it. -/
theorem Stage.utters {client next : Client} {surroundings : Surroundings}
    {operation after : Operation} (stage : client.Stage surroundings operation next after) :
    next.session = client.session ∨
      ∃ event, client.session.after? event = some next.session ∧ client.Utters operation event := by
  have told {session : Session} {method : String} {params : Option Json}
      (wrote : client.session.notify surroundings.fault method params = .ok session) :
      client.session.after? (.notify surroundings.fault method params) = some session := by
    simp only [Session.after?, wrote]
  have began (method : String) (params : Option Json) (limit : Option Duration) :
      client.session.after? (.begin method params limit) =
        some (client.session.begin method params limit).1 := rfl
  cases stage with
  | pass | greetInVain | claim | takeBack | publish | «end» | release | settle => exact .inl rfl
  | proceed _ moved =>
    obtain ⟨turn, happens⟩ := Session.stepCall_happens moved
    exact .inr ⟨_, happens, .proceed⟩
  | greet => exact .inr ⟨_, began _ _ _, .greet⟩
  | ask known => exact .inr ⟨_, began _ _ _, .ask known⟩
  | endAsking => exact .inr ⟨_, began _ _ _, .endAsking⟩
  | welcome wrote | welcomeInVain wrote => exact .inr ⟨_, told wrote, .welcome⟩
  | leave wrote => exact .inr ⟨_, told wrote, .leave⟩
  | announce wrote => exact .inr ⟨_, told wrote, .announce⟩
  | detach => exact .inr ⟨.detach, rfl, .detach⟩
  | drain => exact .inr ⟨.abandon, rfl, .drain⟩

end Client

/-! ## Workloads -/

/-- A client with the operations that were begun on it. -/
structure Workload where
  client : Client
  /-- The operations, in the order in which they began. -/
  operations : List Operation

/-- One thing that happens to a client with operations under way. -/
inductive WorkloadEvent where
  /-- An operation begins. -/
  | begin (operation : Operation)
  /-- An operation goes on by one stage. -/
  | advance (surroundings : Surroundings) (index : Nat)
  /-- Something happens in the background. -/
  | background (event : SessionEvent)

namespace Workload

/-- A client at its start, with no operation under way. -/
def start (limits : Limits) (rootUri : String) (processId : Nat) (process : ServerProcess) :
    Workload :=
  ⟨.start limits rootUri processId process, []⟩

/-- What an event makes of a workload; `none` if it cannot happen now. -/
def after? (workload : Workload) : WorkloadEvent → Option Workload
  | .begin operation =>
    if operation.isFresh then
      some { workload with operations := workload.operations ++ [operation] }
    else none
  | .advance surroundings index =>
    match workload.operations[index]? with
    | none => none
    | some operation =>
      (workload.client.step surroundings operation).map fun (client, operation) =>
        ⟨client, workload.operations.set index operation⟩
  | .background event =>
    if event.isBackground then
      (workload.client.session.after? event).map fun session =>
        { workload with client := { workload.client with session } }
    else none

/-- Zero or more events that lead from one workload to another. -/
inductive Steps (first : Workload) : List WorkloadEvent → Workload → Prop where
  | refl : Steps first [] first
  | step {events : List WorkloadEvent} {current next : Workload} {event : WorkloadEvent}
      (prior : Steps first events current) (transition : current.after? event = some next) :
      Steps first (events ++ [event]) next

/-- What some events make of a workload, one after the other; `none` if one of them
cannot happen in its turn. -/
def run? (first : Workload) (events : List WorkloadEvent) : Option Workload :=
  events.foldlM after? first

/-- A run is an execution. -/
theorem Steps.of_run? {first last : Workload} {events : List WorkloadEvent}
    (ran : first.run? events = some last) : Steps first events last := by
  induction events using List.reverseRecOn generalizing last with
  | nil =>
    obtain rfl : first = last := by simpa [run?] using ran
    exact .refl
  | append_singleton events event ih =>
    simp only [run?, List.foldlM_append, List.foldlM_cons, List.foldlM_nil, bind_pure,
      Option.bind_eq_bind, Option.bind_eq_some_iff] at ran
    obtain ⟨middle, before, transition⟩ := ran
    exact .step (ih before) transition

/-- What one event can do to a workload. -/
inductive Change (workload : Workload) : WorkloadEvent → Workload → Prop where
  | begin {operation : Operation} (fresh : operation.isFresh = true) :
      Change workload (.begin operation)
        { workload with operations := workload.operations ++ [operation] }
  | advance {surroundings : Surroundings} {index : Nat} {operation after : Operation}
      {client : Client} (found : workload.operations[index]? = some operation)
      (stage : workload.client.Stage surroundings operation client after) :
      Change workload (.advance surroundings index)
        ⟨client, workload.operations.set index after⟩
  | background {event : SessionEvent} {session : Session}
      (background : event.isBackground = true)
      (happens : workload.client.session.after? event = some session) :
      Change workload (.background event)
        { workload with client := { workload.client with session } }

/-- An operation that goes on is replaced by what a stage makes of it. -/
theorem exists_of_advance {workload next : Workload} {surroundings : Surroundings} {index : Nat}
    (happens : workload.after? (.advance surroundings index) = some next) :
    ∃ operation client after, workload.operations[index]? = some operation ∧
      workload.client.step surroundings operation = some (client, after) ∧
      next = ⟨client, workload.operations.set index after⟩ := by
  simp only [Workload.after?] at happens
  split at happens
  · cases happens
  · next operation found =>
    obtain ⟨⟨client, after⟩, moved, same⟩ := Option.map_eq_some_iff.mp happens
    exact ⟨operation, client, after, found, moved, same.symm⟩

/-- What an event makes of a workload is one of the things listed. -/
theorem Change.of_after? {workload next : Workload} {event : WorkloadEvent}
    (happens : workload.after? event = some next) : workload.Change event next := by
  cases event with
  | begin operation =>
    simp only [Workload.after?] at happens
    split at happens
    · next fresh =>
      cases happens
      exact .begin fresh
    · cases happens
  | advance surroundings index =>
    obtain ⟨operation, client, after, found, moved, rfl⟩ := exists_of_advance happens
    exact .advance found (.of_step moved)
  | background event =>
    simp only [Workload.after?] at happens
    split at happens
    · next background =>
      obtain ⟨session, transition, same⟩ := Option.map_eq_some_iff.mp happens
      cases same
      exact .background background transition
    · cases happens

/-- An operation after one of them has been replaced: it is the new one in its
place, or it was there before. -/
theorem found_set {operations : List Operation} {index other : Nat}
    {after operation : Operation} (found : (operations.set index after)[other]? = some operation) :
    (other = index ∧ operation = after) ∨
      (other ≠ index ∧ operations[other]? = some operation) := by
  by_cases same : index = other
  · subst same
    have bound := (List.getElem?_eq_some_iff.mp found).1
    rw [List.length_set] at bound
    rw [List.getElem?_set_self bound] at found
    exact .inl ⟨rfl, (Option.some.inj found).symm⟩
  · rw [List.getElem?_set_ne same] at found
    exact .inr ⟨Ne.symm same, found⟩

/-- An operation after one more has begun: it is the new one, or it was there
before. -/
theorem found_concat {operations : List Operation} {fresh operation : Operation} {index : Nat}
    (found : (operations ++ [fresh])[index]? = some operation) :
    operation = fresh ∨ operations[index]? = some operation := by
  by_cases within : index < operations.length
  · rw [List.getElem?_append_left within] at found
    exact .inr found
  · rw [List.getElem?_append_right (by omega)] at found
    exact .inl (List.mem_singleton.mp (List.mem_of_getElem? found))

/-! ## A client that is greeted -/

/-- A client greets its server, which answers `null`. -/
def greeted : List WorkloadEvent :=
  let onward := List.replicate 3 (WorkloadEvent.advance ⟨0, none⟩ 0)
  .begin (.greet .begun) :: onward ++
    .background (.dispatch 1 (.response (.ok (.number 1) .null))) :: onward

end Workload

end FoldAtlas
