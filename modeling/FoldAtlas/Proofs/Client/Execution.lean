import FoldAtlas.Client.Operation
import FoldAtlas.Proofs.Session.Move

/-!
# Executions of a client

A client carries out one operation after the other. `Client.Steps` lets each of
them begin as soon as the one before is over, in any order and any number of
times; between two stages of an operation anything may happen in the background
of the client's session, and every stage may find writing hindered.

What a stage does to the session is an execution of the session
(`continues_of_step`), so that everything proved of sessions holds of clients.
-/

namespace FoldAtlas

/-- Whether nothing of an operation has happened yet. -/
def Operation.isFresh : Operation → Bool
  | .greet .begun | .openDocument _ _ _ .begun | .ask _ .begun | .finish .begun => true
  | _ => false

/-- One thing that happens to a client. -/
inductive ClientEvent where
  /-- An operation begins. -/
  | begin (operation : Operation)
  /-- The operation goes on by one stage. -/
  | advance (surroundings : Surroundings)
  /-- Something happens in the background. -/
  | background (event : SessionEvent)

namespace Client

/-- What an event makes of a client and the operation that it is at; `none` if it
cannot happen now. -/
def after? (client : Client) (operation : Operation) : ClientEvent → Option (Client × Operation)
  | .begin next =>
    if operation.ending?.isSome && next.isFresh then some (client, next) else none
  | .advance surroundings => client.step surroundings operation
  | .background event =>
    if event.isBackground then
      (client.session.after? event).map fun session => ({ client with session }, operation)
    else none

/-- Zero or more events that lead from a client at an operation to another. -/
inductive Steps (first : Client × Operation) : List ClientEvent → Client × Operation → Prop where
  | refl : Steps first [] first
  | step {events : List ClientEvent} {client : Client} {operation : Operation}
      {event : ClientEvent} {next : Client × Operation}
      (prior : Steps first events (client, operation))
      (transition : client.after? operation event = some next) :
      Steps first (events ++ [event]) next

/-- What some events make of a client at an operation, one after the other; `none`
if one of them cannot happen in its turn. -/
def run? (first : Client × Operation) (events : List ClientEvent) :
    Option (Client × Operation) :=
  events.foldlM (fun current event => current.1.after? current.2 event) first

/-- A run is an execution. -/
theorem Steps.of_run? {first last : Client × Operation} {events : List ClientEvent}
    (ran : run? first events = some last) : Steps first events last := by
  induction events using List.reverseRecOn generalizing last with
  | nil =>
    obtain rfl : first = last := by simpa [run?] using ran
    exact .refl
  | append_singleton events event ih =>
    simp only [run?, List.foldlM_append, List.foldlM_cons, List.foldlM_nil, bind_pure,
      Option.bind_eq_bind, Option.bind_eq_some_iff] at ran
    obtain ⟨middle, before, transition⟩ := ran
    exact .step (ih before) transition

/-- The reader, its keeper and whatever else proceeds in the background of the
session may do so at any time. -/
theorem Steps.proceed {first : Client × Operation} {events : List ClientEvent}
    {client : Client} {operation : Operation} {session : Session}
    (run : Steps first events (client, operation)) (proceeds : client.session.Proceeds session) :
    ∃ more, Steps first (events ++ more) ({ client with session }, operation) := by
  obtain ⟨inner, onward, background⟩ := proceeds
  refine ⟨inner.map .background, ?_⟩
  induction onward with
  | refl => simpa using run
  | @step inner current next event prior transition ih =>
    have silent := background event (by simp)
    have earlier := ih fun other member => background other (List.mem_append_left [event] member)
    have happens : after? { client with session := current } operation (.background event) =
        some ({ client with session := next }, operation) := by
      simp [after?, silent, transition]
    rw [List.map_append, ← List.append_assoc]
    exact .step earlier happens

/-- A client at its start, with nothing to do. -/
def atStart (limits : Limits) (rootUri : String) (processId : Nat) (process : ServerProcess) :
    Client × Operation :=
  (.start limits rootUri processId process, .over (.returned .nothing))

/-! ## What the parts of a stage do -/

variable {client next : Client} {surroundings : Surroundings} {operation after : Operation}

/-- A call begins, or its limit cannot be counted. -/
theorem beginCall_cases (client : Client) (method : String) (params : Option Json)
    (proceed : Nat → Operation) :
    client.beginCall method params proceed = (client, .over .brokeDown) ∨
    ∃ limit, client.beginCall method params proceed =
      ({ client with session := (client.session.begin method params limit).1 },
        proceed client.session.calls.length) := by
  simp only [beginCall]
  split
  · exact .inl rfl
  · exact .inr ⟨none, rfl⟩
  · next limit _ => exact .inr ⟨some limit, rfl⟩

/-- A call that is awaited is over, or goes on. -/
theorem await_cases {ticket : Nat} {waiting : Operation}
    {goOn : Except Failure Json → Client × Operation}
    (moved : client.await surroundings ticket waiting goOn = some (next, after)) :
    (∃ outcome, client.session.outcome? ticket = some outcome ∧ goOn outcome = (next, after)) ∨
    ∃ session, client.session.stepCall surroundings ticket = some session ∧
      next = { client with session } ∧ after = waiting := by
  simp only [await] at moved
  split at moved
  · next outcome found => exact .inl ⟨outcome, found, Option.some.inj moved⟩
  · obtain ⟨session, stepped, same⟩ := Option.map_eq_some_iff.mp moved
    obtain ⟨rfl, rfl⟩ := Prod.mk.inj same
    exact .inr ⟨session, stepped, rfl, rfl⟩

/-- A notification is written, or it is not. -/
theorem notify_cases (session : Session) (fault : Option StreamFault) (method : String)
    (params : Option Json) :
    session.notify fault method params =
        .ok { session with sent := session.sent ++ [.notification (.make method params)] } ∨
      ∃ failure, session.notify fault method params = .error failure := by
  rcases session.write_cases fault (.notification (.make method params)) with
    ⟨_, wrote⟩ | ⟨failure, _, failed⟩
  · exact .inl wrote
  · exact .inr ⟨failure, failed⟩

/-! ## Stages are executions of the session -/

/-- What becomes of a client: its session goes on, and its limits stay. -/
structure Continues (client next : Client) : Prop where
  session : client.session.Reaches next.session
  limits : next.limits = client.limits

namespace Continues

theorem refl (client : Client) : client.Continues client := ⟨.refl client.session, rfl⟩

end Continues

/-- A client that begins a call continues. -/
theorem continues_of_beginCall {method : String} {params : Option Json}
    {proceed : Nat → Operation}
    (moved : client.beginCall method params proceed = (next, after)) :
    client.Continues next := by
  rcases client.beginCall_cases method params proceed with broke | ⟨limit, begun⟩
  · rw [broke] at moved
    cases moved
    exact .refl client
  · rw [begun] at moved
    cases moved
    have happens : client.session.after? (.begin method params limit) =
        some (client.session.begin method params limit).1 := rfl
    exact ⟨.single happens, rfl⟩

/-- A client that waits for a call continues. -/
theorem continues_of_await {ticket : Nat} {waiting : Operation}
    {goOn : Except Failure Json → Client × Operation}
    (kept : ∀ outcome, (goOn outcome).1 = client)
    (moved : client.await surroundings ticket waiting goOn = some (next, after)) :
    client.Continues next := by
  rcases await_cases moved with ⟨outcome, _, same⟩ | ⟨session, stepped, rfl, _⟩
  · have stays := kept outcome
    rw [same] at stays
    obtain rfl := stays
    exact .refl next
  · exact ⟨Session.stepCall_reaches stepped, rfl⟩

/-- Writing a notification is an execution of the session. -/
theorem reaches_of_notify {session written : Session} {fault : Option StreamFault}
    {method : String} {params : Option Json}
    (wrote : session.notify fault method params = .ok written) : session.Reaches written := by
  have happens : session.after? (.notify fault method params) = some written := by
    simp only [Session.after?, wrote]
  exact .single happens

/-- A client that greets continues. -/
theorem continues_of_stepGreeting {stage : GreetingStage}
    (moved : client.stepGreeting surroundings stage = some (next, after)) :
    client.Continues next := by
  cases stage with
  | begun =>
    simp only [stepGreeting] at moved
    split at moved
    · have begun := continues_of_beginCall (Option.some.inj moved)
      exact ⟨begun.session, begun.limits⟩
    · cases moved
      exact .refl client
  | asked ticket =>
    refine continues_of_await (fun outcome => ?_) moved
    cases outcome with
    | error failure => rfl
    | ok value => cases decoded : Greeting.decodeAnswer value <;> simp [decoded]
  | answered greeting =>
    simp only [stepGreeting] at moved
    split at moved
    · cases moved
      exact .refl client
    · next session wrote =>
      split at moved <;> cases moved <;> exact ⟨reaches_of_notify wrote, rfl⟩

/-- A client that announces a document continues. -/
theorem continues_of_stepOpening {document : AnnouncedDocument} {languageId text : String}
    {stage : OpeningStage}
    (moved : client.stepOpening surroundings document languageId text stage =
      some (next, after)) : client.Continues next := by
  cases stage with
  | begun =>
    simp only [stepOpening] at moved
    split at moved <;> cases moved <;> exact ⟨.refl client.session, rfl⟩
  | announcing =>
    simp only [stepOpening] at moved
    split at moved
    · cases moved
      exact ⟨.refl client.session, rfl⟩
    · next session wrote =>
      cases moved
      exact ⟨reaches_of_notify wrote, rfl⟩
  | announced =>
    cases moved
    exact ⟨.refl client.session, rfl⟩

/-- A client that asks about its document continues. -/
theorem continues_of_stepQuery {query : Query} {stage : QueryStage}
    (moved : client.stepQuery surroundings query stage = some (next, after)) :
    client.Continues next := by
  cases stage with
  | begun =>
    simp only [stepQuery] at moved
    split at moved <;> cases moved <;> exact .refl client
  | admitted =>
    simp only [stepQuery] at moved
    split at moved
    · cases moved
      exact .refl client
    · exact continues_of_beginCall (Option.some.inj moved)
  | asked ticket =>
    refine continues_of_await (fun outcome => ?_) moved
    cases outcome with
    | error failure => rfl
    | ok value => cases decoded : query.decode value <;> simp [decoded]

/-- A client that ends its session continues. -/
theorem continues_of_stepEnding {stage : EndingStage}
    (moved : client.stepEnding surroundings stage = some (next, after)) :
    client.Continues next := by
  cases stage with
  | begun =>
    simp only [stepEnding] at moved
    split at moved
    case h_1 | h_2 | h_3 | h_4 =>
      cases moved
      exact ⟨.refl client.session, rfl⟩
    case h_5 | h_6 =>
      split at moved
      · have begun := continues_of_beginCall (Option.some.inj moved)
        exact ⟨begun.session, begun.limits⟩
      · cases moved
        exact ⟨.refl client.session, rfl⟩
  | asked ticket => exact continues_of_await (fun _ => rfl) moved
  | leaving =>
    simp only [stepEnding] at moved
    split at moved
    · cases moved
      exact .refl client
    · next session wrote =>
      cases moved
      exact ⟨reaches_of_notify wrote, rfl⟩
  | detaching =>
    cases moved
    have happens : client.session.after? .detach = some client.session.detach := rfl
    exact ⟨.single happens, rfl⟩
  | draining =>
    cases moved
    have happens : client.session.after? .abandon = some client.session.abandonCalls := rfl
    exact ⟨.single happens, rfl⟩
  | releasing =>
    simp only [stepEnding] at moved
    split at moved <;> cases moved <;> exact ⟨.refl client.session, rfl⟩
  | settling =>
    cases moved
    exact ⟨.refl client.session, rfl⟩

/-- A client that goes on with its operation continues. -/
theorem continues_of_step (moved : client.step surroundings operation = some (next, after)) :
    client.Continues next := by
  cases operation with
  | greet stage => exact continues_of_stepGreeting moved
  | openDocument document languageId text stage => exact continues_of_stepOpening moved
  | ask query stage => exact continues_of_stepQuery moved
  | finish stage => exact continues_of_stepEnding moved
  | _ => cases moved

/-- Whatever happens to a client, it continues. -/
theorem continues_of_after? {event : ClientEvent}
    (happens : client.after? operation event = some (next, after)) : client.Continues next := by
  cases event with
  | begin fresh =>
    simp only [after?] at happens
    split at happens <;> cases happens
    exact .refl client
  | advance surroundings => exact continues_of_step happens
  | background event =>
    simp only [after?] at happens
    split at happens
    · obtain ⟨session, transition, same⟩ := Option.map_eq_some_iff.mp happens
      cases same
      exact ⟨.single transition, rfl⟩
    · cases happens

end Client

end FoldAtlas
