import FoldAtlas.Proofs.Client.Asking
import FoldAtlas.Proofs.Client.Coherence

/-!
# The places of operations

Every operation but the end wants its client in one state (`Operation.Demands`). Whatever a
client has lived through, an operation is refused exactly if it begins in another state, and
one that is refused does nothing at all: what becomes of the client meanwhile is what happens
in the background (`refused_out_of_place`).

The state alone would not do: a query also wants the document of its client, and the last
stage of the greeting looks at the state once more. That neither of them refuses an operation
that began in its place is what the invariant of `Coherent` is for.
-/

namespace FoldAtlas

namespace Session

/-- What nothing in the background changes while no call is under way. -/
structure Unstirred (session next : Session) : Prop where
  nextId : next.nextId = session.nextId
  pending : next.pending = session.pending
  transcript : next.transcript = session.transcript

/-- While no call is under way, the background leaves identifiers, expected responses and the
transcript alone. -/
theorem OnlyAwaits.unstirred {session next : Session} {events : List SessionEvent}
    (only : session.OnlyAwaits none) (run : Steps session events next)
    (background : ∀ event ∈ events, event.isBackground = true) :
    next.OnlyAwaits none ∧ session.Unstirred next := by
  induction run with
  | refl => exact ⟨only, rfl, rfl, rfl⟩
  | @step events current next event _ transition ih =>
    obtain ⟨before, same⟩ := ih fun other among => background other (List.mem_append_left _ among)
    have silent := background event (by simp)
    have behind : next.OnlyAwaits none := before.after? transition (by
      rintro method params limit rfl
      cases silent)
    have length := ((Effect.of_after? transition).frame silent).2.1
    refine ⟨behind, ?_, ?_, (transcript_of_background silent transition).trans same.transcript⟩
    · rw [behind.consistent.nextId, length, ← before.consistent.nextId, same.nextId]
    · rw [behind.pending_eq, only.pending_eq]

end Session

namespace Client

variable {client later : Client} {operation after : Operation} {name : String}
  {wanted : Lifecycle} {events : List ClientEvent}

/-- An operation out of its place is refused in one stage, and nothing happens to the client. -/
theorem step_of_misplaced (demands : operation.Demands name wanted)
    (misplaced : client.state ≠ wanted) (surroundings : Surroundings) :
    client.step surroundings operation =
      some (client, .over (.failed (.invalidState name client.state))) := by
  cases demands with
  | greet => rw [step, stepGreeting, if_neg misplaced, refuse]
  | openDocument => rw [step, stepOpening, if_neg misplaced, refuse]
  | ask => rw [step, stepQuery, if_neg misplaced, refuse]

/-- Only an operation that has just begun wants a state. -/
theorem isFresh_of_demands (demands : operation.Demands name wanted) :
    operation.isFresh = true := by
  cases demands <;> rfl

/-- An operation wants one state only. -/
theorem eq_of_demands {other : String} {state : Lifecycle}
    (demands : operation.Demands name wanted) (demandsToo : operation.Demands other state) :
    state = wanted := by
  cases demands <;> cases demandsToo <;> rfl

/-- What has become of an operation that wants a state: it waits for its turn or has been
refused, and nothing has happened to the client but what has happened in the background, or it
was in its place and is not refused. -/
inductive Admission (client : Client) (operation : Operation) (name : String)
    (wanted : Lifecycle) (background : List SessionEvent) : Client → Operation → Prop where
  | waits {session : Session} (run : client.session.Steps background session) :
      Admission client operation name wanted background { client with session } operation
  | refused {session : Session} (misplaced : client.state ≠ wanted)
      (run : client.session.Steps background session) :
      Admission client operation name wanted background { client with session }
        (.over (.failed (.invalidState name client.state)))
  | admitted {later : Client} {after : Operation} (placed : client.state = wanted)
      (past : after.isFresh = false)
      (candid : after.isRefused = false) :
      Admission client operation name wanted background later after

/-- A stage of an operation that wants a state. -/
theorem Admission.advance {current next : Client} {current' : Operation}
    {background : List SessionEvent} {surroundings : Surroundings}
    (admission : Admission client operation name wanted background current current')
    (coherent : current.Coherent current') (demands : operation.Demands name wanted)
    (moved : current.step surroundings current' = some (next, after)) :
    Admission client operation name wanted background next after := by
  have advances := coherent.step moved
  cases admission with
  | @waits session run =>
    by_cases placed : client.state = wanted
    · refine .admitted placed advances.past (advances.candid fun other state demandsToo => ?_)
      rw [eq_of_demands demands demandsToo]
      exact placed
    · have astray : ({ client with session } : Client).state ≠ wanted := placed
      cases (step_of_misplaced demands astray surroundings).symm.trans moved
      exact .refused placed run
  | refused => cases moved
  | admitted placed past candid =>
    refine .admitted placed advances.past (advances.candid fun other state demandsToo => ?_)
    rw [isFresh_of_demands demandsToo] at past
    cases past

/-- Something happens in the background of an operation that wants a state. -/
theorem Admission.background {current : Client} {current' : Operation}
    {background : List SessionEvent} {event : SessionEvent} {session : Session}
    (admission : Admission client operation name wanted background current current')
    (happens : current.session.after? event = some session) :
    Admission client operation name wanted (background ++ [event]) { current with session }
      current' := by
  cases admission with
  | waits run => exact .waits (run.step happens)
  | refused misplaced run => exact .refused misplaced (run.step happens)
  | admitted placed past candid => exact .admitted placed past candid

/-- What becomes of an operation that wants a state, however long it takes. -/
theorem Steps.admission {last : Client × Operation} (coherent : client.Coherent operation)
    (demands : operation.Demands name wanted)
    (unbegun : ∀ event ∈ events, event.isBegin = false)
    (run : Steps (client, operation) events last) :
    Admission client operation name wanted (events.filterMap ClientEvent.background?) last.1
      last.2 := by
  refine run.keeps (fun events => Admission client operation name wanted
    (events.filterMap ClientEvent.background?)) unbegun (.waits .refl) ?_ ?_
  · intro events current goal surroundings next after prior admission moved
    simpa [List.filterMap_cons, ClientEvent.background?] using
      admission.advance (coherent.of_steps prior) demands moved
  · intro events current goal event session _ admission _ happens
    simpa [ClientEvent.background?] using admission.background happens

/-- What happens in the background of an execution does so in the background. -/
theorem Steps.isBackground {first last : Client × Operation} (run : Steps first events last) :
    ∀ event ∈ events.filterMap ClientEvent.background?, event.isBackground = true := by
  induction run with
  | refl => simp
  | @step events current operation event next prior transition ih =>
    intro silent among
    rw [List.filterMap_append, List.mem_append] at among
    rcases among with before | now
    · exact ih silent before
    · cases event with
      | begin | advance => cases now
      | background event =>
        obtain rfl := List.mem_singleton.mp now
        simp only [after?] at transition
        split at transition
        · assumption
        · cases transition

/-! ## Operations out of their places -/

/-- What is known of an operation that wants a state, when some events have passed since it
began. -/
structure KeepsToPlaces (client : Client) (operation : Operation) (name : String)
    (wanted : Lifecycle) (events : List ClientEvent) (later : Client) (after : Operation) : Prop
    where
  /-- It ends with a refusal exactly if it began in another state. -/
  refused_iff : ∀ ending, after = .over ending →
    ((∃ reported state, ending = .failed (.invalidState reported state)) ↔ client.state ≠ wanted)
  /-- A refusal names the operation and the state in which it began. -/
  refusal : client.state ≠ wanted →
    after = operation ∨ after = .over (.failed (.invalidState name client.state))
  /-- It takes one stage, which can come at any time and whatever hinders writing. -/
  atOnce : client.state ≠ wanted → after = operation → ∀ surroundings,
    later.step surroundings operation =
      some (later, .over (.failed (.invalidState name client.state)))
  /-- Whatever has happened to the client happened in the background, and none of it has to do
  with calls: no identifier was allocated, no response is expected or no longer expected, and no
  request or notification was written. -/
  untouched : client.state ≠ wanted → ∃ session,
    client.session.Steps (events.filterMap ClientEvent.background?) session ∧
      later = { client with session } ∧ client.session.Unstirred session

/-- However a client has come to where it is, an operation is refused exactly if it begins out
of its place, and one that is refused leaves no trace. -/
theorem refused_out_of_place {limits : Limits} {rootUri : String} {processId : Nat}
    {process : ServerProcess} {episodes : List Episode}
    (history : History (start limits rootUri processId process) episodes client)
    (demands : operation.Demands name wanted)
    (unbegun : ∀ event ∈ events, event.isBegin = false)
    (run : Steps (client, operation) events (later, after)) :
    client.KeepsToPlaces operation name wanted events later after := by
  obtain ⟨_, idle⟩ := history.coherent
  have admission := run.admission (idle.begin (isFresh_of_demands demands)) demands unbegun
  cases admission with
  | @waits session onward =>
    refine ⟨?_, fun _ => .inl rfl, fun misplaced _ => step_of_misplaced demands misplaced,
      fun _ => ⟨session, onward, rfl, (idle.only.unstirred onward run.isBackground).2⟩⟩
    rintro ending rfl
    cases demands
  | @refused session misplaced onward =>
    refine ⟨?_, fun _ => .inr rfl, ?_,
      fun _ => ⟨session, onward, rfl, (idle.only.unstirred onward run.isBackground).2⟩⟩
    · rintro ending same
      cases same
      exact ⟨fun _ => misplaced, fun _ => ⟨_, _, rfl⟩⟩
    · rintro _ rfl
      cases demands
  | admitted placed _ candid =>
    refine ⟨?_, fun misplaced => absurd placed misplaced, fun misplaced => absurd placed misplaced,
      fun misplaced => absurd placed misplaced⟩
    rintro ending rfl
    refine ⟨?_, fun misplaced => absurd placed misplaced⟩
    rintro ⟨reported, state, rfl⟩
    cases candid

/-- A server that answers the greeting with an error. -/
def unwelcome : List ClientEvent :=
  List.replicate 3 (.advance ⟨0, none⟩) ++
    .background (.dispatch 1 (.response (.failed (.number 1) ⟨-32603, "busy", none⟩))) ::
      List.replicate 2 (.advance ⟨1, none⟩)

/-- A document is announced all the same, while another response comes in. -/
def misplacedOpening : List ClientEvent :=
  [.background (.dispatch 2 (.response (.ok (.number 1) .null))), .advance ⟨2, none⟩]

/-- An announcement is refused when the greeting has failed. -/
theorem refusal_of_misplacedOpening :
    ∃ client later,
      History (start ⟨none, 2, true⟩ "file:///" 7 .none)
        [.errand (.greet .begun) unwelcome (.failed (.rpc (-32603) "busy"))] client ∧
      client.state = .initializing ∧
      (Operation.openUri "file:///a.py" "python" "").Demands openingMethod .ready ∧
      (∀ event ∈ misplacedOpening, event.isBegin = false) ∧
      Steps (client, .openUri "file:///a.py" "python" "") misplacedOpening
        (later, .over (.failed (.invalidState openingMethod .initializing))) ∧
      client.KeepsToPlaces (.openUri "file:///a.py" "python" "") openingMethod .ready
        misplacedOpening later (.over (.failed (.invalidState openingMethod .initializing))) := by
  obtain ⟨client, later, history, state, run⟩ : ∃ client later,
      History (start ⟨none, 2, true⟩ "file:///" 7 .none)
        [.errand (.greet .begun) unwelcome (.failed (.rpc (-32603) "busy"))] client ∧
      client.state = .initializing ∧
      Steps (client, .openUri "file:///a.py" "python" "") misplacedOpening
        (later, .over (.failed (.invalidState openingMethod .initializing))) :=
    ⟨_, _, .single (.errand rfl (by decide) (.of_run? rfl)), rfl, .of_run? rfl⟩
  have unbegun : ∀ event ∈ misplacedOpening, event.isBegin = false := by decide
  exact ⟨client, later, history, state, .openDocument, unbegun, run,
    refused_out_of_place history .openDocument unbegun run⟩

end Client

end FoldAtlas
