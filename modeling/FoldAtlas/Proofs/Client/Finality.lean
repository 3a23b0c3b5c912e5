import FoldAtlas.Proofs.Client.Workload

/-!
# The end of a session

Once one of several operations has begun to end the session, no other takes the
client back to an earlier state, with one exception: an announcement that was
under way by then. When it fails, it takes its claim back without looking at what
the state has become since. `end_final_or_taken_back` says that there is no other
way back, and `failed_announcement_reopens` that this one is open, at any stage of
the end and behind it.
-/

namespace FoldAtlas

namespace Lifecycle

/-- Whether the end has begun. -/
def isEnded : Lifecycle → Bool
  | .shuttingDown | .closed => true
  | .uninitialized | .initializing | .ready | .documentOpen => false

/-- What may follow a state in which the end has begun: it stays begun, and a
session that is over stays so. -/
structure StaysEnded (state later : Lifecycle) : Prop where
  ended : later.isEnded = true
  closed : state = .closed → later = .closed

/-- A state may follow itself. -/
theorem StaysEnded.refl {state : Lifecycle} (ended : state.isEnded = true) :
    StaysEnded state state :=
  ⟨ended, id⟩

/-- What may follow a state that may follow. -/
theorem StaysEnded.trans {state later last : Lifecycle} (front : StaysEnded state later)
    (back : StaysEnded later last) : StaysEnded state last :=
  ⟨back.ended, fun closed => back.closed (front.closed closed)⟩

end Lifecycle

/-- Once the end has begun, a stage leaves it at that and makes no new claim, unless
it takes a claim back. -/
theorem Client.Stage.staysEnded {client next : Client} {surroundings : Surroundings}
    {operation after : Operation} (stage : client.Stage surroundings operation next after)
    (ended : client.state.isEnded = true) :
    (client.state.StaysEnded next.state ∧ after.isAnnouncing = false) ∨
      operation.isAnnouncing = true ∧ next.state = .ready := by
  have stays := Lifecycle.StaysEnded.refl ended
  cases stage with
  | pass _ behind => exact .inl ⟨stays, Operation.isAnnouncing_of_isOpening behind⟩
  | proceed before => exact .inl ⟨stays, Operation.isAnnouncing_of_isOpening before⟩
  | greet state | greetInVain state | welcome _ state | claim state =>
    rw [state] at ended
    cases ended
  | takeBack => exact .inr ⟨rfl, rfl⟩
  | «end» state =>
    obtain ⟨early, late⟩ := state
    cases state : client.state <;> simp_all [Lifecycle.isEnded]
  | endAsking state =>
    rcases state with state | state <;> rw [state] at ended <;> cases ended
  | settle => exact .inl ⟨⟨rfl, fun _ => rfl⟩, rfl⟩
  | welcomeInVain | announce | publish | ask | leave | detach | drain | release =>
    exact .inl ⟨stays, rfl⟩

namespace Workload

variable {workload current next later : Workload} {events : List WorkloadEvent}

/-- What keeps a session ended: its state may follow that of an earlier workload, and
whoever is still announcing a document was so then. -/
structure HoldsEnd (workload current : Workload) : Prop where
  state : workload.client.state.StaysEnded current.client.state
  claims : ∀ (index : Nat) (operation : Operation), current.operations[index]? = some operation →
    operation.isAnnouncing = true →
    ∃ earlier, workload.operations[index]? = some earlier ∧ earlier.isAnnouncing = true

/-- One event keeps a session ended, or an announcement that was under way fails. -/
theorem HoldsEnd.change {event : WorkloadEvent} (holds : workload.HoldsEnd current)
    (change : current.Change event next) :
    workload.HoldsEnd next ∨
      ∃ surroundings index operation, event = .advance surroundings index ∧
        workload.operations[index]? = some operation ∧ operation.isAnnouncing = true ∧
        next.client.state = .ready := by
  cases change with
  | begin fresh =>
    refine .inl ⟨holds.state, fun index operation found announcing => ?_⟩
    rcases found_concat found with rfl | before
    · rw [Operation.isAnnouncing_of_isFresh fresh] at announcing
      cases announcing
    · exact holds.claims index operation before announcing
  | @advance surroundings index operation after client found stage =>
    rcases stage.staysEnded holds.state.ended with ⟨stays, idle⟩ | ⟨announcing, reopened⟩
    · refine .inl ⟨holds.state.trans stays, fun other operation present announcing => ?_⟩
      rcases found_set present with ⟨_, rfl⟩ | ⟨_, before⟩
      · rw [idle] at announcing
        cases announcing
      · exact holds.claims other operation before announcing
    · obtain ⟨earlier, presentThen, announcingThen⟩ := holds.claims index operation found announcing
      exact .inr ⟨surroundings, index, earlier, rfl, presentThen, announcingThen, reopened⟩
  | background => exact .inl ⟨holds.state, holds.claims⟩

/-- Whether, in an execution that begins behind the beginning of the end, an
announcement that was under way has failed and taken its claim back, and nothing
before has undone the end. -/
def TakenBack (workload : Workload) (events : List WorkloadEvent) : Prop :=
  ∃ front surroundings index back current next operation,
    events = front ++ .advance surroundings index :: back ∧ Steps workload front current ∧
    workload.client.state.StaysEnded current.client.state ∧
    workload.operations[index]? = some operation ∧ operation.isAnnouncing = true ∧
    current.after? (.advance surroundings index) = some next ∧ next.client.state = .ready

/-- However the operations of a client go on once the end has begun, whatever else
begins and whichever writes fail: the end stays begun and a session that is over
stays so, unless the failure of an announcement that was under way by then undoes
the end. -/
theorem end_final_or_taken_back (run : Steps workload events later)
    (ended : workload.client.state.isEnded = true) :
    workload.client.state.StaysEnded later.client.state ∨ workload.TakenBack events := by
  suffices workload.HoldsEnd later ∨ workload.TakenBack events from this.imp_left HoldsEnd.state
  induction run with
  | refl =>
    exact .inl ⟨.refl ended, fun _ operation found announcing => ⟨operation, found, announcing⟩⟩
  | @step events current next event prior transition ih =>
    rcases ih with holds |
      ⟨front, surroundings, index, back, middle, reopened, operation, rfl, rest⟩
    · rcases holds.change (.of_after? transition) with kept |
        ⟨surroundings, index, operation, rfl, found, announcing, reopened⟩
      · exact .inl kept
      · exact .inr ⟨events, surroundings, index, [], current, next, operation, rfl, prior,
          holds.state, found, announcing, transition, reopened⟩
    · exact .inr ⟨front, surroundings, index, back ++ [event], middle, reopened, operation,
        by simp, rest⟩

/-- The announcement of a document is under way when the end begins. -/
def overtaken : List WorkloadEvent :=
  greeted ++ [.begin (.openUri "file:///a.py" "python" "pass"), .advance ⟨2, none⟩ 1,
    .begin (.finish .begun), .advance ⟨2, none⟩ 2]

/-- The announcement succeeds after all, a second end and a second announcement are
turned away, and the end goes on to its last stage. -/
def undisturbedEnd : List WorkloadEvent :=
  [.advance ⟨3, none⟩ 1, .begin (.finish .begun), .advance ⟨3, none⟩ 3,
    .begin (.openUri "file:///b.py" "python" ""), .advance ⟨3, none⟩ 4] ++
    List.replicate 5 (.advance ⟨4, none⟩ 2)

/-- An end that is not undone. -/
theorem end_final_of_undisturbedEnd :
    ∃ workload later, Steps (.start ⟨none, 2, false⟩ "file:///" 7 .none) overtaken workload ∧
      Steps workload undisturbedEnd later ∧ workload.client.state = .shuttingDown ∧
      workload.client.state.isEnded = true ∧ later.client.state = .closed ∧
      (workload.client.state.StaysEnded later.client.state ∨
        workload.TakenBack undisturbedEnd) := by
  obtain ⟨workload, ran⟩ :
      ∃ workload, run? (.start ⟨none, 2, false⟩ "file:///" 7 .none) overtaken = some workload :=
    ⟨_, rfl⟩
  have state : workload.client.state = .shuttingDown := by rw [← Option.some.inj ran]
  obtain ⟨later, ranOn⟩ : ∃ later, run? workload undisturbedEnd = some later := by
    rw [← Option.some.inj ran]
    exact ⟨_, rfl⟩
  have closed : later.client.state = .closed := by
    rw [← Option.some.inj ran] at ranOn
    rw [← Option.some.inj ranOn]
  have ended : workload.client.state.isEnded = true := by
    rw [state]
    rfl
  exact ⟨workload, later, .of_run? ran, .of_run? ranOn, state, ended, closed,
    end_final_or_taken_back (.of_run? ranOn) ended⟩

/-- The stream breaks while the announcement is written. -/
def brokenAnnouncement : List WorkloadEvent := [.advance ⟨3, some .brokenPipe⟩ 1]

/-- Two more documents claim the client that is ready again: one while the word that
tells the server to end is on its way, the other before the outgoing stream is closed. -/
def endBehindClaims : List WorkloadEvent :=
  [.begin (.openUri "file:///b.py" "python" ""), .advance ⟨4, none⟩ 3,
    .advance ⟨4, some .brokenPipe⟩ 2, .advance ⟨4, some .brokenPipe⟩ 3,
    .begin (.openUri "file:///c.py" "python" ""), .advance ⟨5, none⟩ 4] ++
    List.replicate 4 (.advance ⟨5, none⟩ 2)

/-- The end is undone: an announcement that fails while the session ends makes the
client ready again, and one that fails when the session is over does so, too. -/
theorem failed_announcement_reopens :
    ∃ ending reopened closed last,
      Steps (.start ⟨none, 2, false⟩ "file:///" 7 .none) overtaken ending ∧
      ending.client.state = .shuttingDown ∧
      Steps ending brokenAnnouncement reopened ∧ reopened.client.state = .ready ∧
      Steps reopened endBehindClaims closed ∧ closed.client.state = .closed ∧
      Steps closed [.advance ⟨6, none⟩ 4] last ∧ last.client.state = .ready := by
  obtain ⟨ending, ran⟩ :
      ∃ ending, run? (.start ⟨none, 2, false⟩ "file:///" 7 .none) overtaken = some ending :=
    ⟨_, rfl⟩
  obtain ⟨reopened, broke⟩ : ∃ reopened, run? ending brokenAnnouncement = some reopened := by
    cases ran
    exact ⟨_, rfl⟩
  obtain ⟨closed, ended⟩ : ∃ closed, run? reopened endBehindClaims = some closed := by
    cases ran
    cases broke
    exact ⟨_, rfl⟩
  obtain ⟨last, failed⟩ : ∃ last, run? closed [.advance ⟨6, none⟩ 4] = some last := by
    cases ran
    cases broke
    cases ended
    exact ⟨_, rfl⟩
  refine ⟨ending, reopened, closed, last, .of_run? ran, ?_, .of_run? broke, ?_, .of_run? ended,
    ?_, .of_run? failed, ?_⟩
  all_goals
    cases ran
    cases broke
    cases ended
    cases failed
    rfl

end Workload

end FoldAtlas
