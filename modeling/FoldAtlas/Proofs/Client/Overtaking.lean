import FoldAtlas.Proofs.Client.Finality
import FoldAtlas.Proofs.Client.Prospects
import FoldAtlas.Proofs.Client.Publication

/-!
# Questions that the end overtakes

The end may begin while a question has been admitted and not been written yet, and then the
question is written behind the words that end the session (`question_behind_end`).

Only such questions are. `late_questions_were_admitted` counts them: behind the first of
those words no more questions are written than had been admitted when the end began. Before
the end, the questions that are written or may be (`Workload.prospects`) grow with every one
that is admitted (`Workload.Unended`); behind its beginning they grow no more
(`Workload.Belated`).
-/

namespace FoldAtlas

/-- Whether a method is that of a word that ends the session. -/
def Client.isLastWord (method : String) : Bool :=
  method == Client.endingMethod || method == Client.leavingMethod

/-- Whether an operation has begun to end the session. -/
def Operation.isEnding : Operation → Bool
  | .finish .begun => false
  | .finish _ => true
  | _ => false

namespace Client

variable {client next : Client} {surroundings : Surroundings} {operation after : Operation}

/-- A call that begins does not change the state. -/
theorem state_of_beginCall {method : String} {params : Option Json} {proceed : Nat → Operation}
    (moved : client.beginCall method params proceed = (next, after)) :
    next.state = client.state := by
  rcases beginCall_cases client method params proceed with broke | ⟨limit, begun⟩
  · rw [broke] at moved
    cases moved
    rfl
  · rw [begun] at moved
    cases moved
    rfl

/-- An end that begins changes the state, unless another end has begun before. -/
theorem state_of_ending (moved : client.step surroundings (.finish .begun) = some (next, after))
    (present : client.state.isEnded = false) : next.state = .shuttingDown := by
  simp only [step, stepEnding] at moved
  split at moved
  · next state =>
    rw [state] at present
    cases present
  · next state =>
    rw [state] at present
    cases present
  · cases moved
    rfl
  · cases moved
    rfl
  all_goals
    split at moved
    · exact state_of_beginCall (Option.some.inj moved)
    · cases moved
      rfl

end Client

namespace Session

variable {session next : Session} {event : SessionEvent} {property : String → Bool}

/-- Whether a session has written nothing with a method of some kind, and is to write nothing
with one. -/
structure Avoids (property : String → Bool) (session : Session) : Prop where
  consistent : session.Consistent
  calls : ∀ call ∈ session.calls, property call.method = false
  transcript : ∀ method ∈ session.transcript, property method = false

/-- An event that neither begins a call of the kind nor writes a notification of it keeps a
session from it. -/
theorem Avoids.after? (avoids : session.Avoids property)
    (happens : session.after? event = some next)
    (begins : ∀ method params limit, event = .begin method params limit → property method = false)
    (notifies : ∀ fault method params, event = .notify fault method params →
      property method = false) : next.Avoids property := by
  have effect := Effect.of_after? happens
  refine ⟨avoids.consistent.of_effect effect, fun later member => ?_, fun method member => ?_⟩
  · obtain ⟨ticket, found⟩ := List.mem_iff_getElem?.mp member
    rcases effect.voice avoids.consistent found with ⟨call, present, same, _⟩ | ⟨limit, begun⟩
    · rw [same]
      exact avoids.calls call present
    · exact begins _ _ _ begun
  · rcases transcript_cases happens with same | ⟨_, call, _, found, _, written, _⟩ |
      ⟨fault, told, params, isNotice, written⟩
    · exact avoids.transcript method (same ▸ member)
    · rw [written] at member
      rcases List.mem_append.mp member with earlier | now
      · exact avoids.transcript method earlier
      · rw [List.mem_singleton.mp now]
        exact avoids.calls call (List.mem_of_getElem? found)
    · rw [written] at member
      rcases List.mem_append.mp member with earlier | now
      · exact avoids.transcript method earlier
      · rw [List.mem_singleton.mp now]
        exact notifies fault told params isNotice

end Session

/-! ## Before the end -/

namespace Workload

variable {workload current next later : Workload} {event : WorkloadEvent}
  {events : List WorkloadEvent}

/-- Whether nobody has begun to end the session. -/
structure Unended (workload : Workload) : Prop where
  session : workload.client.session.Avoids Client.isLastWord
  state : workload.client.state.isEnded = false
  operations : ∀ operation ∈ workload.operations, operation.isEnding = false

/-- Nobody has begun to end the session of a client at its start. -/
theorem Unended.start (limits : Limits) (rootUri : String) (processId : Nat)
    (process : ServerProcess) : (Workload.start limits rootUri processId process).Unended where
  session := ⟨.start _, (fun call member => by cases member), fun method member => by cases member⟩
  state := rfl
  operations operation member := by cases member

/-- Before the end, a stage of another operation leaves it at that. -/
theorem Unended.advance (unended : workload.Unended) {surroundings : Surroundings} {index : Nat}
    {operation after : Operation} {client : Client}
    (found : workload.operations[index]? = some operation)
    (moved : workload.client.step surroundings operation = some (client, after))
    (other : operation ≠ .finish .begun) :
    Unended ⟨client, workload.operations.set index after⟩ := by
  have idle := unended.operations operation (List.mem_of_getElem? found)
  have stage := Client.Stage.of_step moved
  refine ⟨?_, ?_, fun operation present => ?_⟩
  · rcases stage.utters with same | ⟨event, happens, utters⟩
    · exact same ▸ unended.session
    · refine unended.session.after? happens ?_ ?_
      · rintro method params limit rfl
        cases utters with
        | greet => decide
        | @ask query => cases query <;> decide
        | endAsking => exact absurd rfl other
      · rintro fault method params rfl
        cases utters with
        | welcome | announce => decide
        | leave => cases idle
  · have state := unended.state
    cases stage with
    | «end» | endAsking => exact absurd rfl other
    | settle => cases idle
    | greet | greetInVain | welcome | claim | takeBack => rfl
    | _ => exact state
  · rcases List.mem_or_eq_of_mem_set present with earlier | rfl
    · exact unended.operations operation earlier
    · cases Client.becomes_of_step moved with
      | @finish earlier =>
        cases earlier with
        | begun => exact absurd rfl other
        | _ => cases idle
      | _ => rfl

/-- Before the end, an event leaves it at that or begins the end. -/
theorem Unended.after? (unended : workload.Unended) (happens : workload.after? event = some next) :
    next.Unended ∨ ∃ surroundings index, event = .advance surroundings index ∧
      workload.operations[index]? = some (.finish .begun) ∧
      next.client.state = .shuttingDown := by
  cases event with
  | begin operation =>
    cases Change.of_after? happens with
    | begin fresh =>
      refine .inl ⟨unended.session, unended.state, fun present member => ?_⟩
      rcases List.mem_append.mp member with earlier | now
      · exact unended.operations present earlier
      · rw [List.mem_singleton.mp now]
        cases operation with
        | finish stage => cases stage <;> first | rfl | cases fresh
        | _ => rfl
  | advance surroundings index =>
    obtain ⟨operation, client, after, found, moved, rfl⟩ := exists_of_advance happens
    by_cases begins : operation = .finish .begun
    · subst begins
      exact .inr ⟨surroundings, index, rfl, found, Client.state_of_ending moved unended.state⟩
    · exact .inl (unended.advance found moved begins)
  | background event =>
    cases Change.of_after? happens with
    | background background transition =>
      refine .inl ⟨unended.session.after? transition ?_ ?_, unended.state, unended.operations⟩
      · rintro method params limit rfl
        cases background
      · rintro fault method params rfl
        cases background

/-! ## Behind the beginning of the end -/

/-- How many questions have been admitted and not been written yet. -/
def unasked (workload : Workload) : Nat :=
  workload.operations.countP Operation.isAdmitted + workload.client.session.unasked

/-- How many questions have been written or may be without another look at the state. -/
def prospects (workload : Workload) : Nat :=
  workload.operations.countP Operation.isAdmitted + workload.client.session.prospects

/-- What a client has said stays said. -/
theorem Change.transcript_grows (change : workload.Change event next) :
    ∃ more, next.client.session.transcript = workload.client.session.transcript ++ more := by
  have grows {session next : Session} {event : SessionEvent}
      (happens : session.after? event = some next) :
      ∃ more, next.transcript = session.transcript ++ more := by
    obtain ⟨more, sent⟩ := (Session.Effect.of_after? happens).sent_grows
    exact ⟨more.filterMap Message.method?, by rw [Session.transcript, sent, List.filterMap_append]; rfl⟩
  cases change with
  | begin => exact ⟨[], (List.append_nil _).symm⟩
  | advance found stage =>
    rcases stage.utters with same | ⟨event, happens, _⟩
    · exact ⟨[], by rw [same, List.append_nil]⟩
    · exact grows happens
  | background _ happens => exact grows happens

/-- Nobody is announcing a document that has been announced. -/
theorem ClaimsOnce.idle (claimsOnce : workload.ClaimsOnce)
    (announced : Client.openingMethod ∈ workload.client.session.transcript) {operation : Operation}
    (present : operation ∈ workload.operations) : operation.isAnnouncing = false := by
  have told := List.count_pos_iff.mpr announced
  have once := claimsOnce.once
  rw [claims] at once
  have unclaimed : workload.operations.countP Operation.isAnnouncing = 0 := by omega
  simpa using List.countP_eq_zero.mp unclaimed operation present

/-- A stage that admits no question adds none to what has been asked and may still be. -/
theorem prospects_advance (consistent : workload.client.session.Consistent)
    {surroundings : Surroundings} {index : Nat} {operation after : Operation} {client : Client}
    (found : workload.operations[index]? = some operation)
    (stage : workload.client.Stage surroundings operation client after)
    (unadmitted : after.isAdmitted = false) :
    prospects ⟨client, workload.operations.set index after⟩ ≤ workload.prospects := by
  obtain ⟨bound, rfl⟩ := List.getElem?_eq_some_iff.mp found
  have counted := List.countP_set (p := Operation.isAdmitted) (a := after) bound
  have present := List.boole_getElem_le_countP (p := Operation.isAdmitted) bound
  have fewer := stage.prospects_le consistent
  rw [unadmitted, if_neg Bool.false_ne_true] at counted
  simp only [prospects, counted]
  omega

/-- What the beginning of the end leaves of the questions about an announced document: whoever
is asking now was admitted by then, and no more is asked than could be. -/
structure Belated (current later : Workload) : Prop where
  announced : Client.openingMethod ∈ later.client.session.transcript
  ended : later.client.state.isEnded = true
  asking : ∀ (index : Nat) (query : Query) (stage : QueryStage),
    later.operations[index]? = some (.ask query stage) → stage ≠ .begun →
    ∃ earlier, current.operations[index]? = some (.ask query earlier) ∧ earlier ≠ .begun
  prospects : later.prospects ≤ current.prospects

/-- The end begins behind the announcement of the document. -/
theorem Belated.begins (consistent : current.client.session.Consistent)
    (announced : Client.openingMethod ∈ current.client.session.transcript)
    {surroundings : Surroundings} {index : Nat}
    (found : current.operations[index]? = some (.finish .begun))
    (happens : current.after? (.advance surroundings index) = some next)
    (state : next.client.state = .shuttingDown) : current.Belated next := by
  obtain ⟨more, grown⟩ := (Change.of_after? happens).transcript_grows
  obtain ⟨operation, client, after, foundToo, moved, rfl⟩ := exists_of_advance happens
  obtain rfl := Option.some.inj (found.symm.trans foundToo)
  have becomes := Client.becomes_of_step moved
  refine ⟨?_, ?_, fun other query stage present past => ?_, ?_⟩
  · rw [grown]
    exact List.mem_append_left _ announced
  · rw [state]
    rfl
  · rcases found_set present with ⟨_, rfl⟩ | ⟨_, before⟩
    · cases becomes
    · exact ⟨stage, before, past⟩
  · refine prospects_advance consistent found (.of_step moved) ?_
    cases becomes <;> rfl

/-- What was announced stays announced. -/
theorem Belated.still_announced (belated : current.Belated later)
    (happens : later.after? event = some next) :
    Client.openingMethod ∈ next.client.session.transcript := by
  obtain ⟨more, grown⟩ := (Change.of_after? happens).transcript_grows
  rw [grown]
  exact List.mem_append_left _ belated.announced

/-- Behind the beginning of the end, an operation that begins has not been admitted. -/
theorem Belated.begin {operation : Operation} (belated : current.Belated later)
    (happens : later.after? (.begin operation) = some next) : current.Belated next := by
  have announced := belated.still_announced happens
  cases Change.of_after? happens with
  | begin fresh =>
    refine ⟨announced, belated.ended, fun index query stage present past => ?_, ?_⟩
    · rcases found_concat present with rfl | before
      · cases stage <;> first | exact absurd rfl past | cases fresh
      · exact belated.asking index query stage before past
    · have idle : operation.isAdmitted = false := by
        cases operation with
        | ask query stage => cases stage <;> first | rfl | cases fresh
        | _ => rfl
      refine Nat.le_trans (Nat.le_of_eq ?_) belated.prospects
      simp [Workload.prospects, idle]

/-- Behind the beginning of the end, no step admits a question. -/
theorem Belated.advance {surroundings : Surroundings} {index : Nat}
    (belated : current.Belated later) (consistent : later.client.session.Consistent)
    (claimsOnce : later.ClaimsOnce)
    (happens : later.after? (.advance surroundings index) = some next) :
    current.Belated next := by
  have announced := belated.still_announced happens
  obtain ⟨operation, client, after, found, moved, rfl⟩ := exists_of_advance happens
  have stage := Client.Stage.of_step moved
  have becomes := Client.becomes_of_step moved
  have closed : later.client.state ≠ .documentOpen := by
    intro isOpen
    have ended := belated.ended
    rw [isOpen] at ended
    cases ended
  refine ⟨announced, ?_, fun other query stage present past => ?_, ?_⟩
  · rcases stage.staysEnded belated.ended with ⟨stays, _⟩ | ⟨announcing, _⟩
    · exact stays.ended
    · rw [claimsOnce.idle belated.announced (List.mem_of_getElem? found)] at announcing
      cases announcing
  · rcases found_set present with ⟨rfl, rfl⟩ | ⟨_, before⟩
    · cases becomes with
      | enter state => exact absurd state closed
      | ask => exact belated.asking other query _ found (by simp)
      | wait => exact belated.asking other query _ found past
    · exact belated.asking other query stage before past
  · refine Nat.le_trans (prospects_advance consistent found stage ?_) belated.prospects
    cases becomes with
    | enter state => exact absurd state closed
    | _ => rfl

/-- Behind the beginning of the end, the background asks nothing. -/
theorem Belated.background {event : SessionEvent} (belated : current.Belated later)
    (consistent : later.client.session.Consistent)
    (happens : later.after? (.background event) = some next) : current.Belated next := by
  have announced := belated.still_announced happens
  cases Change.of_after? happens with
  | background background transition =>
    refine ⟨announced, belated.ended, belated.asking, ?_⟩
    refine Nat.le_trans (Nat.add_le_add_left ?_ _) belated.prospects
    refine Session.prospects_le consistent transition ?_ ?_
    · rintro method params limit rfl
      cases background
    · rintro fault method params rfl
      cases background

/-- Behind the beginning of the end, every event leaves it at that. -/
theorem Belated.after? (belated : current.Belated later) (publishes : later.Publishes)
    (claimsOnce : later.ClaimsOnce) (happens : later.after? event = some next) :
    current.Belated next := by
  have consistent := publishes.session.consistent
  cases event with
  | begin operation => exact belated.begin happens
  | advance surroundings index => exact belated.advance consistent claimsOnce happens
  | background event => exact belated.background consistent happens

/-- Whether, in an execution from one workload to another, the end of the session begins at a
workload between them. -/
def EndBegins (first later : Workload) (events : List WorkloadEvent) (current : Workload) : Prop :=
  ∃ before surroundings index after ended,
    events = before ++ .advance surroundings index :: after ∧ Steps first before current ∧
    current.operations[index]? = some (.finish .begun) ∧
    current.after? (.advance surroundings index) = some ended ∧
    ended.client.state = .shuttingDown ∧ Steps ended after later

/-- One more event changes nothing about where the end begins. -/
theorem EndBegins.step {first : Workload} (begins : first.EndBegins later events current)
    (transition : later.after? event = some next) :
    first.EndBegins next (events ++ [event]) current := by
  obtain ⟨before, surroundings, index, after, ended, rfl, prior, found, happens, state, since⟩ :=
    begins
  refine ⟨before, surroundings, index, after ++ [event], ended, ?_, prior, found, happens, state,
    .step since transition⟩
  rw [List.append_assoc, List.cons_append]

/-- Nobody has begun to end the session of a client yet, or somebody has, and what is written
since then comes from questions that were admitted before. -/
theorem unended_or_belated {limits : Limits} {rootUri : String} {processId : Nat}
    {process : ServerProcess}
    (run : Steps (.start limits rootUri processId process) events later) :
    later.Unended ∨ ∃ current,
      (Workload.start limits rootUri processId process).EndBegins later events current ∧
      current.Unended ∧
      (∃ more, later.client.session.transcript = current.client.session.transcript ++ more) ∧
      (Client.openingMethod ∈ current.client.session.transcript → current.Belated later) := by
  induction run with
  | refl => exact .inl (.start limits rootUri processId process)
  | @step events current next event prior transition ih =>
    obtain ⟨publishes, claimsOnce⟩ := publishes_of_steps prior
    obtain ⟨more, grown⟩ := (Change.of_after? transition).transcript_grows
    rcases ih with unended | ⟨earlier, begins, unended, ⟨already, grownBefore⟩, belated⟩
    · rcases unended.after? transition with still | ⟨surroundings, index, rfl, found, state⟩
      · exact .inl still
      · refine .inr ⟨current, ?_, unended, ⟨more, grown⟩, fun announced => ?_⟩
        · exact ⟨events, surroundings, index, [], next, rfl, prior, found, transition, state, .refl⟩
        · exact .begins unended.session.consistent announced found transition state
    · refine .inr ⟨earlier, begins.step transition, unended, ⟨already ++ more, ?_⟩,
        fun announced => ?_⟩
      · rw [grown, grownBefore, List.append_assoc]
      · exact (belated announced).after? publishes claimsOnce transition

/-- However the operations of a client are interleaved: if it has written a word that ends the
session, somebody has begun to end it before any such word was written. If the document was
announced by then, whoever asks about it later was admitted before that, and behind the word
no more questions are written than had been admitted and not yet been written. -/
theorem late_questions_were_admitted {limits : Limits} {rootUri : String} {processId : Nat}
    {process : ServerProcess} (run : Steps (.start limits rootUri processId process) events later)
    {front back : List String} {word : String}
    (written : later.client.session.transcript = front ++ word :: back)
    (last : Client.isLastWord word = true) :
    ∃ current,
      (Workload.start limits rootUri processId process).EndBegins later events current ∧
      (∀ method ∈ current.client.session.transcript, Client.isLastWord method = false) ∧
      (Client.openingMethod ∈ current.client.session.transcript →
        (∀ (index : Nat) (query : Query) (stage : QueryStage),
          later.operations[index]? = some (.ask query stage) → stage ≠ .begun →
          ∃ earlier, current.operations[index]? = some (.ask query earlier) ∧
            earlier ≠ .begun) ∧
        back.countP Query.isMethod ≤ current.unasked) := by
  rcases unended_or_belated run with unended | ⟨current, begins, unended, ⟨more, grown⟩, belated⟩
  · have silent := unended.session.transcript word (by simp [written])
    rw [last] at silent
    cases silent
  · refine ⟨current, begins, unended.session.transcript, fun announced => ?_⟩
    have late := belated announced
    refine ⟨late.asking, ?_⟩
    -- the word was written behind the beginning of the end, and so was all that follows it
    rcases split_of_append (grown.symm.trans written) with ⟨rest, before⟩ | ⟨between, _, since⟩
    · have silent := unended.session.transcript word (by simp [before])
      rw [last] at silent
      cases silent
    · have bound := late.prospects
      simp only [prospects, Session.prospects, grown, since, List.countP_append,
        List.countP_cons] at bound
      rw [unasked]
      omega

/-- A client whose document is open is asked about it twice, and both questions are admitted. -/
def twoQuestions : List WorkloadEvent :=
  greeted ++ .begin (.openUri "file:///a.py" "python" "") ::
    List.replicate 3 (.advance ⟨1, none⟩ 1) ++
    [.begin (.ask .folding .begun), .advance ⟨1, none⟩ 2,
      .begin (.ask .symbols .begun), .advance ⟨1, none⟩ 3]

/-- The server is asked to end before the first question is written, and told to end before the
second is. -/
def overtakingEnd : List WorkloadEvent :=
  .begin (.finish .begun) :: List.replicate 3 (.advance ⟨2, none⟩ 4) ++
    List.replicate 3 (.advance ⟨3, none⟩ 2) ++
    .background (.dispatch 3 (.response (.ok (.number 2) .null))) ::
    List.replicate 3 (.advance ⟨4, none⟩ 4) ++ List.replicate 3 (.advance ⟨5, none⟩ 3)

/-- Questions about an open document are written behind the request to end, and behind the word
that tells the server to end. -/
theorem question_behind_end :
    ∃ opened later,
      Steps (.start ⟨none, 2, true⟩ "file:///" 7 .none) twoQuestions opened ∧
      opened.client.state = .documentOpen ∧
      opened.client.document = some (.first "file:///a.py") ∧
      Steps opened overtakingEnd later ∧
      later.client.session.transcript = ["initialize", "initialized", "textDocument/didOpen",
        "shutdown", "textDocument/foldingRange", "exit", "textDocument/documentSymbol"] := by
  obtain ⟨opened, ran⟩ : ∃ opened,
      run? (.start ⟨none, 2, true⟩ "file:///" 7 .none) twoQuestions = some opened := ⟨_, rfl⟩
  obtain ⟨later, ranOn⟩ : ∃ later, run? opened overtakingEnd = some later := by
    rw [← Option.some.inj ran]
    exact ⟨_, rfl⟩
  refine ⟨opened, later, .of_run? ran, ?_, ?_, .of_run? ranOn, ?_⟩
  · rw [← Option.some.inj ran]
  · rw [← Option.some.inj ran]
  · rw [← Option.some.inj ran] at ranOn
    rw [← Option.some.inj ranOn]
    rfl

/-- Both questions behind the request to end had been admitted when the end began. -/
theorem late_questions_of_overtakingEnd :
    ∃ later current,
      Steps (.start ⟨none, 2, true⟩ "file:///" 7 .none) (twoQuestions ++ overtakingEnd) later ∧
      later.client.session.transcript = ["initialize", "initialized", "textDocument/didOpen"] ++
        "shutdown" :: ["textDocument/foldingRange", "exit", "textDocument/documentSymbol"] ∧
      (Workload.start ⟨none, 2, true⟩ "file:///" 7 .none).EndBegins later
        (twoQuestions ++ overtakingEnd) current ∧
      (Client.openingMethod ∈ current.client.session.transcript → 2 ≤ current.unasked) := by
  obtain ⟨later, ran⟩ : ∃ later, run? (.start ⟨none, 2, true⟩ "file:///" 7 .none)
      (twoQuestions ++ overtakingEnd) = some later := ⟨_, rfl⟩
  have run := Steps.of_run? ran
  have written : later.client.session.transcript =
      ["initialize", "initialized", "textDocument/didOpen"] ++
        "shutdown" :: ["textDocument/foldingRange", "exit", "textDocument/documentSymbol"] := by
    rw [← Option.some.inj ran]
    rfl
  obtain ⟨current, begins, -, late⟩ := late_questions_were_admitted run written (by decide)
  refine ⟨later, current, run, written, begins, fun announced => ?_⟩
  have two : ["textDocument/foldingRange", "exit", "textDocument/documentSymbol"].countP
      Query.isMethod = 2 := by decide
  exact two ▸ (late announced).2

end Workload

end FoldAtlas
