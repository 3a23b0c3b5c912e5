import FoldAtlas.Proofs.Client.Asking

/-!
# The handshake

Whatever a server does, whichever writes fail and however the operations of a
client follow each other, what the client writes is a word of one grammar
(`transcript_follows_handshake`). The invariant is `Admits`: it says of every
stage of every operation which state the client is in and what the server has
been told by then. The states alone do not tell: a greeting that failed leaves
the same state whether it was written or not, and so does a call that is under
way.
-/

namespace FoldAtlas

namespace Client

variable {welcomed graceful : Prop} {before after told : Told} {ticket : Nat} {method : String}
  {client next : Client} {operation goal : Operation} {surroundings : Surroundings}

/-! ## The stages of the operations -/

/-- What an idle client in some state may have told the server. -/
def allowed : Lifecycle → Told → Bool
  | .uninitialized, .nothing | .initializing, .nothing | .initializing, .greeting
  | .ready, .greeted | .documentOpen, .opened | .shuttingDown, _ | .closed, _ => true
  | _, _ => false

theorem allowed_uninitialized : allowed .uninitialized told = true ↔ told = .nothing := by
  cases told <;> simp [allowed]

theorem allowed_ready : allowed .ready told = true ↔ told = .greeted := by
  cases told <;> simp [allowed]

theorem allowed_documentOpen : allowed .documentOpen told = true ↔ told = .opened := by
  cases told <;> simp [allowed]

/-- An idle client has told the server what its state allows. -/
def Rests (welcomed graceful : Prop) (client : Client) : Prop :=
  ∃ told, allowed client.state told = true ∧
    Tells welcomed graceful client.session.transcript told

/-- What holds of a client at each stage of its operation. -/
def Admits (welcomed graceful : Prop) (client : Client) : Operation → Prop
  | .greet (.asked ticket) =>
    client.state = .initializing ∧
      Asked welcomed graceful .nothing .greeting client.session ticket Greeting.openingMethod
  | .greet (.answered _) =>
    client.state = .initializing ∧ welcomed ∧
      Tells welcomed graceful client.session.transcript .greeting
  | .openDocument _ _ _ .announcing =>
    client.state = .documentOpen ∧ Tells welcomed graceful client.session.transcript .greeted
  | .openDocument _ _ _ .announced | .ask _ .admitted =>
    client.state = .documentOpen ∧ Tells welcomed graceful client.session.transcript .opened
  | .ask query (.asked ticket) =>
    client.state = .documentOpen ∧
      Asked welcomed graceful .opened .opened client.session ticket query.method
  | .finish (.asked ticket) =>
    client.state = .shuttingDown ∧ graceful ∧ ∃ told : Told, told.IsAtWork ∧
      Asked welcomed graceful told .ending client.session ticket endingMethod
  | .finish .leaving =>
    client.state = .shuttingDown ∧ ∃ told, told ≠ .gone ∧
      Tells welcomed graceful client.session.transcript told
  | .greet .begun | .openDocument _ _ _ .begun | .ask _ .begun | .finish .begun
  | .finish .detaching | .finish .draining | .finish .releasing | .finish .settling
  | .over _ => client.Rests welcomed graceful

/-- Waiting for a call: what holds while it is under way holds when it goes on. -/
theorem Asked.await {waiting : Operation} {goOn : Except Failure Json → Client × Operation}
    (asked : Asked welcomed graceful before after client.session ticket method)
    (follows : ∀ words, Tells welcomed graceful words before →
      Tells welcomed graceful (words ++ [method]) after)
    (moved : client.await surroundings ticket waiting goOn = some (next, goal)) :
    (∃ outcome, client.session.outcome? ticket = some outcome ∧ goOn outcome = (next, goal)) ∨
    (Asked welcomed graceful before after next.session ticket method ∧
      next.state = client.state ∧ goal = waiting) := by
  rcases await_cases moved with isOver | ⟨session, stepped, rfl, same⟩
  · exact .inl isOver
  · exact .inr ⟨asked.stepCall follows stepped, rfl, same⟩

/-- A stage of the greeting. -/
theorem Admits.stepGreeting {stage : GreetingStage}
    (admits : Admits welcomed graceful client (.greet stage))
    (welcoming : client.session.Welcomed → welcomed)
    (moved : client.stepGreeting surroundings stage = some (next, goal)) :
    Admits welcomed graceful next goal := by
  cases stage with
  | begun =>
    obtain ⟨told, suits, tells⟩ := admits
    simp only [Client.stepGreeting] at moved
    split at moved
    · next fresh =>
      have moved := Option.some.inj moved
      rw [fresh] at suits
      obtain rfl := allowed_uninitialized.mp suits
      rcases beginCall_cases { client with state := .initializing } Greeting.openingMethod
        (some client.greetingParams) (fun ticket => .greet (.asked ticket)) with
        broke | ⟨limit, begun⟩
      · rw [broke] at moved
        cases moved
        exact ⟨.nothing, rfl, tells⟩
      · rw [begun] at moved
        cases moved
        exact ⟨rfl, .begin tells _ limit⟩
    · cases moved
      exact ⟨told, suits, tells⟩
  | asked ticket =>
    obtain ⟨state, asked⟩ := admits
    have rests : client.Rests welcomed graceful := by
      rcases asked.told_cases with tells | tells
      · exact ⟨.nothing, by rw [state]; rfl, tells⟩
      · exact ⟨.greeting, by rw [state]; rfl, tells⟩
    rcases asked.await (fun _ tells => tells.begins) moved with
      ⟨outcome, isOver, went⟩ | ⟨asked, sameState, rfl⟩
    · cases outcome with
      | error failure =>
        cases went
        exact rests
      | ok value =>
        obtain ⟨⟨call, found, method, finished⟩, tells⟩ := asked.of_result isOver
        cases decoded : Greeting.decodeAnswer value with
        | error failure =>
          simp only [decoded] at went
          cases went
          exact rests
        | ok greeting =>
          simp only [decoded] at went
          cases went
          have acceptable := Greeting.acceptable_of_decodeAnswer decoded
          have welcome := welcoming ⟨ticket, call, value, found, method, finished, acceptable⟩
          exact ⟨state, welcome, tells⟩
    · exact ⟨sameState.trans state, asked⟩
  | answered greeting =>
    obtain ⟨state, welcome, tells⟩ := admits
    simp only [Client.stepGreeting] at moved
    split at moved
    · cases moved
      exact ⟨.greeting, by rw [state]; rfl, tells⟩
    · next session wrote =>
      rw [if_pos state] at moved
      cases moved
      refine ⟨.greeted, rfl, ?_⟩
      rw [Session.transcript_of_notify wrote]
      exact tells.greets welcome

/-- A stage of the announcement of a document. -/
theorem Admits.stepOpening {document : AnnouncedDocument} {languageId text : String}
    {stage : OpeningStage}
    (admits : Admits welcomed graceful client (.openDocument document languageId text stage))
    (moved : client.stepOpening surroundings document languageId text stage =
      some (next, goal)) : Admits welcomed graceful next goal := by
  cases stage with
  | begun =>
    obtain ⟨told, suits, tells⟩ := admits
    simp only [Client.stepOpening] at moved
    split at moved
    · next ready =>
      cases moved
      rw [ready] at suits
      obtain rfl := allowed_ready.mp suits
      exact ⟨rfl, tells⟩
    · cases moved
      exact ⟨told, suits, tells⟩
  | announcing =>
    obtain ⟨state, tells⟩ := admits
    simp only [Client.stepOpening] at moved
    split at moved
    · cases moved
      exact ⟨.greeted, rfl, tells⟩
    · next session wrote =>
      cases moved
      refine ⟨state, ?_⟩
      rw [Session.transcript_of_notify wrote]
      exact tells.opens
  | announced =>
    obtain ⟨state, tells⟩ := admits
    cases moved
    exact ⟨.opened, by rw [state]; rfl, tells⟩

/-- A stage of a query. -/
theorem Admits.stepQuery {query : Query} {stage : QueryStage}
    (admits : Admits welcomed graceful client (.ask query stage))
    (moved : client.stepQuery surroundings query stage = some (next, goal)) :
    Admits welcomed graceful next goal := by
  cases stage with
  | begun =>
    obtain ⟨told, suits, tells⟩ := admits
    simp only [Client.stepQuery] at moved
    split at moved
    · next isOpen =>
      cases moved
      rw [isOpen] at suits
      obtain rfl := allowed_documentOpen.mp suits
      exact ⟨isOpen, tells⟩
    · cases moved
      exact ⟨told, suits, tells⟩
  | admitted =>
    obtain ⟨state, tells⟩ := admits
    have rests : client.Rests welcomed graceful := ⟨.opened, by rw [state]; rfl, tells⟩
    simp only [Client.stepQuery] at moved
    split at moved
    · cases moved
      exact rests
    · next document _ =>
      have moved := Option.some.inj moved
      rcases beginCall_cases client query.method (some document.reference)
        (fun ticket => .ask query (.asked ticket)) with broke | ⟨limit, begun⟩
      · rw [broke] at moved
        cases moved
        exact rests
      · rw [begun] at moved
        cases moved
        exact ⟨state, .begin tells _ limit⟩
  | asked ticket =>
    obtain ⟨state, asked⟩ := admits
    have tells := asked.told_cases.elim id id
    have rests : client.Rests welcomed graceful := ⟨.opened, by rw [state]; rfl, tells⟩
    rcases asked.await (fun _ tells => tells.ask query) moved with
      ⟨outcome, _, went⟩ | ⟨asked, sameState, rfl⟩
    · cases outcome with
      | error failure =>
        cases went
        exact rests
      | ok value =>
        cases decoded : query.decode value <;> simp only [decoded] at went <;> cases went <;>
          exact rests
    · exact ⟨sameState.trans state, asked⟩

/-- A client that has begun to end its session asks the server to end if it is
graceful, and goes on to tell it otherwise. -/
theorem Admits.of_ending (atWork : told.IsAtWork)
    (tells : Tells welcomed graceful client.session.transcript told)
    (gracefully : client.limits.graceful = true → graceful)
    (moved : (if client.limits.graceful then
        some ({ client with state := .shuttingDown }.beginCall endingMethod none
          fun ticket => .finish (.asked ticket))
      else some ({ client with state := .shuttingDown }, .finish .leaving)) =
        some (next, goal)) :
    Admits welcomed graceful next goal := by
  split at moved
  · next isGraceful =>
    have moved := Option.some.inj moved
    rcases beginCall_cases { client with state := .shuttingDown } endingMethod none
      (fun ticket => .finish (.asked ticket)) with broke | ⟨limit, begun⟩
    · rw [broke] at moved
      cases moved
      exact ⟨told, rfl, tells⟩
    · rw [begun] at moved
      cases moved
      exact ⟨rfl, gracefully isGraceful, told, atWork, .begin tells none limit⟩
  · cases moved
    refine ⟨rfl, told, ?_, tells⟩
    rcases atWork with rfl | rfl <;> decide

/-- A stage of the end of the session. -/
theorem Admits.stepEnding {stage : EndingStage}
    (admits : Admits welcomed graceful client (.finish stage))
    (gracefully : client.limits.graceful = true → graceful)
    (moved : client.stepEnding surroundings stage = some (next, goal)) :
    Admits welcomed graceful next goal := by
  cases stage with
  | begun =>
    obtain ⟨told, suits, tells⟩ := admits
    simp only [Client.stepEnding] at moved
    split at moved
    · cases moved
      exact ⟨told, suits, tells⟩
    · cases moved
      exact ⟨told, suits, tells⟩
    · cases moved
      exact ⟨told, rfl, tells⟩
    · next state =>
      cases moved
      rw [state] at suits
      refine ⟨rfl, told, ?_, tells⟩
      rintro rfl
      cases suits
    · next state =>
      rw [state] at suits
      have atWork : told.IsAtWork := .inl (allowed_ready.mp suits)
      exact .of_ending atWork tells gracefully moved
    · next state =>
      rw [state] at suits
      have atWork : told.IsAtWork := .inr (allowed_documentOpen.mp suits)
      exact .of_ending atWork tells gracefully moved
  | asked ticket =>
    obtain ⟨state, isGraceful, told, atWork, asked⟩ := admits
    rcases asked.await (fun _ tells => tells.ending isGraceful atWork) moved with
      ⟨outcome, _, went⟩ | ⟨asked, sameState, rfl⟩
    · cases went
      rcases asked.told_cases with tells | tells
      · refine ⟨state, told, ?_, tells⟩
        rcases atWork with rfl | rfl <;> decide
      · exact ⟨state, .ending, by decide, tells⟩
    · exact ⟨sameState.trans state, isGraceful, told, atWork, asked⟩
  | leaving =>
    obtain ⟨state, told, present, tells⟩ := admits
    simp only [Client.stepEnding] at moved
    split at moved
    · cases moved
      exact ⟨told, by rw [state]; rfl, tells⟩
    · next session wrote =>
      cases moved
      refine ⟨.gone, by rw [state]; rfl, ?_⟩
      rw [Session.transcript_of_notify wrote]
      exact tells.gone present
  | detaching =>
    cases moved
    exact admits
  | draining =>
    cases moved
    obtain ⟨told, suits, tells⟩ := admits
    have happens : client.session.after? .abandon = some client.session.abandonCalls := rfl
    have silent := Session.transcript_of_background rfl happens
    exact ⟨told, suits, silent ▸ tells⟩
  | releasing =>
    simp only [Client.stepEnding] at moved
    split at moved <;> cases moved <;> exact admits
  | settling =>
    cases moved
    obtain ⟨told, _, tells⟩ := admits
    exact ⟨told, rfl, tells⟩

/-- A stage of any operation. -/
theorem Admits.step (admits : Admits welcomed graceful client operation)
    (welcoming : client.session.Welcomed → welcomed)
    (gracefully : client.limits.graceful = true → graceful)
    (moved : client.step surroundings operation = some (next, goal)) :
    Admits welcomed graceful next goal := by
  cases operation with
  | greet stage => exact admits.stepGreeting welcoming moved
  | openDocument document languageId text stage => exact admits.stepOpening moved
  | ask query stage => exact admits.stepQuery moved
  | finish stage => exact admits.stepEnding gracefully moved
  | _ => cases moved

/-- What happens in the background concerns no stage. -/
theorem Admits.background {event : SessionEvent} {session : Session}
    (admits : Admits welcomed graceful client operation)
    (consistent : client.session.Consistent) (background : event.isBackground = true)
    (happens : client.session.after? event = some session) :
    Admits welcomed graceful { client with session } operation := by
  have silent := Session.transcript_of_background background happens
  have goesOn {before after : Told} {ticket : Nat} {method : String}
      (asked : Asked welcomed graceful before after client.session ticket method) :
      Asked welcomed graceful before after session ticket method :=
    asked.background consistent background happens
  have rests (rests : client.Rests welcomed graceful) :
      Rests welcomed graceful { client with session } := by
    obtain ⟨told, suits, tells⟩ := rests
    exact ⟨told, suits, silent ▸ tells⟩
  cases operation with
  | greet stage =>
    cases stage with
    | begun => exact rests admits
    | asked ticket => exact ⟨admits.1, goesOn admits.2⟩
    | answered greeting => exact ⟨admits.1, admits.2.1, silent ▸ admits.2.2⟩
  | openDocument document languageId text stage =>
    cases stage with
    | begun => exact rests admits
    | announcing | announced => exact ⟨admits.1, silent ▸ admits.2⟩
  | ask query stage =>
    cases stage with
    | begun => exact rests admits
    | admitted => exact ⟨admits.1, silent ▸ admits.2⟩
    | asked ticket => exact ⟨admits.1, goesOn admits.2⟩
  | finish stage =>
    cases stage with
    | asked ticket =>
      obtain ⟨state, isGraceful, told, atWork, asked⟩ := admits
      exact ⟨state, isGraceful, told, atWork, goesOn asked⟩
    | leaving =>
      obtain ⟨state, told, present, tells⟩ := admits
      exact ⟨state, told, present, silent ▸ tells⟩
    | begun | detaching | draining | releasing | settling => exact rests admits
  | _ => exact rests admits

/-- Whatever happens to a client at an operation. -/
theorem Admits.after? {event : ClientEvent}
    (admits : Admits welcomed graceful client operation)
    (consistent : client.session.Consistent)
    (welcoming : client.session.Welcomed → welcomed)
    (gracefully : client.limits.graceful = true → graceful)
    (happens : client.after? operation event = some (next, goal)) :
    Admits welcomed graceful next goal := by
  cases event with
  | begin fresh =>
    simp only [Client.after?] at happens
    split at happens
    · next idle =>
      cases happens
      obtain ⟨isOver, isFresh⟩ := Bool.and_eq_true_iff.mp idle
      have rests : client.Rests welcomed graceful := by
        cases operation with
        | greet | openDocument | ask | finish => cases isOver
        | _ => exact admits
      cases goal with
      | greet stage | openDocument _ _ _ stage | ask _ stage | finish stage =>
        cases stage <;> first | exact rests | cases isFresh
      | _ => cases isFresh
    · cases happens
  | advance surroundings => exact admits.step welcoming gracefully happens
  | background event =>
    simp only [Client.after?] at happens
    split at happens
    · next background =>
      obtain ⟨session, transition, same⟩ := Option.map_eq_some_iff.mp happens
      cases same
      exact admits.background consistent background transition
    · cases happens

/-- At every stage, the transcript tells the server something. -/
theorem Admits.tells (admits : Admits welcomed graceful client operation) :
    ∃ told, Tells welcomed graceful client.session.transcript told := by
  have asks {before after : Told} {ticket : Nat} {method : String}
      (asked : Asked welcomed graceful before after client.session ticket method) :
      ∃ told, Tells welcomed graceful client.session.transcript told :=
    asked.told_cases.elim (fun tells => ⟨before, tells⟩) (fun tells => ⟨after, tells⟩)
  have rests (rests : client.Rests welcomed graceful) :
      ∃ told, Tells welcomed graceful client.session.transcript told := by
    obtain ⟨told, _, tells⟩ := rests
    exact ⟨told, tells⟩
  cases operation with
  | greet stage =>
    cases stage with
    | begun => exact rests admits
    | asked ticket => exact asks admits.2
    | answered greeting => exact ⟨_, admits.2.2⟩
  | openDocument document languageId text stage =>
    cases stage with
    | begun => exact rests admits
    | announcing | announced => exact ⟨_, admits.2⟩
  | ask query stage =>
    cases stage with
    | begun => exact rests admits
    | admitted => exact ⟨_, admits.2⟩
    | asked ticket => exact asks admits.2
  | finish stage =>
    cases stage with
    | asked ticket =>
      obtain ⟨_, _, told, _, asked⟩ := admits
      exact asks asked
    | leaving =>
      obtain ⟨_, told, _, tells⟩ := admits
      exact ⟨told, tells⟩
    | begun | detaching | draining | releasing | settling => exact rests admits
  | _ => exact rests admits

/-! ## Whole runs -/

variable {limits : Limits} {rootUri : String} {processId : Nat} {process : ServerProcess}
  {events : List ClientEvent}

/-- A client keeps a consistent session and the limits that it was given. -/
theorem kept_of_steps {last : Client × Operation}
    (run : Steps (atStart limits rootUri processId process) events last) :
    last.1.session.Consistent ∧ last.1.limits = limits := by
  induction run with
  | refl => exact ⟨.start .standard, rfl⟩
  | step _ transition ih =>
    have continues := continues_of_after? transition
    obtain ⟨_, onward⟩ := continues.session
    exact ⟨ih.1.of_steps onward, continues.limits.trans ih.2⟩

/-- Every run keeps to the stages. -/
theorem admits_of_steps {last : Client × Operation}
    (run : Steps (atStart limits rootUri processId process) events last)
    (welcoming : last.1.session.Welcomed → welcomed) :
    Admits welcomed (limits.graceful = true) last.1 last.2 := by
  induction run with
  | refl => exact ⟨.nothing, rfl, .nothing⟩
  | @step events current operation event next prior transition ih =>
    obtain ⟨consistent, given⟩ := kept_of_steps prior
    have continues := continues_of_after? transition
    have earlier (welcome : current.session.Welcomed) : welcomed :=
      welcoming (welcome.of_reaches consistent continues.session)
    exact (ih earlier).after? consistent earlier (fun graceful => given ▸ graceful) transition

/-- What the transcript of a client shows at any time. -/
structure Orderly (limits : Limits) (client : Client) (operation : Operation) : Prop where
  /-- It is a word of the grammar. -/
  grammatical : client.session.transcript ∈ handshake.matches'
  /-- The greeting, the announcement of the document and the end are not repeated. -/
  once : ∀ method ∈ singularMethods, client.session.transcript.count method ≤ 1
  /-- By the time that the server has been told that the greeting is over, and
  so before that was written, the client had been welcomed. -/
  welcomed : ∀ event next, client.after? operation event = some next →
    Greeting.closingMethod ∈ next.1.session.transcript → client.session.Welcomed
  /-- Only a graceful client asks the server to end. -/
  graceful : endingMethod ∈ client.session.transcript → limits.graceful = true
  /-- Nothing follows the word that tells the server to end. -/
  final : ∀ front back, client.session.transcript = front ++ leavingMethod :: back → back = []

/-- In every run of a client, for any server, any failing writes and any
operations one after the other, what has been written is orderly. -/
theorem transcript_follows_handshake
    (run : Steps (atStart limits rootUri processId process) events (client, operation)) :
    Orderly limits client operation := by
  obtain ⟨consistent, given⟩ := kept_of_steps run
  have admits : Admits client.session.Welcomed (limits.graceful = true) client operation :=
    admits_of_steps run id
  obtain ⟨told, tells⟩ := admits.tells
  refine ⟨tells.mem_handshake, fun method singular => tells.count_le_one singular, ?_,
    tells.graceful_of_mem, fun front back => tells.nil_of_leaving⟩
  rintro event ⟨next, goal⟩ happens written
  obtain ⟨toldNext, tellsNext⟩ :=
    (admits.after? consistent id (fun graceful => given ▸ graceful) happens).tells
  exact tellsNext.welcome_of_mem written

/-- A client that opens a document, asks about it until its patience ends, and ends
the session although the stream breaks while it does. -/
def impatientSession : List ClientEvent :=
  let quiet : Surroundings := ⟨0, none⟩
  let late : Surroundings := ⟨90000, none⟩
  let onward (count : Nat) := List.replicate count (ClientEvent.advance quiet)
  .begin (.greet .begun) :: onward 3 ++
    .background (.dispatch 1 (.response (.ok (.number 1) .null))) :: onward 3 ++
    .begin (.openUri "file:///a.py" "python" "pass") :: onward 3 ++
    .begin (.ask .folding .begun) :: onward 4 ++
    .advance late :: onward 2 ++
    .begin (.finish .begun) :: onward 2 ++
    .advance ⟨0, some .brokenPipe⟩ :: onward 7

/-- What is written in an impatient session. -/
theorem handshake_of_impatientSession :
    ∃ client operation,
      Steps (atStart ⟨some 30, 2, true⟩ "file:///" 7 .none) impatientSession
        (client, operation) ∧
      client.state = .closed ∧
      client.session.transcript =
        ["initialize", "initialized", "textDocument/didOpen", "textDocument/foldingRange",
          "exit"] ∧
      Orderly ⟨some 30, 2, true⟩ client operation := by
  obtain ⟨⟨client, operation⟩, ran⟩ :
      ∃ last, run? (atStart ⟨some 30, 2, true⟩ "file:///" 7 .none) impatientSession =
        some last := ⟨_, rfl⟩
  have run := Steps.of_run? ran
  have shape : client.state = .closed ∧ client.session.transcript =
      ["initialize", "initialized", "textDocument/didOpen", "textDocument/foldingRange",
        "exit"] := by
    cases ran
    exact ⟨rfl, rfl⟩
  exact ⟨client, operation, run, shape.1, shape.2, transcript_follows_handshake run⟩

end Client

end FoldAtlas
