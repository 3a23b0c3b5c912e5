import FoldAtlas.Proofs.Client.Coherence

/-!
# The end of a history

However a client has come to where it is, its session can be ended (`every_end_succeeds`): the
end takes only so many stages, none of them waits for ever, since the call that it may make has
a limit of its own and a write succeeds or fails, and what goes wrong on the way does not matter.
Behind it the client is gone: nothing is written any more, and no operation does anything.

`Client.EndsWithin` carries the proof. It says of a client at a stage of its end how many stages
are left at most, and that the last one leaves a client that is gone.
-/

namespace FoldAtlas

/-- How many steps a call in some phase has still to take at most, counting the notice that is
taken of its end. -/
def CallPhase.left : CallPhase → Nat
  | .allocated => 5
  | .registered => 4
  | .waiting _ => 3
  | .unsent _ | .expired => 2
  | .finished _ => 1

namespace Session

variable {session next : Session} {ticket : Nat} {call : Call} {surroundings : Surroundings}

/-- A call that goes on has less to do. -/
theorem left_of_stepCall (found : session.calls[ticket]? = some call)
    (moved : session.stepCall surroundings ticket = some next) :
    ∃ later, next.calls[ticket]? = some later ∧ later.phase.left < call.phase.left := by
  obtain ⟨turn, happens⟩ := stepCall_happens moved
  have atCall {other : Call} (present : session.calls[ticket]? = some other) : other = call :=
    Option.some.inj (present.symm.trans found)
  have arrives (current : Session) (calls : current.calls = session.calls) (phase : CallPhase) :
      (current.setPhase ticket phase).calls[ticket]? = some { call with phase } := by
    simp [setPhase, calls, found]
  cases Effect.of_after? happens with
  | refuse present phase | register present phase | send present phase
  | failToSend present phase | take present phase | expire present phase =>
    obtain rfl := atCall present
    exact ⟨_, arrives _ rfl _, by simp [phase, CallPhase.left]⟩
  | withdraw present phase =>
    obtain rfl := atCall present
    refine ⟨_, arrives _ rfl _, ?_⟩
    rcases phase with phase | ⟨phase, _⟩ <;> simp [phase, CallPhase.left]
  | aside isAside => cases isAside

/-- A call with a limit goes on in time, or is over. -/
theorem IsBounded.onward (bounded : session.IsBounded ticket)
    (unfinished : session.outcome? ticket = none) :
    ∃ time, ∀ surroundings : Surroundings, time ≤ surroundings.time →
      (session.stepCall surroundings ticket).isSome := by
  obtain ⟨call, found, _, due⟩ := bounded
  simp only [outcome?, found, Option.bind_some] at unfinished
  cases phase : call.phase with
  | allocated | registered | unsent | expired =>
    exact ⟨0, fun surroundings _ => by simp [stepCall, found, phase]⟩
  | finished outcome => simp [phase, CallPhase.outcome?] at unfinished
  | waiting deadline =>
    obtain ⟨time, rfl⟩ := Option.isSome_iff_exists.mp (due deadline phase)
    refine ⟨time, fun surroundings late => ?_⟩
    cases inbox : call.inbox <;> simp [stepCall, found, phase, await, inbox, isDue, late]

/-- Nothing that happens in the background writes anything when the outgoing stream is closed. -/
theorem sent_of_detached {event : SessionEvent} (detached : session.outlet = .detached)
    (background : event.isBackground = true) (happens : session.after? event = some next) :
    next.sent = session.sent := by
  cases event with
  | begin | proceed | notify | detach => cases background
  | dispatch time message =>
    cases happens
    cases message with
    | request => rfl
    | response response =>
      obtain ⟨_, _, _, _, same⟩ := session.handOver_eq response
      rw [actUpon, same]
    | notification notice =>
      obtain ⟨_, _, same⟩ := session.hear_eq time notice
      rw [actUpon, same]
  | answer surroundings index =>
    obtain ⟨_, _, _, written, _, turn, rfl⟩ := stepAnswer_eq_some_iff.mp happens
    cases turn with
    | respond _ unhindered => simp [Outlet.hindrance?, detached] at unhindered
    | refuse | use | learn | lose => exact List.append_nil _
  | install | stream =>
    cases happens
    rfl
  | abandon =>
    cases happens
    obtain ⟨_, _, same⟩ := session.abandonCalls_eq
    rw [same]

end Session

/-- How an operation ends at a client that is gone. -/
def Operation.farewell : Operation → Ending
  | .greet _ => .failed (.invalidState Greeting.openingMethod .closed)
  | .openDocument _ _ _ _ => .failed (.invalidState Client.openingMethod .closed)
  | .ask query _ => .failed (.invalidState query.method .closed)
  | .finish _ => .returned .nothing
  | .over ending => ending

namespace Client

variable {client next later : Client} {operation after : Operation} {surroundings : Surroundings}
  {events : List ClientEvent}

/-! ## The stages of the end -/

/-- Whether a client is at a stage of its end with so many stages left at most; it is gone when
the end is over. -/
def EndsWithin (client : Client) (left : Nat) : Operation → Prop
  | .finish .begun => 11 ≤ left
  | .finish (.asked ticket) =>
    ∃ call, client.session.calls[ticket]? = some call ∧ 5 + call.phase.left ≤ left
  | .finish .leaving => 5 ≤ left
  | .finish .detaching => 4 ≤ left
  | .finish .draining => 3 ≤ left
  | .finish .releasing => 2 ≤ left
  | .finish .settling => 1 ≤ left
  | .over (.returned .nothing) => client.IsGone
  | _ => False

/-- A stage of the end leaves fewer stages. -/
theorem EndsWithin.stepEnding {left : Nat} {stage : EndingStage}
    (ends : client.EndsWithin (left + 1) (.finish stage)) (coherent : client.Coherent (.finish stage))
    (moved : client.stepEnding surroundings stage = some (next, after)) :
    next.EndsWithin left after := by
  have fits := coherent.fits
  cases stage with
  | begun =>
    have bound : 10 ≤ left := Nat.le_of_succ_le_succ ends
    cases state : client.state with
    | shuttingDown => simp only [Fits, Idles, state] at fits
    | closed =>
      simp only [Fits, Idles, state] at fits
      simp only [Client.stepEnding, state] at moved
      cases moved
      exact fits
    | uninitialized | initializing =>
      simp only [Client.stepEnding, state] at moved
      cases moved
      simp only [EndsWithin]
      omega
    | ready | documentOpen =>
      obtain ⟨limit, within⟩ := exists_limitOf_endingMethod client.limits
      simp only [Client.stepEnding, state] at moved
      split at moved
      · simp only [beginCall, within] at moved
        cases moved
        exact ⟨_, List.getElem?_concat_length, bound⟩
      · cases moved
        simp only [EndsWithin]
        omega
  | asked ticket =>
    obtain ⟨call, found, bound⟩ := ends
    rcases await_cases moved with ⟨outcome, isOver, went⟩ | ⟨session, stepped, rfl, rfl⟩
    · cases went
      simp only [Session.outcome?, found, Option.bind_some, CallPhase.outcome?_eq_some_iff] at isOver
      simp only [isOver, CallPhase.left] at bound
      simp only [EndsWithin]
      omega
    · obtain ⟨advanced, foundThen, less⟩ := Session.left_of_stepCall found stepped
      exact ⟨advanced, foundThen, by omega⟩
  | leaving | releasing =>
    simp only [Client.stepEnding] at moved
    split at moved <;> cases moved <;> exact Nat.le_of_succ_le_succ ends
  | detaching | draining =>
    cases moved
    exact Nat.le_of_succ_le_succ ends
  | settling =>
    obtain ⟨_, detached, closed, released⟩ := fits
    cases moved
    exact ⟨rfl, detached, closed, released⟩

/-- An end is over, or has a stage left. -/
theorem EndsWithin.cases {left : Nat} (ends : client.EndsWithin left operation) :
    (operation = .over (.returned .nothing) ∧ client.IsGone) ∨
      ∃ fewer stage, left = fewer + 1 ∧ operation = .finish stage := by
  cases operation with
  | finish stage =>
    have positive : 0 < left := by
      cases stage <;> simp only [EndsWithin] at ends <;> omega
    exact .inr ⟨left - 1, stage, by omega, rfl⟩
  | «over» ending =>
    cases ending with
    | returned result => cases result <;> first | exact .inl ⟨rfl, ends⟩ | cases ends
    | _ => cases ends
  | _ => cases ends

/-- What happens in the background leaves the stages of an end. -/
theorem EndsWithin.background {left : Nat} {event : SessionEvent} {session : Session}
    (ends : client.EndsWithin left operation) (consistent : client.session.Consistent)
    (background : event.isBackground = true)
    (happens : client.session.after? event = some session) :
    EndsWithin { client with session } left operation := by
  rcases ends.cases with ⟨rfl, gone⟩ | ⟨fewer, stage, _, rfl⟩
  · exact gone.background background happens
  · cases stage with
    | asked ticket =>
      obtain ⟨call, found, bound⟩ := ends
      obtain ⟨advanced, foundThen, move⟩ :=
        (Session.Effect.of_after? happens).move consistent found
      rw [move.of_background background] at foundThen
      exact ⟨_, foundThen, bound⟩
    | _ => exact ends

/-- A stage of the end can come in time, whether or not what it writes can be written. A write
that neither succeeds nor fails is left out, as it is in `Surroundings`. -/
theorem EndsWithin.onward {left : Nat} (ends : client.EndsWithin left operation)
    (coherent : client.Coherent operation) (unfinished : operation.ending? = none) :
    ∃ time, ∀ surroundings : Surroundings, time ≤ surroundings.time →
      (client.step surroundings operation).isSome := by
  rcases ends.cases with ⟨rfl, _⟩ | ⟨fewer, stage, _, rfl⟩
  · cases unfinished
  · cases stage with
    | begun =>
      refine ⟨0, fun surroundings _ => ?_⟩
      simp only [Client.step, Client.stepEnding]
      split <;> first | rfl | (split <;> rfl)
    | asked ticket =>
      cases isOver : client.session.outcome? ticket with
      | some outcome =>
        exact ⟨0, fun surroundings _ => by simp [Client.step, Client.stepEnding, await, isOver]⟩
      | none =>
        obtain ⟨time, goesOn⟩ := coherent.fits.2.onward isOver
        refine ⟨time, fun surroundings late => ?_⟩
        simpa [Client.step, Client.stepEnding, await, isOver] using goesOn surroundings late
    | leaving | releasing =>
      refine ⟨0, fun surroundings _ => ?_⟩
      simp only [Client.step, Client.stepEnding]
      split <;> rfl
    | detaching | draining | settling => exact ⟨0, fun _ _ => rfl⟩

/-- What is known of the end of a client after some events. -/
theorem endsWithin_of_steps {last : Client × Operation} (coherent : client.Coherent (.finish .begun))
    (unbegun : ∀ event ∈ events, event.isBegin = false)
    (run : Steps (client, .finish .begun) events last) :
    ∃ left, last.1.EndsWithin left last.2 ∧ left + events.countP ClientEvent.isAdvance ≤ 11 := by
  refine run.keeps (fun events current goal => ∃ left, current.EndsWithin left goal ∧
    left + events.countP ClientEvent.isAdvance ≤ 11) unbegun
    ⟨11, Nat.le_refl 11, Nat.le_refl 11⟩ ?_ ?_
  · rintro events current goal surroundings next after prior ⟨left, ends, bound⟩ moved
    rcases ends.cases with ⟨rfl, _⟩ | ⟨fewer, stage, rfl, rfl⟩
    · cases moved
    · refine ⟨fewer, ends.stepEnding (coherent.of_steps prior) moved, ?_⟩
      rw [List.countP_append, List.countP_singleton]
      simp only [ClientEvent.isAdvance, if_true]
      omega
  · rintro events current goal event session prior ⟨left, ends, bound⟩ background happens
    refine ⟨left, ends.background (coherent.of_steps prior).only.consistent background happens, ?_⟩
    simpa [ClientEvent.isAdvance] using bound

/-- An end can always go on to its last stage. -/
theorem EndsWithin.finishes {left : Nat} (ends : client.EndsWithin left operation)
    (coherent : client.Coherent operation) :
    ∃ more last, (∀ event ∈ more, event.isBegin = false) ∧
      Steps (client, operation) more (last, .over (.returned .nothing)) := by
  induction left generalizing client operation with
  | zero =>
    rcases ends.cases with ⟨rfl, _⟩ | ⟨fewer, stage, wrong, _⟩
    · exact ⟨[], client, by simp, .refl⟩
    · cases wrong
  | succ left ih =>
    rcases ends.cases with ⟨rfl, _⟩ | ⟨fewer, stage, _, rfl⟩
    · exact ⟨[], client, by simp, .refl⟩
    · obtain ⟨time, goesOn⟩ := ends.onward coherent rfl
      obtain ⟨⟨next, after⟩, moved⟩ :=
        Option.isSome_iff_exists.mp (goesOn ⟨time, none⟩ (Nat.le_refl time))
      have first : client.after? (.finish stage) (.advance ⟨time, none⟩) = some (next, after) := moved
      obtain ⟨more, last, unbegun, rest⟩ :=
        ih (ends.stepEnding coherent moved) (coherent.step moved).coherent
      refine ⟨.advance ⟨time, none⟩ :: more, last, ?_, .trans (.step .refl first) rest⟩
      simpa [ClientEvent.isBegin] using unbegun

/-! ## Behind the end -/

/-- At a client that is gone, every operation takes one stage, in which nothing happens. -/
theorem IsGone.step (gone : client.IsGone) (fresh : operation.isFresh = true)
    (surroundings : Surroundings) :
    client.step surroundings operation = some (client, .over operation.farewell) := by
  have state := gone.state
  cases operation with
  | greet stage | openDocument _ _ _ stage | ask _ stage | finish stage =>
    cases stage with
    | begun =>
      simp [Client.step, stepGreeting, stepOpening, stepQuery, stepEnding, refuse, state,
        Operation.farewell]
    | _ => cases fresh
  | «over» => cases fresh

/-- What becomes of a client that is gone while an operation is carried out. -/
theorem IsGone.of_steps {last : Client × Operation} (gone : client.IsGone)
    (fresh : operation.isFresh = true) (unbegun : ∀ event ∈ events, event.isBegin = false)
    (run : Steps (client, operation) events last) :
    last.1.IsGone ∧ last.1.session.sent = client.session.sent ∧
      (last.2 = operation ∨ last.2 = .over operation.farewell) := by
  refine run.keeps (fun _ current goal => current.IsGone ∧
    current.session.sent = client.session.sent ∧
      (goal = operation ∨ goal = .over operation.farewell)) unbegun ⟨gone, rfl, .inl rfl⟩ ?_ ?_
  · rintro _ current goal surroundings next after _ ⟨still, sent, rfl | rfl⟩ moved
    · cases (still.step fresh surroundings).symm.trans moved
      exact ⟨still, sent, .inr rfl⟩
    · cases moved
  · rintro _ current goal event session _ ⟨still, sent, place⟩ background happens
    exact ⟨still.background background happens,
      (Session.sent_of_detached still.detached background happens).trans sent, place⟩

/-- What becomes of a client that is gone in an episode. -/
theorem IsGone.undergoes {episode : Episode} (gone : client.IsGone)
    (undergoes : client.Undergoes episode later) :
    later.IsGone ∧ later.session.sent = client.session.sent ∧
      ∀ operation events ending, episode = .errand operation events ending →
        ending = operation.farewell := by
  cases undergoes with
  | @errand operation events ending _ fresh unbegun run =>
    obtain ⟨still, sent, place⟩ := gone.of_steps fresh unbegun run
    refine ⟨still, sent, ?_⟩
    rintro _ _ _ ⟨⟩
    rcases place with same | same
    · rw [← same] at fresh
      cases fresh
    · exact Operation.over.inj same
  | pause background happens =>
    refine ⟨gone.background background happens,
      Session.sent_of_detached gone.detached background happens, ?_⟩
    rintro _ _ _ ⟨⟩

/-- What a client that is gone may still live through. -/
structure StaysGone (client : Client) (episodes : List Episode) (later : Client) : Prop where
  gone : later.IsGone
  /-- No frame is written. -/
  sent : later.session.sent = client.session.sent
  /-- Another end returns, and every other operation is refused. -/
  endings : ∀ operation events ending, .errand operation events ending ∈ episodes →
    ending = operation.farewell

/-- A client that is gone stays so. -/
theorem IsGone.stays {episodes : List Episode} (gone : client.IsGone)
    (history : History client episodes later) : client.StaysGone episodes later := by
  induction history with
  | nil => exact ⟨gone, rfl, by simp⟩
  | @cons client next last episode episodes undergoes _ ih =>
    obtain ⟨still, sent, ends⟩ := gone.undergoes undergoes
    obtain ⟨goneThen, sentThen, endings⟩ := ih still
    refine ⟨goneThen, sentThen.trans sent, fun operation events ending among => ?_⟩
    rcases List.mem_cons.mp among with same | among
    · exact ends operation events ending same.symm
    · exact endings operation events ending among

/-! ## The end -/

/-- What is known of the end of a client's session. -/
structure EndsForGood (client : Client) : Prop where
  /-- The end takes only so many stages. -/
  brief : ∀ events later operation, (∀ event ∈ events, event.isBegin = false) →
    Steps (client, .finish .begun) events (later, operation) →
    events.countP ClientEvent.isAdvance ≤ 11
  /-- As long as it is not over, its next stage can come in time, whether or not what it writes
  can be written. A write that neither succeeds nor fails, since the other side has stopped to
  read, is left out, as it is in `Surroundings`; behind one, no stage need ever come. -/
  onward : ∀ events later operation, (∀ event ∈ events, event.isBegin = false) →
    Steps (client, .finish .begun) events (later, operation) → operation.ending? = none →
    ∃ time, ∀ surroundings : Surroundings, time ≤ surroundings.time →
      (later.step surroundings operation).isSome
  /-- Wherever it is, it can go on until it returns. -/
  finishes : ∀ events later operation, (∀ event ∈ events, event.isBegin = false) →
    Steps (client, .finish .begun) events (later, operation) →
    ∃ more last, (∀ event ∈ more, event.isBegin = false) ∧
      Steps (client, .finish .begun) (events ++ more) (last, .over (.returned .nothing))
  /-- Once it is over, it has returned, and the client is gone and expects no response; and so it
  is whatever the client lives through from then on. -/
  final : ∀ events ending later, client.Undergoes (.errand (.finish .begun) events ending) later →
    ending = .returned .nothing ∧ later.IsGone ∧ later.session.pending = .empty ∧
      ∀ episodes last, History later episodes last →
        later.StaysGone episodes last ∧ last.session.pending = .empty ∧
          ∀ operation, operation.isFresh = true → ∀ surroundings,
            last.step surroundings operation = some (last, .over operation.farewell)

/-- However a client has come to where it is, its session can be ended, and is then over for
good. -/
theorem every_end_succeeds {limits : Limits} {rootUri : String} {processId : Nat}
    {process : ServerProcess} {episodes : List Episode}
    (history : History (start limits rootUri processId process) episodes client) :
    client.EndsForGood := by
  obtain ⟨_, idle⟩ := history.coherent
  have coherent : client.Coherent (.finish .begun) := idle.begin rfl
  refine ⟨fun events later operation unbegun run => ?_,
    fun events later operation unbegun run unfinished => ?_,
    fun events later operation unbegun run => ?_, fun events ending later undergoes => ?_⟩
  · obtain ⟨left, _, bound⟩ := endsWithin_of_steps coherent unbegun run
    omega
  · obtain ⟨left, ends, _⟩ := endsWithin_of_steps coherent unbegun run
    exact ends.onward (coherent.of_steps run) unfinished
  · obtain ⟨left, ends, _⟩ := endsWithin_of_steps coherent unbegun run
    obtain ⟨more, last, unbegunToo, onward⟩ := ends.finishes (coherent.of_steps run)
    exact ⟨more, last, unbegunToo, run.trans onward⟩
  · have ended := history.append (.single undergoes)
    rcases undergoes with @⟨_, _, _, _, _, unbegun, run⟩
    obtain ⟨left, ends, _⟩ := endsWithin_of_steps coherent unbegun run
    rcases ends.cases with ⟨returned, gone⟩ | ⟨_, _, _, wrong⟩
    · refine ⟨Operation.over.inj returned, gone, ?_, fun episodes last onward => ?_⟩
      · obtain ⟨_, atRest⟩ := ended.coherent
        exact atRest.only.pending_eq
      · have stays := gone.stays onward
        obtain ⟨_, atRest⟩ := (ended.append onward).coherent
        exact ⟨stays, atRest.only.pending_eq, fun operation fresh => stays.gone.step fresh⟩
    · cases wrong

/-- The end of a session whose server does not answer, and whose stream is broken by the time
the call has expired. -/
def hinderedEnd : List ClientEvent :=
  List.replicate 3 (.advance ⟨1, none⟩) ++
    List.replicate 8 (.advance ⟨90000, some .brokenPipe⟩)

/-- The session of a server that does no more than greet can be ended, and a query that comes
behind the end is refused. -/
theorem hinderedEnd_succeeds :
    ∃ client later,
      History (start ⟨none, 2, true⟩ "file:///" 7 .held) [plainGreeting] client ∧
      client.EndsForGood ∧
      client.Undergoes (.errand (.finish .begun) hinderedEnd (.returned .nothing)) later ∧
      later.StaysGone
        [.errand (.ask .folding .begun) [.advance ⟨90000, none⟩]
          (.failed (.invalidState Query.folding.method .closed))] later := by
  obtain ⟨client, later, history, undergoes⟩ : ∃ client later,
      History (start ⟨none, 2, true⟩ "file:///" 7 .held) [plainGreeting] client ∧
      client.Undergoes (.errand (.finish .begun) hinderedEnd (.returned .nothing)) later :=
    ⟨_, _, .single (.errand rfl (by decide) (.of_run? rfl)),
      .errand rfl (by decide) (.of_run? rfl)⟩
  have ends := every_end_succeeds history
  obtain ⟨_, gone, _, onward⟩ := ends.final _ _ _ undergoes
  have refusal : later.step ⟨90000, none⟩ (.ask .folding .begun) =
      some (later, .over (Operation.ask .folding .begun).farewell) := gone.step rfl _
  have refused : later.Undergoes
      (.errand (.ask .folding .begun) [.advance ⟨90000, none⟩]
        (.failed (.invalidState Query.folding.method .closed))) later :=
    .errand rfl (by decide) (.step .refl refusal)
  exact ⟨client, later, history, ends, undergoes, (onward _ _ (.single refused)).1⟩

end Client

end FoldAtlas
