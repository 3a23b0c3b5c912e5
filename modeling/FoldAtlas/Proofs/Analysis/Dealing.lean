import FoldAtlas.Proofs.Analysis.Script
import FoldAtlas.Proofs.Client.Asking
import FoldAtlas.Proofs.Session.Reception

/-!
# Calls that are dealt with

The session of an analysis has at most one call under way. `Script.Resting` describes it
between two calls, `Script.Dealing` while one is under way: what has been written, how far
the call is with respect to what the script says about it (`Reply.Fits`), and for which call
the server has left if the session is closed. Both are kept by everything that a server
allows that keeps to its script, and a call that the script deals with comes to its end
(`Dealing.onward`).
-/

namespace FoldAtlas

namespace Call

/-- How many steps a call has still to take at most, counting what it waits for as one. -/
def left (call : Call) : Nat :=
  (if call.inbox.isSome then 0 else 1) +
    match call.phase with
    | .allocated => 5
    | .registered => 4
    | .waiting _ => 3
    | .unsent _ | .expired => 2
    | .finished _ => 1

/-- A call never has nothing to do, for somebody has to take notice of its end. -/
theorem left_pos (call : Call) : 0 < call.left := by
  obtain ⟨id, method, params, limit, phase, inbox⟩ := call
  cases phase <;> simp [left]

end Call

/-- Whether a call is as far as it can be when it is dealt with in the way of a reply. -/
def Reply.Fits (reply : Reply) (call : Call) : Prop :=
  match call.phase with
  | .allocated => call.inbox = none
  | .registered => ∀ outcome, call.inbox = some outcome → reply.Yields outcome
  | .waiting deadline => (∀ outcome, call.inbox = some outcome → reply.Yields outcome) ∧
      deadline.isSome = call.limit.isSome
  | .unsent _ => False
  | .expired => reply = .silence
  | .finished outcome => reply.Yields outcome

/-- A call fits a reply still when it has been handed what the reply makes of it, or when
that comes too late. -/
theorem Reply.Fits.handed {reply : Reply} {call : Call} {outcome : Except Failure Json}
    (fits : reply.Fits call) (outstanding : call.phase.isOutstanding = true)
    (yields : call.phase ≠ .expired → reply.Yields outcome) :
    reply.Fits { call with inbox := some outcome } := by
  obtain ⟨id, method, params, limit, phase, inbox⟩ := call
  cases phase with
  | allocated | finished => cases outstanding
  | registered =>
    rintro other ⟨⟩
    exact yields (by simp)
  | unsent => cases fits
  | waiting deadline =>
    refine ⟨?_, fits.2⟩
    rintro other ⟨⟩
    exact yields (by simp)
  | expired => exact fits

namespace Session

variable {session next : Session} {event : SessionEvent}

/-- The outcome of a call that is over stays, whatever happens. -/
theorem isSome_outcome? {ticket : Nat} (consistent : session.Consistent)
    (happens : session.after? event = some next) (isOver : (session.outcome? ticket).isSome) :
    (next.outcome? ticket).isSome := by
  obtain ⟨outcome, ended⟩ := Option.isSome_iff_exists.mp isOver
  exact Option.isSome_iff_exists.mpr
    ⟨outcome, (Steps.single happens).outcome_persists consistent ended⟩

/-- A call that is over is decided. -/
theorem isDecided_of_isSome {ticket : Nat} {call : Call}
    (found : session.calls[ticket]? = some call) (isOver : (session.outcome? ticket).isSome) :
    call.isDecided = true ∧ call.phase.outcome?.isSome := by
  simp only [outcome?, found, Option.bind_some] at isOver
  obtain ⟨outcome, ended⟩ := Option.isSome_iff_exists.mp isOver
  have phase := CallPhase.outcome?_eq_some_iff.mp ended
  exact ⟨by rw [Call.isDecided, phase], isOver⟩

/-- The first calls are decided if they are over. -/
theorem countP_take_of_settled {count : Nat} (within : count ≤ session.calls.length)
    (settled : ∀ ticket < count, (session.outcome? ticket).isSome) :
    (session.calls.take count).countP Call.isDecided = count := by
  have all : (session.calls.take count).countP Call.isDecided =
      (session.calls.take count).length := by
    rw [List.countP_eq_length]
    intro call member
    obtain ⟨ticket, found⟩ := List.mem_iff_getElem?.mp member
    rw [List.getElem?_take] at found
    split at found
    · next earlier => exact (isDecided_of_isSome found (settled ticket earlier)).1
    · cases found
  rw [all, List.length_take]
  omega

end Session

namespace Script

variable {script : Script} {limits : Limits} {session next : Session} {words : List String}
  {method : String} {count ticket : Nat} {call : Call} {event : SessionEvent} {time : Nat}

/-- A session between two calls of an analysis: some calls are over, some words have been
written, and if the server has left, it has done so for the next call. -/
structure Resting (script : Script) (session : Session) (words : List String) (count : Nat) :
    Prop where
  attached : session.outlet = .attached
  told : session.transcript = words
  asked : session.calls.length = count
  settled : ∀ ticket < count, (session.outcome? ticket).isSome
  gone : session.closed = true → script.reply count = .departure

/-- A session while the last call of it is under way or over: it is a call of a method, and
some words had been written before. If the server has left, it has done so for this call, or
for the next one when this one was decided. -/
structure Dealing (script : Script) (limits : Limits) (session : Session) (words : List String)
    (method : String) (ticket : Nat) (call : Call) : Prop where
  attached : session.outlet = .attached
  found : session.calls[ticket]? = some call
  last : session.calls.length = ticket + 1
  named : call.method = method
  limited : call.limit.isSome = limits.baseSeconds.isSome
  settled : ∀ earlier < ticket, (session.outcome? earlier).isSome
  fits : (script.reply ticket).Fits call
  told : call.phase.mayBeUnwritten = true ∧ session.transcript = words ∨
    call.phase.mayBeWritten = true ∧ session.transcript = words ++ [method]
  gone : session.closed = true → script.reply ticket = .departure ∨
    call.isDecided = true ∧ script.reply (ticket + 1) = .departure

/-! ## Between two calls -/

namespace Resting

/-- A session at its start has no calls. -/
theorem start (script : Script) (handlers : Handlers) :
    script.Resting (.start handlers) [] 0 where
  attached := rfl
  told := rfl
  asked := rfl
  settled _ earlier := absurd earlier (Nat.not_lt_zero _)
  gone closed := by cases closed

/-- All calls are decided. -/
theorem countP_isDecided (rests : script.Resting session words count) :
    session.calls.countP Call.isDecided = count := by
  have whole := Session.countP_take_of_settled (Nat.le_of_eq rests.asked.symm) rests.settled
  rwa [← rests.asked, List.take_length, rests.asked] at whole

/-- No call waits, so time may pass. -/
theorem mayWait (rests : script.Resting session words count) (time : Nat) :
    script.MayWait session time := by
  intro ticket call deadline found phase _ _
  have earlier : ticket < count := rests.asked ▸ (List.getElem?_eq_some_iff.mp found).1
  have ended := (Session.isDecided_of_isSome found (rests.settled ticket earlier)).2
  rw [phase] at ended
  cases ended

/-- What happens in the background leaves a session between two calls. -/
theorem background (rests : script.Resting session words count)
    (consistent : session.Consistent) (background : event.isBackground = true)
    (scripted : (AnalysisEvent.background event).IsScripted script session)
    (happens : session.after? event = some next) : script.Resting next words count := by
  obtain ⟨outlet, sameLength, closed⟩ := (Session.Effect.of_after? happens).frame background
  refine ⟨outlet.trans rests.attached, ?_, sameLength.trans rests.asked, fun ticket earlier =>
    Session.isSome_outcome? consistent happens (rests.settled ticket earlier), fun isClosed => ?_⟩
  · rw [Session.transcript_of_background background happens, rests.told]
  · rcases closed with same | rfl
    · exact rests.gone (same ▸ isClosed)
    · have leaves : script.reply (session.calls.countP Call.isDecided) = .departure := scripted
      rwa [rests.countP_isDecided] at leaves

/-- A notification is written. -/
theorem notify (rests : script.Resting session words count) (method : String)
    (params : Option Json) :
    ∃ written, session.notify none method params = .ok written ∧
      script.Resting written (words ++ [method]) count := by
  have wrote : session.notify none method params =
      .ok { session with sent := session.sent ++ [.notification (.make method params)] } := by
    simp only [Session.notify, Session.write, rests.attached]
  refine ⟨_, wrote, rests.attached, ?_, rests.asked, rests.settled, rests.gone⟩
  rw [Session.transcript_of_notify wrote, rests.told]

/-- A call begins. -/
theorem begin (rests : script.Resting session words count) (method : String)
    (params : Option Json) (limit : Option Duration)
    (limited : limit.isSome = limits.baseSeconds.isSome) :
    ∃ call, script.Dealing limits (session.begin method params limit).1 words method count call ∧
      call.left = 6 := by
  have happens : session.after? (.begin method params limit) =
      some (session.begin method params limit).1 := rfl
  refine ⟨⟨session.nextId, method, params, limit, .allocated, none⟩, ?_, rfl⟩
  refine ⟨rests.attached, ?_, ?_, rfl, limited, fun earlier before => ?_, rfl,
    .inl ⟨rfl, rests.told⟩, fun closed => .inl (rests.gone closed)⟩
  · simp [Session.begin, rests.asked]
  · simp [Session.begin, rests.asked]
  · have present : session.calls[earlier]? = (session.begin method params limit).1.calls[earlier]? := by
      rw [Session.begin, List.getElem?_append_left (rests.asked ▸ before)]
    have ended := rests.settled earlier before
    rwa [Session.outcome?, present] at ended

end Resting

/-! ## While a call is under way -/

namespace Dealing

/-- All earlier calls are decided, and this one is or is not. -/
theorem countP_isDecided (dealing : script.Dealing limits session words method ticket call) :
    session.calls.countP Call.isDecided = if call.isDecided then ticket + 1 else ticket := by
  have within : ticket < session.calls.length := by
    rw [dealing.last]
    exact Nat.lt_succ_self ticket
  have split : session.calls.take ticket ++ [call] = session.calls := by
    have present : session.calls[ticket] = call :=
      (List.getElem?_eq_some_iff.mp dealing.found).2
    rw [← present, List.take_append_getElem within, ← dealing.last, List.take_length]
  rw [← split, List.countP_append, List.countP_singleton,
    Session.countP_take_of_settled (Nat.le_of_lt within) dealing.settled]
  split <;> rfl

/-- Time may pass as long as the call does not thereby have waited long enough, or if the
script is silent about it. -/
theorem mayWait (dealing : script.Dealing limits session words method ticket call)
    (patient : ∀ deadline, call.phase = .waiting deadline → call.inbox = none →
      isDue deadline time = true → script.reply ticket = .silence) :
    script.MayWait session time := by
  intro other waiting deadline found phase empty due
  have within := (List.getElem?_eq_some_iff.mp found).1
  rw [dealing.last] at within
  rcases Nat.lt_or_eq_of_le (Nat.le_of_lt_succ within) with earlier | rfl
  · have ended := (Session.isDecided_of_isSome found (dealing.settled other earlier)).2
    rw [phase] at ended
    cases ended
  · obtain rfl := Option.some.inj (dealing.found.symm.trans found)
    exact patient deadline phase empty due

/-- If the server leaves now, it leaves this call alone, or the next one if this one is
decided. -/
theorem leaves (dealing : script.Dealing limits session words method ticket call)
    (leaves : script.MayLeave session) :
    script.reply ticket = .departure ∨
      call.isDecided = true ∧ script.reply (ticket + 1) = .departure := by
  rw [MayLeave, dealing.countP_isDecided] at leaves
  split at leaves
  · next decided => exact .inr ⟨decided, leaves⟩
  · exact .inl leaves

/-- A call that is moved on, or handed something, in a session that is otherwise the same
or has been closed. -/
theorem moved {later : Call} (dealing : script.Dealing limits session words method ticket call)
    (consistent : session.Consistent) (happens : session.after? event = some next)
    (attached : next.outlet = session.outlet) (sameLength : next.calls.length = session.calls.length)
    (found : next.calls[ticket]? = some later)
    (identity : later = { call with phase := later.phase, inbox := later.inbox })
    (fits : (script.reply ticket).Fits later)
    (told : later.phase.mayBeUnwritten = true ∧ next.transcript = words ∨
      later.phase.mayBeWritten = true ∧ next.transcript = words ++ [method])
    (gone : next.closed = true → script.reply ticket = .departure ∨
      later.isDecided = true ∧ script.reply (ticket + 1) = .departure) :
    script.Dealing limits next words method ticket later where
  attached := attached.trans dealing.attached
  found := found
  last := sameLength.trans dealing.last
  named := by rw [identity, dealing.named]
  limited := by rw [identity, dealing.limited]
  settled earlier before :=
    Session.isSome_outcome? consistent happens (dealing.settled earlier before)
  fits := fits
  told := told
  gone := gone

/-- A call whose response is expected is not decided, unless it has waited long enough. -/
theorem undecided (dealing : script.Dealing limits session words method ticket call)
    (consistent : session.Consistent)
    (expected : session.pending.find? (.number call.id) = some ticket)
    (waits : call.phase ≠ .expired) : call.isDecided = false := by
  obtain ⟨outstanding, empty⟩ := consistent.of_expected dealing.found expected
  have fits := dealing.fits
  rw [Reply.Fits] at fits
  rw [Call.isDecided]
  cases phase : call.phase with
  | allocated | registered | waiting => simp only [empty, Option.isSome_none]
  | unsent => simp only [phase] at fits
  | expired => exact absurd phase waits
  | finished => simp [phase, CallPhase.isOutstanding] at outstanding

/-- What happens in the background leaves the call under way; at most, it is handed what the
script says. -/
theorem background (dealing : script.Dealing limits session words method ticket call)
    (consistent : session.Consistent) (background : event.isBackground = true)
    (scripted : (AnalysisEvent.background event).IsScripted script session)
    (happens : session.after? event = some next) :
    ∃ later, script.Dealing limits next words method ticket later ∧ later.left ≤ call.left := by
  have effect := Session.Effect.of_after? happens
  obtain ⟨outlet, sameLength, closed⟩ := effect.frame background
  obtain ⟨later, found, move⟩ := effect.move consistent dealing.found
  have told := dealing.told
  rw [← Session.transcript_of_background background happens] at told
  have gone (more : call.isDecided = true → later.isDecided = true) :
      next.closed = true → script.reply ticket = .departure ∨
        later.isDecided = true ∧ script.reply (ticket + 1) = .departure := by
    intro isClosed
    have before : script.reply ticket = .departure ∨
        call.isDecided = true ∧ script.reply (ticket + 1) = .departure := by
      rcases closed with same | rfl
      · exact dealing.gone (same ▸ isClosed)
      · exact dealing.leaves scripted
    exact before.imp_right (And.imp_left more)
  have decided (outcome : Except Failure Json) (already : call.isDecided = true) :
      Call.isDecided { call with inbox := some outcome } = true := by
    obtain ⟨id, method, params, limit, phase, inbox⟩ := call
    cases phase <;> rfl
  have lessLeft (outcome : Except Failure Json) :
      Call.left { call with inbox := some outcome } ≤ call.left := by
    simp [Call.left]
  cases move with
  | stay =>
    exact ⟨call, dealing.moved consistent happens outlet sameLength found rfl dealing.fits told
      (gone id), Nat.le_refl _⟩
  | @answer time response meant expected =>
    have outstanding := (consistent.of_expected dealing.found expected).1
    have yields (waits : call.phase ≠ .expired) :
        (script.reply ticket).Yields response.outcome := by
      have answers : script.MayAnswer session response := scripted
      have undecided := dealing.undecided consistent expected waits
      exact (answers ticket call dealing.found meant expected undecided).yields
    exact ⟨_, dealing.moved consistent happens outlet sameLength found rfl
      (dealing.fits.handed outstanding yields) told (gone (decided _)), lessLeft _⟩
  | abandon expected =>
    have outstanding := (consistent.of_expected dealing.found expected).1
    have yields (waits : call.phase ≠ .expired) :
        (script.reply ticket).Yields (.error .sessionClosed) := by
      have undecided := dealing.undecided consistent expected waits
      rcases dealing.leaves scripted with left | ⟨already, _⟩
      · rw [left]
        rfl
      · rw [undecided] at already
        cases already
    exact ⟨_, dealing.moved consistent happens outlet sameLength found rfl
      (dealing.fits.handed outstanding yields) told (gone (decided _)), lessLeft _⟩
  | _ => cases background

/-- A call that is not written yet has been told nothing about. -/
theorem told_early (dealing : script.Dealing limits session words method ticket call)
    (early : call.phase.mayBeWritten = false) : session.transcript = words := by
  rcases dealing.told with ⟨_, told⟩ | ⟨written, _⟩
  · exact told
  · rw [early] at written
    cases written

/-- A call that must have been written has been. -/
theorem told_late (dealing : script.Dealing limits session words method ticket call)
    (late : call.phase.mayBeUnwritten = false) : session.transcript = words ++ [method] := by
  rcases dealing.told with ⟨unwritten, _⟩ | ⟨_, told⟩
  · rw [late] at unwritten
    cases unwritten
  · exact told

/-- A call whose phase is set is dealt with as before, if what it is known to be is true of
the new phase. -/
theorem setPhase {current : Session} {phase : CallPhase}
    (dealing : script.Dealing limits session words method ticket call)
    (consistent : session.Consistent)
    (happens : session.after? event = some (current.setPhase ticket phase))
    (calls : current.calls = session.calls) (outlet : current.outlet = session.outlet)
    (closed : current.closed = session.closed)
    (fits : (script.reply ticket).Fits { call with phase })
    (told : phase.mayBeUnwritten = true ∧ current.transcript = words ∨
      phase.mayBeWritten = true ∧ current.transcript = words ++ [method])
    (decided : call.isDecided = true → Call.isDecided { call with phase } = true) :
    script.Dealing limits (current.setPhase ticket phase) words method ticket
      { call with phase } := by
  refine dealing.moved consistent happens outlet ?_ ?_ rfl fits told fun isClosed => ?_
  · simp [Session.setPhase, calls]
  · simp [Session.setPhase, calls, dealing.found]
  · exact (dealing.gone (closed ▸ isClosed)).imp_right (And.imp_left decided)

/-- A call that has an identifier registers, unless the server has left. -/
theorem register (dealing : script.Dealing limits session words method ticket call)
    (consistent : session.Consistent) (phase : call.phase = .allocated)
    (happens : session.after? event = some (session.register ticket call)) :
    ∃ later, script.Dealing limits (session.register ticket call) words method ticket later ∧
      later.left < call.left := by
  have empty : call.inbox = none := by simpa [Reply.Fits, phase] using dealing.fits
  have told := dealing.told_early (by rw [phase]; rfl)
  have undecided : call.isDecided = false := by simp [Call.isDecided, phase, empty]
  rw [Session.register] at happens ⊢
  by_cases closed : session.closed = true
  · rw [if_pos closed] at happens ⊢
    have refused : script.reply ticket = .departure := by
      refine (dealing.gone closed).resolve_right fun gone => ?_
      have already := gone.1
      rw [undecided] at already
      cases already
    have fits : (script.reply ticket).Fits
        { call with phase := .finished (.error .sessionClosed) } := by
      rw [refused]
      rfl
    exact ⟨_, dealing.setPhase consistent happens rfl rfl rfl fits (.inl ⟨rfl, told⟩)
      fun _ => rfl, by simp [Call.left, phase]⟩
  · rw [if_neg closed] at happens ⊢
    have fits : (script.reply ticket).Fits { call with phase := .registered } := by
      intro outcome handed
      rw [empty] at handed
      cases handed
    refine ⟨_, dealing.setPhase consistent happens rfl rfl rfl fits (.inl ⟨rfl, told⟩)
      fun already => ?_, by simp [Call.left, phase]⟩
    rw [undecided] at already
    cases already

/-- A call that is expected writes its request. -/
theorem send (dealing : script.Dealing limits session words method ticket call)
    (consistent : session.Consistent) (phase : call.phase = .registered)
    (happens : session.after? event = some (session.writeRequest ⟨time, none⟩ ticket call)) :
    ∃ later, script.Dealing limits (session.writeRequest ⟨time, none⟩ ticket call) words method
      ticket later ∧ later.left < call.left := by
  have handed : ∀ outcome, call.inbox = some outcome → (script.reply ticket).Yields outcome := by
    simpa [Reply.Fits, phase] using dealing.fits
  have told := dealing.told_early (by rw [phase]; rfl)
  have wrote : session.write none call.request =
      .ok { session with sent := session.sent ++ [call.request] } := by
    simp only [Session.write, dealing.attached]
  have toldToo : Session.transcript { session with sent := session.sent ++ [call.request] } =
      words ++ [method] := by
    rw [← told, ← dealing.named]
    simp [Session.transcript, Message.method?, Call.request, Request.make]
  have fits : (script.reply ticket).Fits
      { call with phase := .waiting (call.deadlineFrom time) } :=
    ⟨handed, by simp [Call.deadlineFrom]⟩
  rw [Session.writeRequest, wrote] at happens ⊢
  refine ⟨_, dealing.setPhase consistent happens rfl rfl rfl fits (.inr ⟨rfl, toldToo⟩)
    fun already => ?_, by simp [Call.left, phase]⟩
  simpa [Call.isDecided, phase] using already

/-- A call that waits takes what it has been handed, or has waited long enough. -/
theorem await {deadline : Option Nat}
    (dealing : script.Dealing limits session words method ticket call)
    (consistent : session.Consistent) (waits : script.MayWait session time)
    (phase : call.phase = .waiting deadline) (happens : session.after? event = some next)
    (moved : session.await ⟨time, none⟩ ticket call deadline = some next) :
    ∃ later, script.Dealing limits next words method ticket later ∧ later.left < call.left := by
  have told := dealing.told_late (by rw [phase]; rfl)
  rw [Session.await] at moved
  split at moved
  · next outcome inbox =>
    obtain rfl := Option.some.inj moved
    have fits := dealing.fits
    simp only [Reply.Fits, phase] at fits
    have fitsToo : (script.reply ticket).Fits { call with phase := .finished outcome } :=
      fits.1 outcome inbox
    exact ⟨_, dealing.setPhase consistent happens rfl rfl rfl fitsToo (.inr ⟨rfl, told⟩)
      fun _ => rfl, by simp [Call.left, phase]⟩
  · next empty =>
    split at moved
    · next due =>
      obtain rfl := Option.some.inj moved
      have silent : script.reply ticket = .silence :=
        waits ticket call deadline dealing.found phase empty due
      exact ⟨_, dealing.setPhase consistent happens rfl rfl rfl silent (.inr ⟨rfl, told⟩)
        fun _ => rfl, by simp [Call.left, phase]⟩
    · cases moved

/-- A call that has waited long enough gives up. -/
theorem withdraw (dealing : script.Dealing limits session words method ticket call)
    (consistent : session.Consistent) (phase : call.phase = .expired)
    (happens : session.after? event =
      some (session.withdraw ticket call call.timeoutFailure)) :
    ∃ later, script.Dealing limits (session.withdraw ticket call call.timeoutFailure) words method
      ticket later ∧ later.left < call.left := by
  have silent : script.reply ticket = .silence := by
    simpa [Reply.Fits, phase] using dealing.fits
  have told := dealing.told_late (by rw [phase]; rfl)
  have fits : (script.reply ticket).Fits
      { call with phase := .finished (.error call.timeoutFailure) } := by
    rw [silent]
    exact ⟨_, rfl⟩
  exact ⟨_, dealing.setPhase consistent happens rfl rfl rfl fits (.inr ⟨rfl, told⟩)
    fun _ => rfl, by simp [Call.left, phase]⟩

/-- A call that goes on is still dealt with, and has less to do. -/
theorem advance (dealing : script.Dealing limits session words method ticket call)
    (consistent : session.Consistent) (waits : script.MayWait session time)
    (moved : session.stepCall ⟨time, none⟩ ticket = some next) :
    ∃ later, script.Dealing limits next words method ticket later ∧ later.left < call.left := by
  have happens : session.after? (.proceed call.turn ⟨time, none⟩ ticket) = some next := by
    simp [Session.after?, dealing.found, moved]
  simp only [Session.stepCall, dealing.found] at moved
  split at moved
  · next phase =>
    obtain rfl := Option.some.inj moved
    exact dealing.register consistent phase happens
  · next phase =>
    obtain rfl := Option.some.inj moved
    exact dealing.send consistent phase happens
  · next phase =>
    have fits := dealing.fits
    simp only [Reply.Fits, phase] at fits
  · next phase => exact dealing.await consistent waits phase happens moved
  · next phase =>
    obtain rfl := Option.some.inj moved
    exact dealing.withdraw consistent phase happens
  · cases moved

/-- At most the request of the call has been written. -/
theorem told_prefix (dealing : script.Dealing limits session words method ticket call) :
    session.transcript <+: words ++ [method] := by
  rcases dealing.told with ⟨_, told⟩ | ⟨_, told⟩
  · rw [told]
    exact List.prefix_append words [method]
  · rw [told]

/-- A call that is over yields what the reply makes of it. -/
theorem yields {outcome : Except Failure Json}
    (dealing : script.Dealing limits session words method ticket call)
    (isOver : session.outcome? ticket = some outcome) : (script.reply ticket).Yields outcome := by
  simp only [Session.outcome?, dealing.found, Option.bind_some,
    CallPhase.outcome?_eq_some_iff] at isOver
  have fits := dealing.fits
  simpa only [Reply.Fits, isOver] using fits

/-- After a call that was successful, the session is between two calls again. -/
theorem rests {value : Json} (dealing : script.Dealing limits session words method ticket call)
    (isOver : session.outcome? ticket = some (.ok value)) :
    script.Resting session (words ++ [method]) (ticket + 1) := by
  have ended := isOver
  simp only [Session.outcome?, dealing.found, Option.bind_some,
    CallPhase.outcome?_eq_some_iff] at ended
  refine ⟨dealing.attached, dealing.told_late (by rw [ended]; rfl), dealing.last, ?_, ?_⟩
  · intro earlier before
    rcases Nat.lt_or_eq_of_le (Nat.le_of_lt_succ before) with earlier' | rfl
    · exact dealing.settled earlier earlier'
    · rw [isOver]
      rfl
  · intro closed
    refine ((dealing.gone closed).resolve_left fun left => ?_).2
    have result := (dealing.yields isOver).eq_result
    rw [left] at result
    cases result

/-- A call that waits for the server is handed something by an event that the script
allows. -/
theorem handed {outcome : Except Failure Json}
    (dealing : script.Dealing limits session words method ticket call)
    (consistent : session.Consistent) (background : event.isBackground = true)
    (scripted : (AnalysisEvent.background event).IsScripted script session)
    (happens : session.after? event = some next) (empty : call.inbox = none)
    (found : next.calls[ticket]? = some { call with inbox := some outcome }) :
    ∃ later, script.Dealing limits next words method ticket later ∧ later.left < call.left := by
  obtain ⟨later, dealingNext, _⟩ := dealing.background consistent background scripted happens
  obtain rfl := Option.some.inj (dealingNext.found.symm.trans found)
  exact ⟨_, dealingNext, by simp [Call.left, empty]⟩

/-- Whether the call with a ticket can go on by itself, or something may happen in the
background that takes it further. -/
def Proceeding (script : Script) (limits : Limits) (session : Session) (words : List String)
    (method : String) (ticket : Nat) (call : Call) : Prop :=
  (∃ time next, script.MayWait session time ∧
    session.stepCall ⟨time, none⟩ ticket = some next) ∨
  ∃ event next later, event.isBackground = true ∧
    (AnalysisEvent.background event).IsScripted script session ∧
    session.after? event = some next ∧
    script.Dealing limits next words method ticket later ∧ later.left < call.left

/-- A call that waits is answered, waits for long enough, or sees the server leave, as the
script says. -/
theorem served {deadline : Option Nat}
    (dealing : script.Dealing limits session words method ticket call)
    (consistent : session.Consistent) (phase : call.phase = .waiting deadline)
    (empty : call.inbox = none)
    (expected : session.pending.find? (.number call.id) = some ticket)
    (limited : script.reply ticket = .silence → limits.baseSeconds.isSome = true) :
    Proceeding script limits session words method ticket call := by
  have found := dealing.found
  cases answer : (script.reply ticket).response? (.number call.id) with
  | some response =>
    obtain ⟨gives, meant⟩ := Reply.gives_of_response? answer
    have answers : script.MayAnswer session response := by
      intro other another _ meantToo expectedToo _
      rw [meantToo.unique meant, expected] at expectedToo
      obtain rfl := Option.some.inj expectedToo
      exact gives
    have scripted : (AnalysisEvent.background (.dispatch 0 (.response response))).IsScripted
        script session := answers
    have happens : session.after? (.dispatch 0 (.response response)) =
        some (session.handOver response) := rfl
    obtain ⟨same, present, handed⟩ := consistent.handOver_expected expected meant
    obtain rfl := Option.some.inj (found.symm.trans present)
    obtain ⟨later, dealingNext, less⟩ :=
      dealing.handed consistent rfl scripted happens empty handed
    exact .inr ⟨_, _, later, rfl, scripted, happens, dealingNext, less⟩
  | none =>
    cases reply : script.reply ticket with
    | result | error | both => simp [reply, Reply.response?] at answer
    | silence =>
      have fits := dealing.fits
      simp only [Reply.Fits, phase] at fits
      rw [dealing.limited, limited reply] at fits
      obtain ⟨time, rfl⟩ := Option.isSome_iff_exists.mp fits.2
      refine .inl ⟨time, session.setPhase ticket .expired, dealing.mayWait fun _ _ _ _ => reply, ?_⟩
      simp [Session.stepCall, found, phase, Session.await, empty, isDue]
    | departure =>
      have undecided : call.isDecided = false := by simp [Call.isDecided, phase, empty]
      have leaves : script.MayLeave session := by
        rw [MayLeave, dealing.countP_isDecided, undecided, if_neg Bool.false_ne_true, reply]
      have scripted : (AnalysisEvent.background .abandon).IsScripted script session := leaves
      have happens : session.after? .abandon = some session.abandonCalls := rfl
      have handed : session.abandonCalls.calls[ticket]? =
          some { call with inbox := some (.error .sessionClosed) } := by
        have waits := (consistent.expected_iff found).mp expected
        rw [Session.getElem?_abandonCalls, if_pos waits, found]
        rfl
      obtain ⟨later, dealingNext, less⟩ :=
        dealing.handed consistent rfl scripted happens empty handed
      exact .inr ⟨_, _, later, rfl, scripted, happens, dealingNext, less⟩

/-- A call that is not over goes on by itself, or something happens that it waits for. -/
theorem onward (dealing : script.Dealing limits session words method ticket call)
    (consistent : session.Consistent) (expectant : session.Expectant)
    (unfinished : session.outcome? ticket = none)
    (limited : script.reply ticket = .silence → limits.baseSeconds.isSome = true) :
    Proceeding script limits session words method ticket call := by
  have found := dealing.found
  have fits := dealing.fits
  have atOnce (ready : (session.stepCall ⟨0, none⟩ ticket).isSome)
      (busy : ∀ deadline, call.phase = .waiting deadline → call.inbox ≠ none) :
      Proceeding script limits session words method ticket call := by
    obtain ⟨next, moved⟩ := Option.isSome_iff_exists.mp ready
    refine .inl ⟨0, next, dealing.mayWait fun deadline phase empty _ => ?_, moved⟩
    exact absurd empty (busy deadline phase)
  simp only [Session.outcome?, found, Option.bind_some] at unfinished
  rw [Reply.Fits] at fits
  cases phase : call.phase with
  | allocated | registered | expired =>
    refine atOnce (by simp only [Session.stepCall, found, phase, Option.isSome_some]) ?_
    rintro deadline wrong
    rw [phase] at wrong
    cases wrong
  | unsent => simp only [phase] at fits
  | finished outcome => simp [phase, CallPhase.outcome?] at unfinished
  | waiting deadline =>
    cases inbox : call.inbox with
    | some outcome =>
      refine atOnce ?_ fun _ _ => by simp [inbox]
      simp only [Session.stepCall, found, phase, Session.await, inbox, Option.isSome_some]
    | none =>
      exact dealing.served consistent phase inbox
        (expectant ticket call found (by rw [phase]; rfl) inbox) limited

end Dealing

end Script

end FoldAtlas
