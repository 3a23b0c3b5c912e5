import FoldAtlas.Proofs.Client.Admission

/-!
# Announcements that fail

A client says that its document is open before it announces it, and takes this back when the
announcement could not be written. It is then as if nothing had been tried: whatever comes
after comes about in the same way from what happened in the background alone
(`Client.LeavesNoTrace`). Failed announcements can therefore be forgotten wherever they occur
in a history, and any number of them (`failed_openings_leave_no_trace`).

`Client.Trying` follows an announcement from its beginning until it is over. What it carries is
that the session of the client is, all along, the one that the background alone makes.
-/

namespace FoldAtlas

namespace Episode

/-- Whether an episode is an announcement that fails, but is not refused. -/
def isFailedOpening : Episode → Bool
  | .errand (.openDocument _ _ _ .begun) _ (.failed failure) => !failure.isRefusal
  | .errand _ _ _ | .pause _ => false

/-- What is left of an episode when the operation in it is forgotten: what happens in the
background. -/
def pauses (episode : Episode) : List Episode :=
  episode.background.map .pause

end Episode

namespace Client

variable {client later next : Client} {document : AnnouncedDocument} {languageId text : String}
  {events : List ClientEvent} {operation : Operation}
  {attempt : Episode} {episodes fewer : List Episode}

/-! ## An announcement under way -/

/-- How far the announcement of a document is, when so much has happened in the background
since it began. -/
inductive Trying (client : Client) (document : AnnouncedDocument) (languageId text : String)
    (background : List SessionEvent) : Client → Operation → Prop where
  | waits {session : Session} (run : client.session.Steps background session) :
      Trying client document languageId text background { client with session }
        (.openDocument document languageId text .begun)
  | claims {session : Session} (ready : client.state = .ready)
      (run : client.session.Steps background session) :
      Trying client document languageId text background
        { client with session, state := .documentOpen }
        (.openDocument document languageId text .announcing)
  /-- The announcement could not be written. -/
  | takesBack {session : Session} {failure : Failure} (ready : client.state = .ready)
      (run : client.session.Steps background session)
      (cause : failure = .sessionClosed ∨ ∃ fault, failure = .stream fault) :
      Trying client document languageId text background { client with session, state := .ready }
        (.over (.failed failure))
  | refused {later : Client} {name : String} {state : Lifecycle} :
      Trying client document languageId text background later
        (.over (.failed (.invalidState name state)))
  /-- It has been written. -/
  | succeeds {later : Client} {after : Operation}
      (written : after = .openDocument document languageId text .announced ∨
        after = .over (.returned (.document document))) :
      Trying client document languageId text background later after

/-- A stage of the announcement. -/
theorem Trying.advance {background : List SessionEvent} {surroundings : Surroundings}
    {after : Operation}
    (trying : Trying client document languageId text background later operation)
    (moved : later.step surroundings operation = some (next, after)) :
    Trying client document languageId text background next after := by
  cases trying with
  | @waits session run =>
    simp only [Client.step, Client.stepOpening] at moved
    split at moved
    · next ready =>
      cases moved
      exact .claims ready run
    · cases moved
      exact .refused
  | @claims session ready run =>
    rcases session.write_cases surroundings.fault (.notification (.make openingMethod
      (some (document.announcement languageId text)))) with
      ⟨_, wrote⟩ | ⟨failure, hindered, wrote⟩
    · simp only [Client.step, Client.stepOpening, Session.notify, wrote] at moved
      cases moved
      exact .succeeds (.inl rfl)
    · simp only [Client.step, Client.stepOpening, Session.notify, wrote] at moved
      cases moved
      exact .takesBack ready run (Outlet.cause_of_hindrance? hindered)
  | takesBack | refused => cases moved
  | succeeds written =>
    rcases written with rfl | rfl
    · cases moved
      exact .succeeds (.inr rfl)
    · cases moved

/-- Something happens in the background of the announcement. -/
theorem Trying.background {background : List SessionEvent} {event : SessionEvent}
    {session : Session}
    (trying : Trying client document languageId text background later operation)
    (happens : later.session.after? event = some session) :
    Trying client document languageId text (background ++ [event]) { later with session }
      operation := by
  cases trying with
  | waits run => exact .waits (run.step happens)
  | claims ready run => exact .claims ready (run.step happens)
  | takesBack ready run cause => exact .takesBack ready (run.step happens) cause
  | refused => exact .refused
  | succeeds written => exact .succeeds written

/-- However long an announcement takes. -/
theorem Steps.trying {last : Client × Operation}
    (unbegun : ∀ event ∈ events, event.isBegin = false)
    (run : Steps (client, .openDocument document languageId text .begun) events last) :
    Trying client document languageId text (events.filterMap ClientEvent.background?) last.1
      last.2 := by
  refine run.keeps (fun events => Trying client document languageId text
    (events.filterMap ClientEvent.background?)) unbegun (.waits .refl) ?_ ?_
  · intro events current goal surroundings next after _ trying moved
    simpa [List.filterMap_cons, ClientEvent.background?] using trying.advance moved
  · intro events current goal event session _ trying _ happens
    simpa [ClientEvent.background?] using trying.background happens

/-- What is known of an announcement that has failed and was not refused. -/
structure Fails (client : Client) (attempt : Episode) (later : Client) : Prop where
  ready : client.state = .ready
  /-- It could not be written. -/
  cause : ∀ operation events failure, attempt = .errand operation events (.failed failure) →
    failure = .sessionClosed ∨ ∃ fault, failure = .stream fault
  background : ∀ event ∈ attempt.background, event.isBackground = true
  same : ∃ session, client.session.Steps attempt.background session ∧
    later = { client with session }

/-- An announcement that fails and is not refused began in its place, and the client is what
the background alone makes of it. -/
theorem Undergoes.fails (undergoes : client.Undergoes attempt later)
    (failed : attempt.isFailedOpening = true) : client.Fails attempt later := by
  cases undergoes with
  | pause => cases failed
  | @errand operation events ending _ fresh unbegun run =>
    -- only an announcement that ends with a failure counts
    obtain ⟨document, languageId, text, failure, rfl, rfl, unrefused⟩ :
        ∃ document languageId text failure,
          operation = .openDocument document languageId text .begun ∧
            ending = .failed failure ∧ failure.isRefusal = false := by
      unfold Episode.isFailedOpening at failed
      split at failed
      · next same =>
        cases same
        exact ⟨_, _, _, _, rfl, rfl, by simpa using failed⟩
      · cases failed
      · cases failed
    have trying := Steps.trying unbegun run
    generalize reached : Operation.over (.failed failure) = after at trying
    cases trying with
    | waits | claims => cases reached
    | refused =>
      cases reached
      cases unrefused
    | succeeds written => rcases written with rfl | rfl <;> cases reached
    | @takesBack session _ ready onward cause =>
      cases reached
      refine ⟨ready, ?_, run.isBackground, session, onward, by rw [← ready]⟩
      rintro _ _ _ ⟨⟩
      exact cause

/-! ## Forgetting -/

/-- A client at an operation is led to one place by some events. -/
theorem Steps.run?_eq {first last : Client × Operation} (run : Steps first events last) :
    run? first events = some last := by
  induction run with
  | refl => rfl
  | step _ transition ih =>
    simp only [run?] at ih
    simp [run?, List.foldlM_append, ih, transition]

/-- An episode makes one client of a client. -/
theorem Undergoes.unique {other : Client} (undergoes : client.Undergoes attempt later)
    (too : client.Undergoes attempt other) : later = other := by
  cases undergoes with
  | errand _ _ run =>
    cases too with
    | errand _ _ runToo =>
      exact congrArg Prod.fst (Option.some.inj (run.run?_eq.symm.trans runToo.run?_eq))
  | pause _ happens =>
    cases too with
    | pause _ happensToo => rw [Option.some.inj (happens.symm.trans happensToo)]

/-- Episodes lead to one client. -/
theorem History.unique {other : Client} (history : History client episodes later)
    (too : History client episodes other) : later = other := by
  induction history with
  | nil =>
    cases too
    rfl
  | cons undergoes _ ih =>
    cases too with
    | cons undergoesToo rest =>
      obtain rfl := undergoes.unique undergoesToo
      exact ih rest

/-- What happens in the background of a failed announcement leads, by itself, to the client that
the announcement leaves. -/
theorem Fails.pauses (fails : client.Fails attempt later) :
    History client attempt.pauses later := by
  obtain ⟨session, run, rfl⟩ := fails.same
  exact .pauses run fails.background

/-- Some episodes with some of the failed announcements among them forgotten, but for what
happened in their background. -/
inductive Forgets : List Episode → List Episode → Prop where
  | nil : Forgets [] []
  | keep (episode : Episode) {episodes fewer : List Episode} (rest : Forgets episodes fewer) :
      Forgets (episode :: episodes) (episode :: fewer)
  | forget {attempt : Episode} {episodes fewer : List Episode}
      (failed : attempt.isFailedOpening = true) (rest : Forgets episodes fewer) :
      Forgets (attempt :: episodes) (attempt.pauses ++ fewer)

/-- What is left when failed announcements are forgotten leads to the same client. -/
theorem Forgets.history (forgets : Forgets episodes fewer)
    (history : History client episodes later) : History client fewer later := by
  induction forgets generalizing client with
  | nil => exact history
  | keep episode _ ih =>
    cases history with
    | cons undergoes rest => exact .cons undergoes (ih rest)
  | forget failed _ ih =>
    cases history with
    | cons undergoes rest => exact (undergoes.fails failed).pauses.append (ih rest)

/-! ## No trace -/

/-- An announcement that fails leaves no trace in a client. -/
structure LeavesNoTrace (client : Client) (attempt : Episode) (later : Client) : Prop where
  /-- It began in its place and could not be written; and the client is what the background
  alone makes of it. -/
  fails : client.Fails attempt later
  unopened : client.document = none
  /-- Nothing has happened to the calls, and nothing was written but what the background wrote. -/
  unstirred : client.session.Unstirred later.session
  /-- Nothing that comes after tells it from what happened in its background. -/
  indistinguishable : ∀ episodes last,
    History client (attempt :: episodes) last ↔ History client (attempt.pauses ++ episodes) last

/-- An announcement that fails and is not refused leaves no trace in a client that is as it
should be. -/
theorem Undergoes.leavesNoTrace {ending : Ending} (undergoes : client.Undergoes attempt later)
    (failed : attempt.isFailedOpening = true) (idle : client.Coherent (.over ending)) :
    client.LeavesNoTrace attempt later := by
  have fails := undergoes.fails failed
  refine ⟨fails, ?_, ?_, fun episodes last => ⟨?_, ?_⟩⟩
  · have fits := idle.fits
    simpa only [Fits, Idles, fails.ready] using fits
  · obtain ⟨session, run, rfl⟩ := fails.same
    exact (idle.only.unstirred run fails.background).2
  · rintro (_ | ⟨undergoesToo, rest⟩)
    exact (undergoesToo.fails failed).pauses.append rest
  · intro paused
    obtain ⟨middle, pauses, rest⟩ := History.append_iff.mp paused
    obtain rfl := fails.pauses.unique pauses
    exact .cons undergoes rest

/-- However a client has come to where it is, an announcement that fails and is not refused
leaves no trace in it; and the failed announcements on its way there can be forgotten, any
number of them, since what is left leads to the same client, with every other operation ending
as it did, and to no other. -/
theorem failed_openings_leave_no_trace {limits : Limits} {rootUri : String} {processId : Nat}
    {process : ServerProcess}
    (history : History (start limits rootUri processId process) episodes client) :
    (∀ attempt later, attempt.isFailedOpening = true → client.Undergoes attempt later →
      client.LeavesNoTrace attempt later) ∧
    ∀ fewer, Forgets episodes fewer →
      ∀ last, History (start limits rootUri processId process) fewer last ↔ last = client := by
  obtain ⟨_, idle⟩ := history.coherent
  refine ⟨fun attempt later failed undergoes => undergoes.leavesNoTrace failed idle,
    fun fewer forgets last => ?_⟩
  have shorter := forgets.history history
  constructor
  · exact fun other => other.unique shorter
  · rintro rfl
    exact shorter

/-- An announcement meets a broken stream, while a response comes in that nobody waits for. -/
def brokenOpening : Episode :=
  .errand (.openUri "file:///a.py" "python" "")
    [.advance ⟨2, none⟩, .background (.dispatch 2 (.response (.ok (.number 1) .null))),
      .advance ⟨2, some .brokenPipe⟩]
    (.failed (.stream .brokenPipe))

/-- An announcement is written. -/
def soundOpening : Episode :=
  .errand (.openUri "file:///a.py" "python" "") (List.replicate 3 (.advance ⟨3, none⟩))
    (.returned (.document (.first "file:///a.py")))

/-- Two announcements fail before one succeeds. The first leaves no trace, and both can be
forgotten. -/
theorem soundOpening_of_brokenOpenings :
    ∃ ready failed client,
      History (start ⟨none, 2, true⟩ "file:///" 7 .none) [plainGreeting] ready ∧
      ready.LeavesNoTrace brokenOpening failed ∧
      History (start ⟨none, 2, true⟩ "file:///" 7 .none)
        [plainGreeting, brokenOpening, brokenOpening, soundOpening] client ∧
      client.document = some (.first "file:///a.py") ∧
      client.session.transcript = ["initialize", "initialized", "textDocument/didOpen"] ∧
      ∀ last, History (start ⟨none, 2, true⟩ "file:///" 7 .none)
        (plainGreeting :: (brokenOpening.pauses ++ (brokenOpening.pauses ++ [soundOpening]))) last ↔
          last = client := by
  obtain ⟨ready, failed, greeting, attempt⟩ : ∃ ready failed,
      History (start ⟨none, 2, true⟩ "file:///" 7 .none) [plainGreeting] ready ∧
        ready.Undergoes brokenOpening failed :=
    ⟨_, _, .single (.errand rfl (by decide) (.of_run? rfl)),
      .errand rfl (by decide) (.of_run? rfl)⟩
  obtain ⟨client, history, opened, written⟩ : ∃ client,
      History (start ⟨none, 2, true⟩ "file:///" 7 .none)
        [plainGreeting, brokenOpening, brokenOpening, soundOpening] client ∧
      client.document = some (.first "file:///a.py") ∧
      client.session.transcript = ["initialize", "initialized", "textDocument/didOpen"] :=
    ⟨_, .cons (.errand rfl (by decide) (.of_run? rfl))
      (.cons (.errand rfl (by decide) (.of_run? rfl))
        (.cons (.errand rfl (by decide) (.of_run? rfl))
          (.single (.errand rfl (by decide) (.of_run? rfl))))), rfl, rfl⟩
  exact ⟨ready, failed, client, greeting,
    (failed_openings_leave_no_trace greeting).1 _ _ rfl attempt, history, opened, written,
    (failed_openings_leave_no_trace history).2 _
      (.keep _ (.forget rfl (.forget rfl (.keep _ .nil))))⟩

end Client

end FoldAtlas
