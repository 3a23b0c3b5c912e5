import FoldAtlas.Proofs.Analysis.Operations

/-!
# What an analysis comes to

At a server that keeps to its script, an analysis comes to what the script decides
(`analysis_follows_script`), whenever and in whatever order things happen: it reports
exactly if all three questions are answered with something that can be read, with what was
read and the pairs of it, and otherwise it fails as the first question does that brings
nothing, before anything is written that belongs to a later one. It takes a limited number
of steps, and it can always go on to its end.

There are two ways to no end at all, neither of which is the server's doing: a limit of the
greeting that cannot be counted (`uncountable_limit_breaks_down`), and an offset so extreme
that a sum of it overflows when symbols are paired.
-/

namespace FoldAtlas

namespace Script

variable {script : Script} {limits : Limits} {subject : AnalysisSubject} {client next : Client}
  {analysis after : Analysis} {left : Nat} {event : SessionEvent} {session : Session}
  {failure : Failure} {report : Findings} {rule : PairingRule} {time : Nat}

/-! ## What a script decides -/

/-- Whether all questions are answered with something that can be read, and what an analysis
then reports. -/
structure Supports (script : Script) (rule : PairingRule) (report : Findings) : Prop where
  greeting : ∃ greeting, script.greeting.Brings .greeting (.ok greeting)
  regions : script.folding.Brings .folding (.ok report.regions)
  symbols : script.symbols.Brings .symbols (.ok report.symbols)
  folded : report.folded = rule.pairs report.symbols report.regions

/-- A report that a script supports consists of what was read and the pairs of it. -/
theorem Supports.eq_make (supports : script.Supports rule report) :
    report = .make report.symbols report.regions rule := by
  rw [Findings.make, ← supports.folded]

/-- A script supports one report only. -/
theorem Supports.unique {other : Findings} (supports : script.Supports rule report)
    (supportsToo : script.Supports rule other) : report = other :=
  calc report
      = .make report.symbols report.regions rule := supports.eq_make
    _ = .make other.symbols other.regions rule := by
        rw [supports.regions.unique supportsToo.regions,
          supports.symbols.unique supportsToo.symbols]
    _ = other := supportsToo.eq_make.symm

/-- How the first question fails that brings nothing, and how many words have been written at
most by then. -/
inductive FailsFirst (script : Script) (failure : Failure) : (written : Nat) → Prop where
  | greeting (fails : script.greeting.Brings .greeting (.error failure)) :
      FailsFirst script failure 1
  | folding {greeting : Greeting} (greeted : script.greeting.Brings .greeting (.ok greeting))
      (fails : script.folding.Brings .folding (.error failure)) : FailsFirst script failure 4
  | symbols {greeting : Greeting} {regions : List FoldingRange}
      (greeted : script.greeting.Brings .greeting (.ok greeting))
      (folded : script.folding.Brings .folding (.ok regions))
      (fails : script.symbols.Brings .symbols (.error failure)) : FailsFirst script failure 5

namespace FailsFirst

variable {written : Nat} {greeting : Greeting} {regions : List FoldingRange}

/-- The first word is always written. -/
theorem one_le (fails : script.FailsFirst failure written) : 1 ≤ written := by
  cases fails <;> decide

/-- After a successful greeting, all words up to the first query are written. -/
theorem four_le (fails : script.FailsFirst failure written)
    (greeted : script.greeting.Brings .greeting (.ok greeting)) : 4 ≤ written := by
  cases fails with
  | greeting failed => exact absurd failed greeted.not_error
  | folding | symbols => decide

/-- After a successful query for folding regions, all words are written. -/
theorem five_le (fails : script.FailsFirst failure written)
    (greeted : script.greeting.Brings .greeting (.ok greeting))
    (folded : script.folding.Brings .folding (.ok regions)) : 5 ≤ written := by
  cases fails with
  | greeting failed => exact absurd failed greeted.not_error
  | folding _ failed => exact absurd failed folded.not_error
  | symbols => decide

/-- One question is the first that fails, whatever it fails with. -/
theorem le {other : Failure} {count : Nat} (fails : script.FailsFirst failure written)
    (failsToo : script.FailsFirst other count) : written ≤ count := by
  cases fails with
  | greeting => exact failsToo.one_le
  | folding greeted => exact failsToo.four_le greeted
  | symbols greeted folded => exact failsToo.five_le greeted folded

end FailsFirst

/-- A script that supports a report lets no question fail. -/
theorem Supports.not_failsFirst {written : Nat} (supports : script.Supports rule report) :
    ¬ script.FailsFirst failure written := by
  obtain ⟨⟨greeting, greeted⟩, folded, listed, _⟩ := supports
  rintro (fails | ⟨_, fails⟩ | ⟨_, _, fails⟩)
  · exact greeted.not_error fails
  · exact folded.not_error fails
  · exact listed.not_error fails

/-! ## How far an analysis is -/

/-- Whether the greeting has been successful. -/
def Greeted (script : Script) (limits : Limits) : Prop :=
  limits.limitOf Greeting.openingMethod ≠ .uncountable ∧
    ∃ greeting, script.greeting.Brings .greeting (.ok greeting)

/-- How far an analysis is, and how many steps it has left. -/
def Stands (script : Script) (limits : Limits) (subject : AnalysisSubject) (client : Client)
    (left : Nat) : Analysis → Prop
  -- to what an operation has left, each stage adds what the later ones take at most: nine
  -- steps for a query, four for the announcement
  | .running .greeting operation =>
    ∃ rest, script.Greets limits client rest operation ∧ left = 22 + rest
  | .running .opening operation =>
    script.Greeted limits ∧ ∃ rest, script.Opens client rest operation ∧ left = 18 + rest
  | .running .folding operation =>
    script.Greeted limits ∧
      ∃ rest, script.Asks limits .folding (Analysis.words.take 3) 1 client rest operation ∧
        left = 9 + rest
  | .running (.listing regions) operation =>
    script.Greeted limits ∧ script.folding.Brings .folding (.ok regions) ∧
      script.Asks limits .symbols (Analysis.words.take 4) 2 client left operation
  | .reported report =>
    limits.limitOf Greeting.openingMethod ≠ .uncountable ∧ script.Supports subject.rule report ∧
      subject.rule.overflows report.symbols report.regions = false ∧
      client.session.transcript <+: Analysis.words
  | .failed failure =>
    limits.limitOf Greeting.openingMethod ≠ .uncountable ∧
      ∃ written, script.FailsFirst failure written ∧
        client.session.transcript <+: Analysis.words.take written
  | .brokeDown =>
    (limits.limitOf Greeting.openingMethod = .uncountable ∧ client.session.transcript = []) ∨
      ∃ report, script.Supports subject.rule report ∧
        subject.rule.overflows report.symbols report.regions = true ∧
        client.session.transcript <+: Analysis.words

/-- An analysis at its start. -/
theorem Stands.start (script : Script) (limits : Limits) (subject : AnalysisSubject)
    (rootUri : String) (processId : Nat) (process : ServerProcess) :
    script.Stands limits subject (.start limits rootUri processId process) 31 .start :=
  ⟨9, ⟨rfl, .start script .standard, rfl⟩, rfl⟩

/-- What happens in the background lets an analysis be as far as it is. -/
theorem Stands.background (stands : script.Stands limits subject client left analysis)
    (consistent : client.session.Consistent) (background : event.isBackground = true)
    (scripted : (AnalysisEvent.background event).IsScripted script client.session)
    (happens : client.session.after? event = some session) :
    ∃ less, less ≤ left ∧ script.Stands limits subject { client with session } less analysis := by
  have silent : session.transcript = client.session.transcript :=
    Session.transcript_of_background background happens
  cases analysis with
  | running stage operation =>
    cases stage with
    | greeting =>
      obtain ⟨rest, greets, rfl⟩ := stands
      obtain ⟨less, bound, greetsToo⟩ := greets.background consistent background scripted happens
      exact ⟨22 + less, by omega, less, greetsToo, rfl⟩
    | opening =>
      obtain ⟨greeted, rest, opens, rfl⟩ := stands
      exact ⟨18 + rest, Nat.le_refl _, greeted, rest,
        opens.background consistent background scripted happens, rfl⟩
    | folding =>
      obtain ⟨greeted, rest, asks, rfl⟩ := stands
      obtain ⟨less, bound, asksToo⟩ := asks.background consistent background scripted happens
      exact ⟨9 + less, by omega, greeted, less, asksToo, rfl⟩
    | listing regions =>
      obtain ⟨greeted, folded, asks⟩ := stands
      obtain ⟨less, bound, asksToo⟩ := asks.background consistent background scripted happens
      exact ⟨less, bound, greeted, folded, asksToo⟩
  | reported report =>
    obtain ⟨countable, supports, sound, told⟩ := stands
    exact ⟨left, Nat.le_refl left, countable, supports, sound, silent ▸ told⟩
  | failed failure =>
    obtain ⟨countable, written, fails, told⟩ := stands
    exact ⟨left, Nat.le_refl left, countable, written, fails, silent ▸ told⟩
  | brokeDown =>
    refine ⟨left, Nat.le_refl left, stands.imp ?_ ?_⟩
    · exact fun ⟨uncountable, told⟩ => ⟨uncountable, silent.trans told⟩
    · exact fun ⟨report, supports, overflow, told⟩ => ⟨report, supports, overflow, silent ▸ told⟩

/-- A query that fails fails as the question does. -/
theorem Dealing.brings_error {α : Type} {inquiry : Inquiry α}
    {decode : Json → Except Failure OperationResult} {make : α → OperationResult}
    {words : List String} {method : String} {ticket : Nat} {call : Call}
    {outcome : Except Failure Json}
    (dealing : script.Dealing limits session words method ticket call)
    (ended : session.outcome? ticket = some outcome)
    (same : ∀ value, decode value = (inquiry.read value).map make)
    (failed : outcome.bind decode = .error failure) :
    (script.reply ticket).Brings inquiry (.error failure) := by
  refine ⟨outcome, dealing.yields ended, ?_⟩
  cases outcome with
  | error other => cases failed; rfl
  | ok value =>
    have read : (inquiry.read value).map make = .error failure := (same value).symm.trans failed
    cases found : inquiry.read value with
    | error other =>
      rw [found] at read
      cases read
      exact found.symm
    | ok answer =>
      rw [found] at read
      cases read

/-- A query that brings a result brings what was read. -/
theorem brings_of_decode {α : Type} {inquiry : Inquiry α} {reply : Reply} {value : Json}
    {decode : Json → Except Failure OperationResult} {make : α → OperationResult}
    {result : OperationResult} (answered : reply = .result value)
    (same : ∀ value, decode value = (inquiry.read value).map make)
    (decoded : decode value = .ok result) :
    ∃ answer, reply.Brings inquiry (.ok answer) ∧ result = make answer := by
  rw [same] at decoded
  cases read : inquiry.read value with
  | error failure =>
    rw [read] at decoded
    cases decoded
  | ok answer =>
    rw [read] at decoded
    obtain rfl := Except.ok.inj decoded
    exact ⟨answer, Reply.brings_ok_iff.mpr ⟨value, answered, read⟩, rfl⟩

/-- When the greeting is over, the document is announced, or the analysis is over too. -/
theorem Greets.follow {ending : Ending} (greets : script.Greets limits client left (.over ending)) :
    ∃ less, less < 22 + left ∧
      script.Stands limits subject client less (Analysis.follow subject .greeting ending) := by
  cases ending with
  | returned result =>
    cases result with
    | greeting greeting =>
      obtain ⟨state, countable, brings, rests, rfl⟩ := greets
      exact ⟨22, by decide, ⟨countable, greeting, brings⟩, 4, ⟨state, rests, rfl⟩, rfl⟩
    | _ => cases greets
  | failed failure =>
    obtain ⟨countable, call, outcome, dealing, ended, failed, rfl⟩ := greets
    exact ⟨0, by decide, countable, 1, .greeting ⟨outcome, dealing.yields ended, failed.symm⟩,
      dealing.told_prefix⟩
  | brokeDown =>
    obtain ⟨uncountable, rests, rfl⟩ := greets
    exact ⟨0, by decide, .inl ⟨uncountable, rests.told⟩⟩

/-- When the query for folding regions is over, symbols are asked for, or the analysis is
over too. -/
theorem Asks.followFolding {ending : Ending} (greeted : script.Greeted limits)
    (asks : script.Asks limits .folding (Analysis.words.take 3) 1 client left (.over ending)) :
    ∃ less, less < 9 + left ∧
      script.Stands limits subject client less (Analysis.follow subject .folding ending) := by
  cases ending with
  | returned result =>
    obtain ⟨state, document, ⟨value, answered, decoded⟩, rests, rfl⟩ := asks
    obtain ⟨regions, brings, rfl⟩ :=
      brings_of_decode answered Inquiry.decode_folding decoded
    exact ⟨9, by decide, greeted, brings, rfl, state, document, rests, rfl⟩
  | failed failure =>
    obtain ⟨call, outcome, dealing, ended, failed, rfl⟩ := asks
    obtain ⟨countable, greeting, brings⟩ := greeted
    exact ⟨0, by decide, countable, 4,
      .folding brings (dealing.brings_error ended Inquiry.decode_folding failed),
      dealing.told_prefix⟩
  | brokeDown => cases asks

/-- When the query for symbols is over, so is the analysis. -/
theorem Asks.followListing {ending : Ending} {regions : List FoldingRange}
    (greeted : script.Greeted limits) (folded : script.folding.Brings .folding (.ok regions))
    (asks : script.Asks limits .symbols (Analysis.words.take 4) 2 client left (.over ending)) :
    ∃ less, less < left ∧ script.Stands limits subject client less
      (Analysis.follow subject (.listing regions) ending) := by
  cases ending with
  | returned result =>
    obtain ⟨state, document, ⟨value, answered, decoded⟩, rests, rfl⟩ := asks
    obtain ⟨symbols, brings, rfl⟩ :=
      brings_of_decode answered Inquiry.decode_symbols decoded
    have supports : script.Supports subject.rule (.make symbols regions subject.rule) :=
      ⟨greeted.2, folded, brings, rfl⟩
    have told : client.session.transcript <+: Analysis.words := rests.told ▸ List.prefix_refl _
    refine ⟨0, by decide, ?_⟩
    simp only [Analysis.follow, Analysis.next]
    cases overflow : subject.rule.overflows symbols regions with
    | true => exact .inr ⟨_, supports, overflow, told⟩
    | false => exact ⟨greeted.1, supports, overflow, told⟩
  | failed failure =>
    obtain ⟨call, outcome, dealing, ended, failed, rfl⟩ := asks
    obtain ⟨countable, greeting, brings⟩ := greeted
    exact ⟨0, by decide, countable, 5,
      .symbols brings folded (dealing.brings_error ended Inquiry.decode_symbols failed),
      dealing.told_prefix⟩
  | brokeDown => cases asks

/-- When an operation is over, an analysis takes up the next one, or is over too; and it may
do so at any time. -/
theorem Stands.follow {stage : AnalysisStage} {ending : Ending}
    (stands : script.Stands limits subject client left (.running stage (.over ending))) :
    (∃ less, less < left ∧
      script.Stands limits subject client less (Analysis.follow subject stage ending)) ∧
    script.MayWait client.session 0 := by
  cases stage with
  | greeting =>
    obtain ⟨rest, greets, rfl⟩ := stands
    exact ⟨greets.follow, greets.mayWait 0⟩
  | opening =>
    obtain ⟨greeted, rest, opens, rfl⟩ := stands
    refine ⟨?_, opens.mayWait 0⟩
    cases ending with
    | returned result =>
      obtain ⟨state, document, rests, rfl⟩ := opens
      exact ⟨18, by decide, greeted, 9, ⟨rfl, state, document, rests, rfl⟩, rfl⟩
    | _ => cases opens
  | folding =>
    obtain ⟨greeted, rest, asks, rfl⟩ := stands
    exact ⟨asks.followFolding greeted, asks.mayWait 0⟩
  | listing regions =>
    obtain ⟨greeted, folded, asks⟩ := stands
    exact ⟨asks.followListing greeted folded, asks.mayWait 0⟩

/-- A step of an analysis whose operation is not over is a step of the operation. -/
theorem step_of_running {stage : AnalysisStage} {operation : Operation}
    {surroundings : Surroundings} (running : operation.ending? = none) :
    Analysis.step subject client surroundings (.running stage operation) =
      (client.step surroundings operation).map fun (client, operation) =>
        (client, .running stage operation) := by
  cases operation with
  | «over» ending => cases running
  | _ => rfl

/-- An analysis goes on, and then has less left to do. -/
theorem Stands.advance (stands : script.Stands limits subject client left analysis)
    (given : client.limits = limits) (consistent : client.session.Consistent)
    (waits : script.MayWait client.session time)
    (moved : analysis.step subject client ⟨time, none⟩ = some (next, after)) :
    ∃ less, less < left ∧ script.Stands limits subject next less after := by
  cases analysis with
  | running stage operation =>
    cases running : operation.ending? with
    | some ending =>
      obtain rfl : operation = .over ending := by
        cases operation with
        | «over» other => rw [Option.some.inj running]
        | _ => cases running
      cases moved
      exact stands.follow.1
    | none =>
      rw [step_of_running running, Option.map_eq_some_iff] at moved
      obtain ⟨⟨_, onward⟩, stepped, same⟩ := moved
      cases same
      cases stage with
      | greeting =>
        obtain ⟨rest, greets, rfl⟩ := stands
        obtain ⟨less, bound, greetsToo⟩ := greets.step given consistent waits stepped
        exact ⟨22 + less, by omega, less, greetsToo, rfl⟩
      | opening =>
        obtain ⟨greeted, rest, opens, rfl⟩ := stands
        obtain ⟨less, bound, opensToo⟩ := opens.step stepped
        exact ⟨18 + less, by omega, greeted, less, opensToo, rfl⟩
      | folding =>
        obtain ⟨greeted, rest, asks, rfl⟩ := stands
        obtain ⟨less, bound, asksToo⟩ := asks.step given consistent waits stepped
        exact ⟨9 + less, by omega, greeted, less, asksToo, rfl⟩
      | listing regions =>
        obtain ⟨greeted, folded, asks⟩ := stands
        obtain ⟨less, bound, asksToo⟩ := asks.step given consistent waits stepped
        exact ⟨less, bound, greeted, folded, asksToo⟩
  | reported | failed | brokeDown => cases moved

/-- Whether something may happen to an analysis that leaves it less to do. -/
def Advances (script : Script) (limits : Limits) (subject : AnalysisSubject) (client : Client)
    (left : Nat) (analysis : Analysis) : Prop :=
  ∃ event next after less, AnalysisEvent.IsScripted script client.session event ∧
    analysis.after? subject client event = some (next, after) ∧ less < left ∧
    script.Stands limits subject next less after

/-- An analysis whose operation can go on can do so too. -/
theorem Stands.advances_of_onward {stage : AnalysisStage} {operation : Operation}
    {standing : Client → Nat → Prop} {rest : Nat}
    (stands : script.Stands limits subject client left (.running stage operation))
    (running : operation.ending? = none) (given : client.limits = limits)
    (consistent : client.session.Consistent)
    (onward : Onward script client operation standing rest)
    (embeds : ∀ client less, standing client less → less < rest →
      ∃ fewer, fewer < left ∧
        script.Stands limits subject client fewer (.running stage operation)) :
    Advances script limits subject client left (.running stage operation) := by
  rcases onward with ⟨time, ⟨next, goal⟩, waits, moved⟩ |
    ⟨event, session, less, background, scripted, happens, stood, bound⟩
  · have goes : (Analysis.running stage operation).after? subject client (.advance time) =
        some (next, .running stage goal) := by
      rw [Analysis.after?, step_of_running running, moved, Option.map_some]
    obtain ⟨less, bound, standsNext⟩ := stands.advance given consistent waits goes
    exact ⟨.advance time, next, _, less, waits, goes, bound, standsNext⟩
  · obtain ⟨fewer, boundToo, standsNext⟩ := embeds _ less stood bound
    refine ⟨.background event, _, _, fewer, scripted, ?_, boundToo, standsNext⟩
    rw [Analysis.after?, if_pos background, happens, Option.map_some]

/-- An analysis that is not over can go on, if the server is silent only where a call does
not wait for ever. -/
theorem Stands.advances (stands : script.Stands limits subject client left analysis)
    (unfinished : analysis.isOver = false) (given : client.limits = limits)
    (consistent : client.session.Consistent)
    (expectant : client.session.calls.length < 2 ^ 64 - 1 → client.session.Expectant)
    (limited : ∀ ticket, script.reply ticket = .silence → limits.baseSeconds.isSome = true) :
    Advances script limits subject client left analysis := by
  cases analysis with
  | running stage operation =>
    cases running : operation.ending? with
    | some ending =>
      obtain rfl : operation = .over ending := by
        cases operation with
        | «over» other => rw [Option.some.inj running]
        | _ => cases running
      obtain ⟨⟨less, bound, standsNext⟩, waits⟩ := stands.follow
      exact ⟨.advance 0, client, _, less, waits, rfl, bound, standsNext⟩
    | none =>
      have whole := stands
      cases stage with
      | greeting =>
        obtain ⟨rest, greets, rfl⟩ := stands
        refine whole.advances_of_onward running given consistent
          (greets.onward running consistent expectant (limited 0)) fun client less stood bound => ?_
        exact ⟨22 + less, by omega, less, stood, rfl⟩
      | opening =>
        obtain ⟨greeted, rest, opens, rfl⟩ := stands
        refine whole.advances_of_onward running given consistent (opens.onward running)
          fun client less stood bound => ?_
        exact ⟨18 + less, by omega, greeted, less, stood, rfl⟩
      | folding =>
        obtain ⟨greeted, rest, asks, rfl⟩ := stands
        refine whole.advances_of_onward running given consistent
          (asks.onward running (by decide) consistent expectant (limited 1))
          fun client less stood bound => ?_
        exact ⟨9 + less, by omega, greeted, less, stood, rfl⟩
      | listing regions =>
        obtain ⟨greeted, folded, asks⟩ := stands
        exact whole.advances_of_onward running given consistent
          (asks.onward running (by decide) consistent expectant (limited 2))
          fun client less stood bound => ⟨less, bound, greeted, folded, stood⟩
  | reported | failed | brokeDown => cases unfinished

/-- What an analysis has written does not go beyond the first question that fails. -/
theorem Stands.told (stands : script.Stands limits subject client left analysis) :
    ∃ count, client.session.transcript <+: Analysis.words.take count ∧
      ∀ failure written, script.FailsFirst failure written → count ≤ written := by
  cases analysis with
  | running stage operation =>
    cases stage with
    | greeting =>
      obtain ⟨rest, greets, _⟩ := stands
      rcases greets.told with told | ⟨⟨_, greeted⟩, told⟩
      · exact ⟨1, told, fun _ _ fails => fails.one_le⟩
      · refine ⟨2, told ▸ List.prefix_refl _, fun _ _ fails => ?_⟩
        exact Nat.le_trans (by decide) (fails.four_le greeted)
    | opening =>
      obtain ⟨⟨_, _, greeted⟩, rest, opens, _⟩ := stands
      refine ⟨3, opens.told, fun _ _ fails => ?_⟩
      exact Nat.le_trans (by decide) (fails.four_le greeted)
    | folding =>
      obtain ⟨⟨_, _, greeted⟩, rest, asks, _⟩ := stands
      exact ⟨4, asks.told, fun _ _ fails => fails.four_le greeted⟩
    | listing regions =>
      obtain ⟨⟨_, _, greeted⟩, folded, asks⟩ := stands
      exact ⟨5, asks.told, fun _ _ fails => fails.five_le greeted folded⟩
  | reported report =>
    obtain ⟨_, supports, _, told⟩ := stands
    exact ⟨5, told, fun _ _ fails => absurd fails supports.not_failsFirst⟩
  | failed failure =>
    obtain ⟨_, count, failed, told⟩ := stands
    exact ⟨count, told, fun _ _ fails => failed.le fails⟩
  | brokeDown =>
    rcases stands with ⟨_, told⟩ | ⟨report, supports, _, told⟩
    · exact ⟨0, told ▸ List.prefix_refl _, fun _ _ _ => Nat.zero_le _⟩
    · exact ⟨5, told, fun _ _ fails => absurd fails supports.not_failsFirst⟩

end Script

/-! ## Courses -/

section Courses

variable {script : Script} {limits : Limits} {subject : AnalysisSubject} {client next : Client}
  {analysis after : Analysis} {events : List AnalysisEvent} {rootUri : String} {processId : Nat}
  {process : ServerProcess}

/-- A client and its analysis at their start. -/
def Analysis.atStart (limits : Limits) (rootUri : String) (processId : Nat)
    (process : ServerProcess) : Client × Analysis :=
  (.start limits rootUri processId process, .start)

/-- Whatever happens to an analysis, its client goes on. -/
theorem Analysis.continues_of_after? {event : AnalysisEvent}
    (happens : analysis.after? subject client event = some (next, after)) :
    client.Continues next := by
  cases event with
  | advance time =>
    cases analysis with
    | running stage operation =>
      cases operation with
      | «over» ending =>
        cases happens
        exact .refl client
      | _ =>
        obtain ⟨⟨_, _⟩, stepped, same⟩ := Option.map_eq_some_iff.mp happens
        cases same
        exact Client.continues_of_step stepped
    | reported | failed | brokeDown => cases happens
  | background event =>
    simp only [Analysis.after?] at happens
    split at happens
    · obtain ⟨session, transition, same⟩ := Option.map_eq_some_iff.mp happens
      cases same
      exact ⟨.single transition, rfl⟩
    · cases happens

namespace Course

/-- The session of a course is an execution, and the limits stay what they are. -/
theorem kept {last : Client × Analysis}
    (course : Course script subject (Analysis.atStart limits rootUri processId process) events last) :
    (∃ inner, Session.Steps (.start .standard) inner last.1.session) ∧ last.1.limits = limits := by
  induction course with
  | refl => exact ⟨⟨[], .refl⟩, rfl⟩
  | step _ _ transition ih =>
    obtain ⟨⟨inner, run⟩, given⟩ := ih
    have continues := Analysis.continues_of_after? transition
    obtain ⟨more, onward⟩ := continues.session
    exact ⟨⟨inner ++ more, run.trans onward⟩, continues.limits.trans given⟩

/-- In every course, an analysis stands somewhere, and has taken no more steps than it then
has less left. -/
theorem stands {last : Client × Analysis}
    (course : Course script subject (Analysis.atStart limits rootUri processId process) events last) :
    ∃ left, script.Stands limits subject last.1 left last.2 ∧
      events.countP AnalysisEvent.isOwn + left ≤ 31 := by
  induction course with
  | refl => exact ⟨31, .start script limits subject rootUri processId process, Nat.le_refl 31⟩
  | @step events client analysis event next prior scripted transition ih =>
    obtain ⟨left, standing, bound⟩ := ih
    obtain ⟨⟨inner, run⟩, given⟩ := prior.kept
    have consistent := Session.Consistent.of_start run
    rw [List.countP_append, List.countP_singleton]
    cases event with
    | advance time =>
      obtain ⟨less, smaller, onward⟩ := standing.advance given consistent scripted transition
      refine ⟨less, onward, ?_⟩
      simp only [AnalysisEvent.isOwn, if_true]
      omega
    | background event =>
      simp only [Analysis.after?] at transition
      split at transition
      · next background =>
        obtain ⟨session, happens, same⟩ := Option.map_eq_some_iff.mp transition
        cases same
        obtain ⟨less, smaller, onward⟩ :=
          standing.background consistent background scripted happens
        refine ⟨less, onward, ?_⟩
        simp only [AnalysisEvent.isOwn, Bool.false_eq_true, if_false]
        omega
      · cases transition

/-- A course can always go on to an end, if the server is silent only where a call does not
wait for ever. -/
theorem finishes {last : Client × Analysis}
    (course : Course script subject (Analysis.atStart limits rootUri processId process) events last)
    (limited : ∀ ticket, script.reply ticket = .silence → limits.baseSeconds.isSome = true) :
    ∃ more final, Course script subject (Analysis.atStart limits rootUri processId process)
      (events ++ more) final ∧ final.2.isOver = true := by
  obtain ⟨left, standing, bound⟩ := course.stands
  -- how long the course is already does not matter, only how much is left of it
  clear bound
  induction left using Nat.strongRecOn generalizing events last with
  | ind left ih =>
    obtain ⟨client, analysis⟩ := last
    cases unfinished : analysis.isOver with
    | true => exact ⟨[], _, by rwa [List.append_nil], unfinished⟩
    | false =>
      obtain ⟨⟨inner, run⟩, given⟩ := course.kept
      obtain ⟨event, next, after, less, scripted, happens, smaller, onward⟩ :=
        standing.advances unfinished given (.of_start run)
          (fun countable => Session.expectant_of_steps run countable) limited
      obtain ⟨more, final, whole, isOver⟩ :=
        ih less smaller (course.step scripted happens) onward
      exact ⟨event :: more, final, by simpa using whole, isOver⟩

end Course

/-- What is known about an analysis at a server that keeps to its script. -/
structure Verdict (script : Script) (limits : Limits) (subject : AnalysisSubject)
    (first : Client × Analysis) (events : List AnalysisEvent) (client : Client)
    (analysis : Analysis) : Prop where
  /-- An analysis that is over has reported exactly if its script supports the report, the
  limit of the greeting could be counted, and no sum overflowed. -/
  reported : analysis.isOver = true → ∀ report, analysis = .reported report ↔
    script.Supports subject.rule report ∧
      limits.limitOf Greeting.openingMethod ≠ .uncountable ∧
      subject.rule.overflows report.symbols report.regions = false
  /-- An analysis that has failed has done so as the first question that brings nothing. -/
  failed : ∀ failure, analysis = .failed failure → ∃ written, script.FailsFirst failure written
  /-- An analysis that is over has broken down exactly if the limit of the greeting could not
  be counted, or a sum overflowed. -/
  brokeDown : analysis.isOver = true → (analysis = .brokeDown ↔
    limits.limitOf Greeting.openingMethod = .uncountable ∨
      ∃ report, script.Supports subject.rule report ∧
        subject.rule.overflows report.symbols report.regions = true)
  /-- Nothing but the words of an analysis is written, in their order. -/
  told : client.session.transcript <+: Analysis.words
  /-- Nothing is written that belongs to a later question than the first that fails. -/
  quiet : ∀ failure written, script.FailsFirst failure written →
    client.session.transcript <+: Analysis.words.take written
  /-- An analysis takes only so many steps. -/
  brief : events.countP AnalysisEvent.isOwn ≤ 31
  /-- An analysis can always go on to an end, if the server is silent only where a call does
  not wait for ever. -/
  finishes : (∀ ticket, script.reply ticket = .silence → limits.baseSeconds.isSome = true) →
    ∃ more final, Course script subject first (events ++ more) final ∧ final.2.isOver = true

/-- An analysis at a server that keeps to its script comes to what the script decides. -/
theorem analysis_follows_script
    (course : Course script subject (Analysis.atStart limits rootUri processId process) events
      (client, analysis)) :
    Verdict script limits subject (Analysis.atStart limits rootUri processId process) events client
      analysis := by
  obtain ⟨left, stands, bound⟩ := course.stands
  obtain ⟨count, told, quiet⟩ := stands.told
  refine ⟨fun isOver report => ⟨?_, ?_⟩, ?_, fun isOver => ⟨?_, ?_⟩, ?_, ?_, by omega, ?_⟩
  · rintro rfl
    obtain ⟨countable, supports, sound, _⟩ := stands
    exact ⟨supports, countable, sound⟩
  · rintro ⟨supports, countable, sound⟩
    cases analysis with
    | running => cases isOver
    | reported other =>
      obtain ⟨_, supportsToo, _⟩ := stands
      rw [supports.unique supportsToo]
    | failed failure =>
      obtain ⟨_, written, fails, _⟩ := stands
      exact absurd fails supports.not_failsFirst
    | brokeDown =>
      rcases stands with ⟨uncountable, _⟩ | ⟨other, supportsToo, overflow, _⟩
      · exact absurd uncountable countable
      · rw [← supports.unique supportsToo, sound] at overflow
        cases overflow
  · rintro failure rfl
    obtain ⟨_, written, fails, _⟩ := stands
    exact ⟨written, fails⟩
  · rintro rfl
    rcases stands with ⟨uncountable, _⟩ | ⟨report, supports, overflow, _⟩
    · exact .inl uncountable
    · exact .inr ⟨report, supports, overflow⟩
  · intro broken
    cases analysis with
    | running => cases isOver
    | reported other =>
      obtain ⟨countable, supports, sound, _⟩ := stands
      rcases broken with uncountable | ⟨report, supportsToo, overflow⟩
      · exact absurd uncountable countable
      · rw [supportsToo.unique supports, sound] at overflow
        cases overflow
    | failed failure =>
      obtain ⟨countable, written, fails, _⟩ := stands
      rcases broken with uncountable | ⟨report, supports, _⟩
      · exact absurd uncountable countable
      · exact absurd fails supports.not_failsFirst
    | brokeDown => rfl
  · exact told.trans (List.take_prefix count Analysis.words)
  · exact fun failure written fails =>
      told.trans (List.take_prefix_take_left (quiet failure written fails))
  · exact course.finishes

end Courses

/-- A server that says nothing about itself, and finds one function with its region. -/
def Script.helpful : Script where
  greeting := .result .null
  folding := .result (.array [.object [("endLine", .natural 4), ("startLine", .natural 2)]])
  symbols := .result (.array [.object [
    ("kind", .natural 12),
    ("location", .object [
      ("range", .object [
        ("end", .object [("character", .natural 0), ("line", .natural 5)]),
        ("start", .object [("character", .natural 0), ("line", .natural 2)])]),
      ("uri", .string "file:///a.py")]),
    ("name", .string "foo")]])

/-- What an analysis reports at the helpful server. -/
def Findings.ofHelpful : Findings :=
  let symbol : OutlineEntry := ⟨"foo", .function, ⟨⟨2, 0⟩, ⟨5, 0⟩⟩, none⟩
  let region : FoldingRange := ⟨2, 4, none, none, none⟩
  ⟨[symbol], [region], [⟨symbol, region⟩]⟩

/-- The helpful server supports this report. -/
theorem Script.supports_helpful : Script.helpful.Supports .standard .ofHelpful where
  greeting := ⟨.silent, Reply.brings_ok_iff.mpr ⟨_, rfl, rfl⟩⟩
  regions := Reply.brings_ok_iff.mpr ⟨_, rfl, rfl⟩
  symbols := Reply.brings_ok_iff.mpr ⟨_, rfl, rfl⟩
  folded := by decide

/-- The document that the helpful server is asked about. -/
def AnalysisSubject.ofHelpful : AnalysisSubject := ⟨"file:///a.py", "python", "pass", .standard⟩

/-- At the helpful server, an analysis comes to its report. -/
theorem analysis_of_helpful :
    ∃ events client, Course .helpful .ofHelpful
      (Analysis.atStart ⟨some 30, 2, true⟩ "file:///" 7 .none) events
      (client, .reported .ofHelpful) := by
  have begun : Course .helpful .ofHelpful
      (Analysis.atStart ⟨some 30, 2, true⟩ "file:///" 7 .none) []
      (Analysis.atStart ⟨some 30, 2, true⟩ "file:///" 7 .none) := .refl
  obtain ⟨events, ⟨client, analysis⟩, course, isOver⟩ :=
    (analysis_follows_script begun).finishes fun _ _ => rfl
  have reports := ((analysis_follows_script course).reported isOver .ofHelpful).mpr
    ⟨Script.supports_helpful, by decide, by decide⟩
  exact ⟨_, client, reports ▸ course⟩

/-- With a limit of which the double cannot be counted, an analysis breaks down before anything
is asked, though the server would support a report. -/
theorem uncountable_limit_breaks_down :
    Script.helpful.Supports .standard .ofHelpful ∧
      ∃ client, Course .helpful .ofHelpful
        (Analysis.atStart ⟨some 9223372036854775808, 2, true⟩ "file:///" 7 .none)
        [.advance 0, .advance 0] (client, .brokeDown) ∧ client.session.sent = [] := by
  have patient : Script.helpful.MayWait (.start .standard) 0 := by
    intro ticket call deadline found
    simp [Session.start] at found
  have begun : Course .helpful .ofHelpful
      (Analysis.atStart ⟨some 9223372036854775808, 2, true⟩ "file:///" 7 .none) []
      (Analysis.atStart ⟨some 9223372036854775808, 2, true⟩ "file:///" 7 .none) := .refl
  have scripted : (AnalysisEvent.advance 0).IsScripted .helpful (.start .standard) := patient
  exact ⟨Script.supports_helpful, _, .step (.step begun scripted rfl) scripted rfl, rfl⟩

end FoldAtlas
