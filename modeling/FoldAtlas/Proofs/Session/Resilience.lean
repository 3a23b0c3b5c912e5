import FoldAtlas.Proofs.Session.Reception
import FoldAtlas.Proofs.Session.Sifting

/-!
# Resilience

Two sessions to which the same comes in, except that one is spared some frames that the
other one ignores: frames without a message, responses that nobody waits for, and
notifications that nobody handles. Nothing else than the count of strays tells the two
sessions apart (`ignored_frames_leave_no_trace`).

The two run in lockstep (`Lockstep`): where one of them reads a frame that the other one
is spared, the other one waits. How far they are in their streams is a `Stage`.
-/

namespace FoldAtlas

namespace Session

variable {sifting rest : Sifting} {first session next other last : Session}
  {inflow tail payload unread behind : Bytes} {events more eventsToo : List SessionEvent}
  {event : SessionEvent} {message : Message} {handlers : Handlers} {time surplus : Nat}
  {delivery : Frame.Delivery} {kept : Bool}

/-! ## Parallel sessions read alike -/

/-- Parallel sessions are equally far in reading. -/
theorem Parallel.intake (parallel : session.Parallel other surplus) :
    other.intake = session.intake := by
  rw [parallel.alike]
  rfl

/-- The streams of parallel sessions end at the same time. -/
theorem Parallel.inboundEnded (parallel : session.Parallel other surplus) :
    other.inboundEnded = session.inboundEnded := by
  rw [parallel.alike]
  rfl

/-- Readers that have the same to read come upon the same. -/
theorem Parallel.arrives (parallel : session.Parallel other surplus)
    (inbound : other.inbound = session.inbound)
    (arrives : Frame.Arrives session.inbound session.inboundEnded delivery unread) :
    Frame.Arrives other.inbound other.inboundEnded delivery unread := by
  rw [inbound, parallel.inboundEnded]
  exact arrives

/-- A session that has ignored a message is parallel to one that was spared it. -/
theorem Parallel.ignore (parallel : session.Parallel other surplus)
    (ignores : session.Ignores message) (time : Nat) :
    (session.actUpon time message).Parallel other (surplus + message.isIdentified.toNat) := by
  rw [ignores.actUpon time]
  refine ⟨parallel.alike, ?_⟩
  have counted := parallel.strays
  dsimp only
  omega

/-! ## Lockstep -/

/-- How far two sessions are in their streams, of which one is spared frames. -/
inductive Stage (sifting : Sifting) (inflow : Bytes) (events : List SessionEvent)
    (session other : Session) : Prop where
  /-- Some frames have been read, and the others come in or are about to. -/
  | amid {done rest : Sifting} (split : sifting = done ++ rest)
      (read : inflow = Frame.sequence done.all ++ session.inbound)
      (count : (dispatched events).length = done.messages.length)
      (inbound : other.inbound = rest.winnow session.inbound)
  /-- All frames have been read. -/
  | past (whole : Frame.sequence sifting.all <+: inflow)
      (count : sifting.messages.length ≤ (dispatched events).length)
      (inbound : other.inbound = session.inbound)
  /-- Nothing will be read any more. -/
  | closed (deaf : session.intake = .failing ∨ session.intake = .stopped)

/-- What holds of a session with its stream, and of another one that is spared some frames. -/
structure Lockstep (sifting : Sifting) (first : Session) (inflow : Bytes)
    (events : List SessionEvent) (session : Session) (eventsToo : List SessionEvent)
    (other : Session) : Prop where
  connection : Connection first (sifting.winnow inflow) eventsToo other
  timeline : timeline eventsToo = sifting.sift 0 events
  parallel : session.Parallel other (sifting.discarded (dispatched events).length)
  stage : Stage sifting inflow events session other

/-- Before anything comes in, two sessions are the same. -/
theorem Lockstep.start (sifting : Sifting) (handlers : Handlers) :
    Lockstep sifting (.start handlers) [] [] (.start handlers) [] (.start handlers) where
  connection := by
    rw [sifting.winnow_nil]
    exact .start
  timeline := rfl
  parallel := .refl _
  stage :=
    have split : sifting = [] ++ sifting := rfl
    .amid split rfl rfl sifting.winnow_nil.symm

/-- Two sessions that read nothing stay where they are, unless one of them starts to read
again. -/
theorem Stage.of_same (stage : Stage sifting inflow events session other)
    (quiet : dispatched more = []) (inbound : next.inbound = session.inbound)
    (inboundToo : last.inbound = other.inbound)
    (stays : session.intake = .failing ∨ session.intake = .stopped →
      next.intake = .failing ∨ next.intake = .stopped) :
    Stage sifting inflow (events ++ more) next last := by
  cases stage with
  | amid split read count winnowed =>
    refine .amid split (by rw [inbound, read]) ?_ (by rw [inbound, inboundToo, winnowed])
    rw [dispatched_append_of_quiet events quiet, count]
  | past whole count equal =>
    refine .past whole ?_ (by rw [inbound, inboundToo, equal])
    rwa [dispatched_append_of_quiet events quiet]
  | closed deaf => exact .closed (stays deaf)

/-- What one session does on its own, the other one does, too. -/
theorem Lockstep.own (lockstep : Lockstep sifting first inflow events session eventsToo other)
    (own : event.isOwn = true) (happens : session.after? event = some next) :
    ∃ last, Lockstep sifting first inflow (events ++ [event]) next (eventsToo ++ [event]) last := by
  obtain ⟨last, happensToo, inbound, parallel⟩ := lockstep.parallel.own own happens
  have quiet : dispatched [event] = [] := by
    simp only [dispatched, List.filterMap_cons, SessionEvent.message?_of_isOwn own,
      List.filterMap_nil]
  refine ⟨last, lockstep.connection.own own happensToo, ?_, ?_, ?_⟩
  · rw [Session.timeline, List.filter_append, Sifting.sift_append, Sifting.sift_own own]
    exact congrArg₂ (· ++ ·) lockstep.timeline (Sifting.timeline_own own)
  · rwa [dispatched_append_of_quiet events quiet]
  · have same := sameStream_of_isOwn own happens
    exact lockstep.stage.of_same quiet same.inbound inbound fun deaf => by rwa [same.intake]

/-- What happens to a stream alone is not part of what is left of the events. -/
theorem timeline_stream (lockstep : Lockstep sifting first inflow events session eventsToo other)
    (inbound inboundToo : Bytes) (ended endedToo : Bool) (intake intakeToo : IntakePhase) :
    timeline (eventsToo ++ [.stream inboundToo endedToo intakeToo]) =
      sifting.sift 0 (events ++ [.stream inbound ended intake]) := by
  rw [Session.timeline, List.filter_append, Sifting.sift_append]
  exact congrArg₂ (· ++ ·) lockstep.timeline rfl

/-- When bytes come in, what is left of them comes in at the other session. -/
theorem Lockstep.receive (lockstep : Lockstep sifting first inflow events session eventsToo other)
    (bytes : Bytes) (live : session.inboundEnded = false) :
    ∃ eventsToo last, Lockstep sifting first (inflow ++ bytes)
      (events ++ [.stream (session.inbound ++ bytes) false session.intake])
      (session.receive bytes) eventsToo last := by
  have liveToo : other.inboundEnded = false := lockstep.parallel.inboundEnded.trans live
  have comesIn (more : Bytes)
      (same : sifting.winnow (inflow ++ bytes) = sifting.winnow inflow ++ more)
      (stage : Stage sifting (inflow ++ bytes)
        (events ++ [.stream (session.inbound ++ bytes) false session.intake])
        (session.receive bytes) (other.receive more)) :
      Lockstep sifting first (inflow ++ bytes)
        (events ++ [.stream (session.inbound ++ bytes) false session.intake])
        (session.receive bytes)
        (eventsToo ++ [.stream (other.inbound ++ more) false other.intake])
        (other.receive more) := by
    refine ⟨?_, timeline_stream lockstep _ _ _ _ _ _, ?_, stage⟩
    · rw [same]
      exact lockstep.connection.receive more liveToo
    · rw [dispatched_append_of_quiet events rfl, receive_of_live live, receive_of_live liveToo]
      exact (lockstep.parallel.setInbound (session.inbound ++ bytes)
        (other.inbound ++ more)).setEnded false
  cases lockstep.stage with
  | @amid done rest split read count inbound =>
    obtain ⟨more, same⟩ := rest.winnow_append session.inbound bytes
    refine ⟨_, _, comesIn more ?_ ?_⟩
    · rw [read, split, List.append_assoc, Sifting.winnow_sequence, Sifting.winnow_sequence, same,
        List.append_assoc]
    · refine .amid split ?_ ?_ ?_
      · rw [receive_of_live live, read, List.append_assoc]
      · rw [dispatched_append_of_quiet events rfl, count]
      · rw [receive_of_live live, receive_of_live liveToo]
        dsimp only
        rw [inbound, same]
  | past whole count inbound =>
    refine ⟨_, _, comesIn bytes (Sifting.winnow_append_of_whole whole bytes) ?_⟩
    refine .past (whole.trans (List.prefix_append inflow bytes)) ?_ ?_
    · rwa [dispatched_append_of_quiet events rfl]
    · rw [receive_of_live live, receive_of_live liveToo]
      dsimp only
      rw [inbound]
  | closed deaf =>
    obtain ⟨more, same⟩ := sifting.winnow_append inflow bytes
    refine ⟨_, _, comesIn more same (.closed ?_)⟩
    rwa [receive_of_live live]

/-- Both streams end at the same time. -/
theorem Lockstep.endInbound
    (lockstep : Lockstep sifting first inflow events session eventsToo other) :
    Lockstep sifting first inflow (events ++ [.stream session.inbound true session.intake])
      session.endInbound (eventsToo ++ [.stream other.inbound true other.intake])
      other.endInbound := by
  refine ⟨lockstep.connection.endInbound, timeline_stream lockstep _ _ _ _ _ _, ?_,
    lockstep.stage.of_same rfl rfl rfl id⟩
  rw [dispatched_append_of_quiet events rfl]
  exact lockstep.parallel.setEnded true

/-! ## Reading in lockstep -/

/-- What comes in: the frames of some payloads, none too long, and then anything. They come
in whole, if the stream ends. -/
structure Comes (sifting : Sifting) (tail inflow : Bytes) (session : Session) : Prop where
  short : ∀ payload ∈ sifting.all, payload.length ≤ Frame.payloadLimit
  arriving : inflow <+: Frame.sequence sifting.all ++ tail
  whole : session.inboundEnded = true → inflow = Frame.sequence sifting.all ++ tail

/-- None of the frames is too long. -/
theorem Comes.short_at {done : Sifting} (comes : Comes sifting tail inflow session)
    (split : sifting = done ++ (payload, kept) :: rest) :
    payload.length ≤ Frame.payloadLimit :=
  comes.short payload (by simp [split, Sifting.all])

/-- Amid the frames, a reader comes upon the next of them. -/
theorem arrives_amid {unarrived : Bytes} (short : payload.length ≤ Frame.payloadLimit)
    (whole : session.inbound ++ unarrived = Frame.encode payload ++ behind)
    (none : session.inboundEnded = true → unarrived = [])
    (arrives : Frame.Arrives session.inbound session.inboundEnded delivery unread) :
    delivery = .frame payload ∧ session.inbound = Frame.encode payload ++ unread := by
  have report := Frame.next_encode short behind
  rw [← whole] at report
  rcases arrives with delivered | ⟨ended, starved, _⟩
  · obtain ⟨rfl, same⟩ := Frame.Progress.delivered.inj
      ((Frame.next_append delivered unarrived).symm.trans report)
    rw [← same, ← List.append_assoc] at whole
    exact ⟨rfl, List.append_cancel_right whole⟩
  · rw [none ended, List.append_nil, starved] at report
    cases report

/-- What a reader comes upon: the next of the frames, or what lies behind all of them. -/
inductive Finding (sifting : Sifting) (inflow : Bytes) (events : List SessionEvent)
    (session other : Session) (delivery : Frame.Delivery) (unread : Bytes) : Prop where
  | frame {done rest : Sifting} {payload : Bytes} {kept : Bool}
      (split : sifting = done ++ (payload, kept) :: rest) (found : delivery = .frame payload)
      (read : inflow = Frame.sequence (Sifting.all (done ++ [(payload, kept)])) ++ unread)
      (count : (dispatched events).length = done.messages.length)
      (inbound : other.inbound =
        (if kept then Frame.encode payload else []) ++ rest.winnow unread)
  | beyond (whole : Frame.sequence sifting.all <+: inflow)
      (count : sifting.messages.length ≤ (dispatched events).length)
      (inbound : other.inbound = session.inbound)

/-- A reader comes upon the next of the frames, or upon what lies behind all of them. -/
theorem Stage.finding (stage : Stage sifting inflow events session other)
    (comes : Comes sifting tail inflow session) (reading : session.intake = .reading)
    (arrives : Frame.Arrives session.inbound session.inboundEnded delivery unread) :
    Finding sifting inflow events session other delivery unread := by
  cases stage with
  | closed deaf =>
    rw [reading] at deaf
    rcases deaf with deaf | deaf <;> cases deaf
  | past whole count inbound => exact .beyond whole count inbound
  | @amid done rest split read count inbound =>
    cases rest with
    | nil =>
      rw [List.append_nil] at split
      rw [split, read]
      exact .beyond (List.prefix_append _ _) (Nat.le_of_eq count.symm) inbound
    | cons entry rest =>
      obtain ⟨payload, kept⟩ := entry
      obtain ⟨unarrived, complete⟩ := comes.arriving
      rw [split, Sifting.sequence_all_append, read, List.append_assoc, List.append_assoc,
        Sifting.sequence_all_cons, List.append_assoc] at complete
      have ahead := List.append_cancel_left complete
      have none (ended : session.inboundEnded = true) : unarrived = [] := by
        have all := comes.whole ended
        rw [split, Sifting.sequence_all_append, read, List.append_assoc,
          Sifting.sequence_all_cons, List.append_assoc, ← ahead] at all
        simpa using List.append_cancel_left all
      obtain ⟨found, same⟩ := arrives_amid (comes.short_at split) ahead none arrives
      refine .frame split found ?_ count ?_
      · rw [read, same, Sifting.sequence_all_append]
        simp [Frame.sequence, Sifting.all]
      · rw [inbound, same, Sifting.winnow_encode]

/-- The other reader comes upon a frame that is kept. -/
theorem Comes.arrives_kept {done : Sifting} (comes : Comes sifting tail inflow session)
    (split : sifting = done ++ (payload, true) :: rest)
    (inbound : other.inbound = Frame.encode payload ++ rest.winnow unread) :
    Frame.Arrives other.inbound other.inboundEnded (.frame payload) (rest.winnow unread) := by
  rw [inbound]
  exact .inl (Frame.next_encode (comes.short_at split) _)

/-- Behind a frame, the others come in or are about to. -/
theorem Stage.of_frame (split : sifting = done ++ (payload, kept) :: rest)
    (read : inflow = Frame.sequence (Sifting.all (done ++ [(payload, kept)])) ++ unread)
    (count : (dispatched events).length = (Sifting.messages (done ++ [(payload, kept)])).length)
    (inbound : next.inbound = unread) (inboundToo : last.inbound = rest.winnow unread) :
    Stage sifting inflow events next last :=
  .amid (by rw [split, List.append_assoc]; rfl) (inbound ▸ read) count (inbound ▸ inboundToo)

/-- What is dispatched when a message is read. -/
theorem dispatched_message (events : List SessionEvent) (inbound : Bytes) (ended : Bool)
    (intake : IntakePhase) (time : Nat) (message : Message) :
    dispatched (events ++ [.stream inbound ended intake, .dispatch time message]) =
      dispatched events ++ [message] := by
  rw [dispatched_append]
  rfl

/-- Both sessions read the same message. -/
theorem Lockstep.readBoth {unreadToo : Bytes}
    (lockstep : Lockstep sifting first inflow events session eventsToo other)
    (reading : session.intake = .reading)
    (arrivesToo : Frame.Arrives other.inbound other.inboundEnded (.frame payload) unreadToo)
    (decoded : Message.ofPayload payload = .ok message)
    (keeps : sifting.keeps (dispatched events).length = true)
    (counted : sifting.discarded ((dispatched events).length + 1) =
      sifting.discarded (dispatched events).length)
    (stage : ∀ last : Session, last.inbound = unreadToo →
      Stage sifting inflow
        (events ++ [.stream unread session.inboundEnded session.intake, .dispatch time message])
        ({ session with inbound := unread }.actUpon time message) last) :
    ∃ eventsToo last, Lockstep sifting first inflow
      (events ++ [.stream unread session.inboundEnded session.intake, .dispatch time message])
      ({ session with inbound := unread }.actUpon time message) eventsToo last := by
  have readingToo : other.intake = .reading := lockstep.parallel.intake.trans reading
  refine ⟨_, _, lockstep.connection.read time (.message readingToo arrivesToo decoded), ?_, ?_, ?_⟩
  · rw [Session.timeline, List.filter_append, Sifting.sift_append, Nat.zero_add]
    refine congrArg₂ (· ++ ·) lockstep.timeline ?_
    simp [Sifting.sift, keeps, SessionEvent.isStream]
  · rw [dispatched_message, List.length_append, List.length_singleton, counted]
    exact (lockstep.parallel.setInbound unread unreadToo).actUpon time message
  · exact stage _ ({ other with inbound := unreadToo }.inbound_actUpon time message).1

/-- A session reads a message and ignores it, and the other one is spared it. -/
theorem Lockstep.readOne
    (lockstep : Lockstep sifting first inflow events session eventsToo other)
    (ignores : Session.Ignores { session with inbound := unread } message)
    (leftOut : sifting.messages[(dispatched events).length]? = some (message, false))
    (stage : ∀ next : Session, next.inbound = unread →
      Stage sifting inflow
        (events ++ [.stream unread session.inboundEnded session.intake, .dispatch time message])
        next other) :
    Lockstep sifting first inflow
      (events ++ [.stream unread session.inboundEnded session.intake, .dispatch time message])
      ({ session with inbound := unread }.actUpon time message) eventsToo other := by
  refine ⟨lockstep.connection, ?_, ?_, ?_⟩
  · rw [Sifting.sift_append, Nat.zero_add, lockstep.timeline]
    simp [Sifting.sift, Sifting.keeps, leftOut]
  · rw [dispatched_message, List.length_append, List.length_singleton,
      Sifting.discarded_succ leftOut, Bool.not_false, Bool.true_and]
    exact (lockstep.parallel.setInbound unread other.inbound).ignore ignores time
  · exact stage _ ({ session with inbound := unread }.inbound_actUpon time message).1

/-- When a message is read, the other session reads it, too, or is spared it. -/
theorem Lockstep.readMessage
    (lockstep : Lockstep sifting first inflow events session eventsToo other)
    (run : Steps first events session) (comes : Comes sifting tail inflow session)
    (ignored : sifting.OnlyIgnored first
      (events ++ [.stream unread session.inboundEnded session.intake, .dispatch time message]))
    (reading : session.intake = .reading)
    (arrives : Frame.Arrives session.inbound session.inboundEnded (.frame payload) unread)
    (decoded : Message.ofPayload payload = .ok message) :
    ∃ eventsToo last, Lockstep sifting first inflow
      (events ++ [.stream unread session.inboundEnded session.intake, .dispatch time message])
      ({ session with inbound := unread }.actUpon time message) eventsToo last := by
  have length_message : (dispatched (events ++
      [.stream unread session.inboundEnded session.intake, .dispatch time message])).length =
        (dispatched events).length + 1 := by
    rw [dispatched_message, List.length_append, List.length_singleton]
  cases lockstep.stage.finding comes reading arrives with
  | @frame done rest payload kept split found read count inbound =>
    obtain rfl := Frame.Delivery.frame.inj found
    have entry : sifting.messages[(dispatched events).length]? = some (message, kept) := by
      rw [split, ← List.singleton_append, Sifting.messages_append, Sifting.messages_append,
        Sifting.messages_of_ok decoded, count]
      simp
    have counts : (dispatched (events ++
        [.stream unread session.inboundEnded session.intake, .dispatch time message])).length =
          (Sifting.messages (done ++ [(payload, kept)])).length := by
      rw [length_message, Sifting.messages_append, Sifting.messages_of_ok decoded, count,
        List.length_append, List.length_singleton]
    cases kept with
    | true =>
      have arrivesToo := comes.arrives_kept split inbound
      refine lockstep.readBoth reading arrivesToo decoded (by simp [Sifting.keeps, entry])
        (Sifting.discarded_succ entry) fun last inboundToo => ?_
      exact .of_frame split read counts
        ({ session with inbound := unread }.inbound_actUpon time message).1 inboundToo
    | false =>
      have front : Steps first (events ++ [.stream unread session.inboundEnded session.intake])
          { session with inbound := unread } := run.trans (.single rfl)
      -- whether the message is ignored is up to the session at this very point of the run
      have ignores : Session.Ignores { session with inbound := unread } message := by
        refine ignored _ time message [] _ (by simp) front ?_
        rwa [dispatched_append_of_quiet events rfl]
      refine ⟨_, _, lockstep.readOne ignores entry fun next same => ?_⟩
      exact .of_frame split read counts same inbound
  | beyond whole count inbound =>
    have arrivesToo := lockstep.parallel.arrives inbound arrives
    have absent : sifting.messages[(dispatched events).length]? = none :=
      List.getElem?_eq_none count
    refine lockstep.readBoth reading arrivesToo decoded (by simp [Sifting.keeps, absent])
      (Sifting.discarded_beyond count 1) fun last inboundToo => ?_
    refine .past whole ?_ ?_
    · rw [length_message]
      exact Nat.le_succ_of_le count
    · have same := ({ session with inbound := unread }.inbound_actUpon time message).1
      rw [inboundToo, same]

/-- When a frame without a message is read, the other session reads it, too, or is spared
it. -/
theorem Lockstep.readJunk {fault : JsonFault}
    (lockstep : Lockstep sifting first inflow events session eventsToo other)
    (comes : Comes sifting tail inflow session) (reading : session.intake = .reading)
    (arrives : Frame.Arrives session.inbound session.inboundEnded (.frame payload) unread)
    (refused : Message.ofPayload payload = .error fault) :
    ∃ eventsToo last, Lockstep sifting first inflow
      (events ++ [.stream unread session.inboundEnded session.intake])
      { session with inbound := unread } eventsToo last := by
  have readingToo : other.intake = .reading := lockstep.parallel.intake.trans reading
  have unheard : dispatched [.stream unread session.inboundEnded session.intake] = [] := rfl
  have quiet := dispatched_append_of_quiet events unheard
  have together {unreadToo : Bytes}
      (arrivesToo : Frame.Arrives other.inbound other.inboundEnded (.frame payload) unreadToo)
      (stage : Stage sifting inflow
        (events ++ [.stream unread session.inboundEnded session.intake])
        { session with inbound := unread } { other with inbound := unreadToo }) :
      ∃ eventsToo last, Lockstep sifting first inflow
        (events ++ [.stream unread session.inboundEnded session.intake])
        { session with inbound := unread } eventsToo last := by
    refine ⟨_, _, lockstep.connection.read 0 (.junk readingToo arrivesToo refused),
      timeline_stream lockstep _ _ _ _ _ _, ?_, stage⟩
    rw [quiet]
    exact lockstep.parallel.setInbound unread unreadToo
  cases lockstep.stage.finding comes reading arrives with
  | @frame done rest payload kept split found read count inbound =>
    obtain rfl := Frame.Delivery.frame.inj found
    have counts : (dispatched (events ++
        [.stream unread session.inboundEnded session.intake])).length =
          (Sifting.messages (done ++ [(payload, kept)])).length := by
      rw [quiet, Sifting.messages_append, Sifting.messages_of_error refused, List.append_nil,
        count]
    cases kept with
    | true =>
      exact together (comes.arrives_kept split inbound) (.of_frame split read counts rfl rfl)
    | false =>
      refine ⟨eventsToo, other, lockstep.connection, ?_, ?_,
        .of_frame split read counts rfl inbound⟩
      · rw [Sifting.sift_append, lockstep.timeline]
        exact (List.append_nil _).symm
      · rw [quiet]
        exact lockstep.parallel.setInbound unread other.inbound
  | beyond whole count inbound =>
    exact together (lockstep.parallel.arrives inbound arrives)
      (.past whole (by rwa [quiet]) rfl)

/-- When something else than a frame is read, it is behind all frames, and the other session
reads it, too. -/
theorem Lockstep.halt (lockstep : Lockstep sifting first inflow events session eventsToo other)
    (comes : Comes sifting tail inflow session) (reading : session.intake = .reading)
    (arrives : Frame.Arrives session.inbound session.inboundEnded delivery unread)
    (noFrame : delivery.isFrame = false) :
    ∃ eventsToo last, Lockstep sifting first inflow
      (events ++ [.stream unread session.inboundEnded .failing])
      { session with inbound := unread, intake := .failing } eventsToo last := by
  cases lockstep.stage.finding comes reading arrives with
  | frame split found =>
    rw [found] at noFrame
    cases noFrame
  | beyond whole count inbound =>
    have readingToo : other.intake = .reading := lockstep.parallel.intake.trans reading
    have arrivesToo := lockstep.parallel.arrives inbound arrives
    refine ⟨_, _, lockstep.connection.read 0 (.halt readingToo arrivesToo noFrame),
      timeline_stream lockstep _ _ _ _ _ _, ?_, .closed (.inl rfl)⟩
    rw [dispatched_append_of_quiet events rfl]
    exact (lockstep.parallel.setInbound unread unread).setIntake .failing

/-- When the handler of a notification is done, it is so in both sessions. -/
theorem Lockstep.resume {deadline : Nat} {breaksDown : Bool}
    (lockstep : Lockstep sifting first inflow events session eventsToo other)
    (handling : session.intake = .handling deadline breaksDown) (due : deadline ≤ time) :
    ∃ eventsToo last, Lockstep sifting first inflow
      (events ++ [.stream session.inbound session.inboundEnded
        (afterHandler breaksDown)])
      { session with intake := afterHandler breaksDown } eventsToo last := by
  have handlingToo : other.intake = .handling deadline breaksDown :=
    lockstep.parallel.intake.trans handling
  refine ⟨_, _, lockstep.connection.read time (.resume handlingToo due),
    timeline_stream lockstep _ _ _ _ _ _, ?_, lockstep.stage.of_same rfl rfl rfl fun deaf => ?_⟩
  · rw [dispatched_append_of_quiet events rfl]
    exact lockstep.parallel.setIntake _
  · rw [handling] at deaf
    rcases deaf with deaf | deaf <;> cases deaf

/-- When the calls that wait are told that the session is over, they are so in both. -/
theorem Lockstep.stop (lockstep : Lockstep sifting first inflow events session eventsToo other)
    (halted : session.intake = .failing ∨ session.intake = .broken) :
    ∃ eventsToo last, Lockstep sifting first inflow
      (events ++ [.abandon, .stream session.abandonCalls.inbound
        session.abandonCalls.inboundEnded .stopped])
      { session.abandonCalls with intake := .stopped } eventsToo last := by
  have haltedToo : other.intake = .failing ∨ other.intake = .broken := by
    rwa [lockstep.parallel.intake]
  refine ⟨_, _, lockstep.connection.read 0 (.stop haltedToo), ?_, ?_, .closed (.inr rfl)⟩
  · rw [Session.timeline, List.filter_append, Sifting.sift_append]
    exact congrArg₂ (· ++ ·) lockstep.timeline rfl
  · rw [dispatched_append_of_quiet events rfl]
    exact lockstep.parallel.abandonCalls.setIntake .stopped

/-- Whatever a reader does in a turn, the other one keeps up. -/
theorem Lockstep.turn (lockstep : Lockstep sifting first inflow events session eventsToo other)
    (run : Steps first events session) (comes : Comes sifting tail inflow session)
    (ignored : sifting.OnlyIgnored first (events ++ more))
    (turn : Turn session time more next) :
    ∃ eventsToo last, Lockstep sifting first inflow (events ++ more) next eventsToo last := by
  cases turn with
  | message reading arrives decoded =>
    exact lockstep.readMessage run comes ignored reading arrives decoded
  | junk reading arrives refused => exact lockstep.readJunk comes reading arrives refused
  | halt reading arrives noFrame => exact lockstep.halt comes reading arrives noFrame
  | resume handling due => exact lockstep.resume handling due
  | stop halted => exact lockstep.stop halted

/-- What comes in at a session has come in as far as it had before. -/
theorem Comes.of_prefix {earlier : Bytes} (comes : Comes sifting tail inflow next)
    (front : earlier <+: inflow)
    (ended : session.inboundEnded = true → next.inboundEnded = true ∧ earlier = inflow) :
    Comes sifting tail earlier session where
  short := comes.short
  arriving := front.trans comes.arriving
  whole none := (ended none).2.trans (comes.whole (ended none).1)

/-- The end of a stream is final. -/
theorem Turn.inboundEnded (turn : Turn session time more next) :
    next.inboundEnded = session.inboundEnded := by
  cases turn with
  | @message payload rest message reading arrives decoded =>
    exact ({ session with inbound := rest }.inbound_actUpon time message).2
  | junk | halt | resume => rfl
  | stop => exact session.sameStream_abandonCalls.inboundEnded

/-- Every connection has another one that is spared what is left out. -/
theorem Connection.lockstep
    (connection : Connection (.start handlers) inflow events session)
    (comes : Comes sifting tail inflow session)
    (ignored : sifting.OnlyIgnored (.start handlers) events) :
    ∃ eventsToo other,
      Lockstep sifting (.start handlers) inflow events session eventsToo other := by
  induction connection with
  | start => exact ⟨_, _, .start sifting handlers⟩
  | own _ own happens ih =>
    have same := (sameStream_of_isOwn own happens).inboundEnded
    obtain ⟨_, _, lockstep⟩ := ih
      (comes.of_prefix List.prefix_rfl fun ended => ⟨same.trans ended, rfl⟩) ignored.of_append
    obtain ⟨last, onward⟩ := lockstep.own own happens
    exact ⟨_, last, onward⟩
  | receive _ bytes live ih =>
    obtain ⟨_, _, lockstep⟩ := ih
      (comes.of_prefix (List.prefix_append _ bytes) fun ended => by simp [live] at ended)
      ignored.of_append
    exact lockstep.receive bytes live
  | endInbound _ ih =>
    obtain ⟨_, _, lockstep⟩ := ih
      (comes.of_prefix List.prefix_rfl fun _ => ⟨rfl, rfl⟩) ignored.of_append
    exact ⟨_, _, lockstep.endInbound⟩
  | read prior time turn ih =>
    obtain ⟨_, _, lockstep⟩ := ih
      (comes.of_prefix List.prefix_rfl fun ended => ⟨turn.inboundEnded.trans ended, rfl⟩)
      ignored.of_append
    exact lockstep.turn prior.steps
      (comes.of_prefix List.prefix_rfl fun ended => ⟨turn.inboundEnded.trans ended, rfl⟩)
      ignored turn

/-! ## No trace -/

/-- What tells a session that is spared some frames from the one that ignores them. -/
structure Undisturbed (sifting : Sifting) (tail : Bytes) (first : Session) (inflow : Bytes)
    (events : List SessionEvent) (session : Session) (eventsToo : List SessionEvent)
    (other : Session) : Prop where
  /-- Nothing comes in at it but what is left when the other frames are cut out. -/
  connection : Connection first (sifting.winnow inflow) eventsToo other
  /-- These are the frames that are kept, and what comes behind all frames. -/
  arriving : sifting.winnow inflow <+: Frame.sequence sifting.chosen ++ tail
  /-- They come in whole, if all do. -/
  whole : inflow = Frame.sequence sifting.all ++ tail →
    sifting.winnow inflow = Frame.sequence sifting.chosen ++ tail
  /-- The same happens in the same order, except that the messages that are left out are not
  dispatched. -/
  timeline : Session.timeline eventsToo = sifting.sift 0 events
  /-- Every call and its outcome, the calls that wait, whether calls are refused, how far the
  reader is, what was written and whatever else there is to a session: all is the same but
  the bytes that are still to be read and the count of strays. -/
  alike : other = { session with inbound := other.inbound, strays := other.strays }
  /-- The counts differ by the responses with an identifier that were left out so far. -/
  strays : session.strays = other.strays + sifting.discarded (dispatched events).length

/-- Whatever happens in a session and however its stream is cut into pieces: to leave out
frames without a message and messages that are ignored where they are dispatched makes
no difference to anything but the count of strays. -/
theorem ignored_frames_leave_no_trace
    (connection : Connection (.start handlers) inflow events session)
    (comes : Comes sifting tail inflow session)
    (ignored : sifting.OnlyIgnored (.start handlers) events) :
    ∃ eventsToo other,
      Undisturbed sifting tail (.start handlers) inflow events session eventsToo other := by
  obtain ⟨eventsToo, other, lockstep⟩ := connection.lockstep comes ignored
  refine ⟨eventsToo, other, lockstep.connection, Sifting.winnow_prefix comes.arriving, ?_,
    lockstep.timeline, lockstep.parallel.alike, lockstep.parallel.strays⟩
  intro all
  have left := Sifting.winnow_sequence sifting [] tail
  rwa [List.append_nil, ← all] at left

/-- A response to a call among frames that are ignored: bytes that are no text, a response
without identifier, one that nobody waits for, a notification that nobody handles, and the
response once more. -/
def noisyFrames : Sifting :=
  [([0xFF], false), (replyPayload "null", false), (replyPayload "7", false),
    (crashPayload, false), (replyPayload "\"1\"", true), (replyPayload "1", false)]

/-- Among noise, a call gets its result, and two strays are counted. -/
theorem noisy_connection :
    ∃ inflow events session, Connection (.start []) inflow events session ∧
      Comes noisyFrames [] inflow session ∧ noisyFrames.OnlyIgnored (.start []) events ∧
      (dispatched events).length = 5 ∧ session.outcome? 0 = some (.ok (.bool true)) ∧
      session.strays = 2 := by
  obtain ⟨asked, ran⟩ : ∃ asked, (start []).run? oneRequest = some asked := ⟨_, rfl⟩
  have asking := Connection.start.own_run (by decide) ran
  cases ran
  have fed := asking.receive (Frame.sequence noisyFrames.all) rfl
  have ended := fed.endInbound
  have skipped := ended.read 1 (.junk rfl (.inl (Frame.next_encode (by decide) _)) rfl)
  have nameless := skipped.read 1 (.message rfl (.inl (Frame.next_encode (by decide) _)) rfl)
  have unknown := nameless.read 1 (.message rfl (.inl (Frame.next_encode (by decide) _)) rfl)
  have unheard := unknown.read 1 (.message rfl (.inl (Frame.next_encode (by decide) _)) rfl)
  have answered := unheard.read 1 (.message rfl (.inl (Frame.next_encode (by decide) _)) rfl)
  have late := answered.read 1 (.message rfl (.inl (Frame.next_encode (by decide) _)) rfl)
  have takes : ∀ event ∈ [SessionEvent.proceed .take ⟨1, none⟩ 0], event.isOwn = true := by decide
  have taken := late.own_run takes rfl
  refine ⟨_, _, _, taken, ?comes, ?ignored, rfl, rfl, rfl⟩
  case comes =>
    have whole : [] ++ Frame.sequence noisyFrames.all = Frame.sequence noisyFrames.all ++ [] := by
      rw [List.nil_append, List.append_nil]
    exact ⟨by decide, ⟨[], by simp⟩, fun _ => whole⟩
  case ignored =>
    -- backwards: each message is kept, or nobody waits for it, or nobody handles it
    refine .append (.read ?_ answered.steps _ 1 (.inr ?_)) rfl
    · refine .read ?_ unheard.steps _ 1 (.inl rfl)
      refine .read ?_ unknown.steps _ 1 (.inr rfl)
      refine .read ?_ nameless.steps _ 1 (.inr ?_)
      · refine .read ?_ skipped.steps _ 1 (.inr ?_)
        · exact .append (.append (.append (.append (.nil _ _) rfl) rfl) rfl) rfl
        · rintro id ⟨⟩
      · rintro id ⟨⟩
        exact ⟨rfl, fun value spelled => nomatch spelled⟩
    · rintro id ⟨⟩
      exact ⟨rfl, fun value spelled => nomatch spelled⟩

/-- Without the noise, the call gets the same, and no stray is counted. -/
theorem noise_leaves_no_trace :
    ∃ inflow events session, Connection (.start []) inflow events session ∧
      Comes noisyFrames [] inflow session ∧ noisyFrames.OnlyIgnored (.start []) events ∧
      session.outcome? 0 = some (.ok (.bool true)) ∧ session.strays = 2 ∧
      ∃ eventsToo other,
        Undisturbed noisyFrames [] (.start []) inflow events session eventsToo other ∧
        other.outcome? 0 = some (.ok (.bool true)) ∧ other.strays = 0 := by
  obtain ⟨inflow, events, session, connection, comes, ignored, count, outcome, strays⟩ :=
    noisy_connection
  obtain ⟨eventsToo, other, undisturbed⟩ := ignored_frames_leave_no_trace connection comes ignored
  refine ⟨inflow, events, session, connection, comes, ignored, outcome, strays, eventsToo, other,
    undisturbed, ?_, ?_⟩
  · rw [undisturbed.alike]
    exact outcome
  · have counts := undisturbed.strays
    have leftOut : noisyFrames.discarded 5 = 2 := rfl
    rw [strays, count, leftOut] at counts
    omega

end Session

end FoldAtlas
