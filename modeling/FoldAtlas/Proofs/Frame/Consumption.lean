import FoldAtlas.Proofs.Frame.Heading

/-!
# What a read takes off a stream

One read takes the lines of a header block, of which the budget pays every byte, and then at most
the declared length (`next_takes`). It takes no byte of a payload that is too long, and it does not
look for the end of a header block beyond the budget: a stream that completes no blank line within
it is an error, whatever comes later (`next_of_unblank`).

All of it is said of the bytes that a read leaves (`Progress.left`), which do not depend on how
the stream arrives (`Source.read_eq`).
-/

namespace FoldAtlas.Frame

variable {declared : Option Nat} {stream : Bytes}

/-- The bytes that a read leaves when no more come. -/
def Progress.left : Progress → Bytes
  | .delivered _ rest => rest
  | .starved _ => []

/-- A source reports what its bytes say and leaves what they leave. -/
theorem Source.read_eq (source : Source) :
    source.read.1 = (next source.bytes).atEnd ∧
      source.read.2.bytes = (next source.bytes).left := by
  cases progress : next source.bytes with
  | delivered delivery rest => exact read_of_next progress
  | starved atEnd =>
    rw [read_of_starved progress]
    exact ⟨rfl, rfl⟩

/-- Behind a header block that declares a length within the limit at most that many bytes are
taken, and behind any other one none. -/
theorem payload_takes (declared : Option Nat) (behind : Bytes) :
    ∃ body, behind = body ++ (Frame.payload declared behind).left ∧
      (body = [] ∨ ∃ length, declared = some length ∧ length ≤ payloadLimit ∧
        body.length ≤ length) := by
  cases declared with
  | none => exact ⟨[], rfl, .inl rfl⟩
  | some length =>
    rw [Frame.payload]
    by_cases long : payloadLimit < length
    · rw [if_pos long]
      exact ⟨[], rfl, .inl rfl⟩
    · have admitted : length ≤ payloadLimit := Nat.le_of_not_lt long
      rw [if_neg long]
      by_cases enough : length ≤ behind.length
      · rw [if_pos enough]
        refine ⟨behind.take length, (List.take_append_drop length behind).symm, .inr ?_⟩
        exact ⟨length, rfl, admitted, List.length_take_le length behind⟩
      · rw [if_neg enough]
        refine ⟨behind, (List.append_nil behind).symm, .inr ?_⟩
        exact ⟨length, rfl, admitted, Nat.le_of_not_le enough⟩

/-- Reading takes the lines up to the last one of the header block. Only if that is a blank line
it takes more, at most as many bytes as the block declares. -/
theorem next_takes (stream : Bytes) :
    ∃ lines last body, (Heading.start stream).Steps lines last ∧ last.IsLast ∧
      stream = lines.flatten ++ last.scan.line ++ body ++ (next stream).left ∧
      (body = [] ∨ ∃ headers returns length,
        lines.flatten ++ last.scan.line = block headers returns ∧ Declaration headers length ∧
        length ≤ payloadLimit ∧ body.length ≤ length) := by
  obtain ⟨lines, last, steps, isLast⟩ := (Heading.start stream).exists_last
  have progress := steps.next_eq
  have stands := steps.budget_eq.1
  rw [← last.scan_append, ← List.append_assoc] at stands
  -- what lies behind the last line is taken for the payload or left
  have whole {body : Bytes} (behind : last.scan.rest = body ++ (next stream).left) :
      stream = lines.flatten ++ last.scan.line ++ body ++ (next stream).left := by
    rw [behind, ← List.append_assoc] at stands
    exact stands
  cases isLast.ending with
  | blank returns line follows =>
    obtain ⟨body, behind, few⟩ := payload_takes last.declared last.scan.rest
    rw [← follows, ← progress] at behind
    refine ⟨lines, last, body, steps, isLast, whole behind, ?_⟩
    rcases few with none | ⟨length, declares, admitted, few⟩
    · exact .inl none
    · obtain ⟨headers, turn, blocks⟩ := steps.exists_block
      rw [declares] at turn
      refine .inr ⟨headers, returns, length, ?_, turn.declaration_of_none, admitted, few⟩
      rw [line, blocks]
  | refused error _ fails =>
    have behind : last.scan.rest = [] ++ (next stream).left := by
      rw [progress, fails]
      rfl
    exact ⟨lines, last, [], steps, isLast, whole behind, .inl rfl⟩
  | cut all _ starves =>
    have none : last.scan.rest = [] := by
      have nothing := last.scan_append
      rwa [all, List.append_right_eq_self] at nothing
    have behind : last.scan.rest = [] ++ (next stream).left := by
      rw [none, progress, starves]
      rfl
    exact ⟨lines, last, [], steps, isLast, whole behind, .inl rfl⟩

/-- Whether a blank line is complete within the first bytes of a stream. It begins where the stream
begins or behind a newline. -/
def HasBlankLine (limit : Nat) (stream : Bytes) : Prop :=
  ∃ front returns behind, stream = front ++ blankLine returns ++ behind ∧
    (front = [] ∨ front.getLast? = some 0x0A) ∧ (front ++ blankLine returns).length ≤ limit

/-- A blank line within the first bytes of a stream does not depend on the others. -/
theorem HasBlankLine.of_take {limit : Nat} (blank : HasBlankLine limit (stream.take limit)) :
    HasBlankLine limit stream := by
  obtain ⟨front, returns, behind, whole, begins, fits⟩ := blank
  refine ⟨front, returns, behind ++ stream.drop limit, ?_, begins, fits⟩
  rw [← List.append_assoc, ← whole, List.take_append_drop]

/-- A stream that uses up the budget without a blank line is an error. -/
theorem next_of_unblank (long : headerBudget ≤ stream.length)
    (unblank : ¬ HasBlankLine headerBudget stream) :
    ∃ error rest, next stream = .delivered (.failure error) rest := by
  obtain ⟨lines, last, steps, isLast⟩ := (Heading.start stream).exists_last
  obtain ⟨whole, -, spent⟩ := steps.budget_eq
  cases isLast.ending with
  | blank returns line _ =>
    have bounded := last.length_scan_le
    rw [← last.scan_append, ← List.append_assoc, line] at whole
    rw [line] at bounded
    refine absurd ⟨lines.flatten, returns, last.scan.rest, whole, steps.atLineStart, ?_⟩ unblank
    rw [List.length_append]
    omega
  | refused error _ fails => exact ⟨error, last.scan.rest, steps.next_eq.trans fails⟩
  | cut _ short _ =>
    rw [whole, List.length_append] at long
    omega

/-- A block within the budget that declares too long a payload is an error behind its blank
line. -/
theorem next_of_too_long {lines : List HeaderLine} {returns length : Nat}
    (declares : Declaration lines length) (long : payloadLimit < length)
    (fits : (block lines returns).length ≤ headerBudget) (rest : Bytes) :
    next (block lines returns ++ rest) = .delivered (.failure (.payloadTooLong length)) rest := by
  rw [next, header_block (.of_declaration declares none) fits, Frame.payload, if_pos long]

/-- A length line that spells no number of 64 bits is no header. -/
theorem HeaderLine.refused_of_misspelled {line : HeaderLine} (declaration : line.IsLength)
    (misspelled : ∀ length, ¬ Spells (trim line.value) length) (before : Option Nat) :
    ∃ error, meaning before line.bytes = .refused error := by
  cases understood : meaning before line.bytes with
  | refused error => exact ⟨error, rfl⟩
  | header after =>
    have turns := line.meaning_iff.mp understood
    rw [HeaderLine.Turns, if_pos declaration] at turns
    obtain ⟨length, spelled, -⟩ := turns
    exact absurd spelled (misspelled length)
  | blank =>
    -- the colon of a header line is no end of a line
    have colon : 0x3A ∈ Bytes.ofText ":" := by decide
    have inside : 0x3A ∈ line.bytes := by
      simp [HeaderLine.bytes, HeaderLine.chars, Bytes.ofText_append, colon]
    rcases returns_of_blank understood 0x3A inside with same | same
    · cases same
    · cases same

/-- Where a length line comes next that spells no number of 64 bits, the line is taken and
nothing else. -/
theorem Heading.progress_of_misspelled {heading : Heading} {line : HeaderLine}
    (comes : heading.scan.line = line.bytes) (declaration : line.IsLength)
    (misspelled : ∀ length, ¬ Spells (trim line.value) length) :
    ∃ error, heading.progress = .delivered (.failure error) heading.scan.rest := by
  obtain ⟨error, refused⟩ :=
    HeaderLine.refused_of_misspelled declaration misspelled heading.declared
  have ended : heading.scan.ended = true := by
    by_contra unended
    obtain ⟨all, inside, -⟩ := scanLine_unended (Bool.eq_false_iff.mpr unended)
    have whole : heading.scan.line = heading.rest := all
    rw [← whole, comes, line.bytes_eq] at inside
    simp at inside
  rw [Heading.progress_eq, if_pos ended, comes, refused]
  split_ifs
  · exact ⟨_, rfl⟩
  · exact ⟨_, rfl⟩
  · exact ⟨_, rfl⟩

namespace Source

/-- What one read takes off a stream, whatever the stream and however it arrives. The bytes of the
header lines and what is left of the budget always make up the whole budget, and the next line is
within what is left. The lines of the header block have at most as many bytes as the budget, and
what is taken behind them at most as many as they declare. A length beyond the limit is an error
that takes no byte of the payload, and one beyond 64 bits takes nothing behind its line. And the
first bytes of a stream, as many as the budget has, are an error by themselves if they complete no
blank line. -/
theorem read_is_bounded (source : Source) :
    (∀ lines heading, (Heading.start source.bytes).Steps lines heading →
      lines.flatten.length ≤ headerBudget ∧
      heading.budget = headerBudget - lines.flatten.length ∧
      heading.scan.line.length ≤ headerBudget - lines.flatten.length) ∧
    (∃ lines last body, (Heading.start source.bytes).Steps lines last ∧ last.IsLast ∧
      source.bytes = lines.flatten ++ last.scan.line ++ body ++ source.read.2.bytes ∧
      (lines.flatten ++ last.scan.line).length ≤ headerBudget ∧
      (body = [] ∨ ∃ headers returns length,
        lines.flatten ++ last.scan.line = block headers returns ∧ Declaration headers length ∧
        length ≤ payloadLimit ∧ body.length ≤ length)) ∧
    (∀ headers returns length rest, source.bytes = block headers returns ++ rest →
      (block headers returns).length ≤ headerBudget → Declaration headers length →
      payloadLimit < length →
        source.read.1 = .failure (.payloadTooLong length) ∧ source.read.2.bytes = rest) ∧
    (∀ lines heading line, (Heading.start source.bytes).Steps lines heading →
      heading.scan.line = HeaderLine.bytes line → line.IsLength →
      (∀ length, ¬ Spells (trim line.value) length) →
        ∃ error, source.read.1 = .failure error ∧
          source.bytes = lines.flatten ++ line.bytes ++ source.read.2.bytes) ∧
    (headerBudget ≤ source.bytes.length → ¬ HasBlankLine headerBudget source.bytes →
      ∃ error rest, next (source.bytes.take headerBudget) = .delivered (.failure error) rest ∧
        source.read.1 = .failure error) := by
  refine ⟨?_, ?_, ?_, ?_, ?_⟩
  · intro lines heading steps
    have paid := steps.budget_eq.2.2
    have bounded := heading.length_scan_le
    exact ⟨by omega, by omega, by omega⟩
  · obtain ⟨lines, last, body, steps, isLast, whole, few⟩ := next_takes source.bytes
    have paid := steps.budget_eq.2.2
    have bounded := last.length_scan_le
    rw [← source.read_eq.2] at whole
    refine ⟨lines, last, body, steps, isLast, whole, ?_, few⟩
    rw [List.length_append]
    omega
  · intro headers returns length rest stands fits declares long
    have delivered := next_of_too_long declares long fits rest
    rw [← stands] at delivered
    exact read_of_next delivered
  · intro lines heading line steps comes declaration misspelled
    obtain ⟨error, fails⟩ := Heading.progress_of_misspelled comes declaration misspelled
    have delivered : next source.bytes = .delivered (.failure error) heading.scan.rest :=
      steps.next_eq.trans fails
    obtain ⟨reports, leaves⟩ := read_of_next delivered
    have whole := steps.budget_eq.1
    rw [← heading.scan_append, comes, ← List.append_assoc] at whole
    rw [leaves]
    exact ⟨error, reports, whole⟩
  · intro long unblank
    have enough : headerBudget ≤ (source.bytes.take headerBudget).length := by
      rw [List.length_take, Nat.min_eq_left long]
    obtain ⟨error, rest, delivered⟩ :=
      next_of_unblank enough fun blank => unblank blank.of_take
    have later := next_append delivered (source.bytes.drop headerBudget)
    rw [List.take_append_drop] at later
    exact ⟨error, rest, delivered, (read_of_next later).1⟩

/-- A header line whose length is one byte beyond the limit. -/
def longLine : HeaderLine := ⟨"Content-Length".toList, " 67108865".toList, by decide, by decide⟩

/-- A header line whose length is the first one beyond 64 bits. -/
def hugeLine : HeaderLine :=
  ⟨"content-length".toList, "18446744073709551616".toList, by decide, by decide⟩

/-- A length that is one too many leaves what stands behind the blank line, one beyond 64 bits what
stands behind its line, and letters without a newline use up the budget. -/
theorem read_of_excess :
    ∃ long huge endless : Source,
      long.bytes = block [longLine] 1 ++ Bytes.ofText "abc" ∧
      long.read.1 = .failure (.payloadTooLong 67108865) ∧
      long.read.2.bytes = Bytes.ofText "abc" ∧
      huge.bytes = hugeLine.bytes ++ Bytes.ofText "abc" ∧
      (∃ error, huge.read.1 = .failure error) ∧
      huge.read.2.bytes = Bytes.ofText "abc" ∧
      endless.bytes = List.replicate 9000 0x61 ∧
      ∃ error, endless.read.1 = .failure error := by
  have spelled : Spells (trim " 67108865".toList) 67108865 :=
    ⟨"67108865".toList, .inl (by decide), by decide, List.all_eq_true.mp (by decide), by decide,
      by decide⟩
  have declares : Declaration [longLine] 67108865 :=
    Turn.declaration_of_none (.cons (HeaderLine.turns_of_isLength (by decide) spelled) (.nil _))
  have misspelled : ∀ length, ¬ Spells (trim hugeLine.value) length := by
    intro length spells
    rw [← unsigned64?_eq_some_iff] at spells
    have unread : unsigned64? (trim hugeLine.value) = none := by decide
    rw [unread] at spells
    cases spells
  have comes : (Heading.start (hugeLine.bytes ++ Bytes.ofText "abc")).scan.line =
      hugeLine.bytes := by
    have fits : (Bytes.ofText (String.ofList hugeLine.chars)).length < headerBudget := by decide
    rw [Heading.scan, Heading.start, hugeLine.bytes_eq, List.append_assoc, List.singleton_append,
      scanLine_newline hugeLine.newline_notMem fits]
  have unblank : ¬ HasBlankLine headerBudget (List.replicate 9000 0x61) := by
    rintro ⟨front, returns, behind, whole, -, -⟩
    have newline : 0x0A ∈ List.replicate 9000 (0x61 : UInt8) := by
      rw [whole, blankLine]
      simp
    cases (List.mem_replicate.mp newline).2
  have arrives (front behind : Bytes) : (Source.mk front [behind]).bytes = front ++ behind := by
    simp [bytes]
  have stands := arrives [] (List.replicate 9000 0x61)
  rw [List.nil_append] at stands
  obtain ⟨reports, leaves⟩ := (read_is_bounded _).2.2.1 [longLine] 1 67108865
    (Bytes.ofText "abc") (arrives _ _) (by decide) declares (by decide)
  obtain ⟨error, fails, whole⟩ := (read_is_bounded ⟨hugeLine.bytes, [Bytes.ofText "abc"]⟩).2.2.2.1
    [] _ hugeLine .refl (by rw [arrives, comes]) (by decide) misspelled
  obtain ⟨other, _, _, spent⟩ := (read_is_bounded ⟨[], [List.replicate 9000 0x61]⟩).2.2.2.2
    (by rw [stands, List.length_replicate]; decide) (by rwa [stands])
  rw [arrives] at whole
  exact ⟨_, _, _, arrives _ _, reports, leaves, arrives _ _, ⟨error, fails⟩,
    (List.append_cancel_left whole).symm, stands, other, spent⟩

end Source

end FoldAtlas.Frame
