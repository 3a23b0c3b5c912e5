import FoldAtlas.Proofs.Frame.Consumption

/-!
# Reading a stream to its end

A read that finds a byte takes at least one, whatever it reports (`next_takes_some`), and it
reports the end of the stream if and only if it finds none (`atEnd_eq_endOfStream_iff`). So whoever
reads on, after errors too, comes to the end, and there are no more reports before it than the
stream has bytes (`Source.exists_reports`).
-/

namespace FoldAtlas.Frame

variable {stream : Bytes}

/-! ## No byte to read -/

/-- Behind a header block, the end of the stream is an error or an empty payload. -/
theorem payload_atEnd_ne (declared : Option Nat) (behind : Bytes) :
    (Frame.payload declared behind).atEnd ≠ .endOfStream := by
  cases declared with
  | none => simp [Frame.payload, Progress.atEnd]
  | some length =>
    rw [Frame.payload]
    split_ifs <;> simp [Progress.atEnd]

/-- The end of a stream is between two frames if nothing of a header block is read yet: neither a
line, which leaves less of the budget, nor the beginning of one. -/
theorem endInLine_eq_endOfStream_iff {budget : Nat} {declared : Option Nat} {line : Bytes} :
    endInLine budget declared line = .endOfStream ↔ line = [] ∧ budget = headerBudget := by
  constructor
  · intro atEnd
    rw [endInLine] at atEnd
    split_ifs at atEnd with none whole
    · exact ⟨none, whole⟩
    · cases understood : meaning declared line with
      | refused error =>
        rw [understood] at atEnd
        cases atEnd
      | blank =>
        rw [understood] at atEnd
        exact absurd atEnd (payload_atEnd_ne declared [])
      | header after =>
        rw [understood] at atEnd
        cases atEnd
  · rintro ⟨rfl, rfl⟩
    rfl

/-- The end of a stream is reported where no byte is left, and nowhere else. -/
theorem atEnd_eq_endOfStream_iff : (next stream).atEnd = .endOfStream ↔ stream = [] := by
  constructor
  · intro atEnd
    obtain ⟨lines, last, steps, isLast⟩ := (Heading.start stream).exists_last
    rw [steps.next_eq] at atEnd
    cases isLast.ending with
    | blank _ _ follows =>
      rw [follows] at atEnd
      exact absurd atEnd (payload_atEnd_ne _ _)
    | refused _ _ fails =>
      rw [fails] at atEnd
      cases atEnd
    | cut _ _ starves =>
      rw [starves] at atEnd
      obtain ⟨nothing, full⟩ := endInLine_eq_endOfStream_iff.mp atEnd
      obtain ⟨whole, -, spent⟩ := steps.budget_eq
      have unread : lines.flatten = [] := List.length_eq_zero_iff.mp (by omega)
      rw [whole, unread, nothing, List.append_nil]
  · rintro rfl
    rw [next_nil]
    rfl

/-! ## A byte to read -/

/-- The last line that is read has something in it, or other lines stand before it. -/
theorem Heading.Steps.taken_ne_nil {lines : List Bytes} {last : Heading}
    (steps : (Heading.start stream).Steps lines last) (isLast : last.IsLast)
    (filled : stream ≠ []) :
    lines.flatten ++ last.scan.line ≠ [] := by
  intro none
  obtain ⟨front, line⟩ := List.append_eq_nil_iff.mp none
  obtain ⟨whole, -, full⟩ := steps.budget_eq
  rw [front, List.nil_append] at whole
  rw [front, List.length_nil, Nat.zero_add] at full
  cases isLast.ending with
  | blank returns ends _ =>
    rw [line, blankLine] at ends
    simp at ends
  | refused _ begun _ =>
    -- an empty line is refused only where the budget is spent, and here it is whole
    have spent := begun line
    rw [full] at spent
    cases spent
  | cut all _ _ =>
    rw [line, ← whole] at all
    exact filled all.symm

/-- A read that finds a byte takes at least one off the front of the stream. -/
theorem next_takes_some (filled : stream ≠ []) :
    ∃ taken, taken ≠ [] ∧ stream = taken ++ (next stream).left := by
  obtain ⟨lines, last, body, steps, isLast, whole, -⟩ := next_takes stream
  refine ⟨lines.flatten ++ last.scan.line ++ body, ?_, whole⟩
  intro none
  exact steps.taken_ne_nil isLast filled (List.append_eq_nil_iff.mp none).1

namespace Source

/-- Reading on reports other things than the end of the stream, at most as many as there are bytes,
and from then on the end. -/
theorem exists_reports (source : Source) :
    ∃ reports : List Delivery, reports.length ≤ source.bytes.length ∧ .endOfStream ∉ reports ∧
      ∀ more, successive read (reports.length + more) source =
        reports ++ List.replicate more .endOfStream := by
  induction size : source.bytes.length using Nat.strong_induction_on generalizing source with
  | h bytes ih =>
    by_cases empty : source.bytes = []
    · refine ⟨[], Nat.zero_le bytes, List.not_mem_nil, ?_⟩
      intro more
      rw [List.length_nil, Nat.zero_add, successive_of_empty more empty, List.nil_append]
    · obtain ⟨reads, leaves⟩ := source.read_eq
      obtain ⟨taken, some, whole⟩ := next_takes_some empty
      rw [← leaves] at whole
      have shorter : source.read.2.bytes.length < bytes := by
        have positive := List.length_pos_iff.mpr some
        rw [← size, whole, List.length_append]
        omega
      have other : source.read.1 ≠ .endOfStream := by
        rw [reads]
        exact mt atEnd_eq_endOfStream_iff.mp empty
      obtain ⟨reports, few, apart, later⟩ := ih _ shorter source.read.2 rfl
      refine ⟨source.read.1 :: reports, ?_, ?_, ?_⟩
      · rw [List.length_cons]
        omega
      · rw [List.mem_cons, not_or]
        exact ⟨other.symm, apart⟩
      · intro more
        rw [List.length_cons, Nat.add_right_comm, successive, later]
        rfl

/-- Whatever a stream holds and however it arrives, reading it comes to its end. The end is reported
if and only if no byte is left, and every other report takes bytes off the front. So there are at
most as many other reports as bytes, whatever they are, and then the end for ever. And the header
block of each read has a last line, before which there are no more lines than the budget or the
stream has bytes. -/
theorem read_comes_to_the_end (source : Source) :
    (source.read.1 = .endOfStream ↔ source.bytes = []) ∧
    (source.read.1 ≠ .endOfStream →
      ∃ taken, taken ≠ [] ∧ source.bytes = taken ++ source.read.2.bytes) ∧
    (∃ reports : List Delivery, reports.length ≤ source.bytes.length ∧ .endOfStream ∉ reports ∧
      ∀ more, successive read (reports.length + more) source =
        reports ++ List.replicate more .endOfStream) ∧
    (∃ lines last, (Heading.start source.bytes).Steps lines last ∧ last.IsLast ∧
      source.read.1 = last.progress.atEnd ∧ source.read.2.bytes = last.progress.left) ∧
    (∀ lines heading, (Heading.start source.bytes).Steps lines heading →
      lines.length ≤ headerBudget ∧ lines.length ≤ source.bytes.length) := by
  obtain ⟨reads, leaves⟩ := source.read_eq
  have ends : source.read.1 = .endOfStream ↔ source.bytes = [] := by
    rw [reads]
    exact atEnd_eq_endOfStream_iff
  refine ⟨ends, ?_, source.exists_reports, ?_, ?_⟩
  · intro other
    rw [leaves]
    exact next_takes_some (mt ends.mpr other)
  · obtain ⟨lines, last, steps, isLast⟩ := (Heading.start source.bytes).exists_last
    rw [steps.next_eq] at reads leaves
    exact ⟨lines, last, steps, isLast, reads, leaves⟩
  · intro lines heading steps
    obtain ⟨whole, few, spent⟩ := steps.budget_eq
    rw [whole, List.length_append]
    omega

/-- A line without a colon and a blank line without a header are errors that take bytes, and reading
on behind them comes to the end. -/
theorem noise_comes_to_the_end :
    ∃ source : Source, source.bytes = Bytes.ofText "noise\n\n" ∧
      (∃ taken, taken ≠ [] ∧ source.bytes = taken ++ source.read.2.bytes) ∧
      ∃ reports : List Delivery, reports.length ≤ 7 ∧ .endOfStream ∉ reports ∧
        successive read (reports.length + 1) source = reports ++ [.endOfStream] := by
  let source : Source := ⟨Bytes.ofText "noise", [Bytes.ofText "\n", Bytes.ofText "\n"]⟩
  obtain ⟨ends, takes, ⟨reports, few, apart, later⟩, -, -⟩ := read_comes_to_the_end source
  have other : source.read.1 ≠ .endOfStream := mt ends.mp (by decide)
  exact ⟨source, by decide, takes other, reports, few, apart, later 1⟩

end Source

end FoldAtlas.Frame
