import FoldAtlas.Proofs.Frame.Block

/-!
# The lines of a header block, one after the other

Reading a header block as a sequence of steps. Where a reader stands in the block (`Heading`) is
the budget that is left to it, the length that is declared so far and the bytes in front of it,
and a step takes one header line (`Heading.Step`).

No step changes what reading on comes to (`Step.progress_eq`), and the budget pays for every byte
that a step takes, of which there is at least one (`Step.accounts`). So the bytes that some steps
took and the budget that they left always make up the whole budget (`Steps.accounts`), and reading
comes to a last line (`exists_last`). That line is blank, or it is refused, or the stream ends in
it (`IsLast.ending`).
-/

namespace FoldAtlas.Frame

/-- Where a reader stands in a header block. -/
structure Heading where
  /-- How many bytes the rest of the block may have. -/
  budget : Nat
  /-- The length that is declared so far. -/
  declared : Option Nat
  /-- The bytes that are not read yet. -/
  rest : Bytes

namespace Heading

/-- In front of a stream. -/
def start (stream : Bytes) : Heading := ⟨headerBudget, none, stream⟩

/-- The line that comes next, as far as the budget allows. -/
def scan (heading : Heading) : LineScan := scanLine heading.budget heading.rest

/-- What reading on comes to. -/
def progress (heading : Heading) : Progress :=
  header heading.budget heading.declared heading.rest

/-- Reading one header line leads from one place to another. -/
inductive Step : Heading → Bytes → Heading → Prop where
  | line {heading : Heading} {declared : Option Nat} (ended : heading.scan.ended = true)
      (fits : overruns heading.budget heading.scan.line = false)
      (understood : meaning heading.declared heading.scan.line = .header declared) :
      Step heading heading.scan.line
        ⟨heading.budget - heading.scan.line.length, declared, heading.scan.rest⟩

/-- Reading some header lines, one after the other, leads from one place to another. -/
inductive Steps : Heading → List Bytes → Heading → Prop where
  | refl {heading : Heading} : Steps heading [] heading
  | step {heading next last : Heading} {line : Bytes} {lines : List Bytes}
      (first : heading.Step line next) (others : Steps next lines last) :
      Steps heading (line :: lines) last

/-- Whether no further header line is read. -/
def IsLast (heading : Heading) : Prop := ∀ line next, ¬ heading.Step line next

variable {heading next last : Heading} {line : Bytes} {lines : List Bytes}

/-! ## One line -/

/-- Nothing is lost between the line that comes next and what lies behind it. -/
theorem scan_append (heading : Heading) :
    heading.scan.line ++ heading.scan.rest = heading.rest :=
  line_append_rest heading.budget heading.rest

/-- The line that comes next is within the budget. -/
theorem length_scan_le (heading : Heading) : heading.scan.line.length ≤ heading.budget :=
  length_scanLine_le heading.budget heading.rest

/-- What reading on comes to, told from the line that comes next. -/
theorem progress_eq (heading : Heading) :
    heading.progress =
      if heading.scan.ended = true then
        if (Bytes.text? heading.scan.line).isNone then
          .delivered (.failure .headerNotText) heading.scan.rest
        else if overruns heading.budget heading.scan.line = false then
          match meaning heading.declared heading.scan.line with
          | .refused error => .delivered (.failure error) heading.scan.rest
          | .blank => Frame.payload heading.declared heading.scan.rest
          | .header declared =>
            progress ⟨heading.budget - heading.scan.line.length, declared, heading.scan.rest⟩
        else .delivered (.failure .headerTooLong) heading.scan.rest
      else .starved (endInLine heading.budget heading.declared heading.scan.line) := by
  rw [progress, header]
  rfl

/-- Reading a header line does not change what reading on comes to. -/
theorem Step.progress_eq (step : heading.Step line next) : heading.progress = next.progress := by
  cases step with
  | line ended fits understood =>
    have text := isNone_text?_of_meaning (by rw [understood]; simp)
    rw [Heading.progress_eq, if_pos ended, text, if_neg Bool.false_ne_true, if_pos fits,
      understood]

/-- The line that is read stands in front of what is left, has at least one byte, and is paid
from the budget, which is large enough. -/
theorem Step.accounts (step : heading.Step line next) :
    heading.rest = line ++ next.rest ∧ 0 < line.length ∧
      line.length + next.budget = heading.budget := by
  cases step with
  | line ended fits understood =>
    refine ⟨heading.scan_append.symm, ?_, ?_⟩
    · exact scanLine_length_pos ended fits
    · exact Nat.add_sub_cancel' heading.length_scan_le

/-- The line that is read is a header line, which ends in its only newline. -/
theorem Step.exists_line (step : heading.Step line next) :
    ∃ header : HeaderLine, header.bytes = line ∧ header.Turns heading.declared next.declared := by
  cases step with
  | line ended fits understood =>
    obtain ⟨body, inside, whole⟩ := exists_body ended fits
    have spelled : heading.scan.line = body ++ [0x0A] := whole
    rw [spelled] at understood
    obtain ⟨header, bytes⟩ := HeaderLine.exists_of_meaning inside understood
    rw [← bytes] at understood
    exact ⟨header, bytes.trans spelled.symm, header.meaning_iff.mp understood⟩

/-! ## Some lines -/

/-- Reading header lines does not change what reading on comes to. -/
theorem Steps.progress_eq (steps : heading.Steps lines last) :
    heading.progress = last.progress := by
  induction steps with
  | refl => rfl
  | step first _ ih => exact first.progress_eq.trans ih

/-- The lines that are read stand in front of what is left, there are no more of them than they
have bytes, and they are paid from the budget. -/
theorem Steps.accounts (steps : heading.Steps lines last) :
    heading.rest = lines.flatten ++ last.rest ∧ lines.length ≤ lines.flatten.length ∧
      lines.flatten.length + last.budget = heading.budget := by
  induction steps with
  | refl => simp
  | step first _ ih =>
    obtain ⟨stands, positive, paid⟩ := first.accounts
    obtain ⟨behind, few, paidBehind⟩ := ih
    rw [List.flatten_cons, List.length_append, List.length_cons]
    refine ⟨?_, by omega, by omega⟩
    rw [stands, behind, List.append_assoc]

/-- Reading a stream comes to what reading on behind some of its lines comes to. -/
theorem Steps.next_eq {stream : Bytes} (steps : (start stream).Steps lines last) :
    Frame.next stream = last.progress :=
  steps.progress_eq

/-- The lines that are read from a stream stand at its front, and with what is left of the budget
they make up the whole budget. -/
theorem Steps.budget_eq {stream : Bytes} (steps : (start stream).Steps lines last) :
    stream = lines.flatten ++ last.rest ∧ lines.length ≤ lines.flatten.length ∧
      lines.flatten.length + last.budget = headerBudget :=
  steps.accounts

/-- The lines that are read are the header lines of a block, and with a blank line behind them
they are the block. -/
theorem Steps.exists_block (steps : heading.Steps lines last) :
    ∃ headers, Turn heading.declared headers last.declared ∧
      ∀ returns, block headers returns = lines.flatten ++ blankLine returns := by
  induction steps with
  | refl => exact ⟨[], .nil _, fun returns => block_nil returns⟩
  | step first _ ih =>
    obtain ⟨header, bytes, turns⟩ := first.exists_line
    obtain ⟨headers, others, whole⟩ := ih
    refine ⟨header :: headers, .cons turns others, ?_⟩
    intro returns
    rw [block_cons, bytes, whole, List.flatten_cons, List.append_assoc]

/-- What is read so far ends where a line ends. -/
theorem Steps.atLineStart (steps : heading.Steps lines last) :
    lines.flatten = [] ∨ lines.flatten.getLast? = some 0x0A := by
  induction steps with
  | refl => exact .inl rfl
  | step first _ ih =>
    obtain ⟨header, rfl, -⟩ := first.exists_line
    rw [List.flatten_cons, List.getLast?_append, header.bytes_eq]
    rcases ih with none | newline
    · simp [none]
    · simp [newline]

/-- Reading header lines comes to an end. -/
theorem exists_last (heading : Heading) :
    ∃ lines last, heading.Steps lines last ∧ last.IsLast := by
  induction size : heading.budget using Nat.strong_induction_on generalizing heading with
  | h budget ih =>
    by_cases isLast : heading.IsLast
    · exact ⟨[], heading, .refl, isLast⟩
    · simp only [IsLast, not_forall, not_not] at isLast
      obtain ⟨line, next, first⟩ := isLast
      obtain ⟨-, positive, paid⟩ := first.accounts
      obtain ⟨lines, last, others, isLast⟩ := ih next.budget (by omega) next rfl
      exact ⟨line :: lines, last, .step first others, isLast⟩

/-! ## The last line -/

/-- How the reading of a header block ends. -/
inductive Ending (heading : Heading) : Prop where
  /-- A blank line is read, and the payload follows. -/
  | blank (returns : Nat) (line : heading.scan.line = blankLine returns)
      (follows : heading.progress = Frame.payload heading.declared heading.scan.rest)
  /-- What is read is no header line. There is nothing of it only if the budget is spent. -/
  | refused (error : FrameError) (begun : heading.scan.line = [] → heading.budget = 0)
      (fails : heading.progress = .delivered (.failure error) heading.scan.rest)
  /-- The stream ends before the line does. -/
  | cut (all : heading.scan.line = heading.rest) (short : heading.rest.length < heading.budget)
      (starves : heading.progress =
        .starved (endInLine heading.budget heading.declared heading.rest))

/-- A line with nothing in it, unless the stream ends, has used up the budget. -/
theorem budget_eq_zero_of_scan (ended : heading.scan.ended = true)
    (none : heading.scan.line = []) : heading.budget = 0 := by
  rcases scanLine_cases ended with ⟨body, -, line⟩ | ⟨-, full⟩
  · have filled : heading.scan.line = body ++ [0x0A] := line
    rw [none] at filled
    simp at filled
  · have spent : heading.scan.line.length = heading.budget := full
    rw [none] at spent
    exact spent.symm

/-- A blank line within the budget ends the block. -/
theorem ending_of_blank (ended : heading.scan.ended = true)
    (fits : overruns heading.budget heading.scan.line = false)
    (understood : meaning heading.declared heading.scan.line = .blank) : heading.Ending := by
  have text := isNone_text?_of_meaning (by rw [understood]; simp)
  have follows : heading.progress = Frame.payload heading.declared heading.scan.rest := by
    rw [progress_eq, if_pos ended, text, if_neg Bool.false_ne_true, if_pos fits, understood]
  obtain ⟨body, inside, whole⟩ := exists_body ended fits
  have spelled : heading.scan.line = body ++ [0x0A] := whole
  have line : heading.scan.line = blankLine body.length := by
    rw [spelled] at understood
    rw [spelled, blankLine,
      ← eq_returns_of_blank understood (List.subset_append_left _ _) inside]
  exact .blank body.length line follows

/-- Where no further header line is read, the block ends in one of three ways. -/
theorem IsLast.ending (isLast : heading.IsLast) : heading.Ending := by
  have whole := heading.progress_eq
  by_cases ended : heading.scan.ended = true
  · rw [if_pos ended] at whole
    have begun := budget_eq_zero_of_scan ended
    by_cases text : (Bytes.text? heading.scan.line).isNone = true
    · rw [if_pos text] at whole
      exact .refused _ begun whole
    · rw [if_neg text] at whole
      by_cases fits : overruns heading.budget heading.scan.line = false
      · rw [if_pos fits] at whole
        cases understood : meaning heading.declared heading.scan.line with
        | refused error =>
          rw [understood] at whole
          exact .refused error begun whole
        | blank => exact ending_of_blank ended fits understood
        | header declared => exact absurd (.line ended fits understood) (isLast _ _)
      · rw [if_neg fits] at whole
        exact .refused _ begun whole
  · rw [if_neg ended] at whole
    obtain ⟨line, -, short⟩ := scanLine_unended (Bool.eq_false_iff.mpr ended)
    have all : heading.scan.line = heading.rest := line
    rw [all] at whole
    exact .cut all short whole

end Heading

end FoldAtlas.Frame
