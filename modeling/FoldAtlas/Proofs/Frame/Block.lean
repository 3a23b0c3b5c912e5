import FoldAtlas.Proofs.Frame.Declaration
import FoldAtlas.Proofs.Frame.Truncation

/-!
# Header blocks

The header blocks in front of frames. A block is some header lines and a blank line
(`block`), and it declares the length that the last of its length lines spells
(`Declaration`).

Reading is complete for blocks: behind any block within the budget the declared number
of bytes is the payload, and a block beyond the budget is an error
(`Source.read_of_block`). It is sound up to one exception: a frame stands behind a block,
unless it is empty and the stream ends inside the blank line, behind a carriage return
(`Source.block_of_frame`, `Source.unended_block_is_accepted`).
-/

namespace FoldAtlas.Frame

variable {before after : Option Nat} {budget length returns : Nat} {lines : List HeaderLine}
  {stream rest payload : Bytes}

/-! ## Blocks -/

/-- The text of some header lines. -/
def headerText (lines : List HeaderLine) : List Char :=
  lines.flatMap fun line => line.chars ++ ['\n']

/-- A header block: some header lines, and a line of carriage returns. -/
def block (lines : List HeaderLine) (returns : Nat) : Bytes :=
  Bytes.ofText (String.ofList (headerText lines ++ (List.replicate returns '\r' ++ ['\n'])))

/-- A header block that lacks the newline at its end. -/
def unendedBlock (lines : List HeaderLine) (returns : Nat) : Bytes :=
  Bytes.ofText (String.ofList (headerText lines ++ List.replicate returns '\r'))

/-- Behind its header lines, a block is a blank line. -/
theorem block_nil (returns : Nat) : block [] returns = blankLine returns :=
  ofText_returns returns

/-- A block is longer than its blank line. -/
theorem returns_lt_length (lines : List HeaderLine) (returns : Nat) :
    returns < (block lines returns).length := by
  rw [block, headerText, String.ofList_append, Bytes.ofText_append, ofText_returns, blankLine]
  simp only [List.length_append, List.length_replicate, List.length_singleton]
  omega

/-- A block begins with its first header line. -/
theorem block_cons (line : HeaderLine) (lines : List HeaderLine) (returns : Nat) :
    block (line :: lines) returns = line.bytes ++ block lines returns := by
  rw [block, block, HeaderLine.bytes, ← Bytes.ofText_append]
  congr 1
  apply String.toList_injective
  simp [headerText]

/-- Behind its header lines, a block without its newline is carriage returns. -/
theorem unendedBlock_nil (returns : Nat) :
    unendedBlock [] returns = List.replicate returns 0x0D := by
  have ascii : ∀ char ∈ List.replicate returns '\r', char.toNat < 128 := fun char member => by
    rw [(List.mem_replicate.mp member).2]
    decide
  rw [unendedBlock, headerText, List.flatMap_nil, List.nil_append, Bytes.ofText_ofList ascii,
    List.map_replicate]
  rfl

/-- A block without its newline begins with its first header line. -/
theorem unendedBlock_cons (line : HeaderLine) (lines : List HeaderLine) (returns : Nat) :
    unendedBlock (line :: lines) returns = line.bytes ++ unendedBlock lines returns := by
  rw [unendedBlock, unendedBlock, HeaderLine.bytes, ← Bytes.ofText_append]
  congr 1
  apply String.toList_injective
  simp [headerText]

/-! ## The declared length -/

/-- Whether some header lines declare a length: every length line spells one, and the
last of them this one. -/
structure Declaration (lines : List HeaderLine) (length : Nat) : Prop where
  /-- Every length line spells a number. -/
  each : ∀ line ∈ lines, line.IsLength → ∃ number, Spells (trim line.value) number
  /-- The last length line spells the length. -/
  last : ∃ front line back, lines = front ++ line :: back ∧ line.IsLength ∧
    Spells (trim line.value) length ∧ ∀ other ∈ back, ¬ other.IsLength

/-- Whether some header lines, one after the other, turn the length that is declared
before them into another one. -/
inductive Turn : Option Nat → List HeaderLine → Option Nat → Prop where
  /-- Without lines, nothing changes. -/
  | nil (declared : Option Nat) : Turn declared [] declared
  /-- Every line goes on with what the line before it left. -/
  | cons {before between after : Option Nat} {line : HeaderLine} {lines : List HeaderLine}
      (first : line.Turns before between) (others : Turn between lines after) :
      Turn before (line :: lines) after

namespace Turn

/-- Some lines are followed by others. -/
theorem append {between : Option Nat} {more : List HeaderLine} (front : Turn before lines between)
    (back : Turn between more after) : Turn before (lines ++ more) after := by
  induction front with
  | nil => exact back
  | cons first _ ih => exact .cons first (ih back)

/-- Lines that spell their lengths turn into something what is declared before them. -/
theorem exists_of_each
    (each : ∀ line ∈ lines, line.IsLength → ∃ number, Spells (trim line.value) number)
    (before : Option Nat) : ∃ after, Turn before lines after := by
  induction lines generalizing before with
  | nil => exact ⟨before, .nil before⟩
  | cons line lines ih =>
    obtain ⟨first, others⟩ := List.forall_mem_cons.mp each
    obtain ⟨between, turns⟩ : ∃ between, line.Turns before between := by
      by_cases declaration : line.IsLength
      · obtain ⟨number, spelled⟩ := first declaration
        exact ⟨some number, HeaderLine.turns_of_isLength declaration spelled⟩
      · exact ⟨before, HeaderLine.turns_of_other declaration⟩
    obtain ⟨after, behind⟩ := ih others between
    exact ⟨after, .cons turns behind⟩

/-- Without length lines, nothing changes. -/
theorem of_none (none : ∀ line ∈ lines, ¬ line.IsLength) (declared : Option Nat) :
    Turn declared lines declared := by
  induction lines with
  | nil => exact .nil declared
  | cons line lines ih =>
    obtain ⟨first, others⟩ := List.forall_mem_cons.mp none
    exact .cons (HeaderLine.turns_of_other first) (ih others)

/-- What lines declare takes effect, whatever is declared before them. -/
theorem of_declaration (declares : Declaration lines length) (before : Option Nat) :
    Turn before lines (some length) := by
  obtain ⟨front, line, back, rfl, declaration, spelled, none⟩ := declares.last
  obtain ⟨between, others⟩ :=
    exists_of_each (fun line member => declares.each line (List.mem_append_left _ member)) before
  have turns : line.Turns between (some length) :=
    HeaderLine.turns_of_isLength declaration spelled
  exact others.append (.cons turns (.of_none none _))

/-- What lines turn into is declared by the last length line among them, or before
them. -/
theorem declaration (turn : Turn before lines after) :
    (∃ length, after = some length ∧ Declaration lines length) ∨
      (after = before ∧ ∀ line ∈ lines, ¬ line.IsLength) := by
  induction turn with
  | nil => exact .inr ⟨rfl, by simp⟩
  | @cons before between after line lines first others ih =>
    rw [HeaderLine.Turns] at first
    split at first
    · next declaration =>
      obtain ⟨number, spelled, rfl⟩ := first
      rcases ih with ⟨length, rfl, each, front, last, back, rfl, rest⟩ | ⟨rfl, none⟩
      · exact .inl ⟨length, rfl, List.forall_mem_cons.mpr ⟨fun _ => ⟨number, spelled⟩, each⟩,
          line :: front, last, back, rfl, rest⟩
      · refine .inl ⟨number, rfl, List.forall_mem_cons.mpr ⟨fun _ => ⟨number, spelled⟩, ?_⟩,
          [], line, lines, rfl, declaration, spelled, none⟩
        exact fun other member absurdly => absurd absurdly (none other member)
    · next noDeclaration =>
      obtain rfl := first
      rcases ih with ⟨length, rfl, each, front, last, back, rfl, rest⟩ | ⟨rfl, none⟩
      · refine .inl ⟨length, rfl, List.forall_mem_cons.mpr ⟨fun declaration => ?_, each⟩,
          line :: front, last, back, rfl, rest⟩
        exact absurd declaration noDeclaration
      · exact .inr ⟨rfl, List.forall_mem_cons.mpr ⟨noDeclaration, none⟩⟩

/-- Lines that turn nothing into a length declare it. -/
theorem declaration_of_none (turn : Turn none lines (some length)) : Declaration lines length := by
  rcases turn.declaration with ⟨_, same, declares⟩ | ⟨same, -⟩
  · exact Option.some.inj same ▸ declares
  · cases same

end Turn

/-! ## Blocks are understood -/

/-- Behind a block within the budget, the payload follows. -/
theorem header_block (turn : Turn before lines after) (fits : (block lines returns).length ≤ budget)
    (rest : Bytes) :
    header budget before (block lines returns ++ rest) = Frame.payload after rest := by
  induction turn generalizing budget with
  | nil declared =>
    have inside : 0x0A ∉ List.replicate returns (0x0D : UInt8) := fun member =>
      absurd (List.mem_replicate.mp member).2 (by decide)
    rw [block_nil] at fits ⊢
    rw [blankLine, List.length_append, List.length_singleton] at fits
    rw [blankLine, List.append_assoc, List.singleton_append]
    exact header_of_blank inside fits (meaning_blankLine declared returns) rest
  | @cons before between after line lines first others ih =>
    have understood := line.meaning_iff.mpr first
    rw [block_cons, List.length_append, line.bytes_eq, List.length_append,
      List.length_singleton] at fits
    rw [line.bytes_eq] at understood
    rw [block_cons, List.append_assoc, line.bytes_eq, List.append_assoc, List.singleton_append,
      header_of_line line.newline_notMem (by omega) understood, ih (by omega)]

/-- A line that is cut by its budget has no end. -/
theorem scanLine_of_cut {limit : Nat} {line : Bytes} (inside : 0x0A ∉ line)
    (long : limit ≤ line.length) (rest : Bytes) :
    scanLine limit (line ++ rest) = ⟨line.take limit, line.drop limit ++ rest, true⟩ := by
  induction line generalizing limit with
  | nil =>
    obtain rfl := Nat.le_zero.mp long
    cases rest <;> rfl
  | cons byte line ih =>
    cases limit with
    | zero => rfl
    | succ limit =>
      simp only [List.mem_cons, not_or] at inside
      have other : byte ≠ 0x0A := Ne.symm inside.1
      simp [scanLine, other, ih inside.2 (Nat.le_of_succ_le_succ long)]

/-- A line that is cut by its budget is an error. -/
theorem header_of_cut {line : Bytes} (inside : 0x0A ∉ line) (long : budget ≤ line.length)
    (declared : Option Nat) (rest : Bytes) :
    ∃ error behind, header budget declared (line ++ rest) = .delivered (.failure error) behind := by
  have cut : overruns budget (line.take budget) = true := by
    have unended : (line.take budget).getLast? ≠ some 0x0A := fun last =>
      inside (List.mem_of_mem_take (List.mem_of_getLast? last))
    simp [overruns, List.length_take, Nat.min_eq_left long, unended]
  rw [header]
  simp only [scanLine_of_cut inside long, cut, ↓reduceDIte]
  split
  · exact ⟨_, _, rfl⟩
  · exact ⟨.headerTooLong, line.drop budget ++ rest, by simp⟩

/-- A block beyond the budget is an error. -/
theorem header_block_of_long (turn : Turn before lines after)
    (long : budget < (block lines returns).length) (rest : Bytes) :
    ∃ error behind,
      header budget before (block lines returns ++ rest) = .delivered (.failure error) behind := by
  induction turn generalizing budget with
  | nil declared =>
    have inside : 0x0A ∉ List.replicate returns (0x0D : UInt8) := fun member =>
      absurd (List.mem_replicate.mp member).2 (by decide)
    rw [block_nil, blankLine, List.length_append, List.length_singleton] at long
    rw [block_nil, blankLine, List.append_assoc]
    exact header_of_cut inside (Nat.le_of_lt_succ long) declared _
  | @cons before between after line lines first others ih =>
    have understood := line.meaning_iff.mpr first
    rw [block_cons, List.length_append, line.bytes_eq, List.length_append,
      List.length_singleton] at long
    rw [line.bytes_eq] at understood
    rw [block_cons, List.append_assoc, line.bytes_eq, List.append_assoc, List.singleton_append]
    by_cases fits : (Bytes.ofText (String.ofList line.chars)).length < budget
    · rw [header_of_line line.newline_notMem fits understood]
      exact ih (by omega)
    · exact header_of_cut line.newline_notMem (Nat.le_of_not_lt fits) before _

namespace Source

/-- What is read behind a block that declares a length, whatever its header lines and
their order, number and spelling, and however the stream arrives: exactly that many bytes,
and the source is left behind them, if the block is within the budget, and an error if
not. -/
theorem read_of_block (declares : Declaration lines length) (admitted : length ≤ payloadLimit)
    {source : Source} (stands : source.bytes = block lines returns ++ rest)
    (enough : length ≤ rest.length) :
    ((block lines returns).length ≤ headerBudget →
      source.read.1 = .frame (rest.take length) ∧ source.read.2.bytes = rest.drop length) ∧
    (headerBudget < (block lines returns).length →
      ∃ error, source.read.1 = .failure error) := by
  have turn := Turn.of_declaration declares none
  constructor
  · intro fits
    have delivered : next source.bytes =
        .delivered (.frame (rest.take length)) (rest.drop length) := by
      rw [stands, next, header_block turn fits, Frame.payload, if_neg (Nat.not_lt.mpr admitted),
        if_pos enough]
    exact read_of_next delivered
  · intro long
    obtain ⟨error, behind, delivered⟩ := header_block_of_long turn long rest
    rw [← stands] at delivered
    exact ⟨error, (read_of_next delivered).1⟩

/-- Header lines in odd spellings; the last of the two lengths is three. -/
def oddLines : List HeaderLine :=
  [⟨"Content-Type".toList, "text:plain\r\r".toList, by decide, by decide⟩,
    ⟨"\u00a0CONTENT-length\t".toList, " +0064 \r".toList, by decide, by decide⟩,
    ⟨[], [], by decide, by decide⟩,
    ⟨"content-Length".toList, "003".toList, by decide, by decide⟩,
    ⟨"\u2028\u00e9".toList, "".toList, by decide, by decide⟩]

/-- The odd lines declare three bytes. -/
theorem declaration_oddLines : Declaration oddLines 3 := by
  have first : Spells (trim " +0064 \r".toList) 64 :=
    ⟨"0064".toList, .inr (by decide), by decide, List.all_eq_true.mp (by decide), by decide,
      by decide⟩
  have last : Spells (trim "003".toList) 3 :=
    ⟨"003".toList, .inl (by decide), by decide, List.all_eq_true.mp (by decide), by decide,
      by decide⟩
  exact Turn.declaration_of_none (.cons (HeaderLine.turns_of_other (by decide))
    (.cons (HeaderLine.turns_of_isLength (by decide) first)
    (.cons (HeaderLine.turns_of_other (by decide))
    (.cons (HeaderLine.turns_of_isLength (by decide) last)
    (.cons (HeaderLine.turns_of_other (by decide)) (.nil _))))))

/-- Behind odd lines, three bytes are read, and behind a blank line that is too long for
the budget there is an error. -/
theorem read_of_oddBlock :
    ∃ within beyond : Source,
      within.bytes = block oddLines 2 ++ Bytes.ofText "abcdef" ∧
      within.read.1 = .frame (Bytes.ofText "abc") ∧
      within.read.2.bytes = Bytes.ofText "def" ∧
      beyond.bytes = block oddLines 8192 ++ Bytes.ofText "abcdef" ∧
      ∃ error, beyond.read.1 = .failure error := by
  have declares := declaration_oddLines
  have admitted : 3 ≤ payloadLimit := by decide
  have enough : 3 ≤ (Bytes.ofText "abcdef").length := by decide
  have arrives (returns : Nat) :
      (ofChunks [block oddLines returns, Bytes.ofText "abcdef"]).bytes =
        block oddLines returns ++ Bytes.ofText "abcdef" := by
    simp [bytes, ofChunks]
  have fits : (block oddLines 2).length ≤ headerBudget := by decide
  obtain ⟨frame, left⟩ := (read_of_block declares admitted (arrives 2) enough).1 fits
  have long := (read_of_block declares admitted (arrives 8192) enough).2
    (returns_lt_length oddLines 8192)
  exact ⟨_, _, arrives 2, frame, left, arrives 8192, long⟩

end Source

/-! ## What is understood is a block -/

/-- A line that ended is complete, or as long as its budget. -/
theorem scanLine_cases {limit : Nat} (ended : (scanLine limit stream).ended = true) :
    (∃ body, 0x0A ∉ body ∧ (scanLine limit stream).line = body ++ [0x0A]) ∨
      (0x0A ∉ (scanLine limit stream).line ∧ (scanLine limit stream).line.length = limit) := by
  fun_induction scanLine limit stream with
  | case1 => exact .inr ⟨by simp, rfl⟩
  | case2 => cases ended
  | case3 => exact .inl ⟨[], by simp, rfl⟩
  | case4 limit byte stream other scan ih =>
    have apart : 0x0A ≠ byte := Ne.symm other
    rcases ih ended with ⟨body, inside, line⟩ | ⟨inside, full⟩
    · exact .inl ⟨byte :: body, by simp [apart, inside], by simp [scan, line]⟩
    · exact .inr ⟨by simp [scan, apart, inside], by simp [scan, full]⟩

/-- A line that ended within its budget is complete. -/
theorem exists_body {limit : Nat} (ended : (scanLine limit stream).ended = true)
    (fits : overruns limit (scanLine limit stream).line = false) :
    ∃ body, 0x0A ∉ body ∧ (scanLine limit stream).line = body ++ [0x0A] := by
  refine (scanLine_cases ended).resolve_right fun ⟨inside, full⟩ => ?_
  have unended : (scanLine limit stream).line.getLast? ≠ some 0x0A := fun last =>
    inside (List.mem_of_getLast? last)
  simp [overruns, full, unended] at fits

/-- A line that the stream ends in is all that is left, and has no end. -/
theorem scanLine_unended {limit : Nat} (unended : (scanLine limit stream).ended = false) :
    (scanLine limit stream).line = stream ∧ 0x0A ∉ stream ∧ stream.length < limit := by
  fun_induction scanLine limit stream with
  | case1 => cases unended
  | case2 => simp
  | case3 => cases unended
  | case4 limit byte stream other scan ih =>
    obtain ⟨line, inside, short⟩ := ih unended
    have apart : 0x0A ≠ byte := Ne.symm other
    exact ⟨by simp [scan, line], by simp [apart, inside], by simpa using short⟩

/-- A payload is what was declared, at the front of the stream. -/
theorem payload_eq_frame {declared : Option Nat}
    (delivered : Frame.payload declared stream = .delivered (.frame payload) rest) :
    declared = some payload.length ∧ payload.length ≤ payloadLimit ∧ stream = payload ++ rest := by
  cases declared with
  | none => cases delivered
  | some length =>
    simp only [Frame.payload] at delivered
    split at delivered
    · cases delivered
    · next admitted =>
      split at delivered
      · next enough =>
        cases delivered
        have size : (stream.take length).length = length := by
          rw [List.length_take, Nat.min_eq_left enough]
        rw [size]
        exact ⟨rfl, Nat.le_of_not_lt admitted, (List.take_append_drop length stream).symm⟩
      · cases delivered

/-- What is blank and has no newline is carriage returns. -/
theorem eq_returns_of_blank {declared : Option Nat} {line body : Bytes}
    (blank : meaning declared line = .blank) (within : body ⊆ line) (inside : 0x0A ∉ body) :
    body = List.replicate body.length 0x0D :=
  List.eq_replicate_of_mem fun byte member =>
    (returns_of_blank blank byte (within member)).resolve_right fun same =>
      inside (same ▸ member)

/-- A payload stands behind a block within the budget. -/
theorem block_of_header
    (delivered : header budget before stream = .delivered (.frame payload) rest) :
    ∃ lines returns, Turn before lines (some payload.length) ∧ payload.length ≤ payloadLimit ∧
      (block lines returns).length ≤ budget ∧ stream = block lines returns ++ payload ++ rest := by
  fun_induction header budget before stream with
  | case1 | case2 | case5 => cases (Progress.delivered.inj delivered).1
  | case3 budget before stream ended text fits blank =>
    obtain ⟨body, inside, line⟩ := exists_body ended fits
    have whole := line_append_rest budget stream
    have bounded := length_scanLine_le budget stream
    obtain ⟨rfl, admitted, behind⟩ := payload_eq_frame delivered
    rw [line] at blank whole bounded
    have returns := eq_returns_of_blank blank (List.subset_append_left _ _) inside
    have last : block [] body.length = body ++ [0x0A] := by
      rw [block_nil, blankLine, ← returns]
    refine ⟨[], body.length, .nil _, admitted, by rwa [last], ?_⟩
    rw [last, List.append_assoc, ← behind, whole]
  | case4 budget before stream ended text fits between understood ih =>
    obtain ⟨body, inside, line⟩ := exists_body ended fits
    have whole := line_append_rest budget stream
    have bounded := length_scanLine_le budget stream
    rw [line] at understood whole bounded
    obtain ⟨first, spelled⟩ := HeaderLine.exists_of_meaning inside understood
    rw [← spelled, HeaderLine.meaning_iff] at understood
    obtain ⟨lines, returns, turn, admitted, short, behind⟩ := ih delivered
    refine ⟨first :: lines, returns, .cons understood turn, admitted, ?_, ?_⟩
    · rw [line] at short
      rw [block_cons, List.length_append, spelled]
      omega
    · rw [block_cons, List.append_assoc, List.append_assoc, ← List.append_assoc _ payload,
        ← behind, spelled, whole]
  | case6 => cases delivered

/-- No payload is there that needs more bytes. -/
theorem payload_ne_starved {declared : Option Nat} :
    Frame.payload declared stream ≠ .starved (.frame payload) := by
  intro starved
  cases declared with
  | none => cases starved
  | some length =>
    simp only [Frame.payload] at starved
    split at starved
    · cases starved
    · split at starved <;> cases starved

/-- The end of the stream inside a line is taken for a payload if the line is blank and an
empty payload was declared. -/
theorem endInLine_eq_frame {declared : Option Nat} {line : Bytes}
    (ends : endInLine budget declared line = .frame payload) :
    line ≠ [] ∧ meaning declared line = .blank ∧ declared = some 0 ∧ payload = [] := by
  rw [endInLine] at ends
  split at ends
  · split at ends <;> cases ends
  · next begun =>
    split at ends
    · cases ends
    · next blank =>
      have empty : declared = some 0 := by
        by_contra filled
        obtain ⟨error, failure⟩ := payload_nil_failure filled
        cases failure.symm.trans ends
      subst empty
      cases ends
      exact ⟨begun, blank, rfl, rfl⟩
    · cases ends

/-- At the end of the stream, a payload is empty and stands behind a block without its
newline. -/
theorem unendedBlock_of_header
    (starved : header budget before stream = .starved (.frame payload)) :
    ∃ lines returns, Turn before lines (some 0) ∧ payload = [] ∧ 0 < returns ∧
      stream = unendedBlock lines returns ∧ stream.length < budget := by
  fun_induction header budget before stream with
  | case1 | case2 | case5 => cases starved
  | case3 => exact absurd starved payload_ne_starved
  | case4 budget before stream ended text fits between understood ih =>
    obtain ⟨body, inside, line⟩ := exists_body ended fits
    have whole := line_append_rest budget stream
    have bounded := length_scanLine_le budget stream
    obtain ⟨lines, returns, turn, empty, begun, behind, short⟩ := ih starved
    rw [line] at understood whole bounded short
    obtain ⟨first, spelled⟩ := HeaderLine.exists_of_meaning inside understood
    rw [← spelled, HeaderLine.meaning_iff] at understood
    refine ⟨first :: lines, returns, .cons understood turn, empty, begun, ?_, ?_⟩
    · rw [unendedBlock_cons, ← behind, spelled, whole]
    · rw [← whole, List.length_append]
      omega
  | case6 budget before stream unended =>
    obtain ⟨line, inside, short⟩ := scanLine_unended (Bool.eq_false_iff.mpr unended)
    rw [line] at starved
    obtain ⟨begun, blank, rfl, empty⟩ := endInLine_eq_frame (Progress.starved.inj starved)
    have returns := eq_returns_of_blank blank (List.Subset.refl stream) inside
    refine ⟨[], stream.length, .nil _, empty, List.length_pos_iff.mpr begun, ?_, short⟩
    rw [unendedBlock_nil, ← returns]

namespace Source

/-- What a frame that is read stands behind, whatever the stream: a header block within
the budget, ended by its blank line, that declares its length. Only an empty frame may be
read off a stream that ends inside the blank line, behind one or more carriage
returns. -/
theorem block_of_frame {source : Source} (found : source.read.1 = .frame payload) :
    (∃ lines returns, Declaration lines payload.length ∧ payload.length ≤ payloadLimit ∧
      (block lines returns).length ≤ headerBudget ∧
      source.bytes = block lines returns ++ payload ++ source.read.2.bytes) ∨
    (payload = [] ∧ source.read.2.bytes = [] ∧
      ∃ lines returns, Declaration lines 0 ∧ 0 < returns ∧
        source.bytes = unendedBlock lines returns ∧ source.bytes.length < headerBudget) := by
  cases progress : next source.bytes with
  | delivered delivery rest =>
    obtain ⟨report, left⟩ := read_of_next progress
    obtain rfl := report.symm.trans found
    obtain ⟨lines, returns, turn, admitted, fits, whole⟩ := block_of_header progress
    rw [left]
    exact .inl ⟨lines, returns, turn.declaration_of_none, admitted, fits, whole⟩
  | starved atEnd =>
    have report := read_of_starved progress
    rw [report] at found ⊢
    obtain rfl := found
    obtain ⟨lines, returns, turn, empty, begun, whole, short⟩ := unendedBlock_of_header progress
    exact .inr ⟨empty, rfl, lines, returns, turn.declaration_of_none, begun, whole, short⟩

/-- A written frame is read off its stream, and stands behind a block. -/
theorem block_of_writtenFrame :
    ∃ source : Source, source.read.1 = .frame (Bytes.ofText "abc") ∧
      ∃ lines returns, Declaration lines 3 ∧ (block lines returns).length ≤ headerBudget ∧
        source.bytes = block lines returns ++ Bytes.ofText "abc" ++ source.read.2.bytes := by
  have short : (Bytes.ofText "abc").length ≤ payloadLimit := by decide
  have written : (ofChunks [encode (Bytes.ofText "abc")]).bytes =
      encode (Bytes.ofText "abc") ++ [] := by
    simp [bytes, ofChunks]
  have found : (ofChunks [encode (Bytes.ofText "abc")]).read.1 = .frame (Bytes.ofText "abc") :=
    (read_of_next (by rw [written, next_encode short])).1
  rcases block_of_frame found with ⟨lines, returns, declares, -, fits, whole⟩ | ⟨empty, -⟩
  · exact ⟨_, found, lines, returns, declares, fits, whole⟩
  · cases empty

/-- An empty frame is read off a stream that ends inside a blank line, although its header
block is not ended. -/
theorem unended_block_is_accepted :
    ¬ ∀ (source : Source) (payload : Bytes), source.read.1 = .frame payload →
      ∃ lines returns, source.bytes = block lines returns ++ payload ++ source.read.2.bytes := by
  intro claimed
  have starved : next (lengthLine 0 ++ [0x0D]) = .starved (.frame []) := by
    rw [next_lengthLine (by decide), header_of_unended (by decide) (by decide)]
    rfl
  have arrives : (ofChunks [lengthLine 0, [0x0D]]).bytes = lengthLine 0 ++ [0x0D] := by
    simp [bytes, ofChunks]
  have report := read_of_starved (arrives ▸ starved)
  obtain ⟨lines, returns, whole⟩ := claimed _ [] (by rw [report])
  rw [arrives, report, List.append_nil] at whole
  have ending : (block lines returns).getLast? = some 0x0A := by
    rw [block, String.ofList_append, Bytes.ofText_append, ofText_returns, blankLine]
    simp
  have stands : lengthLine 0 ++ [0x0D] = block lines returns := whole.trans (List.append_nil _)
  rw [← stands, List.getLast?_append] at ending
  cases ending

end Source

end FoldAtlas.Frame
