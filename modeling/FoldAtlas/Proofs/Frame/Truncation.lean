import FoldAtlas.Proofs.Frame.Stream

/-!
# Streams cut short

A stream that ends inside a frame, wherever it is cut, is told from one that ends
between two frames: what is left of the frame is an error, and never a payload
(`Source.cut_frame_is_failure`).

The cut may leave a line of the header block that looks like a complete one, such as a
length that lacks its last digits. It makes no difference, because the payload that
such a line would declare is not there either. Only a declared length of zero would
make a header block pass whose last line is cut (`endInLine_failure`).
-/

namespace FoldAtlas.Frame

/-- What begins two pieces is cut inside the first, or holds it. -/
theorem prefix_append_cases {part front back : Bytes} (cut : part <+: front ++ back) :
    (part <+: front ∧ part ≠ front) ∨ ∃ behind, part = front ++ behind ∧ behind <+: back := by
  obtain ⟨lost, whole⟩ := cut
  rcases List.append_eq_append_iff.mp whole with ⟨missing, rfl, -⟩ | ⟨behind, rfl, rfl⟩
  · by_cases none : missing = []
    · exact .inr ⟨[], by simp [none], List.nil_prefix⟩
    · exact .inl ⟨List.prefix_append part missing, by simpa using none⟩
  · exact .inr ⟨behind, rfl, List.prefix_append behind lost⟩

/-! ## Header blocks that end too early -/

/-- A line that the stream ends in is all there is. -/
theorem scanLine_of_unended {limit : Nat} {line : Bytes} (inside : 0x0A ∉ line)
    (fits : line.length < limit) : scanLine limit line = ⟨line, [], false⟩ := by
  induction line generalizing limit with
  | nil =>
    obtain ⟨limit, rfl⟩ := Nat.exists_eq_add_one_of_ne_zero (Nat.ne_of_gt fits)
    rfl
  | cons byte line ih =>
    obtain ⟨limit, rfl⟩ := Nat.exists_eq_add_one_of_ne_zero (Nat.ne_zero_of_lt fits)
    simp only [List.mem_cons, not_or] at inside
    have other : byte ≠ 0x0A := Ne.symm inside.1
    simp [scanLine, other, ih inside.2 (Nat.lt_of_succ_lt_succ fits)]

/-- A header block that the stream ends in needs more bytes. -/
theorem header_of_unended {budget : Nat} {line : Bytes} (inside : 0x0A ∉ line)
    (fits : line.length < budget) (declared : Option Nat) :
    header budget declared line = .starved (endInLine budget declared line) := by
  rw [header]
  simp [scanLine_of_unended inside fits]

/-- At the end of the stream there is no payload but an empty one. -/
theorem payload_nil_failure {declared : Option Nat} (filled : declared ≠ some 0) :
    ∃ error, (payload declared []).atEnd = .failure error := by
  cases declared with
  | none => exact ⟨.missingLength, rfl⟩
  | some length =>
    have positive : ¬ length = 0 := fun zero => filled (congrArg some zero)
    simp only [payload, List.length_nil, Nat.le_zero_eq, positive, ↓reduceIte]
    split
    · exact ⟨_, rfl⟩
    · exact ⟨_, rfl⟩

/-- The end of the stream inside a header block is an error, unless the block declared
an empty payload. -/
theorem endInLine_failure {budget : Nat} {declared : Option Nat} {line : Bytes}
    (inside : line ≠ [] ∨ budget ≠ headerBudget) (filled : declared ≠ some 0) :
    ∃ error, endInLine budget declared line = .failure error := by
  rw [endInLine]
  by_cases empty : line = []
  · have spent : budget ≠ headerBudget := inside.resolve_left (not_not_intro empty)
    rw [if_pos empty, if_neg spent]
    exact ⟨_, rfl⟩
  · rw [if_neg empty]
    cases meaning declared line with
    | refused error => exact ⟨error, rfl⟩
    | blank => exact payload_nil_failure filled
    | header _ => exact ⟨_, rfl⟩

/-! ## Frames that end too early -/

variable {payload part : Bytes}

/-- A frame that is cut inside the line that declares its length. -/
theorem next_of_cut_declaration (short : payload.length ≤ payloadLimit)
    (cut : part <+: lengthLine payload.length) (proper : part ≠ lengthLine payload.length)
    (begun : part ≠ []) : ∃ error, next part = .starved (.failure error) := by
  obtain ⟨line, declaration, noNewline, shortLine⟩ := lengthLine_eq (length_lt_size short)
  rw [declaration] at cut proper
  have within : part <+: line := (List.prefix_concat_iff.mp cut).resolve_left proper
  have unended : 0x0A ∉ part := fun member => noNewline (within.subset member)
  have fits : part.length < headerBudget :=
    Nat.lt_of_le_of_lt within.length_le (Nat.lt_trans shortLine (by decide))
  obtain ⟨error, failure⟩ : ∃ error, endInLine headerBudget none part = .failure error :=
    endInLine_failure (.inl begun) (by simp)
  exact ⟨error, by rw [next, header_of_unended unended fits, failure]⟩

/-- A frame that is cut inside the blank line. -/
theorem next_of_cut_blank {blank : Bytes} (short : payload.length ≤ payloadLimit)
    (filled : payload ≠ []) (cut : blank <+: Bytes.ofText "\r\n")
    (proper : blank ≠ Bytes.ofText "\r\n") :
    ∃ error, next (lengthLine payload.length ++ blank) = .starved (.failure error) := by
  have bound := length_lt_size short
  have room := lengthLine_fits bound
  have within : blank <+: [0x0D] := (List.prefix_concat_iff.mp cut).resolve_left proper
  have unended : 0x0A ∉ blank := fun member => absurd (within.subset member) (by decide)
  have fits : blank.length < headerBudget - (lengthLine payload.length).length := by
    have length := within.length_le
    rw [List.length_singleton] at length
    omega
  have spent : headerBudget - (lengthLine payload.length).length ≠ headerBudget := by
    have positive : 0 < (lengthLine payload.length).length := by
      obtain ⟨line, declaration, -⟩ := lengthLine_eq bound
      simp [declaration]
    omega
  have declared : some payload.length ≠ some 0 := by simpa using filled
  obtain ⟨error, failure⟩ : ∃ error, endInLine (headerBudget - (lengthLine payload.length).length)
      (some payload.length) blank = .failure error := endInLine_failure (.inr spent) declared
  exact ⟨error, by rw [next_lengthLine bound, header_of_unended unended fits, failure]⟩

/-- A frame that is cut inside its payload. -/
theorem next_of_cut_payload {received : Bytes} (short : payload.length ≤ payloadLimit)
    (cut : received <+: payload) (proper : received ≠ payload) :
    next (lengthLine payload.length ++ (Bytes.ofText "\r\n" ++ received)) =
      .starved (.failure (.endedInPayload received.length payload.length)) := by
  have bound := length_lt_size short
  have room := lengthLine_fits bound
  have missing : ¬ payload.length ≤ received.length := fun enough =>
    proper (cut.eq_of_length_le enough)
  have admitted : ¬ payloadLimit < payload.length := Nat.not_lt.mpr short
  rw [next_lengthLine bound, header_lineEnd (by omega), Frame.payload, if_neg admitted,
    if_neg missing]

/-- A part of a frame, wherever it is cut, needs more bytes, and is an error without
them. -/
theorem next_of_cut (short : payload.length ≤ payloadLimit) (filled : payload ≠ [])
    (cut : part <+: encode payload) (proper : part ≠ encode payload) (begun : part ≠ []) :
    ∃ error, next part = .starved (.failure error) := by
  rw [encode_eq, List.append_assoc] at cut proper
  rcases prefix_append_cases cut with ⟨inside, unfinished⟩ | ⟨behind, rfl, within⟩
  · exact next_of_cut_declaration short inside unfinished begun
  · rcases prefix_append_cases within with ⟨inside, unfinished⟩ | ⟨received, rfl, inside⟩
    · exact next_of_cut_blank short filled inside unfinished
    · have unfinished : received ≠ payload := by
        rintro rfl
        exact proper rfl
      exact ⟨_, next_of_cut_payload short inside unfinished⟩

namespace Source

/-- A stream that ends inside a frame, wherever it is cut and however it arrives:
successive reads report the payloads of the frames before it and then an error, not the
end of the stream and no part of the frame. Nothing is left for any further read. -/
theorem cut_frame_is_failure {payloads chunks : List Bytes}
    (shorts : ∀ payload ∈ payloads, payload.length ≤ payloadLimit)
    (short : payload.length ≤ payloadLimit) (filled : payload ≠ [])
    (cut : part <+: encode payload) (proper : part ≠ encode payload) (begun : part ≠ [])
    (arrives : chunks.flatten = (payloads.map encode).flatten ++ part) (reads : Nat) :
    ∃ error : FrameError,
      successive read (payloads.length + (reads + 1)) (.ofChunks chunks) =
        payloads.map .frame ++ .failure error :: List.replicate reads .endOfStream ∧
      successive readMessage (payloads.length + (reads + 1)) (.ofChunks chunks) =
        payloads.map (fun payload =>
          match Message.ofPayload payload with
          | .ok message => .ok (some message)
          | .error fault => .error (.json fault)) ++
        .error (.framing error.message) :: List.replicate reads (.ok none) := by
  have incoming : (ofChunks chunks).bytes = (payloads.map encode).flatten ++ part := arrives
  obtain ⟨behind, bytes, frames⟩ := successive_frames (reads + 1) shorts incoming
  obtain ⟨error, starved⟩ := next_of_cut short filled cut proper begun
  rw [← bytes] at starved
  rw [successive, read_of_starved starved, successive_of_empty reads rfl] at frames
  refine ⟨error, frames, ?_⟩
  rw [successive_readMessage, frames, List.map_append, List.map_map, List.map_cons,
    List.map_replicate]
  rfl

/-- A frame of twelve bytes is cut between the two digits of its length, so that the
line declares a single byte. -/
theorem failure_of_cut_length :
    ∃ chunks error, chunks.length = 2 ∧
      chunks.flatten = (awkwardPayloads.map encode).flatten ++ Bytes.ofText "Content-Length: 1" ∧
      Bytes.ofText "Content-Length: 1" <+: encode (Bytes.ofText "twelve bytes") ∧
      successive read 6 (.ofChunks chunks) =
        awkwardPayloads.map .frame ++ [.failure error, .endOfStream] := by
  have shorts : ∀ payload ∈ awkwardPayloads, payload.length ≤ payloadLimit := by decide
  have cut : Bytes.ofText "Content-Length: 1" <+: encode (Bytes.ofText "twelve bytes") := by decide
  have short : (Bytes.ofText "twelve bytes").length ≤ payloadLimit := by decide
  have arrives : [(awkwardPayloads.map encode).flatten, Bytes.ofText "Content-Length: 1"].flatten =
      (awkwardPayloads.map encode).flatten ++ Bytes.ofText "Content-Length: 1" := by simp
  obtain ⟨error, frames, -⟩ := cut_frame_is_failure shorts short (by decide) cut (by decide)
    (by decide) arrives 1
  exact ⟨_, error, rfl, arrives, cut, frames⟩

end Source

end FoldAtlas.Frame
