import FoldAtlas.Analysis
import FoldAtlas.Proofs.Pairing.Rearrangement
import FoldAtlas.Proofs.Settings.Precedence
import Mathlib.Algebra.Group.Int.Defs

/-!
# Sums out of range

Pairing as it goes where every sum is checked: symbol by symbol, region by region, and no further
once a sum leaves 64 bits (`PairingRule.checkedPairs`). This is what an analysis does. Up to the
check it is pairing with sums that wrap, and `PairingRule.overflows` foretells where it breaks down
(`PairingRule.checkedPairs_eq`).

An offset below zero never makes a sum too small, since a line is not negative. A sum is too large
exactly where a symbol that is not left out and a region begin on the same line and end line and
offset come to 2 ^ 63, whatever order they stand in and whatever else there is; and offsets up to
2 ^ 63 - 2 ^ 32 are safe at every document, as others are not
(`PairingRule.checkedPairs_breaks_down_exactly`). The settings set no bound
(`PairingRule.sum_may_leave_range`).
-/

namespace FoldAtlas

namespace PairingRule

variable {rule : PairingRule} {symbol : OutlineEntry} {symbols : List OutlineEntry}
  {region : FoldingRange} {regions : List FoldingRange}

/-! ## Pairing with a check at every sum -/

/-- The sum of a region's end line and the offset, if 64 bits hold it. -/
def sum? (rule : PairingRule) (region : FoldingRange) : Option Int64 :=
  let sum := (region.endLine.toNat : Int) + rule.endLineOffset.toInt
  if Int64.minValue.toInt ≤ sum ∧ sum ≤ Int64.maxValue.toInt then some (Int64.ofInt sum) else none

/-- Whether a region covers the same block as a symbol. The sum is taken only where both begin on
the same line. -/
def checkedMatch (rule : PairingRule) (symbol : OutlineEntry) (region : FoldingRange) :
    Option Bool :=
  if region.startLine = symbol.range.start.line then
    (rule.sum? region).map (· == Int64.ofNat symbol.range.stop.line.toNat)
  else some false

/-- The first region that covers the same block as a symbol. Regions behind it are not looked
at. -/
def checkedRegion (rule : PairingRule) (symbol : OutlineEntry) :
    List FoldingRange → Option (Option FoldingRange)
  | [] => some none
  | region :: regions =>
    (rule.checkedMatch symbol region).bind fun matched =>
      if matched then some (some region) else rule.checkedRegion symbol regions

/-- The pairs of symbols and regions, or nothing if a sum leaves 64 bits. For a symbol of an
excluded kind no region is sought. -/
def checkedPairs (rule : PairingRule) (regions : List FoldingRange) :
    List OutlineEntry → Option (List FoldedSymbol)
  | [] => some []
  | symbol :: symbols =>
    if rule.excludes symbol.kind then rule.checkedPairs regions symbols
    else
      (rule.checkedRegion symbol regions).bind fun region =>
        (rule.checkedPairs regions symbols).map fun pairs =>
          (region.map (⟨symbol, ·⟩)).toList ++ pairs

/-! ## The check and the sum that wraps -/

/-- A sum that is checked is the one that wraps, unless it does. -/
theorem sum?_eq (rule : PairingRule) (region : FoldingRange) :
    rule.sum? region = if rule.wraps region then none
      else some (Int64.ofNat region.endLine.toNat + rule.endLineOffset) := by
  have same : Int64.ofInt (region.endLine.toNat + rule.endLineOffset.toInt) =
      Int64.ofNat region.endLine.toNat + rule.endLineOffset := by
    rw [Int64.ofInt_add, Int64.ofInt_toInt]
    rfl
  unfold sum? wraps
  grind

/-- A region that matches a symbol brings no sum that wraps. -/
theorem wraps_eq_false_of_isMatch (matched : rule.isMatch symbol region = true) :
    rule.wraps region = false :=
  wraps_eq_false_of_covers (isMatch_iff_covers.mp matched) region

/-- A check of a region breaks down where it comes upon a sum that wraps. -/
theorem checkedMatch_eq (rule : PairingRule) (symbol : OutlineEntry) (region : FoldingRange) :
    rule.checkedMatch symbol region =
      if region.startLine == symbol.range.start.line && rule.wraps region then none
      else some (rule.isMatch symbol region) := by
  unfold checkedMatch isMatch
  rw [sum?_eq]
  by_cases same : region.startLine = symbol.range.start.line
  · cases wrapped : rule.wraps region <;> simp [same]
  · simp [same]

/-- A search comes upon a sum that wraps at the first region, or else behind it. -/
theorem searchOverflows_cons (rule : PairingRule) (symbol : OutlineEntry) (region : FoldingRange)
    (regions : List FoldingRange) :
    rule.searchOverflows symbol (region :: regions) =
      (!rule.isMatch symbol region &&
        ((region.startLine == symbol.range.start.line && rule.wraps region) ||
          rule.searchOverflows symbol regions)) := by
  unfold searchOverflows
  rw [List.takeWhile_cons]
  cases matched : rule.isMatch symbol region <;> simp

/-- A search with a check at every sum finds what the other search finds, unless it comes upon a
sum that wraps. -/
theorem checkedRegion_eq (rule : PairingRule) (symbol : OutlineEntry)
    (regions : List FoldingRange) :
    rule.checkedRegion symbol regions =
      if rule.searchOverflows symbol regions then none
      else some (rule.region? symbol regions) := by
  induction regions with
  | nil => rfl
  | cons region regions ih =>
    rw [checkedRegion, checkedMatch_eq, searchOverflows_cons, region?, List.find?_cons]
    cases matched : rule.isMatch symbol region with
    | true =>
      -- The search ends here, and the sum that matched is a line.
      simp [wraps_eq_false_of_isMatch matched]
    | false =>
      rw [ih, region?]
      cases here : region.startLine == symbol.range.start.line && rule.wraps region <;> simp

/-- Pairing with a check at every sum finds the pairs, unless it comes upon a sum that wraps. -/
theorem checkedPairs_eq (rule : PairingRule) (symbols : List OutlineEntry)
    (regions : List FoldingRange) :
    rule.checkedPairs regions symbols =
      if rule.overflows symbols regions then none else some (rule.pairs symbols regions) := by
  induction symbols with
  | nil => rfl
  | cons symbol symbols ih =>
    rw [checkedPairs, overflows, List.any_cons, ← overflows, pairs, List.filter_cons]
    cases out : rule.excludes symbol.kind with
    | true => simpa [pairs] using ih
    | false =>
      rw [checkedRegion_eq, ih]
      cases here : rule.searchOverflows symbol regions with
      | true => simp
      | false =>
        cases behind : rule.overflows symbols regions with
        | true => simp
        | false => cases found : rule.region? symbol regions <;> simp [pairs, found]

/-- An analysis pairs with a check at every sum. -/
theorem next_listing (subject : AnalysisSubject) (symbols : List OutlineEntry)
    (regions : List FoldingRange) :
    Analysis.next subject (.listing regions) (.symbols symbols) =
      (subject.rule.checkedPairs regions symbols).elim .brokeDown
        fun folded => .reported ⟨symbols, regions, folded⟩ := by
  rw [Analysis.next, checkedPairs_eq]
  cases subject.rule.overflows symbols regions <;> rfl

/-! ## Where a sum is out of range -/

/-- Whether some symbol that is not left out and some region begin on the same line and the end
line of the region and the offset come to more than 64 bits hold. -/
def Exceeds (rule : PairingRule) (symbols : List OutlineEntry) (regions : List FoldingRange) :
    Prop :=
  ∃ symbol ∈ symbols, symbol.kind ∉ rule.excludedKinds ∧
    ∃ region ∈ regions, region.startLine = symbol.range.start.line ∧
      2 ^ 63 ≤ (region.endLine.toNat : Int) + rule.endLineOffset.toInt

/-- A sum wraps just if it is too large: it is never too small. -/
theorem wraps_iff :
    rule.wraps region = true ↔
      2 ^ 63 ≤ (region.endLine.toNat : Int) + rule.endLineOffset.toInt := by
  have least : Int64.minValue.toInt = -2 ^ 63 := by decide
  have greatest : Int64.maxValue.toInt = 2 ^ 63 - 1 := by decide
  have lower : -2 ^ 63 ≤ rule.endLineOffset.toInt := rule.endLineOffset.le_toInt
  unfold wraps
  rw [least, greatest, Bool.or_eq_true, decide_eq_true_eq, decide_eq_true_eq]
  omega

/-- A search comes upon a sum that wraps just if there is one among the regions that begin on the
line of the symbol. That the search might end before it is no exception: a region that ends it
leaves no sum that wraps. -/
theorem searchOverflows_iff :
    rule.searchOverflows symbol regions = true ↔
      ∃ region ∈ regions, region.startLine = symbol.range.start.line ∧
        2 ^ 63 ≤ (region.endLine.toNat : Int) + rule.endLineOffset.toInt := by
  simp only [← wraps_iff]
  cases found : rule.region? symbol regions with
  | none =>
    rw [searchOverflows_of_none found, List.any_eq_true]
    simp only [Bool.and_eq_true, beq_iff_eq]
  | some region =>
    have safe := wraps_eq_false_of_covers (covers_of_region? found).2
    simp [searchOverflows, safe]

/-- Pairing comes upon a sum that wraps just where one is out of range. -/
theorem overflows_iff_exceeds :
    rule.overflows symbols regions = true ↔ rule.Exceeds symbols regions := by
  simp only [overflows, Exceeds, List.any_eq_true, Bool.and_eq_true, searchOverflows_iff]
  simp [excludes]

/-- Beyond this offset, the sum of a region that ends on the last line is too large for a symbol of
any kind that is paired. -/
theorem exceeds_last_line (kind : SymbolKind) (kept : kind ∉ rule.excludedKinds)
    (large : 2 ^ 63 - 2 ^ 32 < rule.endLineOffset.toInt) :
    rule.Exceeds [⟨"", kind, .origin, none⟩] [⟨0, 4294967295, none, none, none⟩] := by
  refine ⟨_, List.mem_singleton_self _, kept, _, List.mem_singleton_self _, rfl, ?_⟩
  have last : (4294967295 : UInt32).toNat = 2 ^ 32 - 1 := by decide
  rw [last]
  omega

/-- No document brings a sum out of range just if the offset is not too large, or no symbol is ever
paired. -/
theorem never_exceeds_iff :
    (∀ symbols regions, ¬ rule.Exceeds symbols regions) ↔
      rule.endLineOffset.toInt ≤ 2 ^ 63 - 2 ^ 32 ∨ ∀ kind, kind ∈ rule.excludedKinds := by
  constructor
  · intro safe
    by_cases small : rule.endLineOffset.toInt ≤ 2 ^ 63 - 2 ^ 32
    · exact .inl small
    · refine .inr fun kind => Decidable.of_not_not fun kept => ?_
      exact safe _ _ (exceeds_last_line kind kept (Int.not_le.mp small))
  · rintro (small | all) symbols regions ⟨symbol, -, kept, region, -, -, large⟩
    · have bound : region.endLine.toNat < 2 ^ 32 := region.endLine.toNat_lt
      omega
    · exact kept (all symbol.kind)

/-- Pairing with a check at every sum breaks down just where one is out of range. -/
theorem checkedPairs_eq_none_iff :
    rule.checkedPairs regions symbols = none ↔ rule.Exceeds symbols regions := by
  rw [checkedPairs_eq, ← overflows_iff_exceeds]
  cases rule.overflows symbols regions <;> simp

/-- Pairing with a check at every sum finds the pairs, and nothing else, just where none is out of
range. -/
theorem checkedPairs_eq_some_iff {folded : List FoldedSymbol} :
    rule.checkedPairs regions symbols = some folded ↔
      ¬ rule.Exceeds symbols regions ∧ folded = rule.pairs symbols regions := by
  rw [checkedPairs_eq, ← overflows_iff_exceeds]
  cases rule.overflows symbols regions <;> simp [eq_comm]

/-! ## All together -/

/-- With a check at every sum, as an analysis pairs, pairing breaks down exactly where a sum is too
large, and everywhere else it finds the pairs. No document brings that about just if the offset is
at most 2 ^ 63 - 2 ^ 32, or no kind of symbol is ever paired. -/
theorem checkedPairs_breaks_down_exactly (rule : PairingRule) :
    (∀ symbols regions,
      (rule.checkedPairs regions symbols = none ↔ rule.Exceeds symbols regions) ∧
      (∀ folded, rule.checkedPairs regions symbols = some folded ↔
        ¬ rule.Exceeds symbols regions ∧ folded = rule.pairs symbols regions) ∧
      ∀ uri languageId text,
        Analysis.next ⟨uri, languageId, text, rule⟩ (.listing regions) (.symbols symbols) =
          (rule.checkedPairs regions symbols).elim .brokeDown
            fun folded => .reported ⟨symbols, regions, folded⟩) ∧
    ((∀ symbols regions, (rule.checkedPairs regions symbols).isSome) ↔
      rule.endLineOffset.toInt ≤ 2 ^ 63 - 2 ^ 32 ∨ ∀ kind, kind ∈ rule.excludedKinds) := by
  refine ⟨fun symbols regions => ⟨checkedPairs_eq_none_iff, fun folded => checkedPairs_eq_some_iff,
    fun uri languageId text => next_listing ⟨uri, languageId, text, rule⟩ symbols regions⟩, ?_⟩
  rw [← never_exceeds_iff]
  simp only [Option.isSome_iff_ne_none, ne_eq, checkedPairs_eq_none_iff]

/-- A settings text with the greatest offset. -/
def extremeText : String := "[correlation]\nend_line_offset = 9223372036854775807\n"

/-- The rule of this text. -/
def extremeRule : PairingRule := { standard with endLineOffset := Int64.maxValue }

/-- The greatest offset can be set, and the sum with the second line is one too many. -/
theorem sum_may_leave_range :
    Settings.ofSources ⟨"u", none⟩ (.ofText "p" extremeText) [] =
        .ok { Settings.standard with pairing := extremeRule } ∧
      extremeRule.checkedPairs [⟨0, 1, none, none, none⟩]
        [⟨"f", .function, .ofBounds 0 0 1 0, none⟩] = none ∧
      ¬ ∀ symbols regions, (extremeRule.checkedPairs regions symbols).isSome := by
  have statements : Toml.statements? extremeText.toList =
      some [.header ["correlation"],
        .entry ["end_line_offset"] (.scalar (.integer Int64.maxValue))] := by rfl
  have project : (SettingsFile.ofText "p" extremeText).entries .project =
      .ok [("correlation", .table [("end_line_offset", .integer Int64.maxValue)])] :=
    SettingsFile.entries_ofText (Toml.read?_of_steps statements rfl rfl rfl)
  have breaks : extremeRule.checkedPairs [⟨0, 1, none, none, none⟩]
      [⟨"f", .function, .ofBounds 0 0 1 0, none⟩] = none := by decide
  refine ⟨?_, breaks, ?_⟩
  · rw [Settings.ofSources, project]
    rfl
  · intro safe
    have found := safe [⟨"f", .function, .ofBounds 0 0 1 0, none⟩] [⟨0, 1, none, none, none⟩]
    rw [breaks] at found
    cases found

end PairingRule

end FoldAtlas
