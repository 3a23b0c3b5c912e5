import FoldAtlas.Pairing
import Mathlib.Data.List.Forall2

/-!
# First matches

What pairing finds, said by places in the two lists alone
(`pairs_are_first_matches`): the symbols of no excluded kind that some region
covers, in their order, each with the first region that covers it. To cover is
said of lines as unbounded integers. That the sum which is compared wraps in 64
bits makes no difference to it, whatever the offset: the sum of a line and an
offset is never a whole turn of 64 bits away from another line
(`isMatch_iff_covers`).
-/

namespace FoldAtlas

namespace PairingRule

variable {rule : PairingRule} {symbol : OutlineEntry} {symbols : List OutlineEntry}
  {region : FoldingRange} {regions : List FoldingRange} {place : Nat}

/-! ## Lines without bound -/

/-- Whether a region covers the same block as a symbol, on lines that nothing
bounds. -/
def Covers (rule : PairingRule) (symbol : OutlineEntry) (region : FoldingRange) : Prop :=
  region.startLine = symbol.range.start.line ∧
    (region.endLine.toNat : Int) + rule.endLineOffset.toInt = symbol.range.stop.line.toNat

/-- A line in 64 bits is itself. -/
theorem toInt_line (line : UInt32) : (Int64.ofNat line.toNat).toInt = line.toNat :=
  Int64.toInt_ofNat_of_lt (Nat.lt_trans line.toNat_lt (by decide))

/-- A sum in 64 bits is a line just if it is so without a bound. -/
theorem wrapped_sum_eq_line_iff (line target : UInt32) (offset : Int64) :
    Int64.ofNat line.toNat + offset = Int64.ofNat target.toNat ↔
      (line.toNat : Int) + offset.toInt = target.toNat := by
  rw [← Int64.toInt_inj, Int64.toInt_add, toInt_line, toInt_line]
  have lineBound : line.toNat < 2 ^ 32 := line.toNat_lt
  have targetBound : target.toNat < 2 ^ 32 := target.toNat_lt
  have lower : -2 ^ 63 ≤ offset.toInt := offset.le_toInt
  have upper : offset.toInt < 2 ^ 63 := offset.toInt_lt
  constructor
  · intro wrapped
    -- both lines are small, so a sum that wrapped would be negative or far too large
    rw [Int.bmod_def] at wrapped
    split at wrapped <;> omega
  · intro exact
    rw [exact]
    exact Int.bmod_eq_of_le (by omega) (by omega)

/-- A region matches a symbol just if it covers the same block. -/
theorem isMatch_iff_covers : rule.isMatch symbol region = true ↔ rule.Covers symbol region := by
  rw [isMatch, Bool.and_eq_true, beq_iff_eq, beq_iff_eq, wrapped_sum_eq_line_iff]
  rfl

/-! ## The first region that covers a symbol -/

/-- Whether a place of a list is the first that holds a region covering a symbol. -/
structure IsFirst (rule : PairingRule) (symbol : OutlineEntry) (regions : List FoldingRange)
    (place : Nat) : Prop where
  /-- The region at the place covers the symbol. -/
  covers : ∃ region, regions[place]? = some region ∧ rule.Covers symbol region
  /-- No region before it does. -/
  least : ∀ (earlier : Nat) (region : FoldingRange), earlier < place →
    regions[earlier]? = some region → ¬ rule.Covers symbol region

/-- The index that is sought is the first place that covers the symbol. -/
theorem regionIndex?_eq_some_iff :
    rule.regionIndex? symbol regions = some place ↔ rule.IsFirst symbol regions place := by
  rw [regionIndex?, List.findIdx?_eq_some_iff_getElem]
  constructor
  · rintro ⟨inside, matched, unmatched⟩
    refine ⟨⟨regions[place], List.getElem?_eq_getElem inside, isMatch_iff_covers.mp matched⟩, ?_⟩
    intro earlier region before found covers
    obtain ⟨insideToo, rfl⟩ := List.getElem?_eq_some_iff.mp found
    exact unmatched earlier before (isMatch_iff_covers.mpr covers)
  · rintro ⟨⟨region, found, covers⟩, least⟩
    obtain ⟨inside, rfl⟩ := List.getElem?_eq_some_iff.mp found
    refine ⟨inside, isMatch_iff_covers.mpr covers, ?_⟩
    intro earlier before matched
    exact least earlier _ before (List.getElem?_eq_getElem (Nat.lt_trans before inside))
      (isMatch_iff_covers.mp matched)

/-- The region that is sought is the one at the index that is sought. -/
theorem region?_eq_some_of_index (sought : rule.regionIndex? symbol regions = some place) :
    ∃ region, regions[place]? = some region ∧ rule.region? symbol regions = some region := by
  obtain ⟨inside, matched, unmatched⟩ := List.findIdx?_eq_some_iff_getElem.mp sought
  refine ⟨regions[place], List.getElem?_eq_getElem inside, ?_⟩
  refine List.find?_eq_some_iff_getElem.mpr ⟨matched, place, inside, rfl, ?_⟩
  intro earlier before
  simp [unmatched earlier before]

/-- Where no index is found, no region is. -/
theorem region?_eq_none_of_index (sought : rule.regionIndex? symbol regions = none) :
    rule.region? symbol regions = none :=
  List.find?_eq_none.mpr fun region member =>
    Bool.not_eq_true _ ▸ List.findIdx?_eq_none_iff.mp sought region member

/-! ## The places of all pairs -/

/-- The place of the region that a symbol is paired with, beside its own. -/
def placed (rule : PairingRule) (regions : List FoldingRange) (entry : OutlineEntry × Nat) :
    Option (Nat × Nat) :=
  if rule.excludes entry.1.kind then none
  else (rule.regionIndex? entry.1 regions).map fun place => (entry.2, place)

/-- The pair that a symbol makes. -/
def paired (rule : PairingRule) (regions : List FoldingRange) (symbol : OutlineEntry) :
    Option FoldedSymbol :=
  if rule.excludes symbol.kind then none
  else (rule.region? symbol regions).map fun region => ⟨symbol, region⟩

/-- The places of a pair in the lists of symbols and regions. -/
structure IsPlaceOf (symbols : List OutlineEntry) (regions : List FoldingRange)
    (places : Nat × Nat) (pair : FoldedSymbol) : Prop where
  symbol : symbols[places.1]? = some pair.symbol
  region : regions[places.2]? = some pair.region

/-- The pairs are what the symbols make, one after the other. -/
theorem pairs_eq_filterMap : rule.pairs symbols regions = symbols.filterMap (rule.paired regions) := by
  rw [pairs, List.filterMap_filter]
  congr 1
  funext symbol
  unfold paired
  cases rule.excludes symbol.kind <;> rfl

/-- A symbol is placed just if it is of no excluded kind and has a first region. -/
theorem placed_eq_some_iff {entry : OutlineEntry × Nat} {places : Nat × Nat} :
    rule.placed regions entry = some places ↔
      entry.2 = places.1 ∧ entry.1.kind ∉ rule.excludedKinds ∧
        rule.IsFirst entry.1 regions places.2 := by
  have excluded : rule.excludes entry.1.kind = true ↔ entry.1.kind ∈ rule.excludedKinds := by
    simp [excludes]
  unfold placed
  by_cases out : rule.excludes entry.1.kind = true
  · rw [if_pos out]
    constructor
    · intro impossible
      cases impossible
    · rintro ⟨_, kept, _⟩
      exact absurd (excluded.mp out) kept
  · rw [if_neg out, Option.map_eq_some_iff]
    constructor
    · rintro ⟨place, sought, rfl⟩
      exact ⟨rfl, mt excluded.mpr out, regionIndex?_eq_some_iff.mp sought⟩
    · rintro ⟨own, _, first⟩
      exact ⟨places.2, regionIndex?_eq_some_iff.mpr first, Prod.ext own rfl⟩

/-- A symbol makes a pair just if it is placed, and there. -/
theorem placed_paired (regions : List FoldingRange) {place : Nat}
    (found : symbols[place]? = some symbol) :
    Option.Rel (IsPlaceOf symbols regions) (rule.placed regions (symbol, place))
      (rule.paired regions symbol) := by
  unfold placed paired
  split
  · exact .none
  · cases sought : rule.regionIndex? symbol regions with
    | none =>
      rw [region?_eq_none_of_index sought]
      exact .none
    | some index =>
      obtain ⟨region, present, same⟩ := region?_eq_some_of_index sought
      rw [same]
      exact .some ⟨found, present⟩

/-- The places of the symbols of a list are increasing. -/
theorem increasing_zipIdx (symbols : List OutlineEntry) (start : Nat) :
    (symbols.zipIdx start).Pairwise fun earlier later => earlier.2 < later.2 := by
  induction symbols generalizing start with
  | nil => exact .nil
  | cons symbol symbols ih =>
    refine .cons ?_ (ih (start + 1))
    rintro ⟨later, place⟩ member
    exact List.le_snd_of_mem_zipIdx member

/-- Pairing finds exactly the symbols of no excluded kind that some region covers,
each once and in their order, with the first region that covers it. Which region
covers which symbol is a matter of unbounded integers, and no pair takes a region
away from another. -/
theorem pairs_are_first_matches (rule : PairingRule) (symbols : List OutlineEntry)
    (regions : List FoldingRange) :
    ∃ places : List (Nat × Nat),
      places.Pairwise (fun earlier later => earlier.1 < later.1) ∧
      (∀ own other, (own, other) ∈ places ↔ ∃ symbol, symbols[own]? = some symbol ∧
        symbol.kind ∉ rule.excludedKinds ∧ rule.IsFirst symbol regions other) ∧
      List.Forall₂ (IsPlaceOf symbols regions) places (rule.pairs symbols regions) := by
  refine ⟨symbols.zipIdx.filterMap (rule.placed regions), ?_, ?_, ?_⟩
  · refine List.pairwise_filterMap.mpr ((increasing_zipIdx symbols 0).imp ?_)
    intro earlier later before places placed placesToo placedToo
    rw [← (placed_eq_some_iff.mp placed).1, ← (placed_eq_some_iff.mp placedToo).1]
    exact before
  · intro own other
    simp only [List.mem_filterMap, placed_eq_some_iff]
    constructor
    · rintro ⟨⟨symbol, place⟩, member, rfl, kept, first⟩
      exact ⟨symbol, List.mem_zipIdx_iff_getElem?.mp member, kept, first⟩
    · rintro ⟨symbol, found, kept, first⟩
      exact ⟨(symbol, own), List.mem_zipIdx_iff_getElem?.mpr found, rfl, kept, first⟩
  · have listed : rule.pairs symbols regions =
        symbols.zipIdx.filterMap fun entry => rule.paired regions entry.1 := by
      conv_lhs => rw [pairs_eq_filterMap, ← List.zipIdx_map_fst 0 symbols]
      rw [List.filterMap_map]
      rfl
    rw [listed]
    refine List.rel_filterMap (R := fun entry same => entry = same ∧ entry ∈ symbols.zipIdx)
      ?_ (List.forall₂_same.mpr fun entry member => ⟨rfl, member⟩)
    rintro ⟨symbol, place⟩ _ ⟨rfl, member⟩
    exact placed_paired regions (List.mem_zipIdx_iff_getElem?.mp member)

end PairingRule

end FoldAtlas
