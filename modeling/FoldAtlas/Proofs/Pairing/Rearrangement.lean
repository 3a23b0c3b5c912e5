import FoldAtlas.Proofs.Pairing.FirstMatch
import Mathlib.Data.List.TakeWhile

/-!
# Regions in another order

Servers promise no order of regions, so pairing must not hang on one. Which symbols are paired
depends only on which regions there are, and so do the lines of the region that each of them
gets; regions behind the others only ever add pairs (`pairs_of_rearranged`). The lines are forced
because a sum of an end line and an offset tells the end line (`Covers.same_lines`).

Nor does the order decide whether pairing comes upon a sum that wraps: where one region covers
one symbol, the offset is small, and no sum wraps at all (`overflows_eq_false_of_covers`).
-/

namespace FoldAtlas

/-- Whether two pairs hold one symbol and regions on the same lines. -/
structure FoldedSymbol.SameBlock (pair other : FoldedSymbol) : Prop where
  symbol : other.symbol = pair.symbol
  startLine : other.region.startLine = pair.region.startLine
  endLine : other.region.endLine = pair.region.endLine

namespace PairingRule

variable {rule : PairingRule} {symbol : OutlineEntry} {symbols : List OutlineEntry}
  {region other : FoldingRange} {regions rearranged : List FoldingRange}

/-! ## The lines of a region that covers a symbol -/

/-- Regions that cover one symbol are on the same lines. -/
theorem Covers.same_lines (covers : rule.Covers symbol region)
    (coversToo : rule.Covers symbol other) :
    other.startLine = region.startLine ∧ other.endLine = region.endLine := by
  obtain ⟨start, sum⟩ := covers
  obtain ⟨startToo, sumToo⟩ := coversToo
  constructor
  · rw [start, startToo]
  · apply UInt32.toNat_inj.mp
    omega

/-- A region that is found is one of the regions and covers the symbol. -/
theorem covers_of_region? (found : rule.region? symbol regions = some region) :
    region ∈ regions ∧ rule.Covers symbol region :=
  ⟨List.mem_of_find?_eq_some found, isMatch_iff_covers.mp (List.find?_some found)⟩

/-- No region is found just if none covers the symbol. -/
theorem region?_eq_none_iff :
    rule.region? symbol regions = none ↔ ∀ region ∈ regions, ¬ rule.Covers symbol region := by
  rw [region?, List.find?_eq_none]
  constructor
  · intro unmatched region member covers
    exact unmatched region member (isMatch_iff_covers.mpr covers)
  · intro uncovered region member matched
    exact uncovered region member (isMatch_iff_covers.mp matched)

/-! ## Another order -/

/-- In another order of the regions no other symbols find a region. -/
theorem region?_rearranged_eq_none_iff (rearrangement : rearranged.Perm regions) :
    rule.region? symbol rearranged = none ↔ rule.region? symbol regions = none := by
  rw [region?_eq_none_iff, region?_eq_none_iff]
  constructor
  · intro uncovered region member
    exact uncovered region (rearrangement.mem_iff.mpr member)
  · intro uncovered region member
    exact uncovered region (rearrangement.mem_iff.mp member)

/-- In another order of the regions a symbol makes the same pair but for the rest of the
region. -/
theorem paired_rearranged (rearrangement : rearranged.Perm regions) (symbol : OutlineEntry) :
    Option.Rel FoldedSymbol.SameBlock (rule.paired regions symbol)
      (rule.paired rearranged symbol) := by
  unfold paired
  by_cases out : rule.excludes symbol.kind = true
  · rw [if_pos out, if_pos out]
    exact .none
  · rw [if_neg out, if_neg out]
    cases found : rule.region? symbol regions with
    | none =>
      rw [(region?_rearranged_eq_none_iff rearrangement).mpr found]
      exact .none
    | some region =>
      cases foundToo : rule.region? symbol rearranged with
      | none =>
        rw [(region?_rearranged_eq_none_iff rearrangement).mp foundToo] at found
        cases found
      | some other =>
        have lines := (covers_of_region? found).2.same_lines (covers_of_region? foundToo).2
        exact .some ⟨rfl, lines.1, lines.2⟩

/-- In another order of the regions the same symbols are paired, with regions on the same
lines. -/
theorem pairs_rearranged (rearrangement : rearranged.Perm regions) :
    List.Forall₂ FoldedSymbol.SameBlock (rule.pairs symbols regions)
      (rule.pairs symbols rearranged) := by
  rw [pairs_eq_filterMap, pairs_eq_filterMap]
  refine List.rel_filterMap (R := Eq) ?_ (List.forall₂_eq_eq_eq ▸ rfl)
  rintro symbol _ rfl
  exact paired_rearranged rearrangement symbol

/-! ## Further regions -/

/-- A region that is found stays the first one when others come behind. -/
theorem region?_append (found : rule.region? symbol regions = some region)
    (further : List FoldingRange) : rule.region? symbol (regions ++ further) = some region := by
  unfold region? at found ⊢
  rw [List.find?_append, found, Option.some_or]

/-- What a list gives more of is given in the same order. -/
theorem filterMap_sublist_filterMap {α β : Type} {fewer more : α → Option β} (items : List α)
    (kept : ∀ item result, fewer item = some result → more item = some result) :
    (items.filterMap fewer).Sublist (items.filterMap more) := by
  induction items with
  | nil => exact .slnil
  | cons item items ih =>
    rw [List.filterMap_cons, List.filterMap_cons]
    cases given : fewer item with
    | none =>
      cases more item with
      | none => exact ih
      | some result => exact ih.cons result
    | some result =>
      rw [kept item result given]
      exact ih.cons_cons result

/-- No pair is lost or changed when regions come behind the others. -/
theorem pairs_sublist_append (further : List FoldingRange) :
    (rule.pairs symbols regions).Sublist (rule.pairs symbols (regions ++ further)) := by
  rw [pairs_eq_filterMap, pairs_eq_filterMap]
  apply filterMap_sublist_filterMap
  intro symbol pair made
  unfold paired at made ⊢
  by_cases out : rule.excludes symbol.kind = true
  · rw [if_pos out] at made
    cases made
  · rw [if_neg out] at made ⊢
    obtain ⟨region, found, rfl⟩ := Option.map_eq_some_iff.mp made
    rw [region?_append found, Option.map_some]

/-! ## Sums that wrap -/

/-- Where a region covers a symbol, no sum wraps for any other region. -/
theorem wraps_eq_false_of_covers (covers : rule.Covers symbol region) (other : FoldingRange) :
    rule.wraps other = false := by
  have least : Int64.minValue.toInt = -2 ^ 63 := by decide
  have greatest : Int64.maxValue.toInt = 2 ^ 63 - 1 := by decide
  have end_lt : region.endLine.toNat < 2 ^ 32 := region.endLine.toNat_lt
  have other_lt : other.endLine.toNat < 2 ^ 32 := other.endLine.toNat_lt
  have line_lt : symbol.range.stop.line.toNat < 2 ^ 32 := symbol.range.stop.line.toNat_lt
  have sum := covers.2
  unfold wraps
  rw [least, greatest, Bool.or_eq_false_iff, decide_eq_false_iff_not, decide_eq_false_iff_not]
  omega

/-- Where a region covers a symbol, pairing comes upon no sum that wraps, whatever is paired. -/
theorem overflows_eq_false_of_covers (covers : rule.Covers symbol region)
    (symbols : List OutlineEntry) (regions : List FoldingRange) :
    rule.overflows symbols regions = false := by
  simp [overflows, searchOverflows, wraps_eq_false_of_covers covers]

/-- A search without a result looks at every region that begins on the line of the symbol. -/
theorem searchOverflows_of_none (missed : rule.region? symbol regions = none) :
    rule.searchOverflows symbol regions =
      regions.any fun region =>
        region.startLine == symbol.range.start.line && rule.wraps region := by
  have whole : (regions.takeWhile fun region => !rule.isMatch symbol region) = regions := by
    rw [List.takeWhile_eq_self_iff]
    intro region member
    have unmatched := List.find?_eq_none.mp missed region member
    simp [unmatched]
  rw [searchOverflows, whole]

/-- In another order of the regions pairing comes upon a sum that wraps just as before. -/
theorem overflows_rearranged (rearrangement : rearranged.Perm regions) :
    rule.overflows symbols rearranged = rule.overflows symbols regions := by
  by_cases somewhere : ∃ symbol region, rule.Covers symbol region
  · obtain ⟨symbol, region, covers⟩ := somewhere
    rw [overflows_eq_false_of_covers covers, overflows_eq_false_of_covers covers]
  · -- no search ends early, so each looks at all regions
    have missed (symbol : OutlineEntry) (regions : List FoldingRange) :
        rule.region? symbol regions = none :=
      region?_eq_none_iff.mpr fun region _ covers => somewhere ⟨symbol, region, covers⟩
    unfold overflows
    simp only [searchOverflows_of_none (missed _ _), rearrangement.any_eq]

/-! ## All together -/

/-- In whatever order the regions come, the same symbols are paired in their order, each with a
region on the same lines, and sums wrap just as before. Regions behind the others take no pair
away, change none, and where there is a pair make no sum wrap. -/
theorem pairs_of_rearranged (rule : PairingRule) (symbols : List OutlineEntry)
    (rearrangement : rearranged.Perm regions) (further : List FoldingRange) :
    (List.Forall₂ FoldedSymbol.SameBlock (rule.pairs symbols regions)
        (rule.pairs symbols rearranged) ∧
      rule.overflows symbols rearranged = rule.overflows symbols regions) ∧
    (rule.pairs symbols regions).Sublist (rule.pairs symbols (regions ++ further)) ∧
      (∀ symbol region, rule.region? symbol regions = some region →
        rule.region? symbol (regions ++ further) = some region) ∧
      (rule.pairs symbols regions ≠ [] → rule.overflows symbols (regions ++ further) = false) := by
  refine ⟨⟨pairs_rearranged rearrangement, overflows_rearranged rearrangement⟩,
    pairs_sublist_append further, fun _ _ found => region?_append found further, ?_⟩
  intro something
  obtain ⟨pair, member⟩ := List.exists_mem_of_ne_nil _ something
  rw [pairs_eq_filterMap] at member
  obtain ⟨symbol, -, made⟩ := List.mem_filterMap.mp member
  unfold paired at made
  split at made
  · cases made
  · obtain ⟨region, found, -⟩ := Option.map_eq_some_iff.mp made
    exact overflows_eq_false_of_covers (covers_of_region? found).2 _ _

/-- Two blocks. -/
def twoBlocks : List OutlineEntry :=
  [⟨"outer", .classType, ⟨⟨2, 0⟩, ⟨5, 0⟩⟩, none⟩, ⟨"later", .function, ⟨⟨7, 0⟩, ⟨9, 0⟩⟩, none⟩]

/-- Two regions on the same lines. -/
def twinRegions : List FoldingRange :=
  [⟨2, 4, none, some 3, none⟩, ⟨2, 4, none, some 8, some .region⟩]

/-- A region for the second of two blocks, and one more for the first. -/
def laterRegions : List FoldingRange := [⟨7, 8, none, none, none⟩, ⟨2, 4, none, none, none⟩]

/-- Of two regions on the same lines the order decides which one is taken, but no more. -/
theorem pairs_of_twinRegions :
    twinRegions.reverse.Perm twinRegions ∧
      standard.pairs twoBlocks twinRegions.reverse ≠ standard.pairs twoBlocks twinRegions ∧
      List.Forall₂ FoldedSymbol.SameBlock (standard.pairs twoBlocks twinRegions)
        (standard.pairs twoBlocks twinRegions.reverse) ∧
      (standard.pairs twoBlocks twinRegions).Sublist
        (standard.pairs twoBlocks (twinRegions ++ laterRegions)) ∧
      standard.overflows twoBlocks (twinRegions ++ laterRegions) = false := by
  have rearrangement : twinRegions.reverse.Perm twinRegions := List.reverse_perm twinRegions
  obtain ⟨⟨same, -⟩, kept, -, sound⟩ :=
    pairs_of_rearranged standard twoBlocks rearrangement laterRegions
  exact ⟨rearrangement, by decide, same, kept, sound (by decide)⟩

end PairingRule

end FoldAtlas
