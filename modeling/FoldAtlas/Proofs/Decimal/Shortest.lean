import FoldAtlas.Decimal.Shortest
import Mathlib.Algebra.Order.Ring.Nat
import Mathlib.Tactic.Ring

/-!
# The shortest decimal

That the decimal found for a positive double is the one that it is said to be
(`Binary64.shortest_isShortest`): it lies in the interval of the double, none on a coarser grid
does, and none on its own grid is nearer. The grid at which the search begins is too coarse to hold
one (`not_admits_coarseExponent`), and one that is fine enough is among those that are looked at
(`IsPositive.exists_fine`). Both follow from comparing powers of two with powers of ten, for which
`10 ^ 59 ≤ 2 ^ 196` and `2 ^ 93 ≤ 10 ^ 28` are close enough.
-/

namespace FoldAtlas

/-! ## Powers of two and of ten -/

/-- What holds of two powers holds of others whose exponents are in no smaller a ratio. -/
theorem pow_le_pow_of_ratio {left right leftUnit rightUnit leftPower rightPower : Nat}
    (units : left ^ leftUnit ≤ right ^ rightUnit) (positive : 0 < right) (some : leftUnit ≠ 0)
    (ratio : rightUnit * leftPower ≤ leftUnit * rightPower) :
    left ^ leftPower ≤ right ^ rightPower := by
  rw [← Nat.pow_le_pow_iff_left some]
  calc (left ^ leftPower) ^ leftUnit
      = (left ^ leftUnit) ^ leftPower := by rw [← Nat.pow_mul, Nat.mul_comm, Nat.pow_mul]
    _ ≤ (right ^ rightUnit) ^ leftPower := Nat.pow_le_pow_left units leftPower
    _ = right ^ (rightUnit * leftPower) := (Nat.pow_mul ..).symm
    _ ≤ right ^ (leftUnit * rightPower) := Nat.pow_le_pow_right positive ratio
    _ = (right ^ rightPower) ^ leftUnit := by rw [Nat.mul_comm, Nat.pow_mul]

/-- A power of ten below a power of two. -/
theorem tenPower_le {tens twos : Nat} (ratio : 196 * tens ≤ 59 * twos) : 10 ^ tens ≤ 2 ^ twos :=
  pow_le_pow_of_ratio (by decide : 10 ^ 59 ≤ 2 ^ 196) (by decide) (by decide) ratio

/-- A power of two below a power of ten. -/
theorem twoPower_le {twos tens : Nat} (ratio : 28 * twos ≤ 93 * tens) : 2 ^ twos ≤ 10 ^ tens :=
  pow_le_pow_of_ratio (by decide : 2 ^ 93 ≤ 10 ^ 28) (by decide) (by decide) ratio

namespace Binary64

variable {double : Binary64} {range : Interval} {decimal : Decimal} {exponent start : Int}
  {factor factorToo divisor divisorToo digits digitsToo grids dividend : Nat}

/-! ## Intervals -/

/-- Whether a value lies between the ends of its interval, and the lower one above zero. -/
structure Interval.Surrounds (range : Interval) : Prop where
  positive : 0 < range.low
  below : range.low < range.value
  above : range.value < range.high

/-- What it means that a multiple is held: it lies between the ends, or at one that rounds to the
value as well. -/
theorem Interval.holds_iff :
    range.holds factor divisor digits = true ↔
      if range.closed then
        range.low * factor ≤ digits * divisor ∧ digits * divisor ≤ range.high * factor
      else range.low * factor < digits * divisor ∧ digits * divisor < range.high * factor := by
  rw [holds]
  split <;> simp only [decide_eq_true_eq]

/-- Of two multiples below the value, the nearer one is held if the other one is. -/
theorem Interval.holds_upto (surrounds : range.Surrounds) (positive : 0 < factor)
    (held : range.holds factor divisor digits = true) (rises : digits ≤ digitsToo)
    (upto : digitsToo * divisor ≤ range.value * factor) :
    range.holds factor divisor digitsToo = true := by
  have nearer : digits * divisor ≤ digitsToo * divisor := Nat.mul_le_mul_right _ rises
  have within : range.value * factor < range.high * factor :=
    Nat.mul_lt_mul_of_pos_right surrounds.above positive
  rw [holds_iff] at held ⊢
  split at held <;> rename_i ends <;> simp only [ends, Bool.false_eq_true, ↓reduceIte] <;> omega

/-- Of two multiples above the value, the nearer one is held if the other one is. -/
theorem Interval.holds_from (surrounds : range.Surrounds) (positive : 0 < factor)
    (held : range.holds factor divisor digits = true) (falls : digitsToo ≤ digits)
    (beyond : range.value * factor ≤ digitsToo * divisor) :
    range.holds factor divisor digitsToo = true := by
  have nearer : digitsToo * divisor ≤ digits * divisor := Nat.mul_le_mul_right _ falls
  have within : range.low * factor < range.value * factor :=
    Nat.mul_lt_mul_of_pos_right surrounds.below positive
  rw [holds_iff] at held ⊢
  split at held <;> rename_i ends <;> simp only [ends, Bool.false_eq_true, ↓reduceIte] <;> omega

/-- Equal multiples are held alike, whatever the ends are scaled by. -/
theorem Interval.holds_of_same (positive : 0 < factor) (positiveToo : 0 < factorToo)
    (same : digits * divisor * factorToo = digitsToo * divisorToo * factor)
    (held : range.holds factor divisor digits = true) :
    range.holds factorToo divisorToo digitsToo = true := by
  have swap (edge : Nat) : edge * factor * factorToo = edge * factorToo * factor :=
    Nat.mul_right_comm ..
  have above (edge : Nat) :
      edge * factor ≤ digits * divisor ↔ edge * factorToo ≤ digitsToo * divisorToo := by
    rw [← Nat.mul_le_mul_right_iff positiveToo, swap, same, Nat.mul_le_mul_right_iff positive]
  have below (edge : Nat) :
      digits * divisor ≤ edge * factor ↔ digitsToo * divisorToo ≤ edge * factorToo := by
    rw [← Nat.mul_le_mul_right_iff positiveToo, swap, same, Nat.mul_le_mul_right_iff positive]
  simpa only [holds_iff, ← Nat.not_le, above, below] using held

/-- How far a multiple is from the value. -/
def Interval.distance (range : Interval) (factor divisor digits : Nat) : Nat :=
  Int.natAbs ((range.value * factor : Nat) - (digits * divisor : Nat))

/-- What is found is held. -/
theorem Interval.holds_of_nearest? (found : range.nearest? factor divisor = some digits) :
    range.holds factor divisor digits = true := by
  simp only [nearest?] at found
  split at found
  · next lowerHolds =>
    cases found
    simp only [Bool.and_eq_true] at lowerHolds
    exact lowerHolds.1.2
  · split at found <;> cases found
    assumption

/-- Where a multiple is held, one is found that is no farther from the value. -/
theorem Interval.exists_nearest? (surrounds : range.Surrounds) (factorPos : 0 < factor)
    (divisorPos : 0 < divisor) (positive : 0 < digits)
    (held : range.holds factor divisor digits = true) :
    ∃ found, range.nearest? factor divisor = some found ∧
      range.distance factor divisor found ≤ range.distance factor divisor digits := by
  simp only [nearest?, distance]
  have divided := Nat.div_add_mod (range.value * factor) divisor
  have small := Nat.mod_lt (range.value * factor) divisorPos
  generalize range.value * factor / divisor = lower at *
  generalize range.value * factor % divisor = rest at *
  have here : lower * divisor = divisor * lower := Nat.mul_comm ..
  have next : (lower + 1) * divisor = divisor * lower + divisor := by rw [Nat.succ_mul, here]
  -- the multiple is at the lower neighbour or below, or at the upper one or above
  have sides : (digits * divisor ≤ lower * divisor ∧ 0 < lower ∧
        range.holds factor divisor lower = true) ∨
      ((lower + 1) * divisor ≤ digits * divisor ∧
        range.holds factor divisor (lower + 1) = true) := by
    rcases Nat.lt_or_ge lower digits with above | below
    · exact .inr ⟨Nat.mul_le_mul_right _ above,
        holds_from surrounds factorPos held above (by omega)⟩
    · exact .inl ⟨Nat.mul_le_mul_right _ below, by omega,
        holds_upto surrounds factorPos held below (by omega)⟩
  by_cases nearer : divisor < 2 * rest ∨ 2 * rest = divisor ∧ lower % 2 = 1
  · rcases sides with ⟨below, positive, lowerHolds⟩ | ⟨above, upperHolds⟩
    · cases upperHolds : range.holds factor divisor (lower + 1) with
      | true => exact ⟨lower + 1, by simp [nearer], by omega⟩
      | false => exact ⟨lower, by simp [positive, lowerHolds], by omega⟩
    · exact ⟨lower + 1, by simp [upperHolds, nearer], by omega⟩
  · rcases sides with ⟨below, positive, lowerHolds⟩ | ⟨above, upperHolds⟩
    · exact ⟨lower, by simp [positive, lowerHolds, nearer], by omega⟩
    · by_cases lowerHolds : 0 < lower ∧ range.holds factor divisor lower = true
      · exact ⟨lower, by simp [lowerHolds, nearer], by omega⟩
      · exact ⟨lower + 1, by simp [lowerHolds, upperHolds], by omega⟩

/-- The interval of a positive double surrounds it, at least a quarter of a unit to either side. -/
theorem surrounds_interval (positive : 0 < double.significand) :
    double.interval.Surrounds ∧
      double.interval.low + Nat.pow 2 double.shift ≤ double.interval.value := by
  have unit : 0 < Nat.pow 2 double.shift := Nat.pow_pos (by decide)
  obtain ⟨below, least, most, same⟩ : ∃ below, 1 ≤ below ∧ below ≤ 2 ∧
      double.interval.low = (4 * double.significand - below) * Nat.pow 2 double.shift := by
    simp only [interval]
    split
    · exact ⟨1, by decide, by decide, rfl⟩
    · exact ⟨2, by decide, by decide, rfl⟩
  have quarter : double.interval.low + Nat.pow 2 double.shift ≤ double.interval.value := by
    rw [same, interval, ← Nat.succ_mul]
    exact Nat.mul_le_mul_right _ (by omega)
  refine ⟨⟨?_, by omega, ?_⟩, quarter⟩
  · rw [same]
    exact Nat.mul_pos (by omega) unit
  · exact Nat.mul_lt_mul_of_pos_right (by omega) unit

/-! ## Grids -/

/-- What it means that a decimal is admitted. -/
theorem Interval.admits_iff :
    range.admits ⟨digits, exponent⟩ = true ↔
      if range.closed then
        range.low * gridFactor exponent ≤ digits * gridDivisor exponent ∧
          digits * gridDivisor exponent ≤ range.high * gridFactor exponent
      else
        range.low * gridFactor exponent < digits * gridDivisor exponent ∧
          digits * gridDivisor exponent < range.high * gridFactor exponent :=
  holds_iff

/-- Ends are scaled by something. -/
theorem gridFactor_pos (exponent : Int) : 0 < gridFactor exponent := by
  rw [gridFactor]
  split
  · exact Nat.one_pos
  · exact Nat.pow_pos (by decide)

/-- A grid of whole numbers. -/
theorem grid_natCast (tens : Nat) :
    gridFactor tens = 1 ∧ gridDivisor tens = intervalDivisor * 10 ^ tens := by
  simp [gridFactor, gridDivisor]

/-- A grid of fractions. -/
theorem grid_neg (tens : Nat) :
    gridFactor (-tens) = 10 ^ tens ∧ gridDivisor (-tens) = intervalDivisor := by
  cases tens with
  | zero => simp [gridFactor, gridDivisor]
  | succ tens =>
    have negative : ¬ (0 : Int) ≤ -((tens + 1 : Nat) : Int) := by omega
    simp only [gridFactor, gridDivisor, if_neg negative, Int.natAbs_neg, Int.natAbs_natCast,
      Nat.mul_one, Nat.pow_eq, and_self]

/-- One step on a grid is ten on the next finer one. -/
theorem gridDivisor_succ (exponent : Int) :
    gridDivisor (exponent + 1) * gridFactor exponent =
      10 * gridDivisor exponent * gridFactor (exponent + 1) := by
  rcases exponent with tens | tens
  · obtain ⟨factor, divisor⟩ := grid_natCast tens
    obtain ⟨factorToo, divisorToo⟩ := grid_natCast (tens + 1)
    have up : Int.ofNat tens + 1 = ((tens + 1 : Nat) : Int) := rfl
    rw [up, Int.ofNat_eq_natCast, factor, divisor, factorToo, divisorToo, Nat.pow_succ]
    ring
  · obtain ⟨factor, divisor⟩ := grid_neg (tens + 1)
    obtain ⟨factorToo, divisorToo⟩ := grid_neg tens
    have here : Int.negSucc tens = -((tens + 1 : Nat) : Int) := rfl
    have up : -((tens + 1 : Nat) : Int) + 1 = -(tens : Int) := by omega
    rw [here, up, factor, divisor, factorToo, divisorToo, Nat.pow_succ]
    ring

/-- A decimal is admitted on a grid if and only if, with a zero at its end, it is so on the next
finer one. -/
theorem Interval.admits_succ :
    range.admits ⟨digits, exponent + 1⟩ = range.admits ⟨10 * digits, exponent⟩ := by
  have same : digits * gridDivisor (exponent + 1) * gridFactor exponent =
      10 * digits * gridDivisor exponent * gridFactor (exponent + 1) :=
    calc digits * gridDivisor (exponent + 1) * gridFactor exponent
        = digits * (gridDivisor (exponent + 1) * gridFactor exponent) := Nat.mul_assoc ..
      _ = digits * (10 * gridDivisor exponent * gridFactor (exponent + 1)) := by
        rw [gridDivisor_succ]
      _ = 10 * digits * gridDivisor exponent * gridFactor (exponent + 1) := by ring
  rw [Bool.eq_iff_iff]
  exact ⟨holds_of_same (gridFactor_pos _) (gridFactor_pos _) same,
    holds_of_same (gridFactor_pos _) (gridFactor_pos _) same.symm⟩

/-- What one grid holds every finer one holds. -/
theorem Interval.exists_finer (finer : exponent ≤ start)
    (admitted : range.admits ⟨digits, start⟩ = true) :
    ∃ digitsToo, range.admits ⟨digitsToo, exponent⟩ = true := by
  obtain ⟨steps, rfl⟩ := Int.le.dest finer
  induction steps generalizing digits with
  | zero => exact ⟨digits, by simpa using admitted⟩
  | succ steps ih =>
    rw [Int.natCast_succ, ← Int.add_assoc, admits_succ] at admitted
    exact ih (by omega) admitted

/-- The common divisor is a power of two. -/
theorem intervalDivisor_eq : intervalDivisor = 2 ^ (bias + 2) := by
  rw [intervalDivisor, Nat.pow_eq, Nat.pow_add, Nat.mul_comm]

/-- Divisors of grids are positive. -/
theorem gridDivisor_pos (exponent : Int) : 0 < gridDivisor exponent := by
  have divisor : 0 < intervalDivisor := by
    rw [intervalDivisor_eq]
    exact Nat.two_pow_pos _
  rw [gridDivisor]
  split
  · exact Nat.mul_pos divisor (Nat.pow_pos (by decide))
  · exact Nat.mul_pos divisor Nat.one_pos

/-- A decimal that is admitted has digits. -/
theorem Interval.digits_pos (surrounds : range.Surrounds)
    (admitted : range.admits decimal = true) : 0 < decimal.digits := by
  have low : 0 < range.low * gridFactor decimal.exponent :=
    Nat.mul_pos surrounds.positive (gridFactor_pos _)
  by_contra none
  have zero : decimal.digits = 0 := by omega
  rw [admits, zero, holds_iff, Nat.zero_mul] at admitted
  split at admitted <;> omega

/-- What is found on a grid is admitted. -/
theorem admits_of_nearestOnGrid? (found : nearestOnGrid? range exponent = some decimal) :
    decimal.exponent = exponent ∧ range.admits decimal = true := by
  rw [nearestOnGrid?, Option.map_eq_some_iff] at found
  obtain ⟨digits, found, rfl⟩ := found
  exact ⟨rfl, Interval.holds_of_nearest? found⟩

/-- Where a decimal is admitted, one is found on its grid that is no farther from the value. -/
theorem exists_nearestOnGrid? (surrounds : range.Surrounds)
    (admitted : range.admits ⟨digits, exponent⟩ = true) :
    ∃ found, nearestOnGrid? range exponent = some found ∧
      range.distance (gridFactor exponent) (gridDivisor exponent) found.digits ≤
        range.distance (gridFactor exponent) (gridDivisor exponent) digits := by
  obtain ⟨found, here, nearer⟩ := Interval.exists_nearest? surrounds (gridFactor_pos exponent)
    (gridDivisor_pos exponent) (Interval.digits_pos surrounds admitted) admitted
  exact ⟨⟨found, exponent⟩, by rw [nearestOnGrid?, here, Option.map_some], nearer⟩

/-! ## The grids that are looked at -/

/-- The first grid that holds a decimal holds it, and none of those before holds one. -/
theorem firstOnGrids_spec (found : firstOnGrids range grids start = some decimal) :
    decimal.exponent ≤ start ∧ nearestOnGrid? range decimal.exponent = some decimal ∧
      ∀ exponent, decimal.exponent < exponent → exponent ≤ start →
        nearestOnGrid? range exponent = none := by
  induction grids generalizing start with
  | zero => cases found
  | succ grids ih =>
    rw [firstOnGrids] at found
    split at found
    · next here =>
      cases found
      obtain ⟨rfl, _⟩ := admits_of_nearestOnGrid? here
      exact ⟨Int.le_refl _, here, fun exponent above upto => by omega⟩
    · next none =>
      obtain ⟨upto, here, before⟩ := ih found
      refine ⟨by omega, here, fun exponent above below => ?_⟩
      rcases Int.lt_or_eq_of_le below with less | rfl
      · exact before exponent above (by omega)
      · exact none

/-- A grid that holds a decimal is found, or one before it, if it is among those that are looked
at. -/
theorem exists_firstOnGrids (here : nearestOnGrid? range exponent = some decimal)
    (upto : exponent ≤ start) (within : start < exponent + grids) :
    ∃ found, firstOnGrids range grids start = some found := by
  induction grids generalizing start with
  | zero => omega
  | succ grids ih =>
    rw [firstOnGrids]
    split
    · exact ⟨_, rfl⟩
    · next none =>
      have apart : exponent ≠ start := by
        rintro rfl
        rw [none] at here
        cases here
      exact ih (by omega) (by omega)

/-! ## The grids of a double -/

/-- Whether a double is positive and has the size that rounding gives it. -/
structure IsPositive (double : Binary64) : Prop where
  positive : 0 < double.significand
  rounded : double.significand < 2 ^ precision
  finite : double.shift ≤ maxShift

/-- Before it is rounded, a significand has no more bits than it should have. -/
theorem div_lt_precision (whole : Nat) :
    whole / 2 ^ (if whole < 2 ^ precision then 0 else whole.log2 + 1 - precision) <
      2 ^ precision := by
  rw [Nat.div_lt_iff_lt_mul (Nat.two_pow_pos _), ← Nat.pow_add]
  split
  · assumption
  · next large =>
    have nonzero : whole ≠ 0 := by
      have := Nat.two_pow_pos precision
      omega
    have bits : precision ≤ whole.log2 := (Nat.le_log2 nonzero).mpr (Nat.le_of_not_lt large)
    rw [Nat.add_sub_cancel' (Nat.le_succ_of_le bits)]
    exact Nat.lt_log2_self

/-- Rounding makes a significand of the right size and a shift in range. -/
theorem bounds_of_roundQuotient? {pair : Nat × Nat}
    (found : roundQuotient? dividend divisor = some pair) :
    pair.1 < 2 ^ precision ∧ pair.2 ≤ maxShift := by
  simp only [roundQuotient?, Nat.pow_eq] at found
  have below := div_lt_precision (dividend * 2 ^ bias / divisor)
  rw [Nat.div_div_eq_div_mul] at below
  generalize dividend * 2 ^ bias = scaled at found below
  generalize (if scaled / divisor < 2 ^ precision then 0
    else (scaled / divisor).log2 + 1 - precision) = shift at found below
  generalize scaled / (divisor * 2 ^ shift) = lower at found below
  generalize scaled % (divisor * 2 ^ shift) = rest at found
  obtain ⟨rounded, upto, same⟩ : ∃ rounded, rounded ≤ 2 ^ precision ∧
      rounded = if divisor * 2 ^ shift < 2 * rest ∨
        2 * rest = divisor * 2 ^ shift ∧ lower % 2 = 1 then lower + 1 else lower :=
    ⟨_, by split <;> omega, rfl⟩
  rw [← same, Option.ite_none_left_eq_some, Option.some_inj] at found
  obtain ⟨finite, rfl⟩ := found
  refine ⟨?_, Nat.le_of_not_lt finite⟩
  split
  · exact Nat.pow_lt_pow_right (by decide) (by decide)
  · next apart => exact Nat.lt_of_le_of_ne upto apart

/-- Every double that rounding makes is positive if it is not zero. -/
theorem isPositive_of_round? {negative : Bool}
    (found : round? negative dividend divisor = some double)
    (nonzero : double.isZero = false) : double.IsPositive := by
  rw [round?, Option.map_eq_some_iff] at found
  obtain ⟨pair, found, rfl⟩ := found
  obtain ⟨rounded, finite⟩ := bounds_of_roundQuotient? found
  exact ⟨Nat.pos_of_ne_zero (by simpa [isZero] using nonzero), rounded, finite⟩
/-- The binary exponent of a double exceeds that of its unit by less than the bits of a
significand. -/
theorem IsPositive.log2_dividend (isPositive : double.IsPositive) :
    double.shift ≤ double.dividend.log2 ∧ double.dividend.log2 < precision + double.shift := by
  have unit : 0 < 2 ^ double.shift := Nat.two_pow_pos _
  have nonzero : double.dividend ≠ 0 := (Nat.mul_pos isPositive.positive unit).ne'
  rw [Nat.le_log2 nonzero, Nat.log2_lt nonzero, Nat.pow_add, dividend, Nat.pow_eq]
  exact ⟨Nat.le_mul_of_pos_left _ isPositive.positive,
    Nat.mul_lt_mul_of_pos_right isPositive.rounded unit⟩

/-- The upper end of an interval lies below the power of two that comes after the double. -/
theorem IsPositive.high_lt (isPositive : double.IsPositive) :
    double.interval.high < 2 ^ (double.dividend.log2 + 3) := by
  have unit : 0 < 2 ^ double.shift := Nat.two_pow_pos _
  have below : double.significand * 2 ^ double.shift < 2 ^ (double.dividend.log2 + 1) :=
    Nat.lt_log2_self
  obtain ⟨bits, split⟩ := Nat.exists_eq_add_of_le isPositive.log2_dividend.1
  have fits : double.significand < 2 ^ (bits + 1) := by
    rwa [split, Nat.add_assoc, Nat.pow_add, Nat.mul_comm, Nat.mul_lt_mul_left unit] at below
  calc (4 * double.significand + 2) * 2 ^ double.shift
      < 4 * 2 ^ (bits + 1) * 2 ^ double.shift := Nat.mul_lt_mul_of_pos_right (by omega) unit
    _ = 2 ^ (double.dividend.log2 + 3) := by rw [split]; ring

/-- One step on the grid at which the search begins is no less than that power of two. -/
theorem IsPositive.power_le_coarse (isPositive : double.IsPositive) :
    2 ^ (double.dividend.log2 + 3) * gridFactor double.coarseExponent ≤
      gridDivisor double.coarseExponent := by
  obtain ⟨_, most⟩ := isPositive.log2_dividend
  have finite := isPositive.finite
  have start : double.coarseExponent =
      ((double.dividend.log2 : Int) - bias) * 30103 / 100000 + 2 := rfl
  have biased : bias = 1074 := rfl
  simp only [precision, maxShift] at most finite
  generalize double.dividend.log2 = log at *
  generalize double.coarseExponent = exponent at *
  rcases exponent.eq_nat_or_neg with ⟨tens, rfl | rfl⟩
  · obtain ⟨factor, divisor⟩ := grid_natCast tens
    rw [factor, divisor, intervalDivisor_eq, Nat.mul_one]
    calc 2 ^ (log + 3)
        ≤ 2 ^ (bias + 2 + (log + 1 - bias)) := Nat.pow_le_pow_right (by decide) (by omega)
      _ = 2 ^ (bias + 2) * 2 ^ (log + 1 - bias) := Nat.pow_add ..
      _ ≤ 2 ^ (bias + 2) * 10 ^ tens := Nat.mul_le_mul_left _ (twoPower_le (by omega))
  · obtain ⟨factor, divisor⟩ := grid_neg tens
    rw [factor, divisor, intervalDivisor_eq]
    calc 2 ^ (log + 3) * 10 ^ tens
        ≤ 2 ^ (log + 3) * 2 ^ (bias - (log + 1)) := Nat.mul_le_mul_left _ (tenPower_le (by omega))
      _ = 2 ^ (log + 3 + (bias - (log + 1))) := (Nat.pow_add ..).symm
      _ ≤ 2 ^ (bias + 2) := Nat.pow_le_pow_right (by decide) (by omega)

/-- The grid at which the search begins holds no decimal. -/
theorem not_admits_coarseExponent (isPositive : double.IsPositive) :
    double.interval.admits ⟨digits, double.coarseExponent⟩ = false := by
  rw [← Bool.not_eq_true]
  intro admitted
  have positive : 0 < digits :=
    Interval.digits_pos (surrounds_interval isPositive.positive).1 admitted
  have beyond : double.interval.high * gridFactor double.coarseExponent <
      digits * gridDivisor double.coarseExponent :=
    calc double.interval.high * gridFactor double.coarseExponent
        < 2 ^ (double.dividend.log2 + 3) * gridFactor double.coarseExponent :=
          Nat.mul_lt_mul_of_pos_right isPositive.high_lt (gridFactor_pos _)
      _ ≤ gridDivisor double.coarseExponent := isPositive.power_le_coarse
      _ ≤ digits * gridDivisor double.coarseExponent := Nat.le_mul_of_pos_left _ positive
  rw [Interval.admits_iff] at admitted
  split at admitted <;> omega

/-- A grid whose steps are a quarter of a unit or less holds a decimal. -/
theorem exists_admits (positive : 0 < double.significand)
    (fine : gridDivisor exponent ≤ 2 ^ double.shift * gridFactor exponent) :
    ∃ digits, double.interval.admits ⟨digits, exponent⟩ = true := by
  obtain ⟨surrounds, quarter⟩ := surrounds_interval positive
  have apart : double.interval.low * gridFactor exponent +
      2 ^ double.shift * gridFactor exponent ≤ double.interval.value * gridFactor exponent := by
    rw [← Nat.add_mul]
    exact Nat.mul_le_mul_right _ quarter
  have within : double.interval.value * gridFactor exponent <
      double.interval.high * gridFactor exponent :=
    Nat.mul_lt_mul_of_pos_right surrounds.above (gridFactor_pos _)
  generalize double.interval.value * gridFactor exponent = scaled at *
  have upto := Nat.div_mul_le_self scaled (gridDivisor exponent)
  have beyond : scaled <
      scaled / gridDivisor exponent * gridDivisor exponent + gridDivisor exponent :=
    Nat.lt_div_mul_add (gridDivisor_pos exponent)
  refine ⟨scaled / gridDivisor exponent, ?_⟩
  rw [Interval.admits_iff]
  split <;> omega

/-- A grid that is fine enough is among those that are looked at. -/
theorem IsPositive.exists_fine (isPositive : double.IsPositive) :
    ∃ exponent, exponent ≤ double.coarseExponent ∧
      double.coarseExponent < exponent + gridLimit ∧
      gridDivisor exponent ≤ 2 ^ double.shift * gridFactor exponent := by
  obtain ⟨least, most⟩ := isPositive.log2_dividend
  have finite := isPositive.finite
  have start : double.coarseExponent =
      ((double.dividend.log2 : Int) - bias) * 30103 / 100000 + 2 := rfl
  have biased : bias = 1074 := rfl
  simp only [precision, maxShift] at most finite
  rw [gridLimit]
  rcases Nat.le_total (bias + 2) double.shift with whole | fraction
  · obtain ⟨tens, chosen⟩ : ∃ tens, tens = 59 * (double.shift - (bias + 2)) / 196 := ⟨_, rfl⟩
    obtain ⟨factor, divisor⟩ := grid_natCast tens
    refine ⟨tens, by omega, by omega, ?_⟩
    rw [factor, divisor, intervalDivisor_eq, Nat.mul_one]
    calc 2 ^ (bias + 2) * 10 ^ tens
        ≤ 2 ^ (bias + 2) * 2 ^ (double.shift - (bias + 2)) :=
          Nat.mul_le_mul_left _ (tenPower_le (by omega))
      _ = 2 ^ double.shift := by rw [← Nat.pow_add, Nat.add_sub_cancel' whole]
  · obtain ⟨tens, chosen⟩ : ∃ tens, tens = (28 * (bias + 2 - double.shift) + 92) / 93 := ⟨_, rfl⟩
    obtain ⟨factor, divisor⟩ := grid_neg tens
    refine ⟨-tens, by omega, by omega, ?_⟩
    rw [factor, divisor, intervalDivisor_eq]
    calc 2 ^ (bias + 2)
        = 2 ^ double.shift * 2 ^ (bias + 2 - double.shift) := by
          rw [← Nat.pow_add, Nat.add_sub_cancel' fraction]
      _ ≤ 2 ^ double.shift * 10 ^ tens := Nat.mul_le_mul_left _ (twoPower_le (by omega))

/-! ## The shortest decimal -/

/-- Whether a decimal is the shortest one for a double: it lies in the interval, and of the decimals
that do none is on a coarser grid and none on the same grid is nearer to the value. -/
structure IsShortest (double : Binary64) (decimal : Decimal) : Prop where
  admitted : double.interval.admits decimal = true
  coarsest : ∀ other, double.interval.admits other = true → other.exponent ≤ decimal.exponent
  nearest : ∀ digits, double.interval.admits ⟨digits, decimal.exponent⟩ = true →
    double.interval.distance (gridFactor decimal.exponent) (gridDivisor decimal.exponent)
        decimal.digits ≤
      double.interval.distance (gridFactor decimal.exponent) (gridDivisor decimal.exponent) digits

/-- The digits of a shortest decimal do not end in a zero. -/
theorem IsShortest.digits_mod_ten (isShortest : double.IsShortest decimal) :
    decimal.digits % 10 ≠ 0 := by
  intro zero
  have coarser : double.interval.admits ⟨decimal.digits / 10, decimal.exponent + 1⟩ = true := by
    rw [Interval.admits_succ, Nat.mul_div_cancel' (Nat.dvd_of_mod_eq_zero zero)]
    exact isShortest.admitted
  have upto : decimal.exponent + 1 ≤ decimal.exponent := isShortest.coarsest _ coarser
  omega

/-- What is found from the coarse grid downwards is the shortest. -/
theorem isShortest_of_firstOnGrids (isPositive : double.IsPositive)
    (found : firstOnGrids double.interval grids double.coarseExponent = some decimal) :
    double.IsShortest decimal := by
  obtain ⟨_, here, before⟩ := firstOnGrids_spec found
  obtain ⟨surrounds, _⟩ := surrounds_interval isPositive.positive
  refine ⟨(admits_of_nearestOnGrid? here).2, fun other admitted => ?_, fun digits admitted => ?_⟩
  · by_contra coarser
    rcases Int.le_total other.exponent double.coarseExponent with looked | above
    · obtain ⟨_, onGrid, _⟩ := exists_nearestOnGrid? surrounds admitted
      rw [before other.exponent (by omega) looked] at onGrid
      cases onGrid
    · obtain ⟨digits, atStart⟩ := Interval.exists_finer above admitted
      rw [not_admits_coarseExponent isPositive] at atStart
      cases atStart
  · obtain ⟨nearest, onGrid, nearer⟩ := exists_nearestOnGrid? surrounds admitted
    rw [here, Option.some_inj] at onGrid
    rw [← onGrid] at nearer
    exact nearer

/-- The shortest decimal of a double is what it is said to be. -/
theorem shortest_isShortest (isPositive : double.IsPositive) :
    double.IsShortest double.shortest := by
  obtain ⟨surrounds, _⟩ := surrounds_interval isPositive.positive
  obtain ⟨exponent, upto, within, fine⟩ := isPositive.exists_fine
  obtain ⟨digits, admitted⟩ := exists_admits isPositive.positive fine
  obtain ⟨_, here, _⟩ := exists_nearestOnGrid? surrounds admitted
  obtain ⟨found, first⟩ := exists_firstOnGrids here upto within
  rw [shortest, first, Option.getD_some]
  exact isShortest_of_firstOnGrids isPositive first

end Binary64

end FoldAtlas
