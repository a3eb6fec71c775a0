/-
**The fewest digits round to the double that they were made from.**

* `Interval.contains_iff` — a digit string is in the interval of a double exactly when it rounds to
  it.
* `Interval.position_le` — where the digits of a double begin.
* `Interval.onGrid_seventeen` — seventeen digits suffice: on that grid the step is smaller than the
  interval, so that one of the two neighbours of the double is in it.
* `shortest_rounds` — **the number that the fewest digits stand for rounds to the double.**
-/

import AccessControl.Decimal.Shortest
import AccessControl.Proofs.Decimal.Rounding

namespace AccessControl.Decimal

variable {mantissa : Nat} {exponent : Int}

/-! ### The number of digits -/

theorem lt_pow_length (n : Nat) : n < 10 ^ (Nat.toDigits 10 n).length :=
  (Nat.length_toDigits_le_iff (by decide) Nat.length_toDigits_pos).mp (le_refl _)

theorem pow_length_le {n : Nat} (positive : 0 < n) :
    (10 : ℚ) ^ ((Nat.toDigits 10 n).length - 1 : Int) ≤ n := by
  obtain ⟨fewer, count⟩ := Nat.exists_eq_add_of_lt (@Nat.length_toDigits_pos 10 n)
  rw [Nat.zero_add] at count
  have own : 10 ^ fewer ≤ n := by
    rcases Nat.eq_zero_or_pos fewer with rfl | some
    · exact positive
    · by_contra less
      have short := (Nat.length_toDigits_le_iff (by decide) some).mpr (not_le.mp less)
      omega
  rw [count, Nat.cast_add_one, add_sub_cancel_right, zpow_natCast]
  exact_mod_cast own

/-! ### The interval of a double -/

theorem interval_denominator_pos (mantissa : Nat) (exponent : Int) :
    0 < (interval mantissa exponent).denominator :=
  scaled_denominator_pos (by decide) 1 (by decide) exponent

/-- The numbers of an interval count quarters of a step. -/
theorem interval_quarters (quarters : Nat) (mantissa : Nat) (exponent : Int) :
    ((quarters * (scaled 2 1 4 exponent).1 : Nat) : ℚ) / (interval mantissa exponent).denominator =
      quarters / 4 * 2 ^ exponent := by
  have unit : quotient (scaled 2 1 4 exponent) = _ := quotient_scaled (by decide) 1 4 exponent
  have own : ((scaled 2 1 4 exponent).1 : ℚ) / (interval mantissa exponent).denominator = _ := unit
  rw [Nat.cast_mul, mul_div_assoc, own]
  push_cast
  ring

theorem interval_low (positive : 0 < mantissa) :
    ((interval mantissa exponent).low / (interval mantissa exponent).denominator : ℚ) =
      (mantissa - gap mantissa exponent) * 2 ^ exponent := by
  refine (interval_quarters _ mantissa exponent).trans ?_
  unfold gap
  split_ifs
  · rw [Nat.cast_sub (by omega)]
    push_cast
    ring
  · rw [Nat.cast_sub (by omega)]
    push_cast
    ring

theorem interval_value (mantissa : Nat) (exponent : Int) :
    ((interval mantissa exponent).value / (interval mantissa exponent).denominator : ℚ) =
      mantissa * 2 ^ exponent := by
  refine (interval_quarters _ mantissa exponent).trans ?_
  push_cast
  ring

theorem interval_high (mantissa : Nat) (exponent : Int) :
    ((interval mantissa exponent).high / (interval mantissa exponent).denominator : ℚ) =
      (mantissa + 1 / 2) * 2 ^ exponent := by
  refine (interval_quarters _ mantissa exponent).trans ?_
  push_cast
  ring

namespace Interval

/-- **A digit string is in the interval of a double exactly when it rounds to it.** -/
theorem contains_iff (positive : 0 < mantissa) (digits : Nat) (place : Int) :
    (interval mantissa exponent).contains digits place = true ↔
      RoundsTo mantissa exponent (digits * 10 ^ place) := by
  let i := interval mantissa exponent
  let point := scaled 10 digits 1 place
  have value : (digits : ℚ) * 10 ^ place = point.1 / point.2 := (quotient_decimal digits place).symm
  have base : (0 : ℚ) < i.denominator := Nat.cast_pos.mpr (interval_denominator_pos _ _)
  have divided : (0 : ℚ) < point.2 :=
    Nat.cast_pos.mpr (scaled_denominator_pos (by decide) digits (by decide) place)
  have low : i.low * point.2 ≤ point.1 * i.denominator ↔
      (mantissa - gap mantissa exponent) * 2 ^ exponent ≤ (digits * 10 ^ place : ℚ) := by
    rw [value, ← interval_low positive, div_le_div_iff₀ base divided]
    exact_mod_cast Iff.rfl
  have lower : i.low * point.2 < point.1 * i.denominator ↔
      (mantissa - gap mantissa exponent) * 2 ^ exponent < (digits * 10 ^ place : ℚ) := by
    rw [value, ← interval_low positive, div_lt_div_iff₀ base divided]
    exact_mod_cast Iff.rfl
  have high : point.1 * i.denominator ≤ i.high * point.2 ↔
      (digits * 10 ^ place : ℚ) ≤ (mantissa + 1 / 2) * 2 ^ exponent := by
    rw [value, ← interval_high, div_le_div_iff₀ divided base]
    exact_mod_cast Iff.rfl
  have higher : point.1 * i.denominator < i.high * point.2 ↔
      (digits * 10 ^ place : ℚ) < (mantissa + 1 / 2) * 2 ^ exponent := by
    rw [value, ← interval_high, div_lt_div_iff₀ divided base]
    exact_mod_cast Iff.rfl
  have closed : i.closed = decide (mantissa % 2 = 0) := rfl
  show (if i.closed then decide (i.low * point.2 ≤ point.1 * i.denominator ∧
      point.1 * i.denominator ≤ i.high * point.2)
    else decide (i.low * point.2 < point.1 * i.denominator ∧
      point.1 * i.denominator < i.high * point.2)) = true ↔ _
  rw [closed]
  by_cases even : mantissa % 2 = 0
  · rw [if_pos (decide_eq_true even), decide_eq_true_eq, low, high]
    exact ⟨fun ⟨low, high⟩ => ⟨low, high, fun odd => by omega⟩, fun own => ⟨own.low, own.high⟩⟩
  · rw [if_neg (mt of_decide_eq_true even), decide_eq_true_eq, lower, higher]
    exact ⟨fun own => ⟨own.1.le, own.2.le, fun _ => own⟩, fun own => own.odd (by omega)⟩

/-- **The first digit of a double** is not before its position. Below one as many zeros stand behind
the point as the reciprocal has digits, less one. -/
theorem position_le (positive : 0 < mantissa) :
    (10 : ℚ) ^ ((interval mantissa exponent).position - 1) ≤ mantissa * 2 ^ exponent := by
  have divided := interval_denominator_pos mantissa exponent
  have base : (0 : ℚ) < (interval mantissa exponent).denominator := Nat.cast_pos.mpr divided
  have above : (0 : ℚ) < mantissa * 2 ^ exponent := by positivity
  rw [← interval_value] at above ⊢
  generalize interval mantissa exponent = i at *
  have counted : 0 < i.value := by
    rw [div_pos_iff_of_pos_right base] at above
    exact_mod_cast above
  unfold position
  dsimp only
  split_ifs with whole
  · exact (pow_length_le whole).trans Nat.cast_div_le
  · have short := Nat.lt_mul_of_div_lt (lt_pow_length ((i.denominator - 1) / i.value)) counted
    generalize (Nat.toDigits 10 ((i.denominator - 1) / i.value)).length = count at *
    have bound : (i.denominator : ℚ) ≤ 10 ^ count * i.value := by
      exact_mod_cast (show i.denominator ≤ 10 ^ count * i.value by omega)
    have place : (1 - (count : Int) - 1) = -count := by omega
    rw [place, zpow_neg, zpow_natCast, inv_le_comm₀ (by positivity) above, inv_div,
      div_le_iff₀ (Nat.cast_pos.mpr counted)]
    exact bound

variable {i : Interval} {tie : Tie}

theorem contains_of_onGrid {place : Int} {digits : Nat} (hit : i.onGrid tie place = some digits) :
    i.contains digits place = true := by
  unfold onGrid at hit
  dsimp only at hit
  split at hit
  · rename_i below above
    have either (upper : Bool) {number : Nat} (one : i.contains number place = true)
        (other : i.contains (number + 1) place = true) :
        i.contains (if upper then number + 1 else number) place = true := by
      cases upper
      · exact one
      · exact other
    exact Option.some.inj hit ▸ either _ below above
  · rename_i below _
    exact Option.some.inj hit ▸ below
  · rename_i _ above
    exact Option.some.inj hit ▸ above
  · cases hit

/-- Without a hit neither neighbour of the double on the grid rounds to it. -/
theorem neighbours_of_onGrid {place : Int} (miss : i.onGrid tie place = none) :
    ∃ below : Nat, (below : ℚ) * 10 ^ place ≤ i.value / i.denominator ∧
      (i.value / i.denominator : ℚ) < (below + 1 : Nat) * 10 ^ place ∧
      i.contains below place = false ∧ i.contains (below + 1) place = false := by
  let point := scaled 10 i.value i.denominator (-place)
  have step : (0 : ℚ) < 10 ^ place := by positivity
  have value : (point.1 / point.2 : ℚ) = i.value / i.denominator / 10 ^ place := by
    have own : quotient point = _ := quotient_scaled (by decide) i.value i.denominator (-place)
    rw [zpow_neg, ← div_eq_mul_inv] at own
    exact own
  have whole : 0 ≤ (point.1 / point.2 : ℚ) := by positivity
  refine ⟨point.1 / point.2, ?_, ?_, ?_⟩
  · rw [← le_div_iff₀ step, ← value]
    exact Nat.cast_div_le
  · rw [← div_lt_iff₀ step, ← value, ← Nat.floor_div_eq_div (K := ℚ)]
    push_cast
    exact Nat.lt_floor_add_one _
  · unfold onGrid at miss
    dsimp only at miss
    split at miss
    · cases miss
    · cases miss
    · cases miss
    · rename_i below above
      exact ⟨below, above⟩

/-- The seventeenth digit of a double counts less than the width of its interval. -/
theorem step_lt_width (binary : Binary mantissa exponent) {step : ℚ}
    (seventeenth : step * 10 ^ 16 ≤ mantissa * 2 ^ exponent) :
    step < (gap mantissa exponent + 1 / 2) * 2 ^ exponent := by
  have unit : (0 : ℚ) < 2 ^ exponent := by positivity
  have steps : (mantissa : ℚ) < (gap mantissa exponent + 1 / 2) * 10 ^ 16 := by
    unfold gap
    split_ifs with power
    · rw [power.1]
      norm_num [hiddenBit]
    · have short : (mantissa : ℚ) < 2 * hiddenBit := by exact_mod_cast binary.short
      norm_num [hiddenBit] at short ⊢
      linarith
  nlinarith

/-- **On the grid of seventeen digits one of the neighbours of a double rounds to it.** Were both
outside, the whole interval would lie between them. -/
theorem onGrid_seventeen (binary : Binary mantissa exponent) (positive : 0 < mantissa) (tie : Tie) :
    ∃ digits, (interval mantissa exponent).onGrid tie
      ((interval mantissa exponent).position - 17) = some digits := by
  have first := @position_le mantissa exponent positive
  cases hit : (interval mantissa exponent).onGrid tie
      ((interval mantissa exponent).position - 17) with
  | some digits => exact ⟨digits, rfl⟩
  | none =>
    obtain ⟨below, under, beyond, lowMiss, highMiss⟩ := neighbours_of_onGrid hit
    rw [interval_value] at under beyond
    rw [← Bool.not_eq_true, contains_iff positive] at lowMiss highMiss
    generalize (interval mantissa exponent).position = place at *
    have smaller : (10 : ℚ) ^ (place - 1) = 10 ^ (place - 17) * 10 ^ 16 := by
      rw [← zpow_natCast, ← zpow_add₀ (by norm_num)]
      congr 1
      omega
    have narrow := step_lt_width binary (smaller ▸ first)
    generalize (10 : ℚ) ^ (place - 17) = step at *
    have unit : (0 : ℚ) < 2 ^ exponent := by positivity
    have wide := gap_pos mantissa exponent
    have low : below * step ≤ (mantissa - gap mantissa exponent) * 2 ^ exponent := by
      by_contra inside
      exact lowMiss (.of_inside (not_le.mp inside) (by nlinarith))
    have high : (mantissa + 1 / 2) * 2 ^ exponent ≤ ((below + 1 : Nat) : ℚ) * step := by
      by_contra inside
      exact highMiss (.of_inside (by nlinarith) (not_le.mp inside))
    push_cast at high
    linarith

/-- **A search that comes to a grid with a hit ends in a digit string in the interval.** -/
theorem contains_search {last fuel count : Nat}
    (hit : ∃ digits, i.onGrid tie (i.position - last) = some digits)
    (started : count ≤ last) (enough : last < count + fuel) :
    i.contains (i.search tie fuel count).1 (i.search tie fuel count).2 = true := by
  induction fuel generalizing count with
  | zero => omega
  | succ fuel ih =>
    unfold search
    split
    · rename_i digits found
      exact contains_of_onGrid found
    · rename_i miss
      have before : count ≠ last := fun same => by
        obtain ⟨digits, found⟩ := hit
        rw [← same, miss] at found
        cases found
      exact ih (by omega) (by omega)

end Interval

/-- Last zeros are counted by the exponent. -/
theorem withoutZeros_value (fuel digits : Nat) (place : Int) :
    ((withoutZeros fuel digits place).1 : ℚ) * 10 ^ (withoutZeros fuel digits place).2 =
      digits * 10 ^ place := by
  induction fuel generalizing digits place with
  | zero => rfl
  | succ fuel ih =>
    unfold withoutZeros
    split_ifs with zeros
    · rw [ih, zpow_add_one₀ (by norm_num), mul_comm ((10 : ℚ) ^ place), ← mul_assoc]
      congr 1
      exact_mod_cast Nat.div_mul_cancel (Nat.dvd_of_mod_eq_zero zeros.1)
    · rfl

/-- **The number that the fewest digits stand for rounds to the double.** -/
theorem shortest_rounds (tie : Tie) (binary : Binary mantissa exponent) (positive : 0 < mantissa) :
    RoundsTo mantissa exponent
      ((shortest tie mantissa exponent).1 * 10 ^ (shortest tie mantissa exponent).2) := by
  unfold shortest
  dsimp only
  rw [withoutZeros_value, ← Interval.contains_iff positive]
  exact Interval.contains_search (Interval.onGrid_seventeen binary positive tie) (by decide)
    (by decide)

end AccessControl.Decimal
