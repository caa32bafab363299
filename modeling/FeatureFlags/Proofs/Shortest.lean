import Mathlib.Algebra.Order.Floor.Semifield
import Mathlib.Data.Rat.Floor
import FeatureFlags.Proofs.Rounding

/-!
# The shortest decimal reads back

The search of `Decimal.shortest` goes through decimal grids from coarse to fine and takes the
nearest grid point in the number's interval, so its result is attracted by the number
(`attracts_of_nearest?`). It ends: a grid with a point in the interval has a nearest one
(`isSome_nearest?`), and the last grid is finer than the distance between neighbouring numbers
(`exists_attracts_grid`).

The shortest decimal has no fraction digits if and only if the number is an integer
(`shortest_spec`): an integer is found at the latest on the grid of integers, and other numbers
attract no integer.
-/

namespace FeatureFlags

namespace Decimal

def value (d : Decimal) : ℚ := d.digits * 10 ^ d.exponent

theorem value_eq_div (d : Decimal) :
    d.value = ((d.digits * 10 ^ d.exponent.toNat : ℕ) : ℚ) / (10 ^ (-d.exponent).toNat : ℕ) := by
  have hpow := pow_toNat (b := 10) (by norm_num) d.exponent
  have hdown : (0 : ℚ) < 10 ^ (-d.exponent).toNat := by positivity
  rw [value, eq_div_iff (by exact_mod_cast hdown.ne')]
  push_cast
  rw [hpow, mul_assoc]

theorem value_trimZeros (fuel : ℕ) (d : Decimal) : (d.trimZeros fuel).value = d.value := by
  induction fuel generalizing d with
  | zero => rfl
  | succ fuel ih =>
    unfold trimZeros
    split
    · rename_i h
      have hdigits : (d.digits : ℚ) = (d.digits / 10 : ℕ) * 10 := by
        have : d.digits = d.digits / 10 * 10 := by omega
        exact_mod_cast this
      rw [ih, value, value, hdigits, zpow_add_one₀ (by norm_num)]
      ring
    · rfl

theorem le_exponent_trimZeros (fuel : ℕ) (d : Decimal) :
    d.exponent ≤ (d.trimZeros fuel).exponent := by
  induction fuel generalizing d with
  | zero => exact le_rfl
  | succ fuel ih =>
    unfold trimZeros
    split
    · exact (Int.le_add_one le_rfl).trans (ih _)
    · exact le_rfl

theorem pow_length_digitsOf_le {n : ℕ} (hn : 0 < n) : 10 ^ ((digitsOf n).length - 1) ≤ n := by
  by_cases h : (digitsOf n).length - 1 = 0
  · rw [h]
    exact hn
  · by_contra hlt
    have hlength : (digitsOf n).length ≤ (digitsOf n).length - 1 :=
      (Nat.length_toDigits_le_iff (by decide) (Nat.pos_of_ne_zero h)).mpr (Nat.lt_of_not_le hlt)
    omega

theorem length_digitsOf_pos (n : ℕ) : 0 < (digitsOf n).length :=
  List.length_pos_iff.mpr Nat.toDigits_ne_nil

theorem lt_pow_length_digitsOf (n : ℕ) : n < 10 ^ (digitsOf n).length :=
  (Nat.length_toDigits_le_iff (by decide) (length_digitsOf_pos n)).mp le_rfl

end Decimal

namespace Number

variable {x : Number}

theorem pow_leadingExponent_le {num den : ℕ} (hnum : 0 < num) (hden : 0 < den) :
    (10 : ℚ) ^ leadingExponent num den ≤ num / den := by
  have hd : (0 : ℚ) < den := by exact_mod_cast hden
  rw [le_div_iff₀ hd]
  unfold leadingExponent
  split
  · rename_i hle
    have hfloor := Decimal.pow_length_digitsOf_le (Nat.div_pos hle hden)
    have hlength := Decimal.length_digitsOf_pos (num / den)
    have hmul : 10 ^ ((Decimal.digitsOf (num / den)).length - 1) * den ≤ num :=
      (Nat.mul_le_mul_right _ hfloor).trans (Nat.div_mul_le_self num den)
    have hcast : ((Decimal.digitsOf (num / den)).length : ℤ) - 1 =
        ((Decimal.digitsOf (num / den)).length - 1 : ℕ) := by omega
    rw [hcast, zpow_natCast]
    exact_mod_cast hmul
  · have hlt := (Nat.div_lt_iff_lt_mul hnum).mp (Decimal.lt_pow_length_digitsOf ((den - 1) / num))
    have hle : den ≤ num * 10 ^ (Decimal.digitsOf ((den - 1) / num)).length := by
      rw [Nat.mul_comm]
      omega
    rw [zpow_neg, zpow_natCast, inv_mul_le_iff₀ (by positivity), mul_comm]
    exact_mod_cast hle

/-! ## The grids of the search -/

theorem absolute_nonneg : 0 ≤ x.absolute := mul_nonneg (Nat.cast_nonneg _) x.unit_pos.le

theorem floor_mul {g : ℚ} (hg : 0 < g) :
    (⌊x.absolute / g⌋₊ : ℚ) * g ≤ x.absolute ∧ x.absolute < (⌊x.absolute / g⌋₊ + 1) * g := by
  rw [← le_div_iff₀ hg, ← div_lt_iff₀ hg]
  exact ⟨Nat.floor_le (div_nonneg x.absolute_nonneg hg.le), Nat.lt_floor_add_one _⟩

/-- The multiple of a grid just below the absolute value, which the search considers first. -/
theorem floor_grid (e : ℤ) :
    let floor := x.interval.value * 10 ^ (-e).toNat / (x.interval.denominator * 10 ^ e.toNat)
    (floor : ℚ) * 10 ^ e ≤ x.absolute ∧ x.absolute < (floor + 1) * 10 ^ e := by
  intro floor
  have hdown : (0 : ℚ) < 10 ^ (-e).toNat := by positivity
  have hi : (0 : ℚ) < x.interval.denominator := by exact_mod_cast x.interval_denominator_pos
  have hquotient : x.absolute / 10 ^ e = ((x.interval.value * 10 ^ (-e).toNat : ℕ) : ℚ) /
      (x.interval.denominator * 10 ^ e.toNat : ℕ) := by
    push_cast
    rw [interval_value, pow_toNat (by norm_num) e]
    field_simp
  have hfloor : floor = ⌊x.absolute / 10 ^ e⌋₊ := by rw [hquotient, Nat.floor_div_eq_div]
  rw [hfloor]
  exact floor_mul (by positivity)

theorem holds_grid_iff (hx : x.significand ≠ 0) (k : ℕ) (e : ℤ) :
    x.interval.holds (k * 10 ^ e.toNat) (10 ^ (-e).toNat) = true ↔ x.Attracts (k * 10 ^ e) := by
  rw [holds_interval_iff hx (Nat.pow_pos (by decide)), ← Decimal.value_eq_div ⟨k, e⟩, Decimal.value]

/-- A decimal found on a grid is attracted. -/
theorem attracts_of_nearest? (hx : x.significand ≠ 0) {e : ℤ} {d : Decimal}
    (h : x.interval.nearest? e = some d) : d.exponent = e ∧ x.Attracts d.value := by
  unfold Interval.nearest? at h
  simp only [Nat.pow_eq] at h
  generalize x.interval.value * 10 ^ (-e).toNat / (x.interval.denominator * 10 ^ e.toNat) = floor at h
  split at h
  · rename_i hfloor habove
    have hfloor := (holds_grid_iff hx floor e).mp hfloor
    have habove := (holds_grid_iff hx (floor + 1) e).mp habove
    cases h
    refine ⟨rfl, ?_⟩
    unfold Decimal.value
    split
    · exact habove
    · exact hfloor
  · rename_i hfloor _
    cases h
    exact ⟨rfl, (holds_grid_iff hx floor e).mp hfloor⟩
  · rename_i _ habove
    cases h
    exact ⟨rfl, (holds_grid_iff hx (floor + 1) e).mp habove⟩
  · cases h

theorem isSome_nearest? (hx : x.significand ≠ 0) {e : ℤ} {k : ℕ} (h : x.Attracts (k * 10 ^ e)) :
    (x.interval.nearest? e).isSome = true := by
  obtain ⟨hfloor, habove⟩ := x.floor_grid e
  have hgrid : (0 : ℚ) < 10 ^ e := by positivity
  unfold Interval.nearest?
  simp only [Nat.pow_eq]
  generalize x.interval.value * 10 ^ (-e).toNat / (x.interval.denominator * 10 ^ e.toNat) =
    floor at hfloor habove ⊢
  -- a multiple on one side of the value brings the nearest one on this side with it
  have hor : x.interval.holds (floor * 10 ^ e.toNat) (10 ^ (-e).toNat) = true ∨
      x.interval.holds ((floor + 1) * 10 ^ e.toNat) (10 ^ (-e).toNat) = true := by
    rw [holds_grid_iff hx, holds_grid_iff hx]
    by_cases hk : k ≤ floor
    · have hle : (k * 10 ^ e : ℚ) ≤ floor * 10 ^ e :=
        mul_le_mul_of_nonneg_right (by exact_mod_cast hk) hgrid.le
      exact .inl (h.between attracts_absolute hle hfloor)
    · have hk' : floor + 1 ≤ k := by omega
      have hle : ((floor + 1 : ℕ) * 10 ^ e : ℚ) ≤ k * 10 ^ e :=
        mul_le_mul_of_nonneg_right (by exact_mod_cast hk') hgrid.le
      exact .inr (attracts_absolute.between h (by exact_mod_cast habove.le) hle)
  split
  · rfl
  · rfl
  · rfl
  · rename_i hnot hnot'
    rw [hnot, hnot'] at hor
    simp at hor

/-- A grid sixteen digits below the first one is finer than the distance between neighbours. -/
theorem exists_attracts_grid {g : ℚ} (hg : 0 < g) (hle : g * 10 ^ 16 ≤ x.absolute) :
    ∃ k : ℕ, x.Attracts (k * g) := by
  have hunit := x.unit_pos
  have hfine : g < x.below + x.unit / 2 := by
    have hm : (x.significand : ℚ) < 2 ^ 53 := by
      have : x.significand < 2 ^ 53 := x.significand_lt
      exact_mod_cast this
    unfold absolute at hle
    unfold below
    split
    · rename_i h
      rw [h.1] at hle
      norm_num [leadingBit] at hle
      linarith
    · have : (x.significand : ℚ) * x.unit < 2 ^ 53 * x.unit := mul_lt_mul_of_pos_right hm hunit
      linarith
  obtain ⟨hfloor, habove⟩ := x.floor_mul hg
  generalize ⌊x.absolute / g⌋₊ = floor at hfloor habove
  have hbelow := x.below_pos
  by_cases hlow : x.absolute - x.below < floor * g
  · exact ⟨floor, attracts_of_lt hlow (by linarith)⟩
  · refine ⟨floor + 1, attracts_of_lt ?_ ?_⟩ <;> push_cast <;> linarith

/-- The search ends at or above a grid on which something is found. -/
theorem Interval.nearest?_search {i : Interval} {fuel n : ℕ} {e : ℤ} (hn : n < fuel)
    (h : (i.nearest? (e - n)).isSome = true) :
    ∃ e', e - n ≤ e' ∧ i.nearest? e' = some (i.search fuel e) := by
  induction fuel generalizing n e with
  | zero => omega
  | succ fuel ih =>
    unfold Interval.search
    cases hd : i.nearest? e with
    | some d => exact ⟨e, by omega, hd⟩
    | none =>
      cases n with
      | zero =>
        rw [Nat.cast_zero, sub_zero, hd] at h
        cases h
      | succ n =>
        have heq : e - (n + 1 : ℕ) = e - 1 - n := by omega
        rw [heq] at h ⊢
        exact ih (by omega) h

/-! ## Integers -/

theorem numerator_div_denominator : (x.numerator : ℚ) / x.denominator = x.absolute := by
  have hdown : (0 : ℚ) < x.denominator := by exact_mod_cast Nat.two_pow_pos (1075 - x.exponent)
  have hunit := x.unit_eq
  rw [div_eq_iff hdown.ne']
  simp only [numerator, denominator, absolute, Nat.pow_eq, Nat.cast_mul] at hunit ⊢
  rw [hunit, mul_assoc]

theorem isIntegral_iff : x.isIntegral = true ↔ ∃ n : ℕ, x.absolute = n := by
  have hdown : 0 < x.denominator := Nat.two_pow_pos (1075 - x.exponent)
  have hdown' : (x.denominator : ℚ) ≠ 0 := by exact_mod_cast hdown.ne'
  simp only [isIntegral, decide_eq_true_eq, ← numerator_div_denominator, div_eq_iff hdown']
  constructor
  · intro h
    refine ⟨x.numerator / x.denominator, ?_⟩
    exact_mod_cast (Nat.div_mul_cancel (Nat.dvd_of_mod_eq_zero h)).symm
  · rintro ⟨n, hn⟩
    have hn' : x.numerator = n * x.denominator := by exact_mod_cast hn
    rw [hn', Nat.mul_mod_left]

theorem isIntegral_of_attracts {k : ℕ} (h : x.Attracts k) : x.isIntegral = true := by
  rw [isIntegral_iff]
  by_cases hexponent : 1075 ≤ x.exponent
  · refine ⟨x.significand * 2 ^ (x.exponent - 1075), ?_⟩
    have hunit := x.unit_eq
    rw [Nat.sub_eq_zero_of_le hexponent, Nat.pow_zero, Nat.cast_one, mul_one] at hunit
    rw [absolute, ← hunit, Nat.cast_mul]
  · -- the integer is a whole number of units, and no further off than half a unit
    refine ⟨k, ?_⟩
    have hunit := x.unit_eq
    have hpos := x.unit_pos
    rw [Nat.sub_eq_zero_of_le (by omega : x.exponent ≤ 1075), Nat.pow_zero, Nat.cast_one] at hunit
    generalize 2 ^ (1075 - x.exponent) = down at hunit
    have hk : (k : ℚ) = (k * down : ℕ) * x.unit := by
      rw [Nat.cast_mul, mul_assoc, mul_comm (down : ℚ), ← hunit, mul_one]
    have hlow := h.low
    have hhigh := h.high
    have hbelow := x.below_le
    rw [hk, absolute] at hlow hhigh
    have hle : (x.significand : ℚ) < (k * down : ℕ) + 1 := by
      have : (x.significand : ℚ) * x.unit < ((k * down : ℕ) + 1) * x.unit := by linarith
      exact lt_of_mul_lt_mul_right this hpos.le
    have hge : ((k * down : ℕ) : ℚ) < x.significand + 1 := by
      have : ((k * down : ℕ) : ℚ) * x.unit < (x.significand + 1) * x.unit := by linarith
      exact lt_of_mul_lt_mul_right this hpos.le
    have heq : x.significand = k * down := by
      have h₁ : x.significand < k * down + 1 := by exact_mod_cast hle
      have h₂ : k * down < x.significand + 1 := by exact_mod_cast hge
      omega
    rw [absolute, heq, hk]

/-! ## The shortest decimal -/

theorem significand_ne_zero (hx : x.isZero = false) : x.significand ≠ 0 := by
  intro h
  have hmagnitude : x.magnitude ≠ 0 := by simpa [isZero] using hx
  have hexponent : ¬1 < x.exponent := by
    intro he
    have hle := le_significand he
    rw [h] at hle
    exact absurd hle (by decide)
  have := x.magnitude_eq
  have := x.exponent_pos
  rw [h, show x.exponent - 1 = 0 by omega] at *
  omega

theorem absolute_pos (hx : x.isZero = false) : 0 < x.absolute :=
  mul_pos (by exact_mod_cast Nat.pos_of_ne_zero (significand_ne_zero hx)) x.unit_pos

/-- The exponent of the first digit, at which the search begins. -/
def firstExponent (x : Number) : ℤ := leadingExponent x.interval.value x.interval.denominator

theorem pow_firstExponent_le (hx : x.isZero = false) : (10 : ℚ) ^ x.firstExponent ≤ x.absolute := by
  have hi := x.interval_denominator_pos
  have hi' : (0 : ℚ) < x.interval.denominator := by exact_mod_cast hi
  have hvalue : 0 < x.interval.value := by
    rw [← @Nat.cast_pos ℚ, interval_value]
    exact mul_pos (absolute_pos hx) hi'
  have hle := pow_leadingExponent_le hvalue hi
  rwa [interval_value, mul_div_cancel_right₀ _ hi'.ne'] at hle

theorem firstExponent_nonneg (h : 1 ≤ x.absolute) : 0 ≤ x.firstExponent := by
  have hi : (0 : ℚ) ≤ x.interval.denominator := Nat.cast_nonneg _
  have hle : (x.interval.denominator : ℚ) ≤ x.interval.value := by
    rw [interval_value]
    exact le_mul_of_one_le_left hi h
  rw [firstExponent, leadingExponent, if_pos (by exact_mod_cast hle)]
  have := Decimal.length_digitsOf_pos (x.interval.value / x.interval.denominator)
  omega

theorem exists_isSome_nearest? (hx : x.isZero = false) :
    ∃ n : ℕ, n < 17 ∧ (x.interval.nearest? (x.firstExponent - n)).isSome = true ∧
      (x.isIntegral = true → (n : ℤ) ≤ x.firstExponent) := by
  have hm := significand_ne_zero hx
  by_cases hsmall : x.isIntegral = true ∧ x.firstExponent < 17
  · obtain ⟨k, hk⟩ := isIntegral_iff.mp hsmall.1
    have hpos : 0 < k := by
      have := absolute_pos hx
      rw [hk] at this
      exact_mod_cast this
    have hnonneg : 0 ≤ x.firstExponent := firstExponent_nonneg (by rw [hk]; exact_mod_cast hpos)
    refine ⟨x.firstExponent.toNat, by omega, ?_, fun _ => by omega⟩
    -- the number itself is a multiple of 1
    have hself : x.Attracts (k * 10 ^ (0 : ℤ)) := by
      rw [zpow_zero, mul_one, ← hk]
      exact attracts_absolute
    rw [Int.toNat_of_nonneg hnonneg, sub_self]
    exact isSome_nearest? hm hself
  · have hfine : (10 : ℚ) ^ (x.firstExponent - (16 : ℕ)) * 10 ^ 16 ≤ x.absolute := by
      have hpow : (10 : ℚ) ^ (x.firstExponent - (16 : ℕ)) * 10 ^ 16 = 10 ^ x.firstExponent := by
        rw [← zpow_natCast, ← zpow_add₀ (by norm_num), sub_add_cancel]
      rw [hpow]
      exact pow_firstExponent_le hx
    obtain ⟨k, hk⟩ := exists_attracts_grid (by positivity) hfine
    refine ⟨16, by decide, isSome_nearest? hm hk, fun hintegral => ?_⟩
    have : ¬x.firstExponent < 17 := fun h => hsmall ⟨hintegral, h⟩
    omega

/-- A number attracts its shortest decimal, which has no fraction digits if and only if the number is an
integer. -/
theorem shortest_spec (hx : x.isZero = false) :
    x.Attracts x.shortest.value ∧ (0 ≤ x.shortest.exponent ↔ x.isIntegral = true) := by
  obtain ⟨n, hn, hsome, hintegral⟩ := exists_isSome_nearest? hx
  obtain ⟨e, he, hd⟩ := Interval.nearest?_search hn hsome
  have hshortest : x.shortest = (x.interval.search 17 x.firstExponent).trimZeros 17 := by
    simp only [shortest, hx, Bool.false_eq_true, if_false, firstExponent]
  generalize x.interval.search 17 x.firstExponent = d at hd hshortest
  obtain ⟨hexponent, hattracts⟩ := attracts_of_nearest? (significand_ne_zero hx) hd
  have hle := d.le_exponent_trimZeros 17
  rw [← d.value_trimZeros 17] at hattracts
  rw [← hshortest] at hattracts hle
  refine ⟨hattracts, fun hnonneg => ?_, fun h => ?_⟩
  · -- a decimal without places is an integer
    have hvalue : x.shortest.value = (x.shortest.digits * 10 ^ x.shortest.exponent.toNat : ℕ) := by
      rw [Decimal.value_eq_div, Int.toNat_of_nonpos (by omega : -x.shortest.exponent ≤ 0)]
      simp
    exact isIntegral_of_attracts (hvalue ▸ hattracts)
  · have := hintegral h
    omega

end Number

end FeatureFlags
