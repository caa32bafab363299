import Mathlib.Algebra.Order.Field.Power
import Mathlib.Tactic.FieldSimp
import Mathlib.Tactic.Linarith
import Mathlib.Tactic.NormNum
import Mathlib.Tactic.Positivity
import Mathlib.Tactic.Ring
import FeatureFlags.Number.Shortest

/-!
# What rounds to a number

The absolute value of a finite number is its significand times its unit, a power of two
(`Number.absolute`). A number attracts the rationals that are no further from it than half way to
its neighbours, where the end points count for an even significand (`Number.Attracts`). These are
the members of its interval (`Number.holds_interval_iff`), and each of them rounds to the number
(`Number.ofRatio_of_attracts`).

Just below a power of two the unit is half as large, so what a power of two attracts there is
rounded in the finer range and carried to its end. The magnitude is the same, as the next range
begins where the finer one ends.
-/

namespace FeatureFlags

theorem pow_toNat {b : ℚ} (hb : b ≠ 0) (e : ℤ) : b ^ e.toNat = b ^ e * b ^ (-e).toNat := by
  rw [← zpow_natCast, ← zpow_natCast, ← zpow_add₀ hb]
  congr 1
  omega

namespace Number

variable {x : Number}

/-! ## The parts of a number -/

/-- The distance between neighbours in the range of the number. -/
def unit (x : Number) : ℚ := 2 ^ ((x.exponent : ℤ) - 1075)

def absolute (x : Number) : ℚ := x.significand * x.unit

/-- Half the distance to the next smaller number. -/
def below (x : Number) : ℚ :=
  if x.significand = leadingBit ∧ 1 < x.exponent then x.unit / 4 else x.unit / 2

/-- Whether a rational is no further from the absolute value than half way to a neighbour. -/
structure Attracts (x : Number) (q : ℚ) : Prop where
  low : x.absolute - x.below ≤ q
  high : q ≤ x.absolute + x.unit / 2
  /-- Of two neighbours the even one attracts the midpoint. -/
  odd : x.significand % 2 = 1 → x.absolute - x.below < q ∧ q < x.absolute + x.unit / 2

theorem unit_pos : 0 < x.unit := zpow_pos two_pos _

theorem below_pos : 0 < x.below := by
  have := x.unit_pos
  unfold below
  split <;> linarith

theorem below_le : x.below ≤ x.unit / 2 := by
  have := x.unit_pos
  unfold below
  split <;> linarith

theorem exponent_pos : 1 ≤ x.exponent := Nat.le_max_right _ _

theorem magnitude_eq : x.magnitude = (x.exponent - 1) * leadingBit + x.significand := by
  have hdiv := Nat.div_add_mod x.magnitude leadingBit
  unfold exponent significand
  split
  · rename_i h
    simp [h]
  · rename_i h
    have hpos : 1 ≤ x.magnitude / leadingBit := Nat.pos_of_ne_zero h
    have : 1 * leadingBit ≤ x.magnitude / leadingBit * leadingBit := Nat.mul_le_mul_right _ hpos
    rw [Nat.max_eq_left hpos, Nat.sub_mul]
    rw [Nat.mul_comm] at hdiv
    omega

theorem significand_lt : x.significand < 2 * leadingBit := by
  have hmod : x.magnitude % leadingBit < leadingBit := Nat.mod_lt _ (by decide)
  unfold significand
  split
  · rename_i h
    have := Nat.div_add_mod x.magnitude leadingBit
    rw [h] at this
    omega
  · omega

theorem le_significand (h : 1 < x.exponent) : leadingBit ≤ x.significand := by
  unfold exponent at h
  unfold significand
  split
  · omega
  · omega

theorem ofMagnitude_magnitude : ofMagnitude x.isNegative x.magnitude = x := by
  obtain ⟨bits⟩ := x
  have hlt : bits.toNat < 2 * signBit := bits.toNat_lt
  have hbits : (if signBit ≤ bits.toNat then signBit + bits.toNat % signBit else bits.toNat % signBit) =
      bits.toNat := by
    split
    · rename_i h
      rw [Nat.mod_eq_sub_mod h, Nat.mod_eq_of_lt (by omega)]
      omega
    · exact Nat.mod_eq_of_lt (by omega)
  simp only [ofMagnitude, isNegative, magnitude, decide_eq_true_eq, hbits, UInt64.ofNat_toNat]

theorem magnitude_ofMagnitude (negative : Bool) {m : ℕ} (hm : m < signBit) :
    (ofMagnitude negative m).magnitude = m ∧ (ofMagnitude negative m).isNegative = negative := by
  have hword : 2 ^ 64 = signBit + signBit := by decide
  cases negative with
  | true =>
    have hbits : (ofMagnitude true m).bits.toNat = signBit + m := by
      rw [ofMagnitude, if_pos rfl, UInt64.toNat_ofNat']
      exact Nat.mod_eq_of_lt (by omega)
    rw [magnitude, isNegative, hbits, Nat.add_mod_left, Nat.mod_eq_of_lt hm]
    exact ⟨rfl, by simp⟩
  | false =>
    have hbits : (ofMagnitude false m).bits.toNat = m := by
      rw [ofMagnitude, if_neg Bool.false_ne_true, UInt64.toNat_ofNat']
      exact Nat.mod_eq_of_lt (by omega)
    rw [magnitude, isNegative, hbits, Nat.mod_eq_of_lt hm]
    exact ⟨rfl, by simpa using hm⟩

/-! ## The interval -/

theorem unit_eq : ((2 ^ (x.exponent - 1075) : ℕ) : ℚ) = x.unit * (2 ^ (1075 - x.exponent) : ℕ) := by
  have h := pow_toNat (b := 2) two_ne_zero ((x.exponent : ℤ) - 1075)
  have hup : ((x.exponent : ℤ) - 1075).toNat = x.exponent - 1075 := by omega
  have hdown : (-((x.exponent : ℤ) - 1075)).toNat = 1075 - x.exponent := by omega
  rw [hup, hdown] at h
  exact_mod_cast h

theorem interval_denominator_pos : 0 < x.interval.denominator :=
  Nat.mul_pos (by decide) (Nat.two_pow_pos _)

theorem interval_value : (x.interval.value : ℚ) = x.absolute * x.interval.denominator := by
  have h := x.unit_eq
  simp only [interval, absolute, Nat.pow_eq, Nat.cast_mul, Nat.cast_ofNat] at h ⊢
  rw [h]
  ring

theorem interval_high :
    (x.interval.high : ℚ) = (x.absolute + x.unit / 2) * x.interval.denominator := by
  have h := x.unit_eq
  simp only [interval, absolute, Nat.pow_eq, Nat.cast_mul, Nat.cast_add, Nat.cast_ofNat] at h ⊢
  rw [h]
  ring

theorem interval_low (hx : x.significand ≠ 0) :
    (x.interval.low : ℚ) = (x.absolute - x.below) * x.interval.denominator := by
  have h := x.unit_eq
  unfold below
  simp only [interval, absolute, Nat.pow_eq, Nat.cast_mul, Nat.cast_ofNat] at h ⊢
  rw [h]
  split
  · rw [Nat.cast_sub (by omega)]
    push_cast
    ring
  · rw [Nat.cast_sub (by omega)]
    push_cast
    ring

theorem cross_le_iff {a b den : ℕ} {q : ℚ} (hb : 0 < b) (hden : 0 < den) (ha : (a : ℚ) = q * b)
    (num : ℕ) :
    (a * den ≤ num * b ↔ q ≤ (num : ℚ) / den) ∧ (num * b ≤ a * den ↔ (num : ℚ) / den ≤ q) := by
  have hb' : (0 : ℚ) < b := by exact_mod_cast hb
  have hden' : (0 : ℚ) < den := by exact_mod_cast hden
  rw [← @Nat.cast_le ℚ, ← @Nat.cast_le ℚ, Nat.cast_mul, Nat.cast_mul, ha,
    mul_right_comm, mul_le_mul_iff_of_pos_right hb', mul_le_mul_iff_of_pos_right hb',
    le_div_iff₀ hden', div_le_iff₀ hden']
  exact ⟨Iff.rfl, Iff.rfl⟩

/-- The interval of a number contains exactly what the number attracts. -/
theorem holds_interval_iff (hx : x.significand ≠ 0) {num den : ℕ} (hden : 0 < den) :
    x.interval.holds num den = true ↔ x.Attracts (num / den) := by
  obtain ⟨hle, hnot⟩ := cross_le_iff x.interval_denominator_pos hden (interval_low hx) num
  obtain ⟨hnot', hge⟩ := cross_le_iff x.interval_denominator_pos hden x.interval_high num
  have hlt := not_congr hnot
  have hgt := not_congr hnot'
  rw [not_le, not_le] at hlt hgt
  have hclosed : x.interval.closed = decide (x.significand % 2 = 0) := rfl
  unfold Interval.holds
  rw [hclosed]
  by_cases heven : x.significand % 2 = 0
  · simp only [heven, decide_true, if_true, Bool.and_eq_true, decide_eq_true_eq, hle, hge]
    exact ⟨fun h => ⟨h.1, h.2, fun hodd => by omega⟩, fun h => ⟨h.low, h.high⟩⟩
  · simp only [heven, decide_false, Bool.false_eq_true, if_false, Bool.and_eq_true,
      decide_eq_true_eq, hlt, hgt]
    exact ⟨fun h => ⟨h.1.le, h.2.le, fun _ => h⟩, fun h => h.odd (by omega)⟩

/-- Rationals between two attracted ones are attracted. -/
theorem Attracts.between {a b q : ℚ} (ha : x.Attracts a) (hb : x.Attracts b) (haq : a ≤ q)
    (hqb : q ≤ b) : x.Attracts q where
  low := ha.low.trans haq
  high := hqb.trans hb.high
  odd h := ⟨(ha.odd h).1.trans_le haq, hqb.trans_lt (hb.odd h).2⟩

theorem attracts_of_lt {q : ℚ} (hlow : x.absolute - x.below < q) (hhigh : q < x.absolute + x.unit / 2) :
    x.Attracts q := ⟨hlow.le, hhigh.le, fun _ => ⟨hlow, hhigh⟩⟩

theorem attracts_absolute : x.Attracts x.absolute := by
  have := x.below_pos
  have := x.unit_pos
  exact attracts_of_lt (by linarith) (by linarith)

/-! ## Rounding -/

/-- A quotient no further than a half from an integer is rounded to it. -/
theorem roundQuotient_eq {num den n : ℕ} (hden : 0 < den) (hlow : (n - 1 / 2 : ℚ) ≤ num / den)
    (hhigh : (num / den : ℚ) ≤ n + 1 / 2)
    (hodd : n % 2 = 1 → (n - 1 / 2 : ℚ) < num / den ∧ (num / den : ℚ) < n + 1 / 2) :
    roundQuotient num den = n := by
  have hd : (0 : ℚ) < den := by exact_mod_cast hden
  have hlow' : 2 * (n * den) ≤ 2 * num + den := by
    rw [le_div_iff₀ hd] at hlow
    have : (2 * (n * den) : ℚ) ≤ 2 * num + den := by linarith
    exact_mod_cast this
  have hhigh' : 2 * num ≤ 2 * (n * den) + den := by
    rw [div_le_iff₀ hd] at hhigh
    have : (2 * num : ℚ) ≤ 2 * (n * den) + den := by linarith
    exact_mod_cast this
  have hodd' : n % 2 = 1 → 2 * (n * den) < 2 * num + den ∧ 2 * num < 2 * (n * den) + den := by
    intro h
    obtain ⟨h₁, h₂⟩ := hodd h
    rw [lt_div_iff₀ hd] at h₁
    rw [div_lt_iff₀ hd] at h₂
    have h₁' : (2 * (n * den) : ℚ) < 2 * num + den := by linarith
    have h₂' : (2 * num : ℚ) < 2 * (n * den) + den := by linarith
    exact ⟨by exact_mod_cast h₁', by exact_mod_cast h₂'⟩
  -- the integer is the floor of the quotient or the one above it
  have hdiv : num / den * den + num % den = num := Nat.div_add_mod' num den
  have hmod : num % den < den := Nat.mod_lt _ hden
  have hfloor : num / den ≤ n := by
    by_contra h
    have : (n + 1) * den ≤ num / den * den := Nat.mul_le_mul_right _ (by omega)
    rw [Nat.succ_mul] at this
    omega
  have habove : n ≤ num / den + 1 := by
    by_contra h
    have : (num / den + 2) * den ≤ n * den := Nat.mul_le_mul_right _ (by omega)
    rw [Nat.add_mul] at this
    omega
  have hcases : n = num / den ∧ n * den = num / den * den ∨
      n = num / den + 1 ∧ n * den = num / den * den + den := by
    obtain h | h : n = num / den ∨ n = num / den + 1 := by omega
    · exact .inl ⟨h, congrArg (· * den) h⟩
    · exact .inr ⟨h, by rw [h, Nat.succ_mul]⟩
  simp only [roundQuotient]
  split
  · omega
  · split
    · omega
    · have : n % 2 ≠ 1 := fun hn => by
        have := hodd' hn
        omega
      omega

/-- A quotient is rounded by the unit of its range. -/
theorem roundMagnitude_eq {num den t n : ℕ} (hden : 0 < den)
    (hstep : (num * 2 ^ 1074 / den).log2 - 52 = t)
    (hlow : (n - 1 / 2 : ℚ) * 2 ^ t ≤ num / den * 2 ^ 1074)
    (hhigh : (num / den * 2 ^ 1074 : ℚ) ≤ (n + 1 / 2) * 2 ^ t)
    (hodd : n % 2 = 1 → (n - 1 / 2 : ℚ) * 2 ^ t < num / den * 2 ^ 1074 ∧
      (num / den * 2 ^ 1074 : ℚ) < (n + 1 / 2) * 2 ^ t) :
    roundMagnitude num den = min infinityMagnitude (t * leadingBit + n) := by
  have ht : (0 : ℚ) < 2 ^ t := pow_pos two_pos t
  have hq : ((num * 2 ^ 1074 : ℕ) / (den * 2 ^ t : ℕ) : ℚ) = num / den * 2 ^ 1074 / 2 ^ t := by
    simp only [Nat.cast_mul, Nat.cast_pow, Nat.cast_ofNat]
    rw [mul_div_mul_comm, mul_div_assoc]
  have hround : roundQuotient (num * 2 ^ 1074) (den * 2 ^ t) = n := by
    refine roundQuotient_eq (Nat.mul_pos hden (Nat.two_pow_pos t)) ?_ ?_ ?_
    · rw [hq, le_div_iff₀ ht]
      exact hlow
    · rw [hq, div_le_iff₀ ht]
      exact hhigh
    · intro h
      rw [hq, lt_div_iff₀ ht, div_lt_iff₀ ht]
      exact hodd h
  simp only [roundMagnitude, Nat.pow_eq, hstep, hround]

theorem step_eq {num den t : ℕ} (hden : 0 < den) (hlt : (num / den * 2 ^ 1074 : ℚ) < 2 ^ (53 + t))
    (hle : t = 0 ∨ (2 ^ (52 + t) : ℚ) ≤ num / den * 2 ^ 1074) :
    (num * 2 ^ 1074 / den).log2 - 52 = t := by
  have hcast : (num / den * 2 ^ 1074 : ℚ) = (num * 2 ^ 1074 : ℕ) / den := by
    rw [Nat.cast_mul, Nat.cast_pow, Nat.cast_ofNat, mul_div_right_comm]
  rw [hcast] at hlt hle
  generalize num * 2 ^ 1074 = a at *
  have hd : (0 : ℚ) < den := by exact_mod_cast hden
  have hlt' : a / den < 2 ^ (53 + t) := by
    rw [div_lt_iff₀ hd] at hlt
    exact (Nat.div_lt_iff_lt_mul hden).mpr (by exact_mod_cast hlt)
  have hle' : t = 0 ∨ 2 ^ (52 + t) ≤ a / den := by
    rw [le_div_iff₀ hd] at hle
    exact hle.imp_right fun h => (Nat.le_div_iff_mul_le hden).mpr (by exact_mod_cast h)
  by_cases hzero : a / den = 0
  · have := Nat.two_pow_pos (52 + t)
    rw [hzero, Nat.log2_zero]
    omega
  · have hlog := (Nat.log2_lt hzero).mpr hlt'
    obtain rfl | hle' := hle'
    · omega
    · have := (Nat.le_log2 hzero).mpr hle'
      omega

theorem unit_mul : x.unit * 2 ^ 1074 = 2 ^ (x.exponent - 1) := by
  have h := x.exponent_pos
  rw [unit, ← zpow_natCast, ← zpow_natCast, ← zpow_add₀ two_ne_zero]
  congr 1
  omega

theorem Attracts.scaled {q : ℚ} (h : x.Attracts q) :
    (x.significand - 1 / 2 : ℚ) * 2 ^ (x.exponent - 1) ≤ q * 2 ^ 1074 ∧
      q * 2 ^ 1074 ≤ (x.significand + 1 / 2) * 2 ^ (x.exponent - 1) ∧
      (x.significand % 2 = 1 →
        (x.significand - 1 / 2 : ℚ) * 2 ^ (x.exponent - 1) < q * 2 ^ 1074 ∧
          q * 2 ^ 1074 < (x.significand + 1 / 2) * 2 ^ (x.exponent - 1)) := by
  have hscale : (0 : ℚ) < 2 ^ 1074 := pow_pos two_pos _
  have hlow : (x.significand - 1 / 2 : ℚ) * 2 ^ (x.exponent - 1) =
      (x.absolute - x.unit / 2) * 2 ^ 1074 := by
    rw [← unit_mul, absolute]
    generalize (2 : ℚ) ^ 1074 = c
    ring
  have hhigh : (x.significand + 1 / 2 : ℚ) * 2 ^ (x.exponent - 1) =
      (x.absolute + x.unit / 2) * 2 ^ 1074 := by
    rw [← unit_mul, absolute]
    generalize (2 : ℚ) ^ 1074 = c
    ring
  have hbelow := x.below_le
  simp only [hlow, hhigh, mul_le_mul_iff_of_pos_right hscale, mul_lt_mul_iff_of_pos_right hscale]
  refine ⟨?_, h.high, fun hodd => ⟨?_, (h.odd hodd).2⟩⟩
  · linarith only [h.low, hbelow]
  · linarith only [(h.odd hodd).1, hbelow]

theorem roundMagnitude_of_range (hx : x.isFinite = true) {num den : ℕ} (hden : 0 < den)
    (h : x.Attracts (num / den))
    (hrange : x.exponent - 1 = 0 ∨ (2 ^ (52 + (x.exponent - 1)) : ℚ) ≤ num / den * 2 ^ 1074) :
    roundMagnitude num den = x.magnitude := by
  obtain ⟨hlow, hhigh, hodd⟩ := h.scaled
  have hlt : (num / den * 2 ^ 1074 : ℚ) < 2 ^ (53 + (x.exponent - 1)) := by
    have hpow : (0 : ℚ) < 2 ^ (x.exponent - 1) := pow_pos two_pos _
    have hm : (x.significand + 1 : ℚ) ≤ 2 ^ 53 := by
      have : x.significand + 1 ≤ 2 ^ 53 := x.significand_lt
      exact_mod_cast this
    calc (num / den * 2 ^ 1074 : ℚ) ≤ (x.significand + 1 / 2) * 2 ^ (x.exponent - 1) := hhigh
      _ < 2 ^ 53 * 2 ^ (x.exponent - 1) := mul_lt_mul_of_pos_right (by linarith only [hm]) hpow
      _ = 2 ^ (53 + (x.exponent - 1)) := (pow_add _ _ _).symm
  have hstep : (num * 2 ^ 1074 / den).log2 - 52 = x.exponent - 1 :=
    step_eq hden hlt hrange
  have hfinite : x.magnitude < infinityMagnitude := by simpa [isFinite] using hx
  rw [roundMagnitude_eq hden hstep hlow hhigh hodd, ← magnitude_eq]
  exact Nat.min_eq_right hfinite.le

/-- Only a power of two attracts rationals below its range, no further than half a unit of the finer
range. -/
theorem Attracts.finer {q : ℚ} (h : x.Attracts q) {t : ℕ} (ht : x.exponent - 1 = t + 1)
    (hlt : q * 2 ^ 1074 < 2 ^ (53 + t)) :
    x.significand = leadingBit ∧ (2 ^ 53 - 1 / 2 : ℚ) * 2 ^ t ≤ q * 2 ^ 1074 := by
  have hexponent : 1 < x.exponent := by omega
  have hm : x.significand = leadingBit := by
    by_contra hne
    have hle : leadingBit + 1 ≤ x.significand :=
      Nat.lt_of_le_of_ne (le_significand hexponent) (Ne.symm hne)
    have hle' : (2 ^ 52 + 1 : ℚ) ≤ x.significand := by exact_mod_cast hle
    have hlow := h.scaled.1
    rw [ht, pow_succ] at hlow
    rw [pow_add] at hlt
    generalize q * 2 ^ 1074 = p at *
    have hpow : (0 : ℚ) < 2 ^ t * 2 := by positivity
    have : (2 ^ 52 + 1 / 2 : ℚ) * (2 ^ t * 2) ≤ (x.significand - 1 / 2) * (2 ^ t * 2) :=
      mul_le_mul_of_nonneg_right (by linarith only [hle']) hpow.le
    linarith only [this, hlow, hlt, hpow]
  refine ⟨hm, ?_⟩
  have hbelow : x.below = x.unit / 4 := if_pos ⟨hm, hexponent⟩
  have hcast : (x.significand : ℚ) = 2 ^ 52 := by
    rw [hm]
    norm_num [leadingBit]
  have hunit : x.unit * 2 ^ 1074 = 2 ^ t * 2 := by rw [unit_mul, ht, pow_succ]
  calc (2 ^ 53 - 1 / 2 : ℚ) * 2 ^ t = (2 ^ 52 - 1 / 4) * (x.unit * 2 ^ 1074) := by
        rw [hunit]
        ring
    _ = (x.absolute - x.below) * 2 ^ 1074 := by
        rw [absolute, hbelow, hcast]
        generalize (2 : ℚ) ^ 1074 = c
        ring
    _ ≤ q * 2 ^ 1074 := mul_le_mul_of_nonneg_right h.low (pow_pos two_pos _).le

theorem roundMagnitude_of_finer (hx : x.isFinite = true) {num den t : ℕ} (hden : 0 < den)
    (h : x.Attracts (num / den)) (ht : x.exponent - 1 = t + 1)
    (hlt : (num / den * 2 ^ 1074 : ℚ) < 2 ^ (53 + t)) : roundMagnitude num den = x.magnitude := by
  obtain ⟨hm, hlow⟩ := h.finer ht hlt
  have hpow : (0 : ℚ) < 2 ^ t := pow_pos two_pos t
  have hstep : (num * 2 ^ 1074 / den).log2 - 52 = t := by
    have hle : (2 ^ (52 + t) : ℚ) ≤ (2 ^ 53 - 1 / 2) * 2 ^ t := by
      rw [pow_add]
      exact mul_le_mul_of_nonneg_right (by norm_num) hpow.le
    exact step_eq hden hlt (.inr (hle.trans hlow))
  have hhigh : (num / den * 2 ^ 1074 : ℚ) ≤ ((2 ^ 53 : ℕ) + 1 / 2 : ℚ) * 2 ^ t := by
    refine hlt.le.trans ?_
    rw [pow_add]
    exact mul_le_mul_of_nonneg_right (by norm_num) hpow.le
  have hlow' : ((2 ^ 53 : ℕ) - 1 / 2 : ℚ) * 2 ^ t ≤ num / den * 2 ^ 1074 := by exact_mod_cast hlow
  have hmagnitude : t * leadingBit + 2 ^ 53 = x.magnitude := by
    have h53 : 2 ^ 53 = leadingBit + leadingBit := by decide
    rw [magnitude_eq, ht, hm, Nat.succ_mul]
    omega
  have hfinite : x.magnitude < infinityMagnitude := by simpa [isFinite] using hx
  rw [roundMagnitude_eq hden hstep hlow' hhigh (fun hodd => absurd hodd (by decide)), hmagnitude]
  exact Nat.min_eq_right hfinite.le

/-- A rational that a finite number attracts is rounded to the number. -/
theorem ofRatio_of_attracts (hx : x.isFinite = true) {num den : ℕ} (hden : 0 < den)
    (h : x.Attracts (num / den)) : ofRatio x.isNegative num den = x := by
  have hmagnitude : roundMagnitude num den = x.magnitude := by
    by_cases hrange : x.exponent - 1 = 0 ∨ (2 ^ (52 + (x.exponent - 1)) : ℚ) ≤ num / den * 2 ^ 1074
    · exact roundMagnitude_of_range hx hden h hrange
    · rw [not_or, not_le] at hrange
      obtain ⟨t, ht⟩ : ∃ t, x.exponent - 1 = t + 1 := ⟨x.exponent - 2, by omega⟩
      have hlt := hrange.2
      rw [ht, ← Nat.add_assoc, Nat.add_right_comm] at hlt
      exact roundMagnitude_of_finer hx hden h ht hlt
  rw [ofRatio, hmagnitude, ofMagnitude_magnitude]

end Number

end FeatureFlags
