import FeatureFlags.Proofs.Scanning
import FeatureFlags.Proofs.Shortest

/-!
# Values read back as they are written

A decimal in positional notation is a number literal of the expression language (`Decimal.literal`),
whose value is the number nearest to the decimal. So a number is read back from every decimal that
it attracts, in particular from the shortest one.

Integers below the bound of the integer notation are written by their integer value, which a number
represents exactly (`Number.ofInt_spec`), as the bound is below 2⁵³. The sign of a zero is not
written. The main result is `Value.render_reads_back`.
-/

namespace FeatureFlags

/-! ## Decimals as literals -/

theorem isDigit_of_mem_digitsOf {n : ℕ} {c : Char} (h : c ∈ Decimal.digitsOf n) : isDigit c = true := by
  have hdigit : c.isDigit = true := Nat.isDigit_of_mem_toDigits (by decide) (by decide) h
  simpa [isDigit, Char.isDigit, Char.le_def] using hdigit

namespace NumberLiteral

theorem digitsValue_eq (ds : List Char) : digitsValue ds = Nat.ofDigitChars 10 ds 0 :=
  Nat.ofDigitChars_eq_foldl.symm

theorem digitsValue_digitsOf (n : ℕ) : digitsValue (Decimal.digitsOf n) = n := by
  rw [digitsValue_eq]
  exact Nat.ofDigitChars_ten_toDigits

theorem digitsValue_append_zeros (ds : List Char) (n : ℕ) :
    digitsValue (ds ++ List.replicate n '0') = digitsValue ds * 10 ^ n := by
  rw [digitsValue_eq, digitsValue_eq, Nat.ofDigitChars_append, Nat.ofDigitChars_replicate_zero,
    Nat.mul_comm]

theorem digitsValue_zeros_append (n : ℕ) (ds : List Char) :
    digitsValue (List.replicate n '0' ++ ds) = digitsValue ds := by
  rw [digitsValue_eq, digitsValue_eq, Nat.ofDigitChars_append, Nat.ofDigitChars_replicate_zero,
    Nat.mul_zero]

end NumberLiteral

namespace Decimal

open NumberLiteral

/-- The literal of a decimal in positional notation. -/
def literal (negative : Bool) (d : Decimal) : NumberLiteral :=
  let ds := digitsOf d.digits
  let places := (-d.exponent).toNat
  if 0 ≤ d.exponent then
    ⟨negative, ds ++ (if d.digits = 0 then [] else List.replicate d.exponent.toNat '0'), none⟩
  else if ds.length ≤ places then
    ⟨negative, ['0'], some (List.replicate (places - ds.length) '0' ++ ds)⟩
  else ⟨negative, ds.take (ds.length - places), some (ds.drop (ds.length - places))⟩

variable (negative : Bool) (d : Decimal)

theorem text_literal :
    (d.literal negative).text = (if negative then ['-'] else []) ++ d.positional [] := by
  unfold literal positional
  dsimp only
  split
  · simp [text]
  · split <;> simp [text]

theorem proper_literal : (d.literal negative).Proper := by
  have hdigits : ∀ c ∈ digitsOf d.digits, isDigit c = true := fun c => isDigit_of_mem_digitsOf
  have hzeros : ∀ n, ∀ c ∈ List.replicate n '0', isDigit c = true := fun n c hc => by
    rw [(List.mem_replicate.mp hc).2]
    rfl
  have hpos := length_digitsOf_pos d.digits
  unfold literal
  dsimp only
  split
  · refine ⟨fun c hc => ?_, by simp [places], .inr (by simp [List.length_pos_iff.mp hpos])⟩
    rcases List.mem_append.mp hc with hc | hc
    · exact hdigits c hc
    · split at hc
      · cases hc
      · exact hzeros _ c hc
  · split
    · refine ⟨by simp [isDigit], fun c hc => ?_, .inr (by simp)⟩
      rcases List.mem_append.mp hc with hc | hc
      · exact hzeros _ c hc
      · exact hdigits c hc
    · refine ⟨fun c hc => hdigits c (List.mem_of_mem_take hc),
        fun c hc => hdigits c (List.mem_of_mem_drop hc), .inr ?_⟩
      rw [← List.length_pos_iff, List.length_take]
      omega

theorem fraction_literal : (d.literal negative).fraction = none ↔ 0 ≤ d.exponent := by
  unfold literal
  dsimp only
  split
  · simp_all
  · split <;> simp_all

/-- The value of the literal is the number nearest to the decimal. -/
theorem value?_literal : (d.literal negative).value? =
    some (.ofRatio negative (d.digits * 10 ^ d.exponent.toNat) (10 ^ (-d.exponent).toNat)) := by
  have hne : digitsOf d.digits ≠ [] := Nat.toDigits_ne_nil
  unfold literal value?
  dsimp only
  split
  · rename_i he
    have hplaces : (-d.exponent).toNat = 0 := by omega
    have hvalue : digitsValue (digitsOf d.digits ++
        (if d.digits = 0 then [] else List.replicate d.exponent.toNat '0')) =
        d.digits * 10 ^ d.exponent.toNat := by
      split
      · rename_i hzero
        rw [List.append_nil, digitsValue_digitsOf, hzero, Nat.zero_mul]
      · rw [digitsValue_append_zeros, digitsValue_digitsOf]
    simp [places, hne, hvalue, hplaces, Number.ofDecimal]
  · rename_i he
    have hexponent : d.exponent.toNat = 0 := by omega
    split
    · rename_i hlength
      have hvalue : digitsValue ('0' :: (List.replicate
          ((-d.exponent).toNat - (digitsOf d.digits).length) '0' ++ digitsOf d.digits)) = d.digits := by
        rw [← List.cons_append, ← List.replicate_succ, digitsValue_zeros_append, digitsValue_digitsOf]
      have hplaces : (-d.exponent).toNat - (digitsOf d.digits).length + (digitsOf d.digits).length =
          (-d.exponent).toNat := Nat.sub_add_cancel hlength
      simp [places, hvalue, hplaces, hexponent, Number.ofDecimal]
    · rename_i hlength
      have hplaces : (digitsOf d.digits).length - ((digitsOf d.digits).length - (-d.exponent).toNat) =
          (-d.exponent).toNat := by omega
      simp [places, hne, digitsValue_digitsOf, hplaces, hexponent, Number.ofDecimal]

theorem digitsOf_injective : Function.Injective digitsOf :=
  Function.LeftInverse.injective digitsValue_digitsOf

theorem integerText_injective : Function.Injective integerText := by
  have hsign : ∀ {n : ℕ} {cs : List Char}, digitsOf n ≠ '-' :: cs := by
    intro n cs h
    exact absurd (isDigit_of_mem_digitsOf (n := n) (h ▸ List.mem_cons_self)) (by decide)
  intro k l h
  unfold integerText at h
  split at h
  · split at h
    · have := digitsOf_injective (List.cons.inj h).2
      omega
    · exact absurd h.symm hsign
  · split at h
    · exact absurd h hsign
    · have := digitsOf_injective h
      omega

theorem integerText_eq_toString (k : ℤ) : String.ofList (integerText k) = toString k := by
  rw [Int.toString_eq_repr, Int.repr_eq_if, integerText, digitsOf]
  by_cases h : k < 0
  · rw [if_pos h, if_neg (by omega), Nat.repr_eq_ofList_toDigits, show (-k).toNat = k.natAbs by omega]
    exact @String.ofList_append ['-'] _
  · rw [if_neg h, if_pos (by omega), Nat.repr_eq_ofList_toDigits, show k.toNat = k.natAbs by omega]

end Decimal

/-! ## Numbers as literals -/

namespace Number

variable {x : Number}

/-- A number is read back from a decimal that it attracts. -/
theorem value?_of_attracts (hx : x.isFinite = true) {d : Decimal} (h : x.Attracts d.value) :
    (d.literal x.isNegative).value? = some x := by
  rw [Decimal.value_eq_div] at h
  rw [Decimal.value?_literal, ofRatio_of_attracts hx (Nat.pow_pos (by decide)) h]

theorem eq_refl (hx : x.isFinite = true) : x.eq x = true := by
  have hlt : x.magnitude < infinityMagnitude := by simpa [isFinite] using hx
  have hnumber : x.isNaN = false := by
    rw [isNaN, decide_eq_false_iff_not]
    omega
  simp [eq, hnumber]

theorem eq_of_isZero {y : Number} (hy : y.isZero = true) (hx : x.isZero = true) : y.eq x = true := by
  simp only [isZero, decide_eq_true_eq] at hx hy
  simp [eq, isNaN, key, hx, hy]

theorem numerator_div {n : ℕ} (h : x.absolute = n) : x.numerator / x.denominator = n := by
  have hdown : 0 < x.denominator := Nat.two_pow_pos (1075 - x.exponent)
  have hdown' : (x.denominator : ℚ) ≠ 0 := by exact_mod_cast hdown.ne'
  rw [← numerator_div_denominator, div_eq_iff hdown'] at h
  have h' : x.numerator = n * x.denominator := by exact_mod_cast h
  rw [h', Nat.mul_div_cancel _ hdown]

theorem truncate_eq {n : ℕ} (h : x.absolute = n) :
    x.truncate = if x.isNegative then -(n : ℤ) else n := by
  rw [truncate, numerator_div h]

theorem isZero_iff : x.isZero = true ↔ x.absolute = 0 := by
  constructor
  · intro h
    have hzero : x.magnitude = 0 := by simpa [isZero] using h
    have hsignificand : x.significand = 0 := by
      have := x.magnitude_eq
      omega
    rw [absolute, hsignificand, Nat.cast_zero, zero_mul]
  · intro h
    by_contra hx
    exact (absolute_pos (Bool.eq_false_iff.mpr hx)).ne' h

theorem isFinite_of_isZero (hx : x.isZero = true) : x.isFinite = true := by
  have hzero : x.magnitude = 0 := by simpa [isZero] using hx
  rw [isFinite, hzero]
  decide

theorem valueText_of_lt {n : ℕ} (hx : x.isFinite = true) (h : x.absolute = n) (hn : n < integerBound) :
    x.valueText = Decimal.integerText (if x.isNegative then -(n : ℤ) else n) := by
  have hintegral : x.isIntegral = true := isIntegral_iff.mpr ⟨n, h⟩
  simp only [valueText, hx, hintegral, numerator_div h, hn, Bool.and_self, decide_true, if_true,
    truncate_eq h]

theorem valueText_of_isZero (hx : x.isZero = true) : x.valueText = ['0'] := by
  have h : x.absolute = (0 : ℕ) := by rw [isZero_iff.mp hx, Nat.cast_zero]
  rw [valueText_of_lt (isFinite_of_isZero hx) h (by decide), Nat.cast_zero, neg_zero, ite_self]
  rfl

theorem integerText_eq {negative : Bool} {n : ℕ} (hn : n ≠ 0) :
    Decimal.integerText (if negative then -(n : ℤ) else n) =
      (Decimal.literal negative ⟨n, 0⟩).text := by
  rw [Decimal.text_literal]
  cases negative with
  | true => simp [Decimal.integerText, Decimal.positional, Nat.pos_of_ne_zero hn, hn]
  | false => simp [Decimal.integerText, Decimal.positional]

/-- A nonzero number is written as a decimal that it attracts. -/
theorem exists_valueText (hx : x.isFinite = true) (hz : x.isZero = false) :
    ∃ d : Decimal, x.valueText = (d.literal x.isNegative).text ∧ x.Attracts d.value ∧
      (0 ≤ d.exponent ↔ x.isIntegral = true) := by
  by_cases hshort : x.isIntegral = true ∧ x.numerator / x.denominator < integerBound
  · obtain ⟨n, hn⟩ := isIntegral_iff.mp hshort.1
    have hpos : n ≠ 0 := by
      rintro rfl
      rw [Nat.cast_zero] at hn
      exact (absolute_pos hz).ne' hn
    have hlt : n < integerBound := numerator_div hn ▸ hshort.2
    refine ⟨⟨n, 0⟩, ?_, ?_, by simp [hshort.1]⟩
    · rw [valueText_of_lt hx hn hlt, integerText_eq hpos]
    · have hvalue : Decimal.value ⟨n, 0⟩ = x.absolute := by simp [Decimal.value, hn]
      rw [hvalue]
      exact attracts_absolute
  · obtain ⟨hattracts, hexponent⟩ := shortest_spec hz
    refine ⟨x.shortest, ?_, hattracts, hexponent⟩
    have hplain : x.valueText = x.plainText := by
      rw [valueText, if_neg]
      simpa [hx] using hshort
    rw [hplain, plainText, if_pos hx, withSign, Decimal.text_literal]
    split <;> rfl

/-- A finite number is written as a literal of an equal number, with a fraction if it is not an integer.
-/
theorem exists_literal (hx : x.isFinite = true) :
    ∃ l : NumberLiteral, l.Proper ∧ x.valueText = l.text ∧ (l.fraction = none ↔ x.isIntegral = true) ∧
      ∃ y, l.value? = some y ∧ y.eq x = true := by
  by_cases hz : x.isZero = true
  · have habsolute := isZero_iff.mp hz
    refine ⟨Decimal.literal false ⟨0, 0⟩, Decimal.proper_literal _ _, ?_, ?_, _,
      Decimal.value?_literal _ _, ?_⟩
    · rw [valueText_of_isZero hz]
      rfl
    · have hintegral : x.isIntegral = true := isIntegral_iff.mpr ⟨0, by simp [habsolute]⟩
      simp [Decimal.fraction_literal, hintegral]
    · have hzero : (ofRatio false 0 1).isZero = true := by decide +kernel
      exact eq_of_isZero hzero hz
  · rw [Bool.not_eq_true] at hz
    obtain ⟨d, htext, hattracts, hexponent⟩ := exists_valueText hx hz
    exact ⟨_, Decimal.proper_literal _ d, htext, (Decimal.fraction_literal _ d).trans hexponent, x,
      value?_of_attracts hx hattracts, eq_refl hx⟩

/-! ## Integers are exact -/

theorem parts_of_magnitude {s m : ℕ} (h : x.magnitude = s * leadingBit + m) (hlow : leadingBit ≤ m)
    (hhigh : m < 2 * leadingBit) : x.exponent = s + 1 ∧ x.significand = m := by
  obtain ⟨r, rfl⟩ := Nat.exists_eq_add_of_le hlow
  have hr : r < leadingBit := by omega
  have hmagnitude : x.magnitude = r + leadingBit * (s + 1) := by
    rw [h]
    ring
  have hdiv : x.magnitude / leadingBit = s + 1 := by
    rw [hmagnitude, Nat.add_mul_div_left _ _ (by decide), Nat.div_eq_of_lt hr, Nat.zero_add]
  have hmod : x.magnitude % leadingBit = r := by
    rw [hmagnitude, Nat.add_mul_mod_self_left, Nat.mod_eq_of_lt hr]
  rw [exponent, significand, hdiv, hmod, if_neg (Nat.succ_ne_zero s)]
  omega

theorem exists_absolute_eq (negative : Bool) {n : ℕ} (hpos : 0 < n) (hlt : n < 2 ^ 53) :
    ∃ x : Number, x.isFinite = true ∧ x.isNegative = negative ∧ x.absolute = n := by
  have hlog : n.log2 < 53 := (Nat.log2_lt hpos.ne').mpr hlt
  obtain ⟨j, hj⟩ : ∃ j, j = n.log2 := ⟨_, rfl⟩
  have hle : 2 ^ j ≤ n := hj ▸ Nat.log2_self_le hpos.ne'
  have hn : n < 2 ^ (j + 1) := hj ▸ Nat.lt_log2_self
  rw [← hj] at hlog
  -- the significand is shifted up to the leading bit
  have hshift : 2 ^ j * 2 ^ (52 - j) = leadingBit := by
    rw [← Nat.pow_add, show j + (52 - j) = 52 by omega]
    rfl
  have hlow : leadingBit ≤ n * 2 ^ (52 - j) := hshift ▸ Nat.mul_le_mul_right _ hle
  have hhigh : n * 2 ^ (52 - j) < 2 * leadingBit := by
    rw [← hshift, ← Nat.mul_assoc, Nat.mul_comm 2, ← Nat.pow_succ]
    exact Nat.mul_lt_mul_of_pos_right hn (Nat.two_pow_pos _)
  have hfinite : (1022 + j) * leadingBit + n * 2 ^ (52 - j) < infinityMagnitude := by
    have : (1022 + j) * leadingBit ≤ 1074 * leadingBit := Nat.mul_le_mul_right _ (by omega)
    have : 1074 * leadingBit + 2 * leadingBit ≤ infinityMagnitude := by decide
    omega
  have hsign : infinityMagnitude < signBit := by decide
  obtain ⟨hmagnitude, hnegative⟩ := magnitude_ofMagnitude negative (hfinite.trans hsign)
  refine ⟨_, by simpa [isFinite, hmagnitude] using hfinite, hnegative, ?_⟩
  obtain ⟨hexponent, hsignificand⟩ := parts_of_magnitude hmagnitude hlow hhigh
  have hunit : (2 : ℚ) ^ (52 - j) * 2 ^ (((1022 + j + 1 : ℕ) : ℤ) - 1075) = 1 := by
    have hexponents : ((52 - j : ℕ) : ℤ) + (((1022 + j + 1 : ℕ) : ℤ) - 1075) = 0 := by omega
    rw [← zpow_natCast, ← zpow_add₀ two_ne_zero, hexponents, zpow_zero]
  rw [absolute, unit, hexponent, hsignificand, Nat.cast_mul, Nat.cast_pow, Nat.cast_ofNat, mul_assoc,
    hunit, mul_one]

def ofInt (k : ℤ) : Number := ofRatio (k < 0) k.natAbs 1

theorem ofInt_spec {k : ℤ} (hk : k.natAbs < 2 ^ 53) :
    (ofInt k).isFinite = true ∧ (ofInt k).absolute = k.natAbs ∧
      (if (ofInt k).isNegative then -(k.natAbs : ℤ) else k.natAbs) = k := by
  by_cases hzero : k = 0
  · subst hzero
    have hz : (ofInt 0).isZero = true := by decide +kernel
    refine ⟨isFinite_of_isZero hz, by simp [isZero_iff.mp hz], by simp⟩
  · obtain ⟨x, hx, hnegative, habsolute⟩ := exists_absolute_eq (k < 0) (Int.natAbs_pos.mpr hzero) hk
    have hself : x.Attracts ((k.natAbs : ℕ) / (1 : ℕ)) := by
      rw [Nat.cast_one, div_one, ← habsolute]
      exact attracts_absolute
    have heq : ofInt k = x := by
      rw [ofInt, ← hnegative, ofRatio_of_attracts hx Nat.one_pos hself]
    rw [heq, hnegative]
    refine ⟨hx, habsolute, ?_⟩
    by_cases h : k < 0
    · simp only [h, decide_true, if_true]
      omega
    · simp only [h, decide_false, Bool.false_eq_true, if_false]
      omega

/-- An integral number below the bound is converted to an integer and back without loss. -/
theorem ofInt_truncate {n : ℕ} (hx : x.isFinite = true) (h : x.absolute = n) (hn : n < 2 ^ 53) :
    (ofInt x.truncate).eq x = true := by
  have hnatAbs : x.truncate.natAbs = n := by
    rw [truncate_eq h]
    split <;> simp
  by_cases hzero : n = 0
  · have hz : x.isZero = true := isZero_iff.mpr (by rw [h, hzero, Nat.cast_zero])
    have habsolute := (ofInt_spec (hnatAbs.trans_lt hn)).2.1
    rw [hnatAbs, hzero, Nat.cast_zero] at habsolute
    exact eq_of_isZero (isZero_iff.mpr habsolute) hz
  · have hnegative : decide (x.truncate < 0) = x.isNegative := by
      rw [truncate_eq h]
      cases x.isNegative <;> simp [Nat.pos_of_ne_zero hzero]
    have hself : x.Attracts ((n : ℕ) / (1 : ℕ)) := by
      rw [Nat.cast_one, div_one, ← h]
      exact attracts_absolute
    rw [ofInt, hnegative, hnatAbs, ofRatio_of_attracts hx Nat.one_pos hself]
    exact eq_refl hx

end Number

theorem tokenize_literal {l : NumberLiteral} {y : Number} (hl : l.Proper) (hy : l.value? = some y) :
    tokenize (String.ofList l.text) = .ok [⟨.number y, 0⟩] := by
  have hlong : Longest l.text [] :=
    (Scanner.longest_number hl (by rw [hy]; rfl)).mpr (by simp)
  have hseg : Segmented 0 [⟨.number y, 0⟩] ([] ++ l.text ++ []) :=
    .cons [] (by simp) (.number hl hy) (fun _ => hlong) (.nil (by simp))
  rw [tokenize, Scanner.ofString, String.toList_ofList]
  simpa using Scanner.all_of_segmented hseg

theorem mem_text_literal {l : NumberLiteral} (hl : l.Proper) :
    (∀ c ∈ l.text, c = '-' ∨ c = '.' ∨ isDigit c = true) ∧ ('.' ∉ l.text ↔ l.fraction = none) := by
  obtain ⟨negative, whole, fraction⟩ := l
  have hwhole : ∀ c ∈ whole, isDigit c = true := hl.whole
  have hpoint : '.' ∉ whole := fun h => absurd (hwhole _ h) (by decide)
  have hsign : ∀ c ∈ if negative then ['-'] else [], c = '-' := by cases negative <;> simp
  have hsign' : '.' ∉ if negative then ['-'] else [] := fun h => absurd (hsign _ h) (by decide)
  cases fraction with
  | none =>
    simp only [NumberLiteral.text, List.append_nil, List.mem_append, hsign', hpoint, or_self,
      not_false_eq_true, and_true]
    rintro c (hc | hc)
    · exact .inl (hsign c hc)
    · exact .inr (.inr (hwhole c hc))
  | some ds =>
    have hds : ∀ c ∈ ds, isDigit c = true := hl.places
    simp only [NumberLiteral.text, List.mem_append, List.mem_cons, true_or, or_true, not_true_eq_false,
      reduceCtorEq, and_true]
    rintro c ((hc | hc) | rfl | hc)
    · exact .inl (hsign c hc)
    · exact .inr (.inr (hwhole c hc))
    · exact .inr (.inl rfl)
    · exact .inr (.inr (hds c hc))

theorem tokenize_booleanText (b : Bool) : tokenize (Value.booleanText b) = .ok [⟨.boolean b, 0⟩] := by
  have h : ∀ (c : Char) (w : List Char), isWordStart c = true → w.all isWordRest = true →
      tokenize (String.ofList (c :: w)) = .ok [⟨.ofWord (String.ofList (c :: w)), 0⟩] := by
    intro c w hc hall
    have hw : ∀ x ∈ w, isWordRest x = true := List.all_eq_true.mp hall
    have hlong : Longest (c :: w) [] := (Scanner.longest_word hc hw).mpr (by simp)
    have hseg : Segmented 0 [⟨.ofWord (String.ofList (c :: w)), 0⟩] ([] ++ (c :: w) ++ []) :=
      .cons [] (by simp) (.word hc hw) (fun _ => hlong) (.nil (by simp))
    rw [tokenize, Scanner.ofString, String.toList_ofList]
    simpa using Scanner.all_of_segmented hseg
  cases b with
  | true => exact h 't' ['r', 'u', 'e'] (by decide) (by decide)
  | false => exact h 'f' ['a', 'l', 's', 'e'] (by decide) (by decide)

namespace Value

/-- Every finite number is written as a text that is scanned as one number, from position 0, equal to
it. The text consists of digits, signs and points; it has a point if and only if the number is not an
integer, and a zero is written without sign. Integers below the bound are represented exactly by the
numbers nearest to them, which are written as the integers, all in different ways; and all numbers
written in this way are converted to the integer and back without loss, within 64 bits. The text of a
boolean is scanned as the boolean. -/
theorem render_reads_back :
    (∀ x : Number, x.isFinite = true → ∃ s, (number x).render = some s ∧
      (∃ y, tokenize s = .ok [⟨.number y, 0⟩] ∧ y.eq x = true) ∧
      (∀ c ∈ s.toList, c = '-' ∨ c = '.' ∨ isDigit c = true) ∧
      ('.' ∉ s.toList ↔ x.isIntegral = true) ∧
      (x.isZero = true → s = "0")) ∧
    (∀ k : ℤ, k.natAbs < 9 * 10 ^ 15 →
      (Number.ofInt k).isFinite = true ∧ (Number.ofInt k).isIntegral = true ∧
      (Number.ofInt k).truncate = k ∧ (number (.ofInt k)).render = some (toString k)) ∧
    (∀ k l : ℤ, k.natAbs < 9 * 10 ^ 15 → l.natAbs < 9 * 10 ^ 15 →
      (number (.ofInt k)).render = (number (.ofInt l)).render → k = l) ∧
    (∀ x : Number, x.isFinite = true → x.isIntegral = true →
      x.numerator / x.denominator < Number.integerBound →
      (number x).render = some (toString x.truncate) ∧ (Number.ofInt x.truncate).eq x = true ∧
      -2 ^ 63 ≤ x.truncate ∧ x.truncate < 2 ^ 63) ∧
    ∀ b : Bool, (boolean b).render = some (booleanText b) ∧
      tokenize (booleanText b) = .ok [⟨.boolean b, 0⟩] := by
  have hbound : Number.integerBound < 2 ^ 53 := by decide
  have hrender : ∀ k : ℤ, k.natAbs < Number.integerBound →
      (number (.ofInt k)).render = some (toString k) := by
    intro k hk
    obtain ⟨hfinite, habsolute, hsign⟩ := Number.ofInt_spec (hk.trans hbound)
    rw [render, Number.valueText_of_lt hfinite habsolute hk, hsign, Decimal.integerText_eq_toString]
  refine ⟨?_, ?_, ?_, ?_, fun b => ⟨rfl, tokenize_booleanText b⟩⟩
  · intro x hx
    obtain ⟨l, hl, htext, hfraction, y, hy, heq⟩ := Number.exists_literal hx
    obtain ⟨hchars, hpoint⟩ := mem_text_literal hl
    refine ⟨String.ofList l.text, by rw [render, htext], ⟨y, tokenize_literal hl hy, heq⟩, ?_⟩
    rw [String.toList_ofList]
    refine ⟨hchars, hpoint.trans hfraction, fun hz => ?_⟩
    rw [← htext, Number.valueText_of_isZero hz]
  · intro k hk
    obtain ⟨hfinite, habsolute, hsign⟩ := Number.ofInt_spec (hk.trans hbound)
    refine ⟨hfinite, Number.isIntegral_iff.mpr ⟨_, habsolute⟩, ?_, hrender k hk⟩
    rw [Number.truncate_eq habsolute, hsign]
  · intro k l hk hl h
    rw [hrender k hk, hrender l hl, Option.some_inj, ← Decimal.integerText_eq_toString,
      ← Decimal.integerText_eq_toString, String.ofList_inj] at h
    exact Decimal.integerText_injective h
  · intro x hx hintegral hlt
    obtain ⟨n, hn⟩ := Number.isIntegral_iff.mp hintegral
    rw [Number.numerator_div hn] at hlt
    have hword : Number.integerBound < 2 ^ 63 := by decide
    refine ⟨?_, Number.ofInt_truncate hx hn (hlt.trans hbound), ?_⟩
    · rw [render, Number.valueText_of_lt hx hn hlt, ← Number.truncate_eq hn,
        Decimal.integerText_eq_toString]
    · rw [Number.truncate_eq hn]
      split <;> omega

/-- A number that is not a decimal, a negative number, and an integer. -/
theorem render_reads_back_tenth :
    (∃ s, (number (.ofDecimal true 1 1)).render = some s ∧
      (∃ y, tokenize s = .ok [⟨.number y, 0⟩] ∧ y.eq (.ofDecimal true 1 1) = true) ∧
      '.' ∈ s.toList) ∧
    (number (.ofInt (-12))).render = some "-12" := by
  obtain ⟨hfinite, hinteger, -⟩ := render_reads_back
  obtain ⟨s, hs, hread, -, hpoint, -⟩ := hfinite (.ofDecimal true 1 1) (by decide +kernel)
  have hfraction : ¬(Number.ofDecimal true 1 1).isIntegral = true := by decide +kernel
  refine ⟨⟨s, hs, hread, ?_⟩, (hinteger (-12) (by decide)).2.2.2⟩
  by_contra h
  exact hfraction (hpoint.mp h)

end Value

end FeatureFlags
