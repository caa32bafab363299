import Mathlib.Data.List.Chain
import Mathlib.Logic.ExistsUnique
import FeatureFlags.Proofs.Operators

/-!
# Splitting an audience

The bucket of a seed is at least 0 and below 1, whatever the digest of the seed
(`bucketOfWord_bounds`): a share that rounds to 1 is replaced by 0, and no share is negative. The
rest follows from the order of numbers: if cuts are ascending, the first at most 0 and the last at
least 1, exactly one of their segments contains the bucket (`exists_unique_segment`), also where
neighbouring cuts are equal or lie outside.
-/

namespace FeatureFlags

namespace Number

variable {x y z : Number}

theorem le_iff : x.le y = true ↔ x.isNaN = false ∧ y.isNaN = false ∧ x.key ≤ y.key := by
  simp [le, and_assoc]

theorem lt_iff : x.lt y = true ↔ x.isNaN = false ∧ y.isNaN = false ∧ x.key < y.key := by
  simp [lt, and_assoc]

theorem le_trans (hxy : x.le y = true) (hyz : y.le z = true) : x.le z = true := by
  rw [le_iff] at *
  exact ⟨hxy.1, hyz.2.1, by omega⟩

theorem lt_of_lt_of_le (hxy : x.lt y = true) (hyz : y.le z = true) : x.lt z = true := by
  rw [lt_iff] at *
  rw [le_iff] at hyz
  exact ⟨hxy.1, hyz.2.1, by omega⟩

theorem not_le_of_lt (h : x.lt y = true) : y.le x = false := by
  rw [lt_iff] at h
  rw [Bool.eq_false_iff, ne_eq, le_iff]
  omega

theorem not_lt_of_le (h : x.le y = true) : y.lt x = false := by
  rw [le_iff] at h
  rw [Bool.eq_false_iff, ne_eq, lt_iff]
  omega

theorem lt_of_not_le (hx : x.isNaN = false) (hy : y.isNaN = false) (h : ¬x.le y = true) :
    y.lt x = true := by
  have hkey : ¬x.key ≤ y.key := fun hle => h (le_iff.mpr ⟨hx, hy, hle⟩)
  exact lt_iff.mpr ⟨hy, hx, by omega⟩

/-! ## Rounded quotients -/

variable {num den : Nat}

theorem magnitude_ofRatio : (ofRatio false num den).magnitude = roundMagnitude num den ∧
    (ofRatio false num den).isNegative = false := by
  have hle : roundMagnitude num den ≤ infinityMagnitude := Nat.min_le_left _ _
  have hinfinity : infinityMagnitude < signBit := by decide
  have hbits : (ofRatio false num den).bits.toNat = roundMagnitude num den := by
    rw [ofRatio, ofMagnitude, if_neg Bool.false_ne_true, UInt64.toNat_ofNat']
    apply Nat.mod_eq_of_lt
    have hsign : signBit < 2 ^ 64 := by decide
    omega
  constructor
  · rw [magnitude, hbits]
    apply Nat.mod_eq_of_lt
    omega
  · rw [isNegative, hbits]
    simp only [decide_eq_false_iff_not]
    omega

/-- A quotient is never rounded to NaN. -/
theorem isNaN_ofRatio : (ofRatio false num den).isNaN = false := by
  have hle : roundMagnitude num den ≤ infinityMagnitude := Nat.min_le_left _ _
  rw [isNaN, magnitude_ofRatio.1]
  simp only [decide_eq_false_iff_not]
  omega

theorem key_ofRatio : (ofRatio false num den).key = roundMagnitude num den := by
  rw [key, magnitude_ofRatio.2, magnitude_ofRatio.1]
  rfl

theorem zero_le_ofRatio : (ofNat 0).le (ofRatio false num den) = true := by
  have hzero : roundMagnitude 0 1 = 0 := by decide +kernel
  rw [le_iff, ofNat, isNaN_ofRatio, isNaN_ofRatio, key_ofRatio, key_ofRatio, hzero]
  exact ⟨rfl, rfl, by omega⟩

theorem zero_lt_one : (ofNat 0).lt (ofNat 1) = true := by decide +kernel

/-! ## Segments between cuts -/

theorem not_segment_of_lt {b : Number} {d : Number} {rest : List Number} (hd : b.lt d = true)
    (hcuts : (d :: rest).Pairwise fun x y => x.le y = true) :
    ∀ i (h : i < (d :: rest).length), ¬(d :: rest)[i].le b = true := by
  intro i h hle
  have hlt : b.lt (d :: rest)[i] = true := by
    cases i with
    | zero => exact hd
    | succ j =>
      have hj : j < rest.length := Nat.lt_of_succ_lt_succ h
      exact lt_of_lt_of_le hd ((List.pairwise_cons.mp hcuts).1 rest[j] (List.getElem_mem hj))
  rw [not_le_of_lt hlt] at hle
  cases hle

/-- A number between the first and the last of ascending cuts lies in exactly one segment between
neighbours. -/
theorem exists_unique_segment {b : Number} {cuts : List Number}
    (hcuts : cuts.Pairwise fun x y => x.le y = true) (hne : cuts ≠ [])
    (hfirst : (cuts.head hne).le b = true) (hlast : b.lt (cuts.getLast hne) = true) :
    ∃! i, ∃ h : i + 1 < cuts.length, cuts[i].le b = true ∧ b.lt cuts[i + 1] = true := by
  induction cuts with
  | nil => exact absurd rfl hne
  | cons c rest ih =>
    cases rest with
    | nil =>
      -- the only cut would lie on both sides of the number
      have hle : c.le b = true := hfirst
      have hlt : b.lt c = true := hlast
      rw [not_le_of_lt hlt] at hle
      cases hle
    | cons d rest =>
      obtain ⟨hc, htail⟩ := List.pairwise_cons.mp hcuts
      by_cases hd : d.le b = true
      · obtain ⟨i, ⟨hi, hin⟩, hunique⟩ := ih htail (List.cons_ne_nil d rest) hd hlast
        refine ⟨i + 1, ⟨Nat.succ_lt_succ hi, hin⟩, ?_⟩
        rintro (_ | j) ⟨hj, hlow, hhigh⟩
        · have hlt : b.lt d = true := hhigh
          rw [not_le_of_lt hlt] at hd
          cases hd
        · rw [hunique j ⟨Nat.lt_of_succ_lt_succ hj, hlow, hhigh⟩]
      · have hnumber : b.isNaN = false ∧ d.isNaN = false :=
          ⟨(le_iff.mp hfirst).2.1, (le_iff.mp (hc d List.mem_cons_self)).2.1⟩
        have hlt : b.lt d = true := lt_of_not_le hnumber.2 hnumber.1 hd
        refine ⟨0, ⟨by simp, hfirst, hlt⟩, ?_⟩
        rintro (_ | j) ⟨hj, hlow, -⟩
        · rfl
        · exact absurd hlow (not_segment_of_lt hlt htail j _)

end Number

namespace Operation

open Number

variable (digest : String → List UInt8) (seed : String)

/-- The bucket of every word is at least 0 and below 1. -/
theorem bucketOfWord_bounds (word : Nat) :
    (Number.ofNat 0).le (bucketOfWord word) = true ∧ (bucketOfWord word).lt (.ofNat 1) = true := by
  unfold bucketOfWord
  dsimp only
  split
  · exact ⟨zero_le_ofRatio, zero_lt_one⟩
  · rename_i h
    exact ⟨zero_le_ofRatio, lt_of_not_le isNaN_ofRatio isNaN_ofRatio h⟩

theorem belowPercentage_number (p : Number) :
    belowPercentage digest (.number p) (.text seed) = .boolean ((bucket digest seed).lt p) := rfl

theorem withinPercentages_number (l h : Number) :
    withinPercentages digest (.number l) (.number h) (.text seed) =
      .boolean (l.le (bucket digest seed) && (bucket digest seed).lt h) := rfl

/-- A percentage is the range from 0 to it. -/
theorem belowPercentage_eq_within (p s : Value) :
    belowPercentage digest p s = withinPercentages digest (.number (.ofNat 0)) p s := by
  unfold belowPercentage withinPercentages
  cases p.number? with
  | none => rfl
  | some x =>
    cases s.text? with
    | none => rfl
    | some t =>
      have hzero : (Number.ofNat 0).le (bucket digest t) = true := (bucketOfWord_bounds _).1
      simp [Value.number?, hzero]

/-- For any digest of seeds: if cuts are ascending and reach from 0, or below, to 1, or above, exactly
one of the ranges between neighbours contains the seed. A percentage is the range from 0 to it, also if
it is NaN; it is monotone, contains no seed if it is not above 0, and all seeds if it is not below 1.
The built-in operators of percentages are these, with the digest of the text. -/
theorem ranges_split_audience (digest : String → List UInt8) (seed : String) :
    (∀ (cuts : List Number) (hne : cuts ≠ []), List.IsChain (fun x y => x.le y = true) cuts →
      (cuts.head hne).le (.ofNat 0) = true → (Number.ofNat 1).le (cuts.getLast hne) = true →
        ∃! i, ∃ h : i + 1 < cuts.length, withinPercentages digest (.number cuts[i])
          (.number cuts[i + 1]) (.text seed) = .boolean true) ∧
    (∀ p s : Value, belowPercentage digest p s =
      withinPercentages digest (.number (.ofNat 0)) p s) ∧
    (∀ p q : Number, p.le q = true →
      belowPercentage digest (.number p) (.text seed) = .boolean true →
        belowPercentage digest (.number q) (.text seed) = .boolean true) ∧
    (∀ p : Number, p.le (.ofNat 0) = true →
      belowPercentage digest (.number p) (.text seed) = .boolean false) ∧
    (∀ p : Number, (Number.ofNat 1).le p = true →
      belowPercentage digest (.number p) (.text seed) = .boolean true) ∧
    ∀ (now : Number) (c : Context) (p l h s : Value),
      builtinValue now "isInPercentage" [p, s] c = belowPercentage Md5.digestOfText p s ∧
      builtinValue now "isInPercentageRange" [l, h, s] c =
        withinPercentages Md5.digestOfText l h s := by
  obtain ⟨hzero, hone⟩ : (Number.ofNat 0).le (bucket digest seed) = true ∧
      (bucket digest seed).lt (.ofNat 1) = true := bucketOfWord_bounds _
  simp only [belowPercentage_number, withinPercentages_number, Value.boolean.injEq,
    Bool.and_eq_true]
  refine ⟨?_, belowPercentage_eq_within digest, ?_, ?_, ?_, ?_⟩
  · intro cuts hne hcuts hfirst hlast
    have : Trans (fun x y : Number => x.le y = true) (fun x y => x.le y = true) fun x y => x.le y = true :=
      ⟨Number.le_trans⟩
    exact exists_unique_segment hcuts.pairwise hne (Number.le_trans hfirst hzero)
      (lt_of_lt_of_le hone hlast)
  · intro p q hpq hp
    exact lt_of_lt_of_le hp hpq
  · intro p hp
    exact not_lt_of_le (Number.le_trans hp hzero)
  · intro p hp
    exact lt_of_lt_of_le hone hp
  · intro now c p l h s
    rw [builtinValue_eq, builtinValue_eq]
    exact ⟨rfl, rfl⟩

/-- A seed whose share would be 1 lies in one range, also if two of the cuts are equal. -/
theorem ranges_split_audience_put_back :
    let digest : String → List UInt8 := fun _ => [255, 255, 255, 255]
    let cuts : List Number := [.ofNat 0, .ofNat 0, .ofDecimal false 5 1, .ofNat 1]
    ∃! i, ∃ h : i + 1 < cuts.length, withinPercentages digest (.number cuts[i])
      (.number cuts[i + 1]) (.text "seed") = .boolean true := by
  intro digest cuts
  exact (ranges_split_audience digest "seed").1 cuts (by decide)
    (by decide +kernel) (by decide +kernel) (by decide +kernel)

end Operation

end FeatureFlags
