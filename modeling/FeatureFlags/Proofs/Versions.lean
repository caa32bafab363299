import FeatureFlags.Proofs.Operators
import FeatureFlags.Proofs.Precedence
import FeatureFlags.Proofs.Scanning
import Mathlib.Algebra.Group.Nat.Defs

/-!
# How versions are written and compared

A version is written in one way: its numbers in base 10 without leading zeros, and its identifiers
separated by dots (`Version.text`). `Version.parse?` accepts exactly these texts
(`Version.parse?_eq_some_iff`).

So the operators on versions are those of a linear order on the texts that are versions. The main
result is `semver_coherent`.
-/

namespace FeatureFlags

open Std (OrientedCmp TransCmp)

namespace Version

/-! ## The text of a version -/

def dotted (ids : List (List Char)) : List Char := ['.'].intercalate ids

/-- Identifiers with a mark before them, which is omitted if there are none. -/
def marked (mark : Char) (ids : List (List Char)) : List Char :=
  if ids.isEmpty then [] else mark :: dotted ids

def text (v : Version) : List Char :=
  Decimal.digitsOf v.major ++ '.' :: (Decimal.digitsOf v.minor ++ '.' :: (Decimal.digitsOf v.patch ++
    (marked '-' v.preRelease ++ marked '+' v.build)))

/-- The identifiers that can be written. -/
def IsIdentifier (i : List Char) : Prop := i ≠ [] ∧ ∀ c ∈ i, isIdentifierChar c = true

/-- The versions that can be written. -/
structure Proper (v : Version) : Prop where
  major : v.major < 2 ^ 64
  minor : v.minor < 2 ^ 64
  patch : v.patch < 2 ^ 64
  preRelease : ∀ i ∈ v.preRelease, IsIdentifier i
  /-- The numbers in a pre-release have no leading zeros. -/
  zeros : ∀ i ∈ v.preRelease, isNumeric i = true → hasLeadingZero i = false
  build : ∀ i ∈ v.build, IsIdentifier i

/-! ## Numbers -/

theorem takeWhile_dropWhile_iff {p : Char → Bool} {cs w rest : List Char} :
    cs.takeWhile p = w ∧ cs.dropWhile p = rest ↔
      cs = w ++ rest ∧ (∀ c ∈ w, p c = true) ∧ ∀ c ∈ rest.head?, p c = false := by
  constructor
  · rintro ⟨rfl, rfl⟩
    exact ⟨List.takeWhile_append_dropWhile.symm, List.all_eq_true.mp List.all_takeWhile, head_dropWhile⟩
  · rintro ⟨rfl, hw, hrest⟩
    rw [List.takeWhile_append_of_pos hw, List.dropWhile_append_of_pos hw, takeWhile_eq_nil hrest,
      dropWhile_eq_self hrest, List.append_nil]
    exact ⟨rfl, rfl⟩

theorem digitChar_of_isDecimal {c : Char} (h : isDecimal c = true) : Nat.digitChar (c.toNat - 48) = c := by
  have hc := isDecimal_iff.mp h
  apply Char.toNat_inj.mp
  rw [Nat.toNat_digitChar_of_lt_ten (by omega)]
  omega

/-- Digits after a nonzero number are the last digits of the number that they stand for there. -/
theorem toDigits_ofDigitChars {cs : List Char} (h : ∀ c ∈ cs, isDecimal c = true) {n : Nat} (hn : 0 < n) :
    Nat.toDigits 10 (Nat.ofDigitChars 10 cs n) = Nat.toDigits 10 n ++ cs := by
  induction cs generalizing n with
  | nil => simp
  | cons c cs ih =>
    rw [List.forall_mem_cons] at h
    have hc := isDecimal_iff.mp h.1
    have hzero : '0'.toNat = 48 := rfl
    have hlt : c.toNat - '0'.toNat < 10 := by omega
    have hdigit : Nat.toDigits 10 (c.toNat - '0'.toNat) = [c] := by
      rw [Nat.toDigits_of_lt_base hlt, hzero, digitChar_of_isDecimal h.1]
    calc Nat.toDigits 10 (Nat.ofDigitChars 10 (c :: cs) n)
        = Nat.toDigits 10 (10 * n + (c.toNat - '0'.toNat)) ++ cs := by
          rw [Nat.ofDigitChars_cons, ih h.2 (by omega)]
      _ = Nat.toDigits 10 n ++ [c] ++ cs := by
          rw [← Nat.toDigits_append_toDigits (by decide) hn hlt, hdigit]
      _ = Nat.toDigits 10 n ++ c :: cs := by simp

theorem digitsOf_decimalValue {ds : List Char} (hne : ds ≠ []) (hds : ∀ c ∈ ds, isDecimal c = true)
    (hz : hasLeadingZero ds = false) : Decimal.digitsOf (decimalValue ds) = ds := by
  obtain ⟨c, cs, rfl⟩ := List.exists_cons_of_ne_nil hne
  rw [List.forall_mem_cons] at hds
  have hc := isDecimal_iff.mp hds.1
  have hvalue : decimalValue (c :: cs) = Nat.ofDigitChars 10 cs (c.toNat - 48) := by
    show Nat.ofDigitChars 10 (c :: cs) 0 = _
    rw [Nat.ofDigitChars_cons, Nat.mul_zero, Nat.zero_add]
    rfl
  have hdigit : Nat.toDigits 10 (c.toNat - 48) = [c] := by
    rw [Nat.toDigits_of_lt_base (by omega), digitChar_of_isDecimal hds.1]
  rw [Decimal.digitsOf, hvalue]
  cases cs with
  | nil => exact hdigit
  | cons d cs =>
    have hne : c ≠ '0' := by
      rintro rfl
      cases hz
    have hpos : c.toNat ≠ 48 := fun h => hne (Char.toNat_inj.mp h)
    rw [toDigits_ofDigitChars hds.2 (by omega), hdigit, List.singleton_append]

theorem isDecimal_of_mem_digitsOf {n : Nat} {c : Char} (h : c ∈ Decimal.digitsOf n) : isDecimal c = true :=
  Nat.isDigit_of_mem_toDigits (by decide) (by decide) h

theorem decimalValue_digitsOf (n : Nat) : decimalValue (Decimal.digitsOf n) = n :=
  Nat.ofDigitChars_toDigits (by decide) (by decide)

theorem ofDigitChars_lt {ds : List Char} (h : ∀ c ∈ ds, isDecimal c = true) :
    Nat.ofDigitChars 10 ds 0 < 10 ^ ds.length := by
  induction ds with
  | nil => decide
  | cons c cs ih =>
    rw [List.forall_mem_cons] at h
    have hc := isDecimal_iff.mp h.1
    have hzero : '0'.toNat = 48 := rfl
    have hdigit : c.toNat - '0'.toNat ≤ 9 := by omega
    have hmul := Nat.mul_le_mul_left (10 ^ cs.length) hdigit
    have hrest := ih h.2
    rw [Nat.ofDigitChars_cons, Nat.mul_zero, Nat.zero_add, Nat.ofDigitChars_eq_ofDigitChars_zero,
      List.length_cons, Nat.pow_succ]
    omega

theorem hasLeadingZero_digitsOf (n : Nat) : hasLeadingZero (Decimal.digitsOf n) = false := by
  cases hz : hasLeadingZero (Decimal.digitsOf n) with
  | false => rfl
  | true =>
    unfold hasLeadingZero at hz
    split at hz
    · rename_i c cs hds
      -- without the zero the digits stand for the same number, so there are too many of them
      have hvalue : Nat.ofDigitChars 10 (c :: cs) 0 = n := by
        have h := decimalValue_digitsOf n
        rw [hds] at h
        exact h
      have hmem : ∀ d ∈ c :: cs, isDecimal d = true := by
        intro d hd
        exact isDecimal_of_mem_digitsOf (n := n) (hds ▸ List.mem_cons_of_mem _ hd)
      have hlt := ofDigitChars_lt hmem
      rw [hvalue] at hlt
      have hlength := (Nat.length_toDigits_le_iff (by decide) (Nat.succ_pos cs.length)).mpr hlt
      rw [← Decimal.digitsOf, hds] at hlength
      simp only [List.length_cons] at hlength
      omega
    · cases hz

theorem takeNumber?_eq_some_iff {cs rest : List Char} {n : Nat} : takeNumber? cs = some (n, rest) ↔
    n < 2 ^ 64 ∧ cs = Decimal.digitsOf n ++ rest ∧ ∀ c ∈ rest.head?, isDecimal c = false := by
  unfold takeNumber?
  constructor
  · intro h
    obtain ⟨hcs, hds, hrest⟩ := takeWhile_dropWhile_iff.mp
      ⟨Eq.refl (cs.takeWhile isDecimal), Eq.refl (cs.dropWhile isDecimal)⟩
    generalize cs.takeWhile isDecimal = ds at *
    simp only [Option.ite_none_left_eq_some, Bool.or_eq_true, not_or, decide_eq_true_eq, Nat.not_le] at h
    obtain ⟨⟨⟨hne, hz⟩, hlt⟩, h⟩ := h
    cases h
    rw [List.isEmpty_iff] at hne
    rw [digitsOf_decimalValue hne hds (Bool.eq_false_iff.mpr hz)]
    exact ⟨hlt, hcs, hrest⟩
  · rintro ⟨hlt, hcs, hrest⟩
    have hdecimal : ∀ c ∈ Decimal.digitsOf n, isDecimal c = true := fun c hc => isDecimal_of_mem_digitsOf hc
    obtain ⟨htake, hdrop⟩ := takeWhile_dropWhile_iff.mpr ⟨hcs, hdecimal, hrest⟩
    have hne : (Decimal.digitsOf n).isEmpty = false := List.isEmpty_eq_false_iff.mpr Nat.toDigits_ne_nil
    have hlt' : ¬0x10000000000000000 ≤ n := Nat.not_le.mpr hlt
    simp only [htake, hdrop, hne, hasLeadingZero_digitsOf, decimalValue_digitsOf, hlt', Bool.or_self,
      decide_false, Bool.false_eq_true, if_false]

/-! ## Identifiers -/

theorem skip?_eq_some_iff {c : Char} {cs rest : List Char} : skip? c cs = some rest ↔ cs = c :: rest := by
  cases cs with
  | nil => simp [skip?]
  | cons d ds => simp [skip?]

theorem skip?_eq_none {c : Char} {cs : List Char} (h : ∀ d ∈ cs.head?, d ≠ c) : skip? c cs = none := by
  cases cs with
  | nil => rfl
  | cons d ds => exact if_neg (h d rfl)

theorem splitDots_eq (cs : List Char) : splitDots cs = cs.splitOnP (· == '.') := by
  induction cs with
  | nil => rfl
  | cons c cs ih =>
    rw [splitDots, ih, List.splitOnP_cons_eq_if_modifyHead]
    cases h : List.splitOnP (· == '.') cs with
    | nil => exact absurd h (List.splitOnP_ne_nil _ _)
    | cons part parts => simp

theorem dotted_splitDots (cs : List Char) : dotted (splitDots cs) = cs := by
  rw [splitDots_eq, dotted, ← List.splitOn, List.intercalate_splitOn]

theorem splitDots_dotted {ids : List (List Char)} (hne : ids ≠ []) (h : ∀ i ∈ ids, '.' ∉ i) :
    splitDots (dotted ids) = ids := by
  rw [splitDots_eq, dotted, ← List.splitOn, List.splitOn_intercalate _ h hne]

theorem splitDots_ne_nil (cs : List Char) : splitDots cs ≠ [] := by
  rw [splitDots_eq]
  exact List.splitOnP_ne_nil _ _

theorem mem_of_mem_splitDots {cs part : List Char} (h : part ∈ splitDots cs) {c : Char} (hc : c ∈ part) :
    c ∈ cs ∧ c ≠ '.' := by
  induction cs generalizing part with
  | nil =>
    rw [List.mem_singleton.mp h] at hc
    cases hc
  | cons d ds ih =>
    rw [splitDots] at h
    cases hds : splitDots ds with
    | nil => exact absurd hds (splitDots_ne_nil ds)
    | cons head parts =>
      have hrest : ∀ p ∈ head :: parts, c ∈ p → c ∈ d :: ds ∧ c ≠ '.' := by
        intro p hp hcp
        obtain ⟨hmem, hdot⟩ := ih (hds ▸ hp) hcp
        exact ⟨List.mem_cons_of_mem _ hmem, hdot⟩
      rw [hds] at h
      dsimp only at h
      by_cases hd : d = '.'
      · rw [if_pos hd, List.mem_cons] at h
        rcases h with rfl | h
        · cases hc
        · exact hrest part h hc
      · rw [if_neg hd, List.mem_cons] at h
        rcases h with rfl | h
        · rcases List.mem_cons.mp hc with rfl | hc
          · exact ⟨List.mem_cons_self, hd⟩
          · exact hrest head List.mem_cons_self hc
        · exact hrest part (List.mem_cons_of_mem _ h) hc

theorem mem_dotted {ids : List (List Char)} {c : Char} (h : c ∈ dotted ids) :
    c = '.' ∨ ∃ i ∈ ids, c ∈ i := by
  induction ids with
  | nil => cases h
  | cons i rest ih =>
    cases rest with
    | nil => exact .inr ⟨i, List.mem_singleton.mpr rfl, by simpa [dotted] using h⟩
    | cons j rest =>
      have hcons : dotted (i :: j :: rest) = i ++ '.' :: dotted (j :: rest) := by simp [dotted]
      rw [hcons, List.mem_append, List.mem_cons] at h
      rcases h with h | h | h
      · exact .inr ⟨i, List.mem_cons_self, h⟩
      · exact .inl h
      · rcases ih h with h | ⟨k, hk, hck⟩
        · exact .inl h
        · exact .inr ⟨k, List.mem_cons_of_mem _ hk, hck⟩

/-- The characters of written identifiers. -/
def isDottedChar (c : Char) : Bool := isIdentifierChar c || c == '.'

theorem isDottedChar_of_mem_dotted {ids : List (List Char)} (h : ∀ i ∈ ids, IsIdentifier i) {c : Char}
    (hc : c ∈ dotted ids) : isDottedChar c = true := by
  rcases mem_dotted hc with rfl | ⟨i, hi, hci⟩
  · rfl
  · exact Bool.or_eq_true_iff.mpr (.inl ((h i hi).2 c hci))

theorem eq_of_mem_head_marked {mark c : Char} {ids : List (List Char)} (h : c ∈ (marked mark ids).head?) :
    c = mark := by
  unfold marked at h
  cases hempty : ids.isEmpty <;> simp [hempty] at h
  exact h.symm

section Marked

variable {mark : Char} {accepts : List (List Char) → Bool} {ids : List (List Char)} {cs rest : List Char}

theorem eq_of_takeIdentifiers? (hnil : accepts [] = true) (hne : ∀ ids, accepts ids = true → [] ∉ ids)
    (h : takeIdentifiers? mark accepts cs = some (ids, rest)) :
    cs = marked mark ids ++ rest ∧ accepts ids = true ∧ ∀ i ∈ ids, IsIdentifier i := by
  unfold takeIdentifiers? at h
  split at h
  · cases h
    exact ⟨rfl, hnil, by simp⟩
  · rename_i behind hskip
    rw [skip?_eq_some_iff] at hskip
    obtain ⟨hbehind, hbody, -⟩ := takeWhile_dropWhile_iff.mp
      ⟨Eq.refl (behind.takeWhile isDottedChar), Eq.refl (behind.dropWhile isDottedChar)⟩
    change (if accepts (splitDots (behind.takeWhile isDottedChar)) = true then
      some (splitDots (behind.takeWhile isDottedChar), behind.dropWhile isDottedChar) else none) =
        some (ids, rest) at h
    generalize behind.takeWhile isDottedChar = body at *
    rw [Option.ite_none_right_eq_some] at h
    obtain ⟨haccepts, h⟩ := h
    cases h
    refine ⟨?_, haccepts, ?_⟩
    · rw [marked, if_neg (by simpa using splitDots_ne_nil body), dotted_splitDots, hskip, List.cons_append,
        ← hbehind]
    · intro i hi
      refine ⟨fun hnil => hne _ haccepts (hnil ▸ hi), fun c hc => ?_⟩
      obtain ⟨hmem, hdot⟩ := mem_of_mem_splitDots hi hc
      simpa [isDottedChar, hdot] using hbody c hmem

/-- Identifiers after their mark are taken, unless the next character could belong to them. -/
theorem takeIdentifiers?_marked (haccepts : accepts ids = true) (hids : ∀ i ∈ ids, IsIdentifier i)
    (hrest : ∀ c ∈ rest.head?, isDottedChar c = false ∧ c ≠ mark) :
    takeIdentifiers? mark accepts (marked mark ids ++ rest) = some (ids, rest) := by
  unfold takeIdentifiers? marked
  cases hempty : ids.isEmpty with
  | true =>
    rw [List.isEmpty_iff] at hempty
    subst hempty
    simp only [if_true, List.nil_append, skip?_eq_none fun c hc => (hrest c hc).2]
  | false =>
    have hskip : skip? mark (mark :: (dotted ids ++ rest)) = some (dotted ids ++ rest) :=
      skip?_eq_some_iff.mpr rfl
    obtain ⟨htake, hdrop⟩ := takeWhile_dropWhile_iff.mpr ⟨Eq.refl (dotted ids ++ rest),
      fun c hc => isDottedChar_of_mem_dotted hids hc, fun c hc => (hrest c hc).1⟩
    have hsplit : splitDots (dotted ids) = ids := by
      refine splitDots_dotted (List.isEmpty_eq_false_iff.mp hempty) ?_
      intro i hi hdot
      exact absurd ((hids i hi).2 _ hdot) (by decide)
    simp only [Bool.false_eq_true, if_false, List.cons_append, hskip]
    change (if accepts (splitDots ((dotted ids ++ rest).takeWhile isDottedChar)) = true then
      some (splitDots ((dotted ids ++ rest).takeWhile isDottedChar),
        (dotted ids ++ rest).dropWhile isDottedChar) else none) = some (ids, rest)
    rw [htake, hdrop, hsplit, if_pos haccepts]

end Marked

/-! ## Versions -/

theorem isPreRelease_iff {ids : List (List Char)} : isPreRelease ids = true ↔
    [] ∉ ids ∧ ∀ i ∈ ids, isNumeric i = true → hasLeadingZero i = false := by
  have hnil : [] ∉ ids ↔ ∀ i ∈ ids, i ≠ [] := List.forall_mem_ne'.symm
  have hzeros : ∀ i, (isNumeric i && hasLeadingZero i) = false ↔
      (isNumeric i = true → hasLeadingZero i = false) := by
    intro i
    cases isNumeric i <;> simp
  simp only [isPreRelease, hnil, ← forall_and, List.all_eq_true, Bool.and_eq_true, Bool.not_eq_true',
    List.isEmpty_eq_false_iff, hzeros]

theorem isBuild_iff {ids : List (List Char)} : isBuild ids = true ↔ [] ∉ ids := by
  have hnil : [] ∉ ids ↔ ∀ i ∈ ids, i ≠ [] := List.forall_mem_ne'.symm
  simp only [isBuild, hnil, List.all_eq_true, Bool.not_eq_true', List.isEmpty_eq_false_iff]

/-- A text is parsed to a version if and only if it is the text of the version. -/
theorem parse?_eq_some_iff {s : String} {v : Version} :
    parse? s = some v ↔ v.Proper ∧ s.toList = v.text := by
  simp only [parse?, Option.bind_eq_bind, Option.bind_eq_some_iff, Option.ite_none_right_eq_some, Prod.exists,
    skip?_eq_some_iff, takeNumber?_eq_some_iff, Option.some.injEq]
  constructor
  · rintro ⟨major, _, ⟨hmajor, hs, -⟩, _, rfl, minor, _, ⟨hminor, hm, -⟩, _, rfl, patch, _,
      ⟨hpatch, hp, -⟩, preRelease, _, hpre, build, _, hbuild, hend, rfl⟩
    obtain ⟨rfl, haccepts, hids⟩ :=
      eq_of_takeIdentifiers? rfl (fun _ h => (isPreRelease_iff.mp h).1) hpre
    obtain ⟨rfl, -, hids'⟩ := eq_of_takeIdentifiers? rfl (fun _ h => isBuild_iff.mp h) hbuild
    rw [List.isEmpty_iff.mp hend, List.append_nil] at hp
    refine ⟨⟨hmajor, hminor, hpatch, hids, (isPreRelease_iff.mp haccepts).2, hids'⟩, ?_⟩
    rw [hs, hm, hp, text]
  · rintro ⟨hv, hs⟩
    have hpre : isPreRelease v.preRelease = true :=
      isPreRelease_iff.mpr ⟨fun h => (hv.preRelease _ h).1 rfl, hv.zeros⟩
    have hbuild : isBuild v.build = true := isBuild_iff.mpr fun h => (hv.build _ h).1 rfl
    -- what follows a number or the identifiers of the pre-release does not belong to them
    have hbehind : ∀ c ∈ (marked '+' v.build).head?, isDottedChar c = false ∧ c ≠ '-' := by
      intro c hc
      rw [eq_of_mem_head_marked hc]
      decide
    have hnumber : ∀ c ∈ (marked '-' v.preRelease ++ marked '+' v.build).head?, isDecimal c = false := by
      intro c hc
      rw [List.head?_append, Option.mem_def, Option.or_eq_some_iff] at hc
      rcases hc with hc | ⟨-, hc⟩
      · rw [eq_of_mem_head_marked hc]
        decide
      · rw [eq_of_mem_head_marked hc]
        decide
    have hend : marked '+' v.build = marked '+' v.build ++ [] := (List.append_nil _).symm
    refine ⟨v.major, _, ⟨hv.major, hs, ?_⟩, _, rfl, v.minor, _, ⟨hv.minor, rfl, ?_⟩, _, rfl, v.patch, _,
      ⟨hv.patch, rfl, hnumber⟩, v.preRelease, _, takeIdentifiers?_marked hpre hv.preRelease hbehind,
      v.build, [], ?_, rfl, rfl⟩
    · simp [isDecimal]
    · simp [isDecimal]
    · rw [hend]
      exact takeIdentifiers?_marked hbuild hv.build (by simp)

end Version

/-! ## Operators on versions -/

namespace Operation

/-- A value stands for a version if and only if it is the text of the version. -/
theorem version?_eq_some_iff {a : Value} {v : Version} :
    version? a = some v ↔ v.Proper ∧ a = .text (String.ofList v.text) := by
  have htext : ∀ s : String, s.toList = v.text ↔ Value.text s = .text (String.ofList v.text) := by
    intro s
    rw [Value.text.injEq, ← String.toList_inj, String.toList_ofList]
  cases a with
  | text s => exact Version.parse?_eq_some_iff.trans (and_congr_right fun _ => htext s)
  | _ => simp [version?, Value.text?]

section Comparing

variable {holds : Ordering → Bool} {a b c : Value}

theorem versions_of_some {v w : Version} (ha : version? a = some v) (hb : version? b = some w) :
    versions holds a b = .boolean (holds (v.compareVersion w)) := by
  rw [versions, ha, hb]

theorem versions_of_none (h : version? a = none ∨ version? b = none) :
    versions holds a b = .boolean false := by
  unfold versions
  rcases h with h | h
  · rw [h]
  · rw [h]
    cases version? a <;> rfl

theorem versions_eq_true_iff : versions holds a b = .boolean true ↔
    ∃ v w, version? a = some v ∧ version? b = some w ∧ holds (v.compareVersion w) = true := by
  unfold versions
  cases version? a <;> cases version? b <;> simp

theorem versions_trans (h : ∀ u v w : Version, holds (u.compareVersion v) = true →
      holds (v.compareVersion w) = true → holds (u.compareVersion w) = true)
    (hab : versions holds a b = .boolean true) (hbc : versions holds b c = .boolean true) :
    versions holds a c = .boolean true := by
  obtain ⟨u, v, hu, hv, huv⟩ := versions_eq_true_iff.mp hab
  obtain ⟨v', w, hv', hw, hvw⟩ := versions_eq_true_iff.mp hbc
  rw [hv, Option.some.injEq] at hv'
  subst hv'
  rw [versions_of_some hu hw, h u v w huv hvw]

theorem versions_or {p q r : Ordering → Bool} (h : ∀ o, p o = (q o || r o)) : versions p a b = .boolean true ↔
    versions q a b = .boolean true ∨ versions r a b = .boolean true := by
  unfold versions
  cases version? a <;> cases version? b <;> simp [h]

theorem versions_eq_iff : versions (· == .eq) a b = .boolean true ↔ a = b ∧ ∃ v, version? a = some v := by
  rw [versions_eq_true_iff]
  constructor
  · rintro ⟨v, w, hv, hw, h⟩
    obtain rfl := Version.compareVersion_eq_iff.mp (beq_iff_eq.mp h)
    refine ⟨?_, v, hv⟩
    rw [(version?_eq_some_iff.mp hv).2, (version?_eq_some_iff.mp hw).2]
  · rintro ⟨rfl, v, hv⟩
    exact ⟨v, v, hv, hv, beq_iff_eq.mpr (Version.compareVersion_eq_iff.mpr rfl)⟩

theorem versions_isLT_eq : versions Ordering.isLT a b = versions Ordering.isGT b a := by
  unfold versions
  cases version? a <;> cases version? b
  case some.some v w =>
    have hswap : v.compareVersion w = (w.compareVersion v).swap := OrientedCmp.eq_swap
    dsimp only
    rw [hswap, Ordering.isLT_swap]
  all_goals rfl

end Comparing

end Operation

section Calls

open Operation

variable {now : Number} {x : Context} {name : String} {a b c : Value}

/-- A call of an operator on versions compares its two operands. -/
theorem builtinValue_versions {holds : Ordering → Bool}
    (h : (builtinOperations now).lookup name = some (binary (versions holds))) :
    builtinValue now name [a, b] x = versions holds a b := by
  rw [builtinValue_eq, h]
  rfl

theorem semverEq_eq : builtinValue now "semverEq" [a, b] x = versions (· == .eq) a b :=
  builtinValue_versions rfl

theorem semverNe_eq : builtinValue now "semverNe" [a, b] x = versions (· != .eq) a b :=
  builtinValue_versions rfl

theorem semverLt_eq : builtinValue now "semverLt" [a, b] x = versions Ordering.isLT a b :=
  builtinValue_versions rfl

theorem semverLte_eq : builtinValue now "semverLte" [a, b] x = versions Ordering.isLE a b :=
  builtinValue_versions rfl

theorem semverGt_eq : builtinValue now "semverGt" [a, b] x = versions Ordering.isGT a b :=
  builtinValue_versions rfl

theorem semverGte_eq : builtinValue now "semverGte" [a, b] x = versions Ordering.isGE a b :=
  builtinValue_versions rfl

theorem exists_versions_of_mem
    (hn : name ∈ ["semverEq", "semverNe", "semverLt", "semverLte", "semverGt", "semverGte"]) :
    ∃ holds, builtinValue now name [a, b] x = versions holds a b := by
  simp only [List.mem_cons, List.not_mem_nil, or_false] at hn
  rcases hn with rfl | rfl | rfl | rfl | rfl | rfl
  · exact ⟨_, semverEq_eq⟩
  · exact ⟨_, semverNe_eq⟩
  · exact ⟨_, semverLt_eq⟩
  · exact ⟨_, semverLte_eq⟩
  · exact ⟨_, semverGt_eq⟩
  · exact ⟨_, semverGte_eq⟩

theorem semver_trans (hn : name ∈ ["semverLt", "semverLte", "semverEq"])
    (hab : builtinValue now name [a, b] x = .boolean true)
    (hbc : builtinValue now name [b, c] x = .boolean true) :
    builtinValue now name [a, c] x = .boolean true := by
  simp only [List.mem_cons, List.not_mem_nil, or_false] at hn
  rcases hn with rfl | rfl | rfl
  · rw [semverLt_eq] at *
    refine versions_trans ?_ hab hbc
    intro u v w huv hvw
    rw [Ordering.isLT_iff_eq_lt] at *
    exact TransCmp.lt_trans huv hvw
  · rw [semverLte_eq] at *
    refine versions_trans ?_ hab hbc
    intro u v w huv hvw
    exact TransCmp.isLE_trans huv hvw
  · rw [semverEq_eq] at *
    refine versions_trans ?_ hab hbc
    intro u v w huv hvw
    rw [beq_iff_eq] at *
    exact TransCmp.eq_trans huv hvw

end Calls

open Operation in
/-- The operators on versions are those of one linear order, on the texts that are versions. All of them
are false for any other operand. -/
theorem semver_coherent (now : Number) (x : Context) :
    let value := fun name a b => builtinValue now name [a, b] x
    let holds := fun name a b => value name a b = .boolean true
    (∀ a v, version? a = some v ↔ v.Proper ∧ a = .text (String.ofList v.text)) ∧
    (∀ a b, holds "semverLt" a b ↔ ∃ v w, version? a = some v ∧ version? b = some w ∧ v.Precedes w) ∧
    (∀ a b, holds "semverEq" a b ↔ a = b ∧ ∃ v, version? a = some v) ∧
    (∀ a b v w, version? a = some v → version? b = some w →
      (holds "semverLt" a b ∧ ¬holds "semverEq" a b ∧ ¬holds "semverGt" a b ∨
        ¬holds "semverLt" a b ∧ holds "semverEq" a b ∧ ¬holds "semverGt" a b ∨
        ¬holds "semverLt" a b ∧ ¬holds "semverEq" a b ∧ holds "semverGt" a b) ∧
      (holds "semverNe" a b ↔ ¬holds "semverEq" a b)) ∧
    (∀ a b, holds "semverLte" a b ↔ holds "semverLt" a b ∨ holds "semverEq" a b) ∧
    (∀ a b, holds "semverGte" a b ↔ holds "semverGt" a b ∨ holds "semverEq" a b) ∧
    (∀ a b, value "semverLt" a b = value "semverGt" b a) ∧
    (∀ name ∈ ["semverLt", "semverLte", "semverEq"], ∀ a b c,
      holds name a b → holds name b c → holds name a c) ∧
    (∀ name ∈ ["semverEq", "semverNe", "semverLt", "semverLte", "semverGt", "semverGte"], ∀ a b,
      (∃ t, value name a b = .boolean t) ∧
        (version? a = none ∨ version? b = none → value name a b = .boolean false)) := by
  intro value holds
  simp only [value, holds]
  refine ⟨fun a v => version?_eq_some_iff, ?_, ?_, ?_, ?_, ?_, ?_, ?_, ?_⟩
  · intro a b
    simp only [semverLt_eq, versions_eq_true_iff, Ordering.isLT_iff_eq_lt, Version.compareVersion_eq_lt_iff]
  · intro a b
    simp only [semverEq_eq, versions_eq_iff]
  · intro a b v w ha hb
    simp only [semverLt_eq, semverEq_eq, semverGt_eq, semverNe_eq, versions_of_some ha hb]
    cases v.compareVersion w <;> decide
  · intro a b
    simp only [semverLte_eq, semverLt_eq, semverEq_eq]
    exact versions_or fun o => by cases o <;> rfl
  · intro a b
    simp only [semverGte_eq, semverGt_eq, semverEq_eq]
    exact versions_or fun o => by cases o <;> rfl
  · intro a b
    simp only [semverLt_eq, semverGt_eq]
    exact versions_isLT_eq
  · intro name hn a b c hab hbc
    exact semver_trans hn hab hbc
  · intro name hn a b
    obtain ⟨p, hp⟩ := @exists_versions_of_mem now x name a b hn
    simp only [hp]
    exact ⟨versions_decides p a b, versions_of_none⟩

open Operation in
/-- Numbers in a pre-release come before words, and are compared as numbers; a text with two numbers is
not a version. -/
theorem semver_coherent_pre_release :
    let value := fun name a b => builtinValue ⟨0⟩ name [.text a, .text b] .empty
    value "semverLt" "1.0.0-9" "1.0.0-rc+007" = .boolean true ∧
      ¬value "semverGt" "1.0.0-9" "1.0.0-10" = .boolean true ∧
      value "semverNe" "1.0" "1.0.0" = .boolean false := by
  intro value
  obtain ⟨-, hlt, -, hone, -, -, -, htrans, hnone⟩ := semver_coherent ⟨0⟩ .empty
  have h₁ : version? (.text "1.0.0-9") = some ⟨1, 0, 0, [['9']], []⟩ := by decide +kernel
  have h₂ : version? (.text "1.0.0-10") = some ⟨1, 0, 0, [['1', '0']], []⟩ := by decide +kernel
  have h₃ : version? (.text "1.0.0-rc+007") = some ⟨1, 0, 0, [['r', 'c']], [['0', '0', '7']]⟩ := by
    decide +kernel
  have h₁₂ := (hlt _ _).mpr ⟨_, _, h₁, h₂,
    .preRelease rfl rfl rfl (by decide) (.rel (.value rfl rfl (by decide)))⟩
  have h₂₃ := (hlt _ _).mpr ⟨_, _, h₂, h₃, .preRelease rfl rfl rfl (by decide) (.rel (.digits rfl rfl))⟩
  refine ⟨htrans "semverLt" (by decide) _ _ _ h₁₂ h₂₃, ?_, ?_⟩
  · rcases (hone _ _ _ _ h₁ h₂).1 with h | h | h
    · exact h.2.2
    · exact h.2.2
    · exact absurd h₁₂ h.1
  · exact (hnone "semverNe" (by decide) _ _).2 (.inl (by decide +kernel))

end FeatureFlags
