import FeatureFlags.Version.Order
import Mathlib.Order.Defs.LinearOrder

/-!
# The precedence of versions

`Version.compareVersion` compares versions part by part, lists of identifiers one by one, and
identifiers character by character. All of these are lexicographic, hence linear orders if the
comparisons of the parts are; the cases left are comparisons between two sorts of values, one of
which comes first (`comparingSorts`). Versions that compare as equal are equal
(`compareVersion_eq_iff`).

`Version.Precedes` states the order of versions without a comparison function.
-/

namespace FeatureFlags.Version

open Std (OrientedCmp TransCmp LawfulEqCmp)

/-! ## Values of two sorts -/

section Sorts

variable {α : Type} (first : α → Bool) (c d : α → α → Ordering)

/-- The comparison in which values of a first sort, compared by `c`, come before all others, compared by
`d`. -/
def comparingSorts (a b : α) : Ordering :=
  match first a, first b with
  | true, true => c a b
  | true, false => .lt
  | false, true => .gt
  | false, false => d a b

variable {first c d}

instance [TransCmp c] [TransCmp d] : TransCmp (comparingSorts first c d) where
  eq_swap {x y} := by
    unfold comparingSorts
    cases first x <;> cases first y
    · exact @OrientedCmp.eq_swap _ d _ x y
    · rfl
    · rfl
    · exact @OrientedCmp.eq_swap _ c _ x y
  isLE_trans {x y z} hxy hyz := by
    unfold comparingSorts at *
    generalize first x = p at *
    generalize first y = q at *
    generalize first z = r at *
    -- values of the second sort are never below those of the first, so two cases are left
    cases p <;> cases q <;> cases r
    case false.false.false => exact @TransCmp.isLE_trans _ d _ x y z hxy hyz
    case true.true.true => exact @TransCmp.isLE_trans _ c _ x y z hxy hyz
    all_goals first
      | rfl
      | exact absurd hxy Bool.false_ne_true
      | exact absurd hyz Bool.false_ne_true

theorem eq_of_comparingSorts (hc : ∀ a b, first a = true → first b = true → c a b = .eq → a = b)
    (hd : ∀ a b, first a = false → first b = false → d a b = .eq → a = b) {a b : α}
    (h : comparingSorts first c d a b = .eq) : a = b := by
  unfold comparingSorts at h
  cases ha : first a <;> cases hb : first b <;> rw [ha, hb] at h
  · exact hd a b ha hb h
  · cases h
  · cases h
  · exact hc a b ha hb h

theorem comparingSorts_eq_lt_iff {a b : α} : comparingSorts first c d a b = .lt ↔
    (first a = true ∧ first b = true ∧ c a b = .lt) ∨ (first a = true ∧ first b = false) ∨
      (first a = false ∧ first b = false ∧ d a b = .lt) := by
  unfold comparingSorts
  cases first a <;> cases first b <;> simp

end Sorts

/-! ## Lists -/

/-- A list comes before another one if it is a proper prefix of it, or if its element at the first
difference comes first. -/
theorem compareLex_eq_lt_iff {α : Type} {cmp : α → α → Ordering} [LawfulEqCmp cmp] {as bs : List α} :
    List.compareLex cmp as bs = .lt ↔ List.Lex (fun a b => cmp a b = .lt) as bs := by
  induction as generalizing bs with
  | nil => cases bs <;> simp [List.compareLex]
  | cons a as ih =>
    cases bs with
    | nil => simp [List.compareLex]
    | cons b bs =>
      rw [List.compareLex_cons_cons, List.cons_lex_cons_iff, ← ih, Ordering.then_eq_lt,
        LawfulEqCmp.compare_eq_iff_eq]

/-! ## Identifiers -/

theorem compareText_eq : compareText = List.compareLex (compareOn Char.toNat) := by
  funext as bs
  induction as generalizing bs with
  | nil => cases bs <;> rfl
  | cons a as ih =>
    cases bs with
    | nil => rfl
    | cons b bs =>
      rw [compareText, List.compareLex_cons_cons, ih]
      rfl

theorem compareIdentifiers_eq : compareIdentifiers = List.compareLex compareIdentifier := by
  funext as bs
  induction as generalizing bs with
  | nil => cases bs <;> rfl
  | cons a as ih =>
    cases bs with
    | nil => rfl
    | cons b bs => rw [compareIdentifiers, List.compareLex_cons_cons, ih]

/-- The order of identifiers that consist of digits: by their values, then by their lengths. -/
def compareDigits : List Char → List Char → Ordering :=
  compareLex (compareOn decimalValue) (compareOn List.length)

theorem compareIdentifier_eq :
    compareIdentifier = comparingSorts isNumeric compareDigits compareText := by
  funext a b
  unfold compareIdentifier comparingSorts
  cases isNumeric a <;> cases isNumeric b <;> rfl

instance : TransCmp compareText := by
  rw [compareText_eq]
  infer_instance

instance : TransCmp compareDigits := inferInstanceAs (TransCmp (compareLex _ _))

instance : TransCmp compareIdentifier := by
  rw [compareIdentifier_eq]
  infer_instance

instance : LawfulEqCmp (compareOn Char.toNat) where
  eq_of_compare h := Char.toNat_inj.mp (Nat.compare_eq_eq.mp h)

instance : LawfulEqCmp compareText := by
  rw [compareText_eq]
  infer_instance

/-! ## Digits -/

theorem isDecimal_iff {c : Char} : isDecimal c = true ↔ 48 ≤ c.toNat ∧ c.toNat ≤ 57 :=
  Char.isDigit_iff_toNat

/-- If equally many digits after two numbers stand for the same number, then the digits and the two
numbers are the same. -/
theorem ofDigitChars_inj {as bs : List Char} (ha : ∀ c ∈ as, isDecimal c = true)
    (hb : ∀ c ∈ bs, isDecimal c = true) (hlength : as.length = bs.length) {n m : Nat}
    (h : Nat.ofDigitChars 10 as n = Nat.ofDigitChars 10 bs m) : n = m ∧ as = bs := by
  induction as generalizing bs n m with
  | nil =>
    cases bs with
    | nil => exact ⟨h, rfl⟩
    | cons b bs => cases hlength
  | cons a as ih =>
    cases bs with
    | nil => cases hlength
    | cons b bs =>
      rw [List.forall_mem_cons] at ha hb
      rw [Nat.ofDigitChars_cons, Nat.ofDigitChars_cons] at h
      obtain ⟨hstep, rfl⟩ := ih ha.2 hb.2 (Nat.succ.inj hlength) h
      have ha' := isDecimal_iff.mp ha.1
      have hb' := isDecimal_iff.mp hb.1
      have hzero : '0'.toNat = 48 := rfl
      have hab : a.toNat = b.toNat := by omega
      exact ⟨by omega, by rw [Char.toNat_inj.mp hab]⟩

theorem eq_of_decimalValue {as bs : List Char} (ha : isNumeric as = true) (hb : isNumeric bs = true)
    (hlength : as.length = bs.length) (h : decimalValue as = decimalValue bs) : as = bs :=
  (ofDigitChars_inj (List.all_eq_true.mp ha) (List.all_eq_true.mp hb) hlength h).2

/-! ## The order of versions is linear -/

instance : LawfulEqCmp compareIdentifier where
  eq_of_compare {a b} h := by
    rw [compareIdentifier_eq] at h
    refine eq_of_comparingSorts ?_ ?_ h
    · intro a b ha hb h
      obtain ⟨hvalue, hlength⟩ := Ordering.then_eq_eq.mp h
      exact eq_of_decimalValue ha hb (Nat.compare_eq_eq.mp hlength) (Nat.compare_eq_eq.mp hvalue)
    · intro a b _ _ h
      exact LawfulEqCmp.eq_of_compare h

instance : TransCmp compareIdentifiers := by
  rw [compareIdentifiers_eq]
  infer_instance

instance : LawfulEqCmp compareIdentifiers := by
  rw [compareIdentifiers_eq]
  infer_instance

theorem comparePreRelease_eq :
    comparePreRelease = comparingSorts (fun a => !a.isEmpty) compareIdentifiers compareIdentifiers := by
  funext a b
  cases a <;> cases b <;> rfl

instance : TransCmp comparePreRelease := by
  rw [comparePreRelease_eq]
  infer_instance

instance : LawfulEqCmp comparePreRelease where
  eq_of_compare {a b} h := by
    rw [comparePreRelease_eq] at h
    exact eq_of_comparingSorts (fun _ _ _ _ h => LawfulEqCmp.eq_of_compare h)
      (fun _ _ _ _ h => LawfulEqCmp.eq_of_compare h) h

instance : TransCmp compareVersion :=
  inferInstanceAs <| TransCmp <| compareLex (compareOn major) <| compareLex (compareOn minor) <|
    compareLex (compareOn patch) <| compareLex (Ordering.byKey preRelease comparePreRelease)
      (Ordering.byKey build compareIdentifiers)

theorem compareVersion_eq_iff {v w : Version} : v.compareVersion w = .eq ↔ v = w := by
  cases v
  cases w
  simp only [compareVersion, Ordering.then_eq_eq, LawfulEqCmp.compare_eq_iff_eq,
    mk.injEq]

/-! ## The order of versions without a comparison -/

/-- The order of identifiers, without a comparison function. -/
inductive IdentifierBefore : List Char → List Char → Prop
  /-- Digits of a smaller number come first. -/
  | value {a b : List Char} (ha : isNumeric a = true) (hb : isNumeric b = true)
    (h : decimalValue a < decimalValue b) : IdentifierBefore a b
  /-- Of the same number, the digits with fewer leading zeros come first. -/
  | zeros {a b : List Char} (ha : isNumeric a = true) (hb : isNumeric b = true)
    (hvalue : decimalValue a = decimalValue b) (h : a.length < b.length) : IdentifierBefore a b
  /-- Digits come before anything else. -/
  | digits {a b : List Char} (ha : isNumeric a = true) (hb : isNumeric b = false) : IdentifierBefore a b
  /-- Anything else is in the order of texts. -/
  | text {a b : List Char} (ha : isNumeric a = false) (hb : isNumeric b = false) (h : a < b) :
    IdentifierBefore a b

/-- The order of versions, without a comparison function. -/
inductive Precedes : Version → Version → Prop
  | major {v w : Version} (h : v.major < w.major) : Precedes v w
  | minor {v w : Version} (hmajor : v.major = w.major) (h : v.minor < w.minor) : Precedes v w
  | patch {v w : Version} (hmajor : v.major = w.major) (hminor : v.minor = w.minor)
    (h : v.patch < w.patch) : Precedes v w
  /-- A pre-release comes before the release. -/
  | release {v w : Version} (hmajor : v.major = w.major) (hminor : v.minor = w.minor)
    (hpatch : v.patch = w.patch) (hv : v.preRelease ≠ []) (hw : w.preRelease = []) : Precedes v w
  /-- Pre-releases are in the order of their identifiers. -/
  | preRelease {v w : Version} (hmajor : v.major = w.major) (hminor : v.minor = w.minor)
    (hpatch : v.patch = w.patch) (hv : v.preRelease ≠ [])
    (h : List.Lex IdentifierBefore v.preRelease w.preRelease) : Precedes v w
  /-- Of equal versions otherwise, builds are in the order of their identifiers. -/
  | build {v w : Version} (hmajor : v.major = w.major) (hminor : v.minor = w.minor)
    (hpatch : v.patch = w.patch) (hpreRelease : v.preRelease = w.preRelease)
    (h : List.Lex IdentifierBefore v.build w.build) : Precedes v w

theorem compareText_eq_lt_iff {a b : List Char} : compareText a b = .lt ↔ a < b := by
  have hchar : (fun c d : Char => compareOn Char.toNat c d = .lt) = (· < ·) := by
    funext c d
    rw [compareOn, Nat.compare_eq_lt]
    rfl
  rw [compareText_eq, compareLex_eq_lt_iff, hchar]
  rfl

theorem compareIdentifier_eq_lt_iff {a b : List Char} :
    compareIdentifier a b = .lt ↔ IdentifierBefore a b := by
  have hdigits : compareDigits a b = .lt ↔ decimalValue a < decimalValue b ∨
      decimalValue a = decimalValue b ∧ a.length < b.length := by
    simp only [compareDigits, compareLex, compareOn, Ordering.then_eq_lt, Nat.compare_eq_lt, Nat.compare_eq_eq]
  rw [compareIdentifier_eq, comparingSorts_eq_lt_iff, hdigits, compareText_eq_lt_iff]
  constructor
  · rintro (⟨ha, hb, h | ⟨hvalue, h⟩⟩ | ⟨ha, hb⟩ | ⟨ha, hb, h⟩)
    · exact .value ha hb h
    · exact .zeros ha hb hvalue h
    · exact .digits ha hb
    · exact .text ha hb h
  · rintro (⟨ha, hb, h⟩ | ⟨ha, hb, hvalue, h⟩ | ⟨ha, hb⟩ | ⟨ha, hb, h⟩)
    · exact .inl ⟨ha, hb, .inl h⟩
    · exact .inl ⟨ha, hb, .inr ⟨hvalue, h⟩⟩
    · exact .inr (.inl ⟨ha, hb⟩)
    · exact .inr (.inr ⟨ha, hb, h⟩)

theorem compareIdentifiers_eq_lt_iff {as bs : List (List Char)} :
    compareIdentifiers as bs = .lt ↔ List.Lex IdentifierBefore as bs := by
  have hbefore : (fun a b => compareIdentifier a b = .lt) = IdentifierBefore := by
    funext a b
    exact propext compareIdentifier_eq_lt_iff
  rw [compareIdentifiers_eq, compareLex_eq_lt_iff, hbefore]

theorem comparePreRelease_eq_lt_iff {as bs : List (List Char)} : comparePreRelease as bs = .lt ↔
    as ≠ [] ∧ (bs = [] ∨ List.Lex IdentifierBefore as bs) := by
  rw [comparePreRelease_eq, comparingSorts_eq_lt_iff, compareIdentifiers_eq_lt_iff]
  cases as <;> cases bs <;> simp

/-- The comparison of versions agrees with their order. -/
theorem compareVersion_eq_lt_iff {v w : Version} : v.compareVersion w = .lt ↔ v.Precedes w := by
  simp only [compareVersion, Ordering.then_eq_lt, Nat.compare_eq_lt,
    LawfulEqCmp.compare_eq_iff_eq, comparePreRelease_eq_lt_iff, compareIdentifiers_eq_lt_iff]
  constructor
  · rintro (h | ⟨hmajor, h | ⟨hminor, h | ⟨hpatch, ⟨hv, hw | h⟩ | ⟨hpreRelease, h⟩⟩⟩⟩)
    · exact .major h
    · exact .minor hmajor h
    · exact .patch hmajor hminor h
    · exact .release hmajor hminor hpatch hv hw
    · exact .preRelease hmajor hminor hpatch hv h
    · exact .build hmajor hminor hpatch hpreRelease h
  · rintro (⟨h⟩ | ⟨hmajor, h⟩ | ⟨hmajor, hminor, h⟩ | ⟨hmajor, hminor, hpatch, hv, h⟩ |
      ⟨hmajor, hminor, hpatch, hv, h⟩ | ⟨hmajor, hminor, hpatch, hpreRelease, h⟩)
    · exact .inl h
    · exact .inr ⟨hmajor, .inl h⟩
    · exact .inr ⟨hmajor, .inr ⟨hminor, .inl h⟩⟩
    · exact .inr ⟨hmajor, .inr ⟨hminor, .inr ⟨hpatch, .inl ⟨hv, .inl h⟩⟩⟩⟩
    · exact .inr ⟨hmajor, .inr ⟨hminor, .inr ⟨hpatch, .inl ⟨hv, .inr h⟩⟩⟩⟩
    · exact .inr ⟨hmajor, .inr ⟨hminor, .inr ⟨hpatch, .inr ⟨hpreRelease, h⟩⟩⟩⟩

end FeatureFlags.Version
