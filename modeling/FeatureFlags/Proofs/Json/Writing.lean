import Mathlib.Data.List.TakeWhile
import FeatureFlags.Json.Lexeme

/-!
# How JSON is written

A lexeme can be written in several ways (`Written`): a text with or without escapes, a numeral with
any exponent. A text is written for lexemes if it consists of one of these for each lexeme, in
order, with white space anywhere between (`Writes`); only two numerals need white space between
them.

`Json.lexemes` inverts this: a text is cut into complete lexemes if and only if it is written for
them (`writes_iff_lexemes`).
-/

namespace FeatureFlags.Json

/-! ## Written texts -/

/-- The characters that the pieces of a text stand for. A unit is the character of its number;
characters beyond the first 2¹⁶ are given by two units. -/
inductive Denotes : List Piece → List Char → Prop
  | nil : Denotes [] []
  | char {ps : List Piece} {cs : List Char} (c : Char) (h : Denotes ps cs) :
    Denotes (.char c :: ps) (c :: cs)
  | unit {ps : List Piece} {cs : List Char} {c : Char} (hc : c.toNat < 0x10000) (h : Denotes ps cs) :
    Denotes (.unit c.toNat :: ps) (c :: cs)
  | pair {ps : List Piece} {cs : List Char} {c : Char} (hc : 0x10000 ≤ c.toNat) (h : Denotes ps cs) :
    Denotes (.unit (0xD800 + (c.toNat - 0x10000) / 0x400) ::
      .unit (0xDC00 + (c.toNat - 0x10000) % 0x400) :: ps) (c :: cs)

/-- The ways to write the pieces of a text between quotes: unescaped, after a backslash, or as the four
digits of a unit. -/
inductive Quoting : List Piece → List Char → Prop
  | nil : Quoting [] []
  | plain {ps : List Piece} {w : List Char} {c : Char} (hq : c ≠ '"') (hb : c ≠ '\\') (hc : ¬c < ' ')
    (h : Quoting ps w) : Quoting (.char c :: ps) (c :: w)
  | short {ps : List Piece} {w : List Char} {e c : Char} (he : shortEscape? e = some c)
    (h : Quoting ps w) : Quoting (.char c :: ps) ('\\' :: e :: w)
  | unit {ps : List Piece} {w : List Char} {c₁ c₂ c₃ c₄ : Char} {n₁ n₂ n₃ n₄ : Nat}
    (h₁ : hexDigit? c₁ = some n₁) (h₂ : hexDigit? c₂ = some n₂) (h₃ : hexDigit? c₃ = some n₃)
    (h₄ : hexDigit? c₄ = some n₄) (h : Quoting ps w) :
    Quoting (.unit (((n₁ * 16 + n₂) * 16 + n₃) * 16 + n₄) :: ps)
      ('\\' :: 'u' :: c₁ :: c₂ :: c₃ :: c₄ :: w)

/-- Whether a character is a digit in base 10. -/
def isDecimal (c : Char) : Bool := (decimalDigit? c).isSome

/-- Whether some characters are digits, and there are any. -/
def AreDigits (cs : List Char) : Prop := cs ≠ [] ∧ ∀ c ∈ cs, isDecimal c = true

def digits (cs : List Char) : List Nat := cs.filterMap decimalDigit?

structure ExponentText where
  letter : Char
  sign : Option Char
  digits : List Char

structure NumeralText where
  negative : Bool
  whole : List Char
  fraction : Option (List Char)
  exponent : Option ExponentText

def fractionText : Option (List Char) → List Char
  | some cs => '.' :: cs
  | none => []

def exponentText : Option ExponentText → List Char
  | some e => e.letter :: (e.sign.toList ++ e.digits)
  | none => []

def ExponentText.value (e : ExponentText) : Bool × List Nat := (e.sign == some '-', Json.digits e.digits)

/-- Whether an exponent is one of JSON. -/
structure ExponentText.Proper (e : ExponentText) : Prop where
  letter : e.letter = 'e' ∨ e.letter = 'E'
  sign : ∀ s ∈ e.sign, s = '+' ∨ s = '-'
  digits : AreDigits e.digits

namespace NumeralText

def unsigned (n : NumeralText) : List Char :=
  n.whole ++ (fractionText n.fraction ++ exponentText n.exponent)

def text (n : NumeralText) : List Char := if n.negative then '-' :: n.unsigned else n.unsigned

def parts (n : NumeralText) : NumeralParts :=
  ⟨n.negative, digits n.whole, (n.fraction.map digits).getD [],
    ((n.exponent.map ExponentText.value).map (·.1)).getD false,
    ((n.exponent.map ExponentText.value).map (·.2)).getD [],
    n.fraction.isNone && n.exponent.isNone⟩

/-- Whether a numeral is one of JSON: digits are present where they are required, and there is no
leading zero. -/
structure Proper (n : NumeralText) : Prop where
  whole : AreDigits n.whole
  leading : ∀ more, n.whole = '0' :: more → more = []
  fraction : ∀ cs ∈ n.fraction, AreDigits cs
  exponent : ∀ e ∈ n.exponent, e.Proper

end NumeralText

/-- The ways to write a lexeme. A text that is not whole characters has no value. -/
inductive Written : Lexeme → List Char → Prop
  | openBrace : Written .openBrace ['\x7b']
  | closeBrace : Written .closeBrace ['\x7d']
  | openBracket : Written .openBracket ['[']
  | closeBracket : Written .closeBracket [']']
  | colon : Written .colon [':']
  | comma : Written .comma [',']
  | null : Written .null ['n', 'u', 'l', 'l']
  | yes : Written (.boolean true) ['t', 'r', 'u', 'e']
  | no : Written (.boolean false) ['f', 'a', 'l', 's', 'e']
  | number {n : NumeralText} (hn : n.Proper) : Written (.number n.parts.value?) n.text
  | text {ps : List Piece} {w : List Char} {value : Option String} (hw : Quoting ps w)
    (hv : ∀ s, value = some s ↔ Denotes ps s.toList) : Written (.text value) ('"' :: (w ++ ['"']))

def Lexeme.isNumber : Lexeme → Bool
  | number _ => true
  | _ => false

/-- Whether a lexeme records that the text goes wrong. -/
def Lexeme.isBroken : Lexeme → Bool
  | broken .. => true
  | _ => false

/-- The ways to write lexemes: each of them, with white space before, between and after them. -/
inductive Writes : List Lexeme → List Char → Prop
  | nil {spaces : List Char} (hs : ∀ c ∈ spaces, isSpace c = true) : Writes [] spaces
  | cons {l : Lexeme} {ls : List Lexeme} {w rest : List Char} (spaces : List Char)
    (hs : ∀ c ∈ spaces, isSpace c = true) (hl : Written l w) (hr : Writes ls rest)
    (hn : l.isNumber = true → ∀ c ∈ rest.head?, isDecimal c = false) :
    Writes (l :: ls) (spaces ++ (w ++ rest))

/-! ## Texts -/

theorem Quoting.take {ps : List Piece} {w : List Char} (h : Quoting ps w) (rest : List Char) :
    takePieces (w ++ '"' :: rest) = (ps, .ok rest) := by
  induction h with
  | nil => rfl
  | @plain ps w c hq hb hc _ ih =>
    rw [List.cons_append, takePieces]
    · rw [if_neg hc, ih]
    · exact hq
    · intro hc'
      exact absurd hc' hb
    · intro _ hc'
      exact absurd hc' hb
    · intro _ _ hc'
      exact absurd hc' hb
  | @short ps w e c he _ ih =>
    have hu : e ≠ 'u' := by
      rintro rfl
      cases he
    rw [List.cons_append, List.cons_append, takePieces]
    · rw [he]
      simp only [ih]
    · exact hu
  | unit h₁ h₂ h₃ h₄ _ ih =>
    simp only [List.cons_append, takePieces, h₁, h₂, h₃, h₄, ih]

theorem quoting_of_take {cs : List Char} {ps : List Piece} {rest : List Char}
    (h : takePieces cs = (ps, .ok rest)) : ∃ w, cs = w ++ '"' :: rest ∧ Quoting ps w := by
  fun_induction takePieces cs generalizing ps with
  | case1 => cases h
  | case2 =>
    cases h
    exact ⟨[], rfl, .nil⟩
  | case3 => cases h
  | case4 c₁ c₂ c₃ c₄ _ n₁ n₂ n₃ n₄ h₄ h₃ h₂ h₁ _ _ ht ih =>
    cases h
    obtain ⟨w, rfl, hw⟩ := ih ht
    exact ⟨'\\' :: 'u' :: c₁ :: c₂ :: c₃ :: c₄ :: w, rfl, .unit h₁ h₂ h₃ h₄ hw⟩
  | case5 => cases h
  | case6 => cases h
  | case7 e _ _ c he _ _ ht ih =>
    cases h
    obtain ⟨w, rfl, hw⟩ := ih ht
    exact ⟨'\\' :: e :: w, rfl, .short he hw⟩
  | case8 => cases h
  | case9 => cases h
  | case10 c cs hq hend _ hmore hc _ _ ht ih =>
    cases h
    have hb : c ≠ '\\' := by
      intro hb
      cases cs with
      | nil => exact hend hb rfl
      | cons e _ => exact hmore e _ hb rfl
    obtain ⟨w, rfl, hw⟩ := ih ht
    exact ⟨c :: w, rfl, .plain hq hb hc hw⟩

theorem hexDigit?_lt {c : Char} {n : Nat} (h : hexDigit? c = some n) : n < 16 := by
  unfold hexDigit? at h
  simp only [Char.le_def, UInt32.le_iff_toNat_le] at h
  have hc : c.toNat = c.val.toNat := rfl
  have h9 : ('9' : Char).val.toNat = 57 := rfl
  have hf : ('f' : Char).val.toNat = 102 := rfl
  have hF : ('F' : Char).val.toNat = 70 := rfl
  have h0 : ('0' : Char).toNat = 48 := rfl
  have ha : ('a' : Char).toNat = 97 := rfl
  have hA : ('A' : Char).toNat = 65 := rfl
  split at h
  · cases h
    omega
  · split at h
    · cases h
      omega
    · split at h
      · cases h
        omega
      · cases h

theorem Quoting.unit_lt {ps : List Piece} {w : List Char} (h : Quoting ps w) :
    ∀ n, .unit n ∈ ps → n < 0x10000 := by
  induction h with
  | nil =>
    intro n hn
    cases hn
  | plain _ _ _ _ ih =>
    intro n hn
    cases hn with
    | tail _ hn => exact ih n hn
  | short _ _ ih =>
    intro n hn
    cases hn with
    | tail _ hn => exact ih n hn
  | unit h₁ h₂ h₃ h₄ _ ih =>
    intro n hn
    cases hn with
    | head =>
      have := hexDigit?_lt h₁
      have := hexDigit?_lt h₂
      have := hexDigit?_lt h₃
      have := hexDigit?_lt h₄
      omega
    | tail _ hn => exact ih n hn

theorem not_surrogate (c : Char) : isLowSurrogate c.toNat = false ∧ isHighSurrogate c.toNat = false := by
  have hc := c.valid
  have hn : c.toNat = c.val.toNat := rfl
  simp only [isLowSurrogate, isHighSurrogate, Bool.and_eq_false_iff, decide_eq_false_iff_not]
  rcases hc with hc | hc <;> omega

theorem pairChar_of_char {c : Char} (hc : 0x10000 ≤ c.toNat) :
    pairChar (0xD800 + (c.toNat - 0x10000) / 0x400) (0xDC00 + (c.toNat - 0x10000) % 0x400) = c := by
  have hn : 0x10000 + (0xD800 + (c.toNat - 0x10000) / 0x400 - 0xD800) * 0x400 +
      (0xDC00 + (c.toNat - 0x10000) % 0x400 - 0xDC00) = c.toNat := by omega
  rw [pairChar, hn, Char.ofNat_toNat]

theorem joinPieces_unit {n : Nat} {ps : List Piece} (hl : isLowSurrogate n = false)
    (hh : isHighSurrogate n = false) :
    joinPieces none (.unit n :: ps) = (joinPieces none ps).map (Char.ofNat n :: ·) := by
  conv => lhs; unfold joinPieces
  simp only [hl, hh, Bool.false_eq_true, if_false]

theorem joinPieces_pair {m n : Nat} {ps : List Piece} (hm : isHighSurrogate m = true)
    (hn : isLowSurrogate n = true) :
    joinPieces none (.unit m :: .unit n :: ps) = (joinPieces none ps).map (pairChar m n :: ·) := by
  have hm' : isLowSurrogate m = false := by
    simp only [isLowSurrogate, isHighSurrogate, Bool.and_eq_true, Bool.and_eq_false_iff,
      decide_eq_true_eq, decide_eq_false_iff_not] at hm ⊢
    omega
  conv => lhs; unfold joinPieces
  simp only [hm, hm', hn, Bool.false_eq_true, if_false, if_true]

/-- High and low surrogates differ. -/
theorem surrogates_of_char {c : Char} (hc : 0x10000 ≤ c.toNat) :
    isHighSurrogate (0xD800 + (c.toNat - 0x10000) / 0x400) = true ∧
      isLowSurrogate (0xDC00 + (c.toNat - 0x10000) % 0x400) = true := by
  have hv := c.valid
  have hn : c.toNat = c.val.toNat := rfl
  simp only [isLowSurrogate, isHighSurrogate, Bool.and_eq_true, decide_eq_true_eq]
  rcases hv with hv | hv <;> omega

theorem joinPieces_of_denotes {ps : List Piece} {cs : List Char} (h : Denotes ps cs) :
    joinPieces none ps = .ok cs := by
  induction h with
  | nil => rfl
  | char c _ ih =>
    rw [joinPieces, ih]
    rfl
  | @unit ps cs c hc _ ih =>
    obtain ⟨hl, hh⟩ := not_surrogate c
    rw [joinPieces_unit hl hh, ih, Char.ofNat_toNat]
    rfl
  | pair hc _ ih =>
    obtain ⟨hh, hl⟩ := surrogates_of_char hc
    rw [joinPieces_pair hh hl, ih, pairChar_of_char hc]
    rfl

theorem toNat_ofNat {n : Nat} (hn : n.isValidChar) : (Char.ofNat n).toNat = n := by
  rw [Char.ofNat, dif_pos hn]
  rfl

theorem toNat_ofNat_unit {n : Nat} (hn : n < 0x10000) (hl : isLowSurrogate n = false)
    (hh : isHighSurrogate n = false) : (Char.ofNat n).toNat = n := by
  simp only [isLowSurrogate, isHighSurrogate, Bool.and_eq_false_iff, decide_eq_false_iff_not]
    at hl hh
  refine toNat_ofNat ?_
  rw [Nat.isValidChar]
  omega

theorem toNat_pairChar {m n : Nat} (hm : isHighSurrogate m = true) (hn : isLowSurrogate n = true) :
    0x10000 ≤ (pairChar m n).toNat ∧ 0xD800 + ((pairChar m n).toNat - 0x10000) / 0x400 = m ∧
      0xDC00 + ((pairChar m n).toNat - 0x10000) % 0x400 = n := by
  simp only [isLowSurrogate, isHighSurrogate, Bool.and_eq_true, decide_eq_true_eq] at hm hn
  have hv : (0x10000 + (m - 0xD800) * 0x400 + (n - 0xDC00)).isValidChar := by
    rw [Nat.isValidChar]
    omega
  rw [pairChar, toNat_ofNat hv]
  omega

theorem denotes_of_joinPieces {ps : List Piece} {cs : List Char} (hu : ∀ n, .unit n ∈ ps → n < 0x10000)
    (h : joinPieces none ps = .ok cs) : Denotes ps cs := by
  fun_induction joinPieces none ps generalizing cs with
  | case1 => cases h
  | case2 =>
    cases h
    exact .nil
  | case3 c ps ih =>
    cases hj : joinPieces none ps with
    | error f => rw [hj] at h; cases h
    | ok ds =>
      rw [hj] at h
      cases h
      exact .char c (ih (fun n hn => hu n (List.mem_cons_of_mem _ hn)) hj)
  | case4 => cases h
  | case5 m _ hm n ps hn ih =>
    cases hj : joinPieces none ps with
    | error f => rw [hj] at h; cases h
    | ok ds =>
      rw [hj] at h
      cases h
      have hps := ih (fun k hk => hu k (List.mem_cons_of_mem _ (List.mem_cons_of_mem _ hk))) hj
      obtain ⟨hc, hhigh, hlow⟩ := toNat_pairChar hm hn
      have hpair := Denotes.pair hc hps
      rw [hhigh, hlow] at hpair
      exact hpair
  | case6 => cases h
  | case7 => cases h
  | case8 => cases h
  | case9 n ps hl hh ih =>
    cases hj : joinPieces none ps with
    | error f => rw [hj] at h; cases h
    | ok ds =>
      rw [hj] at h
      cases h
      have hn : n < 0x10000 := hu n List.mem_cons_self
      have hc := toNat_ofNat_unit hn (Bool.eq_false_iff.mpr hl) (Bool.eq_false_iff.mpr hh)
      have hps := ih (fun k hk => hu k (List.mem_cons_of_mem _ hk)) hj
      have hunit := Denotes.unit (hc ▸ hn) hps
      rw [hc] at hunit
      exact hunit

/-- The value of a text literal is what its pieces denote, if they denote anything. -/
theorem Quoting.value_iff {ps : List Piece} {w : List Char} (h : Quoting ps w) (s : String) :
    (joinPieces none ps).toOption.map String.ofList = some s ↔ Denotes ps s.toList := by
  constructor
  · intro hv
    cases hj : joinPieces none ps with
    | error f =>
      rw [hj] at hv
      cases hv
    | ok cs =>
      rw [hj] at hv
      cases hv
      rw [String.toList_ofList]
      exact denotes_of_joinPieces h.unit_lt hj
  · intro hd
    rw [joinPieces_of_denotes hd]
    simp [Except.toOption]

theorem Written.text_of_denotes {ps : List Piece} {w : List Char} {s : String} (hw : Quoting ps w)
    (hd : Denotes ps s.toList) : Written (.text (some s)) ('"' :: (w ++ ['"'])) := by
  refine .text hw fun t => ?_
  rw [← hw.value_iff, joinPieces_of_denotes hd]
  simp [Except.toOption]

/-! ## Numerals -/

/-- Whether a numeral can be continued by a character. -/
def goesOn (c : Char) : Bool := isDecimal c || c == '.' || c == 'e' || c == 'E'

theorem takeDigits_append {w rest : List Char} (hw : ∀ c ∈ w, isDecimal c = true)
    (hr : ∀ c ∈ rest.head?, isDecimal c = false) :
    takeDigits (w ++ rest) = (digits w, rest) := by
  induction w with
  | nil =>
    cases rest with
    | nil => rfl
    | cons c rest =>
      have hc : decimalDigit? c = none := by simpa [isDecimal] using hr c rfl
      simp only [List.nil_append, takeDigits, hc]
      rfl
  | cons c w ih =>
    obtain ⟨d, hd⟩ := Option.isSome_iff_exists.mp (hw c List.mem_cons_self)
    have hrest := ih fun x hx => hw x (List.mem_cons_of_mem _ hx)
    simp only [List.cons_append, takeDigits, hd, hrest, digits, List.filterMap_cons]

theorem eq_append_of_takeDigits {cs rest : List Char} {ds : List Nat}
    (h : takeDigits cs = (ds, rest)) : ∃ w, cs = w ++ rest ∧ (∀ c ∈ w, isDecimal c = true) ∧
      ds = digits w ∧ ∀ c ∈ rest.head?, isDecimal c = false := by
  induction cs generalizing ds with
  | nil =>
    cases h
    exact ⟨[], rfl, List.forall_mem_nil _, rfl, fun c hc => by cases hc⟩
  | cons c cs ih =>
    unfold takeDigits at h
    cases hd : decimalDigit? c with
    | none =>
      rw [hd] at h
      cases h
      refine ⟨[], rfl, List.forall_mem_nil _, rfl, fun x hx => ?_⟩
      cases hx
      rw [isDecimal, hd]
      rfl
    | some d =>
      rw [hd] at h
      cases h
      obtain ⟨w, hcs, hw, hds, hr⟩ := ih rfl
      refine ⟨c :: w, by rw [List.cons_append, ← hcs], ?_, ?_, hr⟩
      · exact List.forall_mem_cons.mpr ⟨by rw [isDecimal, hd]; rfl, hw⟩
      · rw [digits, List.filterMap_cons, hd, hds]
        rfl

theorem eq_zero_of_decimalDigit? {c : Char} (h : decimalDigit? c = some 0) : c = '0' := by
  unfold decimalDigit? at h
  split at h
  · rename_i hc
    simp only [Char.le_def, UInt32.le_iff_toNat_le] at hc
    have h0 : ('0' : Char).val.toNat = 48 := rfl
    have h0' : ('0' : Char).toNat = 48 := rfl
    have hn : c.toNat = c.val.toNat := rfl
    have hsub := Option.some.inj h
    exact Char.toNat_inj.mp (by omega)
  · cases h

theorem AreDigits.digits_cons {c : Char} {w : List Char} (h : AreDigits (c :: w)) :
    ∃ d, decimalDigit? c = some d ∧ digits (c :: w) = d :: digits w := by
  obtain ⟨d, hd⟩ := Option.isSome_iff_exists.mp (h.2 c List.mem_cons_self)
  exact ⟨d, hd, by simp only [digits, List.filterMap_cons, hd]⟩

theorem AreDigits.digits_ne_nil {w : List Char} (h : AreDigits w) : digits w ≠ [] := by
  cases w with
  | nil => exact absurd rfl h.1
  | cons c w =>
    obtain ⟨d, -, hd⟩ := h.digits_cons
    rw [hd]
    exact List.cons_ne_nil _ _

theorem AreDigits.of_digits_ne_nil {w : List Char} (hw : ∀ c ∈ w, isDecimal c = true)
    (h : digits w ≠ []) : AreDigits w := by
  refine ⟨?_, hw⟩
  rintro rfl
  exact h rfl

theorem takeWhole_append {w rest : List Char} (hw : AreDigits w)
    (hz : ∀ more, w = '0' :: more → more = []) (hr : ∀ c ∈ rest.head?, isDecimal c = false) :
    takeWhole (w ++ rest) = .ok (digits w, rest) := by
  rw [takeWhole, takeDigits_append hw.2 hr]
  cases w with
  | nil => exact absurd rfl hw.1
  | cons c w =>
    obtain ⟨d, hd, hds⟩ := hw.digits_cons
    rw [hds]
    cases d with
    | zero =>
      have hc := eq_zero_of_decimalDigit? hd
      subst hc
      rw [hz w rfl]
      rfl
    | succ d => rfl

theorem eq_append_of_takeWhole {cs rest : List Char} {ds : List Nat}
    (h : takeWhole cs = .ok (ds, rest)) : ∃ w, cs = w ++ rest ∧ AreDigits w ∧
      (∀ more, w = '0' :: more → more = []) ∧ ds = digits w ∧
      ∀ c ∈ rest.head?, isDecimal c = false := by
  unfold takeWhole at h
  rcases ht : takeDigits cs with ⟨es, rest'⟩
  obtain ⟨w, hcs, hw, hes, hr⟩ := eq_append_of_takeDigits ht
  rw [ht] at h
  split at h
  · cases h
  · cases h
  · rename_i hnil hzero heq
    cases heq
    cases h
    refine ⟨w, hcs, .of_digits_ne_nil hw ?_, ?_, hes, hr⟩
    · intro he
      rw [← hes] at he
      exact hnil he
    · -- a zero with more digits behind it has been refused
      rintro more rfl
      cases more with
      | nil => rfl
      | cons c more =>
        have hm := AreDigits.digits_cons ⟨List.cons_ne_nil c more, (List.forall_mem_cons.mp hw).2⟩
        obtain ⟨d, -, hd⟩ := hm
        have hds : digits ('0' :: c :: more) = 0 :: digits (c :: more) := rfl
        rw [hds, hd] at hes
        exact (hzero d (digits more) hes).elim

theorem takeOptionalFraction_append {f : Option (List Char)} {rest : List Char}
    (hf : ∀ cs ∈ f, AreDigits cs) (hr : ∀ c ∈ rest.head?, isDecimal c = false ∧ c ≠ '.') :
    takeOptionalFraction (fractionText f ++ rest) = .ok (f.map digits, rest) := by
  cases f with
  | none =>
    show takeOptionalFraction rest = _
    unfold takeOptionalFraction
    split
    · exact absurd rfl (hr '.' rfl).2
    · rfl
  | some w =>
    have hw := hf w rfl
    show takeOptionalFraction ('.' :: (w ++ rest)) = _
    rw [takeOptionalFraction, takeDigits_append hw.2 fun c hc => (hr c hc).1]
    split
    · rename_i heq
      exact absurd (Prod.ext_iff.mp heq).1 hw.digits_ne_nil
    · rename_i heq
      cases heq
      rfl

theorem eq_append_of_takeOptionalFraction {cs rest : List Char} {ds : Option (List Nat)}
    (h : takeOptionalFraction cs = .ok (ds, rest)) (hc : ∀ c ∈ cs.head?, isDecimal c = false) :
    ∃ f, cs = fractionText f ++ rest ∧ (∀ w ∈ f, AreDigits w) ∧ ds = f.map digits ∧
      ∀ c ∈ rest.head?, isDecimal c = false := by
  unfold takeOptionalFraction at h
  split at h
  · rename_i cs
    rcases ht : takeDigits cs with ⟨es, rest'⟩
    obtain ⟨w, hcs, hw, hes, hr⟩ := eq_append_of_takeDigits ht
    rw [ht] at h
    split at h
    · cases h
    · rename_i hnil heq
      cases heq
      cases h
      refine ⟨some w, by rw [fractionText, hcs]; rfl, ?_, by rw [hes]; rfl, hr⟩
      rintro _ ⟨⟩
      exact .of_digits_ne_nil hw fun he => hnil (hes.trans he)
  · cases h
    exact ⟨none, rfl, by simp, rfl, hc⟩

theorem not_sign_of_isDecimal {c : Char} (h : isDecimal c = true) : c ≠ '+' ∧ c ≠ '-' := by
  constructor
  · rintro rfl
    cases h
  · rintro rfl
    cases h

/-- The sign of an exponent, whether it is negative, and what follows. -/
def takeSign : List Char → Bool × List Char
  | '+' :: rest => (false, rest)
  | '-' :: rest => (true, rest)
  | rest => (false, rest)

theorem takeExponent_eq (cs : List Char) : takeExponent cs =
    match takeDigits (takeSign cs).2 with
    | ([], rest) => .error (missingDigit rest)
    | (ds, rest) => .ok (((takeSign cs).1, ds), rest) := rfl

theorem takeSign_append {sign : Option Char} {cs : List Char} (hs : ∀ s ∈ sign, s = '+' ∨ s = '-')
    (hc : ∀ c ∈ cs.head?, c ≠ '+' ∧ c ≠ '-') :
    takeSign (sign.toList ++ cs) = (sign == some '-', cs) := by
  cases sign with
  | none =>
    show takeSign cs = _
    unfold takeSign
    split
    · exact absurd rfl (hc '+' rfl).1
    · exact absurd rfl (hc '-' rfl).2
    · rfl
  | some s => rcases hs s rfl with rfl | rfl <;> rfl

theorem eq_append_of_takeSign (cs : List Char) : ∃ sign : Option Char,
    (∀ s ∈ sign, s = '+' ∨ s = '-') ∧ cs = sign.toList ++ (takeSign cs).2 ∧
      (takeSign cs).1 = (sign == some '-') := by
  unfold takeSign
  split
  · exact ⟨some '+', by simp, rfl, rfl⟩
  · exact ⟨some '-', by simp, rfl, rfl⟩
  · exact ⟨none, by simp, rfl, rfl⟩

theorem takeExponent_append {e : ExponentText} {rest : List Char} (he : e.Proper)
    (hr : ∀ c ∈ rest.head?, isDecimal c = false) :
    takeExponent (e.sign.toList ++ (e.digits ++ rest)) = .ok (e.value, rest) := by
  have hw : AreDigits e.digits := he.digits
  -- the first digit is not a sign
  have hc : ∀ c ∈ (e.digits ++ rest).head?, c ≠ '+' ∧ c ≠ '-' := by
    obtain ⟨d, w, hd⟩ := List.exists_cons_of_ne_nil hw.1
    intro c hc
    rw [hd] at hc
    cases hc
    exact not_sign_of_isDecimal (hw.2 d (hd ▸ List.mem_cons_self))
  rw [takeExponent_eq, takeSign_append he.sign hc, takeDigits_append hw.2 hr]
  split
  · rename_i heq
    exact absurd (Prod.ext_iff.mp heq).1 hw.digits_ne_nil
  · rename_i heq
    cases heq
    rfl

theorem eq_append_of_takeExponent {cs rest : List Char} {v : Bool × List Nat}
    (h : takeExponent cs = .ok (v, rest)) {letter : Char} (hl : letter = 'e' ∨ letter = 'E') :
    ∃ e : ExponentText, e.Proper ∧ letter :: cs = exponentText (some e) ++ rest ∧ v = e.value ∧
      ∀ c ∈ rest.head?, isDecimal c = false := by
  obtain ⟨sign, hs, hcs, hsign⟩ := eq_append_of_takeSign cs
  rcases ht : takeDigits (takeSign cs).2 with ⟨es, rest'⟩
  obtain ⟨w, hw', hw, hes, hr⟩ := eq_append_of_takeDigits ht
  rw [takeExponent_eq, ht] at h
  split at h
  · cases h
  · rename_i hnil heq
    cases heq
    cases h
    have hproper : AreDigits w := .of_digits_ne_nil hw fun he => hnil (hes.trans he)
    refine ⟨⟨letter, sign, w⟩, ⟨hl, hs, hproper⟩, ?_, by rw [hsign, hes]; rfl, hr⟩
    rw [hcs, hw']
    simp [exponentText]

theorem takeOptionalExponent_append {x : Option ExponentText} {rest : List Char}
    (hx : ∀ e ∈ x, e.Proper) (hr : ∀ c ∈ rest.head?, isDecimal c = false ∧ c ≠ 'e' ∧ c ≠ 'E') :
    takeOptionalExponent (exponentText x ++ rest) = .ok (x.map ExponentText.value, rest) := by
  cases x with
  | none =>
    show takeOptionalExponent rest = _
    unfold takeOptionalExponent
    split
    · exact absurd rfl (hr 'e' rfl).2.1
    · exact absurd rfl (hr 'E' rfl).2.2
    · rfl
  | some e =>
    have he := hx e rfl
    have ht := takeExponent_append he fun c hc => (hr c hc).1
    rw [exponentText, List.cons_append, List.append_assoc]
    rcases he.letter with hl | hl
    · rw [hl, takeOptionalExponent, ht]
      rfl
    · rw [hl, takeOptionalExponent, ht]
      rfl

theorem eq_append_of_takeOptionalExponent {cs rest : List Char} {v : Option (Bool × List Nat)}
    (h : takeOptionalExponent cs = .ok (v, rest)) (hc : ∀ c ∈ cs.head?, isDecimal c = false) :
    ∃ x : Option ExponentText, (∀ e ∈ x, e.Proper) ∧ cs = exponentText x ++ rest ∧
      v = x.map ExponentText.value ∧ ∀ c ∈ rest.head?, isDecimal c = false := by
  have hsome : ∀ {letter cs}, letter = 'e' ∨ letter = 'E' →
      (takeExponent cs).map (fun p => (some p.1, p.2)) = .ok (v, rest) →
      ∃ x : Option ExponentText, (∀ e ∈ x, e.Proper) ∧ letter :: cs = exponentText x ++ rest ∧
        v = x.map ExponentText.value ∧ ∀ c ∈ rest.head?, isDecimal c = false := by
    intro letter cs hl h
    rcases ht : takeExponent cs with f | ⟨u, rest'⟩
    · rw [ht] at h
      cases h
    · rw [ht] at h
      cases h
      obtain ⟨e, he, hcs, rfl, hr⟩ := eq_append_of_takeExponent ht hl
      exact ⟨some e, by simpa using he, hcs, rfl, hr⟩
  unfold takeOptionalExponent at h
  split at h
  · exact hsome (.inl rfl) h
  · exact hsome (.inr rfl) h
  · cases h
    exact ⟨none, by simp, rfl, rfl, hc⟩

theorem head?_append {a b : List Char} {P : Char → Prop} (ha : ∀ c ∈ a.head?, P c)
    (hb : ∀ c ∈ b.head?, P c) : ∀ c ∈ (a ++ b).head?, P c := by
  cases a with
  | nil => exact hb
  | cons c a => exact ha

theorem head?_fractionText (f : Option (List Char)) :
    ∀ c ∈ (fractionText f).head?, isDecimal c = false := by
  cases f with
  | none => exact fun c hc => by cases hc
  | some w =>
    intro c hc
    cases hc
    rfl

theorem head?_exponentText {x : Option ExponentText} (hx : ∀ e ∈ x, e.Proper) :
    ∀ c ∈ (exponentText x).head?, isDecimal c = false ∧ c ≠ '.' := by
  cases x with
  | none => exact fun c hc => by cases hc
  | some e =>
    intro c hc
    cases hc
    rcases (hx e rfl).letter with hl | hl
    · rw [hl]
      decide
    · rw [hl]
      decide

/-- A numeral is taken up to the first character that cannot continue it. -/
theorem takeNumeral_append {n : NumeralText} (hn : n.Proper) {rest : List Char}
    (hr : ∀ c ∈ rest.head?, goesOn c = false) :
    takeNumeral n.negative (n.unsigned ++ rest) = .ok (n.parts, rest) := by
  have hstop : ∀ c ∈ rest.head?, (isDecimal c = false ∧ c ≠ '.') ∧ c ≠ 'e' ∧ c ≠ 'E' := by
    intro c hc
    simpa [goesOn, and_assoc] using hr c hc
  have hexponent : ∀ c ∈ (exponentText n.exponent ++ rest).head?, isDecimal c = false ∧ c ≠ '.' :=
    head?_append (head?_exponentText hn.exponent) fun c hc => (hstop c hc).1
  have hfraction : ∀ c ∈ (fractionText n.fraction ++ (exponentText n.exponent ++ rest)).head?,
      isDecimal c = false :=
    head?_append (head?_fractionText _) fun c hc => (hexponent c hc).1
  rw [NumeralText.unsigned, List.append_assoc, List.append_assoc, takeNumeral,
    takeWhole_append hn.whole hn.leading hfraction]
  simp only [bind, Except.bind]
  rw [takeOptionalFraction_append hn.fraction hexponent]
  simp only
  rw [takeOptionalExponent_append hn.exponent fun c hc => ⟨(hstop c hc).1.1, (hstop c hc).2⟩]
  simp [NumeralText.parts, Function.comp_def]

theorem eq_append_of_takeNumeral {negative : Bool} {cs rest : List Char} {p : NumeralParts}
    (h : takeNumeral negative cs = .ok (p, rest)) : ∃ n : NumeralText, n.Proper ∧
      n.negative = negative ∧ cs = n.unsigned ++ rest ∧ p = n.parts ∧
      ∀ c ∈ rest.head?, isDecimal c = false := by
  unfold takeNumeral at h
  rcases hw : takeWhole cs with f | ⟨ds, rest₁⟩
  · rw [hw] at h
    cases h
  obtain ⟨w, hcs, hwhole, hlead, hds, hr₁⟩ := eq_append_of_takeWhole hw
  rcases hf : takeOptionalFraction rest₁ with f | ⟨fs, rest₂⟩
  · rw [hw] at h
    simp only [bind, Except.bind, hf] at h
    cases h
  obtain ⟨f, hrest₁, hfraction, hfs, hr₂⟩ := eq_append_of_takeOptionalFraction hf hr₁
  rcases hx : takeOptionalExponent rest₂ with e | ⟨es, rest₃⟩
  · rw [hw] at h
    simp only [bind, Except.bind, hf, hx] at h
    cases h
  obtain ⟨x, hexponent, hrest₂, hes, hr₃⟩ := eq_append_of_takeOptionalExponent hx hr₂
  rw [hw] at h
  simp only [bind, Except.bind, hf, hx] at h
  cases h
  refine ⟨⟨negative, w, f, x⟩, ⟨hwhole, hlead, hfraction, hexponent⟩, rfl, ?_, ?_, hr₃⟩
  · rw [hcs, hrest₁, hrest₂, NumeralText.unsigned, List.append_assoc, List.append_assoc]
  · rw [hds, hfs, hes]
    simp [NumeralText.parts]

/-! ## Lexemes -/

theorem NumeralText.Proper.text_eq_cons {n : NumeralText} (hn : n.Proper) :
    ∃ c v, n.text = c :: v ∧ (c = '-' ∧ n.negative = true ∧ v = n.unsigned ∨
      isDecimal c = true ∧ n.negative = false ∧ c :: v = n.unsigned) := by
  cases hneg : n.negative with
  | true => exact ⟨'-', n.unsigned, by rw [text, hneg]; rfl, .inl ⟨rfl, rfl, rfl⟩⟩
  | false =>
    have ht : n.text = n.unsigned := by rw [text, hneg]; rfl
    obtain ⟨c, w, hw⟩ := List.exists_cons_of_ne_nil hn.whole.1
    refine ⟨c, w ++ (fractionText n.fraction ++ exponentText n.exponent), ?_, .inr ⟨?_, rfl, ?_⟩⟩
    · rw [ht, unsigned, hw]
      rfl
    · exact hn.whole.2 c (hw ▸ List.mem_cons_self)
    · rw [unsigned, hw]
      rfl

theorem takeLexeme_of_isDecimal {c : Char} (hc : isDecimal c = true) (rest : List Char) :
    takeLexeme c rest = takeNumber false (c :: rest) := by
  unfold takeLexeme
  split
  all_goals first
    | cases hc
    | exact if_pos hc

/-- A written lexeme is taken, and what follows is left. -/
theorem Written.take {l : Lexeme} {w : List Char} (h : Written l w) {rest : List Char}
    (hr : l.isNumber = true → ∀ c ∈ rest.head?, goesOn c = false) :
    ∃ c v, w = c :: v ∧ takeLexeme c (v ++ rest) = (l, some rest) := by
  cases h with
  | openBrace => exact ⟨_, _, rfl, rfl⟩
  | closeBrace => exact ⟨_, _, rfl, rfl⟩
  | openBracket => exact ⟨_, _, rfl, rfl⟩
  | closeBracket => exact ⟨_, _, rfl, rfl⟩
  | colon => exact ⟨_, _, rfl, rfl⟩
  | comma => exact ⟨_, _, rfl, rfl⟩
  | null => exact ⟨_, _, rfl, rfl⟩
  | yes => exact ⟨_, _, rfl, rfl⟩
  | no => exact ⟨_, _, rfl, rfl⟩
  | @number n hn =>
    have ht := takeNumeral_append hn (hr rfl)
    obtain ⟨c, v, hw, ⟨rfl, hneg, hv⟩ | ⟨hc, hneg, hv⟩⟩ := hn.text_eq_cons
    · refine ⟨_, v, hw, ?_⟩
      show takeNumber true (v ++ rest) = _
      rw [hneg] at ht
      rw [takeNumber, hv, ht]
    · refine ⟨c, v, hw, ?_⟩
      rw [hneg] at ht
      rw [takeLexeme_of_isDecimal hc, takeNumber, ← List.cons_append, hv, ht]
  | @text ps w value hw hv =>
    have hvalue : (joinPieces none ps).toOption.map String.ofList = value :=
      Option.ext fun s => (hw.value_iff s).trans (hv s).symm
    refine ⟨'"', w ++ ['"'], rfl, ?_⟩
    have ht := hw.take rest
    rw [List.append_assoc]
    simp only [takeLexeme, List.cons_append, List.nil_append, ht, hvalue]

theorem takeLetters_eq_ok {letters cs rest : List Char} :
    takeLetters letters cs = .ok rest ↔ cs = letters ++ rest := by
  induction letters generalizing cs with
  | nil => simp [takeLetters]
  | cons e es ih =>
    cases cs with
    | nil => simp [takeLetters]
    | cons c cs =>
      by_cases he : e = c
      · simp [takeLetters, he, ih]
      · simp [takeLetters, he, Ne.symm he]

theorem eq_append_of_takeWord {l k : Lexeme} {letters cs : List Char} {r : Option (List Char)}
    (h : takeWord l letters cs = (k, r)) (hk : k.isBroken = false) :
    k = l ∧ ∃ rest, r = some rest ∧ cs = letters ++ rest := by
  unfold takeWord at h
  split at h
  · rename_i rest ht
    cases h
    exact ⟨rfl, rest, rfl, takeLetters_eq_ok.mp ht⟩
  · cases h
    cases hk

theorem eq_append_of_takeNumber {negative : Bool} {k : Lexeme} {cs : List Char}
    {r : Option (List Char)} (h : takeNumber negative cs = (k, r)) (hk : k.isBroken = false) :
    ∃ (n : NumeralText) (rest : List Char), n.Proper ∧ n.negative = negative ∧
      k = .number n.parts.value? ∧ r = some rest ∧ cs = n.unsigned ++ rest ∧
      ∀ c ∈ rest.head?, isDecimal c = false := by
  unfold takeNumber at h
  split at h
  · rename_i p rest ht
    cases h
    obtain ⟨n, hn, hneg, hcs, rfl, hr⟩ := eq_append_of_takeNumeral ht
    exact ⟨n, rest, hn, hneg, rfl, rfl, hcs, hr⟩
  · cases h
    cases hk

/-- A lexeme that is taken is written there, unless the text goes wrong. -/
theorem written_of_takeLexeme {c : Char} {cs : List Char} {l : Lexeme} {r : Option (List Char)}
    (h : takeLexeme c cs = (l, r)) (hl : l.isBroken = false) : ∃ w rest, c :: cs = w ++ rest ∧
      Written l w ∧ r = some rest ∧ (l.isNumber = true → ∀ c ∈ rest.head?, isDecimal c = false) := by
  unfold takeLexeme at h
  split at h
  · cases h
    exact ⟨_, _, rfl, .openBrace, rfl, nofun⟩
  · cases h
    exact ⟨_, _, rfl, .closeBrace, rfl, nofun⟩
  · cases h
    exact ⟨_, _, rfl, .openBracket, rfl, nofun⟩
  · cases h
    exact ⟨_, _, rfl, .closeBracket, rfl, nofun⟩
  · cases h
    exact ⟨_, _, rfl, .colon, rfl, nofun⟩
  · cases h
    exact ⟨_, _, rfl, .comma, rfl, nofun⟩
  · obtain ⟨rfl, rest, rfl, rfl⟩ := eq_append_of_takeWord h hl
    exact ⟨_, rest, rfl, .null, rfl, nofun⟩
  · obtain ⟨rfl, rest, rfl, rfl⟩ := eq_append_of_takeWord h hl
    exact ⟨_, rest, rfl, .yes, rfl, nofun⟩
  · obtain ⟨rfl, rest, rfl, rfl⟩ := eq_append_of_takeWord h hl
    exact ⟨_, rest, rfl, .no, rfl, nofun⟩
  · split at h
    · rename_i ps rest ht
      cases h
      obtain ⟨w, rfl, hw⟩ := quoting_of_take ht
      refine ⟨'"' :: (w ++ ['"']), rest, ?_, .text hw hw.value_iff, rfl, nofun⟩
      rw [List.cons_append, List.append_assoc]
      rfl
    · cases h
      cases hl
  · obtain ⟨n, rest, hn, hneg, rfl, rfl, rfl, hr⟩ := eq_append_of_takeNumber h hl
    refine ⟨n.text, rest, ?_, .number hn, rfl, fun _ => hr⟩
    rw [NumeralText.text, hneg]
    rfl
  · split at h
    · obtain ⟨n, rest, hn, hneg, rfl, rfl, hcs, hr⟩ := eq_append_of_takeNumber h hl
      refine ⟨n.text, rest, ?_, .number hn, rfl, fun _ => hr⟩
      rw [hcs, NumeralText.text, hneg]
      rfl
    · cases h
      cases hl

theorem isSpace_of_isDecimal {c : Char} (h : isDecimal c = true) : isSpace c = false := by
  rw [Bool.eq_false_iff]
  intro hs
  simp only [isSpace, Bool.or_eq_true, beq_iff_eq] at hs
  rcases hs with ((rfl | rfl) | rfl) | rfl <;> cases h

theorem goesOn_of_isSpace {c : Char} (h : isSpace c = true) : goesOn c = false := by
  simp only [isSpace, Bool.or_eq_true, beq_iff_eq] at h
  rcases h with ((rfl | rfl) | rfl) | rfl <;> rfl

theorem Written.head {l : Lexeme} {w : List Char} (h : Written l w) :
    ∃ c v, w = c :: v ∧ isSpace c = false ∧ goesOn c = isDecimal c := by
  cases h with
  | number hn =>
    obtain ⟨c, v, hw, ⟨rfl, -⟩ | ⟨hc, -⟩⟩ := hn.text_eq_cons
    · exact ⟨_, v, hw, rfl, rfl⟩
    · exact ⟨c, v, hw, isSpace_of_isDecimal hc, by simp [goesOn, hc]⟩
  | _ => exact ⟨_, _, rfl, rfl, rfl⟩

/-- Written lexemes continue no numeral, unless they begin with a digit. -/
theorem Writes.head {ls : List Lexeme} {cs : List Char} (h : Writes ls cs) :
    ∀ c ∈ cs.head?, goesOn c = isDecimal c := by
  have hspace : ∀ spaces : List Char, (∀ c ∈ spaces, isSpace c = true) →
      ∀ c ∈ spaces.head?, goesOn c = isDecimal c := by
    intro spaces hs c hc
    have hc := hs c (List.mem_of_mem_head? hc)
    rw [goesOn_of_isSpace hc, eq_comm, Bool.eq_false_iff]
    intro hd
    rw [isSpace_of_isDecimal hd] at hc
    cases hc
  cases h with
  | nil hs => exact hspace _ hs
  | cons spaces hs hl _ _ =>
    obtain ⟨c, v, rfl, -, hc⟩ := hl.head
    refine head?_append (hspace _ hs) ?_
    rintro _ ⟨⟩
    exact hc

/-! ## Texts written for lexemes -/

theorem Written.isBroken_eq_false {l : Lexeme} {w : List Char} (h : Written l w) :
    l.isBroken = false := by
  cases h <;> rfl

/-- Written lexemes are cut off again. -/
theorem Writes.lexemesUpTo_eq {ls : List Lexeme} {cs : List Char} (h : Writes ls cs) {fuel : Nat}
    (hf : cs.length ≤ fuel) : lexemesUpTo fuel cs = ls := by
  induction h generalizing fuel with
  | nil hs =>
    cases fuel with
    | zero => rfl
    | succ fuel => rw [lexemesUpTo, List.dropWhile_eq_nil_iff.mpr hs]
  | @cons l ls w rest spaces hs hl hr hn ih =>
    have hstop : l.isNumber = true → ∀ c ∈ rest.head?, goesOn c = false := fun hl c hc =>
      (hr.head c hc).trans (hn hl c hc)
    obtain ⟨c, v, rfl, hspace, -⟩ := hl.head
    obtain ⟨_, _, hcv, ht⟩ := hl.take hstop
    cases hcv
    rw [List.length_append, List.length_append, List.length_cons] at hf
    obtain ⟨fuel, rfl⟩ := Nat.exists_eq_succ_of_ne_zero (by omega : fuel ≠ 0)
    have hdrop : (spaces ++ (c :: v ++ rest)).dropWhile isSpace = c :: (v ++ rest) := by
      rw [List.dropWhile_append_of_pos hs, List.cons_append, List.dropWhile_cons, hspace]
      rfl
    rw [lexemesUpTo, hdrop]
    simp only [ht, ih (show rest.length ≤ fuel by omega)]

theorem Writes.isBroken_eq_false {ls : List Lexeme} {cs : List Char} (h : Writes ls cs) :
    ∀ l ∈ ls, l.isBroken = false := by
  induction h with
  | nil => exact List.forall_mem_nil _
  | cons _ _ hl _ _ ih => exact List.forall_mem_cons.mpr ⟨hl.isBroken_eq_false, ih⟩

theorem writes_of_lexemesUpTo {fuel : Nat} {cs : List Char} (hf : cs.length ≤ fuel)
    (h : ∀ l ∈ lexemesUpTo fuel cs, l.isBroken = false) : Writes (lexemesUpTo fuel cs) cs := by
  induction fuel generalizing cs with
  | zero =>
    rw [List.eq_nil_of_length_eq_zero (Nat.le_zero.mp hf)]
    exact .nil (List.forall_mem_nil _)
  | succ fuel ih =>
    have hs : ∀ c ∈ cs.takeWhile isSpace, isSpace c = true := fun c hc => List.mem_takeWhile_imp hc
    have hcs := List.takeWhile_append_dropWhile (p := isSpace) (l := cs)
    unfold lexemesUpTo at h ⊢
    cases hd : cs.dropWhile isSpace with
    | nil =>
      rw [hd, List.append_nil] at hcs
      rw [hcs] at hs
      exact .nil hs
    | cons c rest =>
      rw [hd] at h hcs
      rcases ht : takeLexeme c rest with ⟨l, r⟩
      simp only [ht] at h ⊢
      have hl : l.isBroken = false := by cases r <;> exact h l List.mem_cons_self
      obtain ⟨w, rest', hw, hwritten, rfl, hn⟩ := written_of_takeLexeme ht hl
      have hlength : rest'.length ≤ fuel := by
        obtain ⟨d, v, rfl, -⟩ := hwritten.head
        have := congrArg List.length hw
        have := congrArg List.length hcs
        simp only [List.length_append, List.length_cons] at *
        omega
      rw [← hcs, hw]
      exact .cons _ hs hwritten (ih hlength fun k hk => h k (List.mem_cons_of_mem _ hk)) hn

/-- A text is written for lexemes if and only if it is cut into them, and none of them is broken. -/
theorem writes_iff_lexemes {s : String} {ls : List Lexeme} :
    Writes ls s.toList ↔ lexemes s = ls ∧ ∀ l ∈ ls, l.isBroken = false := by
  constructor
  · intro h
    exact ⟨h.lexemesUpTo_eq (Nat.le_refl _), h.isBroken_eq_false⟩
  · rintro ⟨rfl, h⟩
    exact writes_of_lexemesUpTo (Nat.le_refl _) h

/-- A lexeme other than a numeral can be written before any text that is written for lexemes. -/
theorem Writes.lexeme {l : Lexeme} {ls : List Lexeme} {w rest : List Char} (hl : Written l w)
    (hr : Writes ls rest) (hn : l.isNumber = false) : Writes (l :: ls) (w ++ rest) :=
  .cons [] (List.forall_mem_nil _) hl hr fun hl => absurd hl (Bool.eq_false_iff.mp hn)

theorem Writes.spaces {ls : List Lexeme} {cs spaces : List Char}
    (hs : ∀ c ∈ spaces, isSpace c = true) (h : Writes ls cs) : Writes ls (spaces ++ cs) := by
  cases h with
  | nil hs' => exact .nil (List.forall_mem_append.mpr ⟨hs, hs'⟩)
  | cons spaces' hs' hl hr hn =>
    rw [← List.append_assoc]
    exact .cons _ (List.forall_mem_append.mpr ⟨hs, hs'⟩) hl hr hn

/-- Two written texts can be concatenated, unless digits would meet. -/
theorem Writes.append {ks ls : List Lexeme} {cs ds : List Char} (hc : Writes ks cs)
    (hd : Writes ls ds) (hn : ∀ c ∈ ds.head?, isDecimal c = false) :
    Writes (ks ++ ls) (cs ++ ds) := by
  induction hc with
  | nil hs => exact hd.spaces hs
  | cons spaces hs hl _ hn' ih =>
    rw [List.append_assoc, List.append_assoc]
    exact .cons spaces hs hl ih fun hl => head?_append (hn' hl) hn

end FeatureFlags.Json
