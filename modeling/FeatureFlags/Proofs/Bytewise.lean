import FeatureFlags.Proofs.Scanning

/-!
# Scanning by bytes

`Text.scan?` is a scanner that keeps only the number of bytes before it, looks at single bytes, and
slices the text at such numbers to get characters. A slice fails beyond the end of the text and
within a character.

From a position on a character boundary it finds what `Scanner.next` finds and ends at the same
position (`Text.scan?_eq`). This holds because all bytes of a non-ASCII character are above the
ASCII range, so a run of ASCII bytes ends on a boundary (`Text.takeWhile_utf8`).
-/

namespace FeatureFlags

namespace Text

def utf8 (cs : List Char) : List UInt8 := cs.flatMap String.utf8EncodeChar

/-- A text split after a number of bytes; none beyond its end and within a character. -/
def cut? : List Char → Nat → Option (List Char × List Char)
  | cs, 0 => some ([], cs)
  | [], _ + 1 => none
  | c :: rest, n + 1 =>
    if c.utf8Size ≤ n + 1 then (cut? rest (n + 1 - c.utf8Size)).map fun p => (c :: p.1, p.2) else none

/-- The text between two positions. -/
def between? (cs : List Char) (start stop : Nat) : Option (List Char) := do
  let (before, _) ← cut? cs stop
  let (_, between) ← cut? before start
  pure between

/-- Whether a byte is an ASCII character of a kind. -/
def isByteOf (p : Char → Bool) (b : UInt8) : Bool := b < 128 && p (Char.ofUInt8 b)

/-- The position after the bytes of a kind that stand at a position. -/
def skip (p : Char → Bool) (bytes : List UInt8) (position : Nat) : Nat :=
  position + ((bytes.drop position).takeWhile (isByteOf p)).length

/-- The position after digits, a point, and digits. -/
def unsignedStop (bytes : List UInt8) (position : Nat) : Nat :=
  let point := skip isDigit bytes position
  if bytes[point]? = some '.'.toUInt8 then skip isDigit bytes (point + 1) else point

/-- The position after a number, which can begin with a sign. -/
def numberStop (bytes : List UInt8) (position : Nat) : Nat :=
  unsignedStop bytes (if bytes[position]? = some '-'.toUInt8 then position + 1 else position)

/-- The text literal whose opening quote is at a position. -/
def textAt? (text : List Char) (start : Nat) : Option (Scan × Nat) :=
  (cut? text (start + 1)).map fun p =>
    match TextLiteral.take? p.2 with
    | some (literal, _) =>
      (.token ⟨.text (String.ofList literal.content), start⟩, start + 1 + byteLength literal.written)
    | none => (.error (.unterminatedText start), start + 1)

def numberAt? (text : List Char) (start : Nat) : Option (Scan × Nat) :=
  let stop := numberStop (utf8 text) start
  (between? text start stop).map fun literal =>
    match (NumberLiteral.take literal).1.value? with
    | some x => (.token ⟨.number x, start⟩, stop)
    | none => (.error (.invalidNumber (String.ofList literal) start), stop)

def wordAt? (text : List Char) (start : Nat) : Option (Scan × Nat) :=
  let stop := skip isWordRest (utf8 text) start
  (between? text start stop).map fun word => (.token ⟨.ofWord (String.ofList word), start⟩, stop)

/-- The token at a position, and the position after it. -/
def scanAt? (text : List Char) (start : Nat) : Option (Scan × Nat) :=
  match (utf8 text)[start]? with
  | none => some (.finished, start)
  | some b =>
    if b = '('.toUInt8 then some (.token ⟨.openParen, start⟩, start + 1)
    else if b = ')'.toUInt8 then some (.token ⟨.closeParen, start⟩, start + 1)
    else if b = ','.toUInt8 then some (.token ⟨.comma, start⟩, start + 1)
    else if b = '"'.toUInt8 then textAt? text start
    else if isByteOf (fun c => c == '-' || isDigit c) b then numberAt? text start
    else if isByteOf isWordStart b then wordAt? text start
    else
      -- without a character at the position it would be U+FFFD
      (cut? text start).map fun p =>
        (.error (.unexpectedCharacter (p.2.head?.getD '\uFFFD') start), start)

/-- The next token from a position on, and the position after it; none if a slice fails. -/
def scan? (text : List Char) (position : Nat) : Option (Scan × Nat) :=
  scanAt? text (skip isBlank (utf8 text) position)

/-! ## Characters and their bytes -/

theorem utf8_cons (c : Char) (cs : List Char) : utf8 (c :: cs) = String.utf8EncodeChar c ++ utf8 cs :=
  List.flatMap_cons

@[simp] theorem utf8_append (cs ds : List Char) : utf8 (cs ++ ds) = utf8 cs ++ utf8 ds :=
  List.flatMap_append

@[simp] theorem length_utf8 (cs : List Char) : (utf8 cs).length = byteLength cs := by
  induction cs with
  | nil => rfl
  | cons c rest ih =>
    rw [utf8_cons, List.length_append, String.length_utf8EncodeChar, ih, byteLength]

theorem utf8EncodeChar_ascii {c : Char} (h : c.toNat < 128) : String.utf8EncodeChar c = [c.toUInt8] := by
  have hv : c.val.toNat ≤ 127 := Nat.le_of_lt_succ h
  simp only [String.utf8EncodeChar, hv, if_true]
  rfl

theorem toNat_toUInt8 {c : Char} (h : c.toNat < 128) : c.toUInt8.toNat = c.toNat := by
  have hm : c.toUInt8.toNat = c.toNat % 256 := UInt32.toNat_toUInt8 c.val
  omega

theorem ofUInt8_toUInt8 {c : Char} (h : c.toNat < 128) : Char.ofUInt8 c.toUInt8 = c := by
  apply Char.ext
  apply UInt32.toNat_inj.mp
  calc (Char.ofUInt8 c.toUInt8).val.toNat
      = c.toUInt8.toNat := UInt8.toNat_toUInt32 _
    _ = c.toNat := toNat_toUInt8 h

theorem utf8EncodeChar_other {c : Char} (h : 128 ≤ c.toNat) :
    ∃ b bs, String.utf8EncodeChar c = b :: bs ∧ 128 ≤ b.toNat := by
  have hv : ¬c.val.toNat ≤ 127 := Nat.not_le.mpr h
  simp only [String.utf8EncodeChar, hv, if_false]
  split
  · refine ⟨_, _, rfl, ?_⟩
    rw [UInt8.toNat_ofNat']
    omega
  · split
    · refine ⟨_, _, rfl, ?_⟩
      rw [UInt8.toNat_ofNat']
      omega
    · refine ⟨_, _, rfl, ?_⟩
      rw [UInt8.toNat_ofNat']
      omega

/-- Whether all characters of a kind are ASCII. -/
def Ascii (p : Char → Bool) : Prop := ∀ c, p c = true → c.toNat < 128

theorem isByteOf_of_le {p : Char → Bool} {b : UInt8} (h : 128 ≤ b.toNat) : isByteOf p b = false := by
  have hb : ¬b < 128 := by
    rw [UInt8.lt_iff_toNat_lt]
    exact Nat.not_lt.mpr h
  simp [isByteOf, hb]

theorem isByteOf_toUInt8 {p : Char → Bool} {c : Char} (h : c.toNat < 128) :
    isByteOf p c.toUInt8 = p c := by
  have hb : c.toUInt8 < 128 := by
    rw [UInt8.lt_iff_toNat_lt, toNat_toUInt8 h]
    exact h
  simp [isByteOf, hb, ofUInt8_toUInt8 h]

/-- The first byte of a character determines whether it is ASCII, and its kind. -/
theorem first_byte (c : Char) :
    ∃ b bs, String.utf8EncodeChar c = b :: bs ∧ (∀ p, Ascii p → isByteOf p b = p c) ∧
      ∀ d : Char, d.toNat < 128 → (b = d.toUInt8 ↔ c = d) := by
  by_cases h : c.toNat < 128
  · refine ⟨c.toUInt8, [], utf8EncodeChar_ascii h, fun p _ => isByteOf_toUInt8 h, ?_⟩
    intro d hd
    constructor
    · intro hcd
      rw [← ofUInt8_toUInt8 h, ← ofUInt8_toUInt8 hd, hcd]
    · rintro rfl
      rfl
  · obtain ⟨b, bs, hc, hb⟩ := utf8EncodeChar_other (Nat.not_lt.mp h)
    refine ⟨b, bs, hc, fun p hp => ?_, fun d hd => ?_⟩
    · rw [isByteOf_of_le hb]
      cases hpc : p c with
      | false => rfl
      | true => exact absurd (hp c hpc) h
    · constructor
      · rintro rfl
        rw [toNat_toUInt8 hd] at hb
        omega
      · rintro rfl
        exact absurd hd h

/-- The longest run of bytes of an ASCII kind encodes the longest run of characters of this kind. -/
theorem takeWhile_utf8 {p : Char → Bool} (hp : Ascii p) (cs : List Char) :
    (utf8 cs).takeWhile (isByteOf p) = utf8 (cs.takeWhile p) := by
  induction cs with
  | nil => rfl
  | cons c rest ih =>
    rw [utf8_cons, List.takeWhile_cons]
    obtain ⟨b, bs, hb, hk, -⟩ := first_byte c
    cases hpc : p c with
    | false =>
      have hbp : isByteOf p b = false := by rw [hk p hp, hpc]
      rw [hb, List.cons_append, List.takeWhile_cons, hbp]
      rfl
    | true =>
      have hone := utf8EncodeChar_ascii (hp c hpc)
      have hbp : isByteOf p c.toUInt8 = true := by rw [isByteOf_toUInt8 (hp c hpc), hpc]
      rw [hone, List.singleton_append, List.takeWhile_cons, hbp, if_pos rfl, if_pos rfl, ih, utf8_cons,
        hone, List.singleton_append]

/-! ## Character boundaries -/

theorem byteLength_pos {cs : List Char} (h : cs ≠ []) : 0 < byteLength cs := by
  cases cs with
  | nil => exact absurd rfl h
  | cons c rest => exact Nat.add_pos_left c.utf8Size_pos _

theorem cut?_append (front rest : List Char) :
    cut? (front ++ rest) (byteLength front) = some (front, rest) := by
  induction front with
  | nil => cases rest <;> rfl
  | cons c front ih =>
    obtain ⟨n, hn⟩ : ∃ n, byteLength (c :: front) = n + 1 :=
      Nat.exists_eq_succ_of_ne_zero (byteLength_pos (List.cons_ne_nil c front)).ne'
    have hle : c.utf8Size ≤ n + 1 := by rw [← hn, byteLength]; omega
    have hsub : n + 1 - c.utf8Size = byteLength front := by rw [← hn, byteLength]; omega
    rw [hn, List.cons_append, cut?, if_pos hle, hsub, ih]
    rfl

theorem between?_of_split {text front taken rest : List Char} (h : text = front ++ taken ++ rest) :
    between? text (byteLength front) (byteLength (front ++ taken)) = some taken := by
  have hafter := cut?_append (front ++ taken) rest
  have hbefore := cut?_append front taken
  simp only [h, between?, hafter, hbefore, Option.bind_eq_bind, Option.bind_some, Option.pure_def]

theorem drop_utf8 (front rest : List Char) :
    (utf8 (front ++ rest)).drop (byteLength front) = utf8 rest := by
  rw [utf8_append, ← length_utf8, List.drop_left]

theorem skip_append {p : Char → Bool} (hp : Ascii p) (front rest : List Char) :
    skip p (utf8 (front ++ rest)) (byteLength front) = byteLength (front ++ rest.takeWhile p) := by
  rw [skip, drop_utf8, takeWhile_utf8 hp, length_utf8, byteLength_append]

theorem getElem?_utf8 (front rest : List Char) :
    (utf8 (front ++ rest))[byteLength front]? = (utf8 rest).head? := by
  rw [← drop_utf8 front rest, List.head?_drop]

theorem getElem?_utf8_eq {d : Char} (hd : d.toNat < 128) (front rest : List Char) :
    (utf8 (front ++ rest))[byteLength front]? = some d.toUInt8 ↔ rest.head? = some d := by
  rw [getElem?_utf8]
  cases rest with
  | nil => simp [utf8]
  | cons c rest =>
    obtain ⟨b, bs, hb, -, heq⟩ := first_byte c
    rw [utf8_cons, hb, List.cons_append, List.head?_cons, List.head?_cons, Option.some.injEq,
      Option.some.injEq, heq d hd]

/-! ## The kinds of characters -/

theorem ascii_of_le {c d : Char} (h : c ≤ d) (hd : d.toNat < 128) : c.toNat < 128 :=
  Nat.lt_of_le_of_lt (UInt32.le_iff_toNat_le.mp h) hd

theorem ascii_isBlank : Ascii isBlank := by
  intro c hc
  simp only [isBlank, Bool.or_eq_true, beq_iff_eq] at hc
  rcases hc with ((rfl | rfl) | rfl) | rfl <;> decide

theorem ascii_isDigit : Ascii isDigit := by
  intro c hc
  simp only [isDigit, Bool.and_eq_true, decide_eq_true_eq] at hc
  exact ascii_of_le hc.2 (by decide)

theorem ascii_numberStart : Ascii fun c => c == '-' || isDigit c := by
  intro c hc
  rcases Bool.or_eq_true_iff.mp hc with h | h
  · rw [beq_iff_eq.mp h]
    decide
  · exact ascii_isDigit c h

theorem ascii_isWordStart : Ascii isWordStart := by
  intro c hc
  simp only [isWordStart, Bool.or_eq_true, Bool.and_eq_true, decide_eq_true_eq, beq_iff_eq] at hc
  rcases hc with (⟨-, h⟩ | ⟨-, h⟩) | rfl
  · exact ascii_of_le h (by decide)
  · exact ascii_of_le h (by decide)
  · decide

theorem ascii_isWordRest : Ascii isWordRest := by
  intro c hc
  simp only [isWordRest, Bool.or_eq_true, beq_iff_eq] at hc
  rcases hc with (h | h) | rfl
  · exact ascii_isWordStart c h
  · exact ascii_isDigit c h
  · decide

/-! ## Numbers -/

theorem text_takeUnsigned_true (cs : List Char) :
    (NumberLiteral.takeUnsigned true cs).1.text = '-' :: (NumberLiteral.takeUnsigned false cs).1.text := by
  unfold NumberLiteral.takeUnsigned
  split <;> rfl

theorem unsignedStop_append (front cs : List Char) :
    unsignedStop (utf8 (front ++ cs)) (byteLength front) =
      byteLength (front ++ (NumberLiteral.takeUnsigned false cs).1.text) := by
  have hcut : front ++ cs = front ++ cs.takeWhile isDigit ++ cs.dropWhile isDigit := by
    rw [List.append_assoc, List.takeWhile_append_dropWhile]
  have hpoint : skip isDigit (utf8 (front ++ cs)) (byteLength front) =
      byteLength (front ++ cs.takeWhile isDigit) := skip_append ascii_isDigit front cs
  have hbyte := getElem?_utf8_eq (d := '.') (by decide) (front ++ cs.takeWhile isDigit)
    (cs.dropWhile isDigit)
  rw [← hcut] at hbyte
  simp only [unsignedStop, hpoint, hbyte]
  by_cases h : (cs.dropWhile isDigit).head? = some '.'
  · obtain ⟨r, hr⟩ := List.head?_eq_some_iff.mp h
    have hone : byteLength (front ++ cs.takeWhile isDigit) + 1 =
        byteLength (front ++ cs.takeWhile isDigit ++ ['.']) := (byteLength_append _ ['.']).symm
    have htext : front ++ cs = front ++ cs.takeWhile isDigit ++ ['.'] ++ r := by
      rw [hcut, hr, List.append_assoc _ ['.'], List.singleton_append]
    rw [if_pos h, hone, htext, skip_append ascii_isDigit]
    simp [NumberLiteral.takeUnsigned, NumberLiteral.text, hr]
  · rw [if_neg h]
    unfold NumberLiteral.takeUnsigned
    split
    · rename_i hr
      exact absurd (by rw [hr]; rfl) h
    · simp [NumberLiteral.text]

theorem numberStop_append (front rest : List Char) :
    numberStop (utf8 (front ++ rest)) (byteLength front) =
      byteLength (front ++ (NumberLiteral.take rest).1.text) := by
  have hbyte := getElem?_utf8_eq (d := '-') (by decide) front rest
  simp only [numberStop, hbyte]
  by_cases h : rest.head? = some '-'
  · obtain ⟨cs, rfl⟩ := List.head?_eq_some_iff.mp h
    have hone : byteLength front + 1 = byteLength (front ++ ['-']) := (byteLength_append _ ['-']).symm
    have htext : front ++ '-' :: cs = front ++ ['-'] ++ cs := by simp
    rw [if_pos h, htext, hone, unsignedStop_append, NumberLiteral.take, text_takeUnsigned_true]
    simp
  · rw [if_neg h, unsignedStop_append]
    unfold NumberLiteral.take
    split
    · exact absurd rfl h
    · rfl

theorem take_text {c : Char} {cs : List Char} (hc : (c == '-' || isDigit c) = true) :
    (NumberLiteral.take (NumberLiteral.take (c :: cs)).1.text).1 = (NumberLiteral.take (c :: cs)).1 := by
  have htake := @take_literal _ (@take_proper c cs hc).1 [] (by simp)
  rw [List.append_nil] at htake
  rw [htake]

/-! ## Tokens -/

theorem textAt?_append (front cs : List Char) :
    textAt? (front ++ '"' :: cs) (byteLength front) =
      some ((Scanner.scanHere ⟨byteLength front, '"' :: cs⟩).1,
        (Scanner.scanHere ⟨byteLength front, '"' :: cs⟩).2.position) := by
  have hcut : cut? (front ++ '"' :: cs) (byteLength front + 1) = some (front ++ ['"'], cs) := by
    have hone : byteLength front + 1 = byteLength (front ++ ['"']) :=
      (byteLength_append front ['"']).symm
    rw [hone, ← cut?_append, List.append_assoc, List.singleton_append]
  have hhere : Scanner.scanHere ⟨byteLength front, '"' :: cs⟩ =
      match TextLiteral.take? cs with
      | some (literal, rest') =>
        (.token ⟨.text (String.ofList literal.content), byteLength front⟩,
          Scanner.past ⟨byteLength front, '"' :: cs⟩ ('"' :: literal.written) rest')
      | none => (.error (.unterminatedText (byteLength front)),
          Scanner.past ⟨byteLength front, '"' :: cs⟩ ['"'] cs) := rfl
  rw [textAt?, hcut, Option.map_some, hhere]
  cases TextLiteral.take? cs with
  | none => rfl
  | some p =>
    have hsum : byteLength front + 1 + byteLength p.1.written =
        byteLength front + byteLength ('"' :: p.1.written) := Nat.add_assoc _ _ _
    simp only [Scanner.past, hsum]

theorem numberAt?_append (front : List Char) {c : Char} {cs : List Char}
    (hc : (c == '-' || isDigit c) = true) :
    numberAt? (front ++ c :: cs) (byteLength front) =
      some ((Scanner.scanHere ⟨byteLength front, c :: cs⟩).1,
        (Scanner.scanHere ⟨byteLength front, c :: cs⟩).2.position) := by
  have hsplit : front ++ c :: cs =
      front ++ (NumberLiteral.take (c :: cs)).1.text ++ (NumberLiteral.take (c :: cs)).2 := by
    rw [List.append_assoc, Scanner.text_append_take]
  rw [Scanner.scanHere_other (Scanner.not_punctuation_of_number hc), if_pos hc, numberAt?,
    numberStop_append, between?_of_split hsplit, Option.map_some, take_text hc]
  cases (NumberLiteral.take (c :: cs)).1.value? with
  | none => simp only [Scanner.past, byteLength_append]
  | some x => simp only [Scanner.past, byteLength_append]

theorem wordAt?_append (front : List Char) {c : Char} {cs : List Char} (hc : isWordStart c = true) :
    wordAt? (front ++ c :: cs) (byteLength front) =
      some ((Scanner.scanHere ⟨byteLength front, c :: cs⟩).1,
        (Scanner.scanHere ⟨byteLength front, c :: cs⟩).2.position) := by
  have hsplit : front ++ c :: cs =
      front ++ (c :: cs.takeWhile isWordRest) ++ cs.dropWhile isWordRest := by
    rw [List.append_assoc, List.cons_append, List.takeWhile_append_dropWhile]
  have hword : (c :: cs).takeWhile isWordRest = c :: cs.takeWhile isWordRest := by
    have hc' : isWordRest c = true := by simp [isWordRest, hc]
    rw [List.takeWhile_cons, if_pos hc']
  have hn : ¬(c == '-' || isDigit c) = true := by
    rw [Scanner.not_number_of_wordStart hc]
    exact Bool.false_ne_true
  rw [Scanner.scanHere_other (Scanner.not_punctuation_of_wordStart hc), if_neg hn, if_pos hc, wordAt?,
    skip_append ascii_isWordRest, hword, between?_of_split hsplit, Option.map_some, byteLength_append]
  rfl

/-- On a character boundary, without a blank, both scanners find the same. -/
theorem scanAt?_append (front rest : List Char) :
    scanAt? (front ++ rest) (byteLength front) =
      some ((Scanner.scanHere ⟨byteLength front, rest⟩).1,
        (Scanner.scanHere ⟨byteLength front, rest⟩).2.position) := by
  cases rest with
  | nil =>
    have hend : (utf8 (front ++ []))[byteLength front]? = none := getElem?_utf8 front []
    simp only [scanAt?, hend]
    rfl
  | cons c cs =>
    -- only the first byte of the first character is looked at
    obtain ⟨b, bs, hb, hkind, hchar⟩ := first_byte c
    have hbyte : (utf8 (front ++ c :: cs))[byteLength front]? = some b := by
      rw [getElem?_utf8, utf8_cons, hb]
      rfl
    have hopen : b = '('.toUInt8 ↔ c = '(' := hchar _ (by decide)
    have hclose : b = ')'.toUInt8 ↔ c = ')' := hchar _ (by decide)
    have hcomma : b = ','.toUInt8 ↔ c = ',' := hchar _ (by decide)
    have hquote : b = '"'.toUInt8 ↔ c = '"' := hchar _ (by decide)
    simp only [scanAt?, hbyte, hopen, hclose, hcomma, hquote, hkind _ ascii_numberStart,
      hkind _ ascii_isWordStart]
    by_cases h1 : c = '('
    · subst h1
      rw [if_pos rfl]
      rfl
    by_cases h2 : c = ')'
    · subst h2
      rw [if_neg h1, if_pos rfl]
      rfl
    by_cases h3 : c = ','
    · subst h3
      rw [if_neg h1, if_neg h2, if_pos rfl]
      rfl
    by_cases h4 : c = '"'
    · subst h4
      rw [if_neg h1, if_neg h2, if_neg h3, if_pos rfl, textAt?_append]
    rw [if_neg h1, if_neg h2, if_neg h3, if_neg h4]
    by_cases hn : (c == '-' || isDigit c) = true
    · rw [if_pos hn, numberAt?_append front hn]
    by_cases hw : isWordStart c = true
    · rw [if_neg hn, if_pos hw, wordAt?_append front hw]
    have hp : c ∉ ['(', ')', ',', '"'] := by simp [h1, h2, h3, h4]
    rw [Scanner.scanHere_other hp, if_neg hn, if_neg hw, if_neg hn, if_neg hw, cut?_append]
    rfl

/-- From a character boundary both scanners find the same and end at the same position. -/
theorem scan?_eq (front rest : List Char) :
    scan? (front ++ rest) (byteLength front) =
      some ((Scanner.next ⟨byteLength front, rest⟩).1,
        (Scanner.next ⟨byteLength front, rest⟩).2.position) := by
  have hcut : front ++ rest = front ++ rest.takeWhile isBlank ++ rest.dropWhile isBlank := by
    rw [List.append_assoc, List.takeWhile_append_dropWhile]
  rw [scan?, skip_append ascii_isBlank, hcut, scanAt?_append, byteLength_append]
  rfl

end Text

end FeatureFlags
