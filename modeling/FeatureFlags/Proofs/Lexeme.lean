import FeatureFlags.Proofs.Grammar

/-!
# How expressions are written

A token can be written in several ways (`Lexeme`): a text with or without escapes, a number with
more digits than needed. A text is written for tokens if it consists of a lexeme of each of them, in
order, with blanks anywhere between (`Written`).

The tokens of an expression never have two words or numbers next to each other
(`Expr.Yields.separated`), so blanks are never needed, and whatever is written for an expression is
parsed as this expression (`parse_grammar`).

Between lexemes without blank or punctuation the longest match counts: `Segmented` cuts a text so
that no number or word could be longer, and the scanner follows every such cut
(`Scanner.all_of_segmented`).
-/

namespace FeatureFlags

/-- The ways to write the characters of a text between quotes: unescaped, or after a backslash. -/
inductive Quoting : List Char → List Char → Prop
  | nil : Quoting [] []
  | plain {c : Char} {s cs : List Char} (hq : c ≠ '"') (hb : c ≠ '\\') (h : Quoting s cs) :
    Quoting (c :: s) (c :: cs)
  | escaped {s cs : List Char} (c : Char) (h : Quoting s cs) : Quoting (unescape c :: s) ('\\' :: c :: cs)

/-- Whether the digits of a literal are digits, and it begins with a digit or a sign. -/
structure NumberLiteral.Proper (l : NumberLiteral) : Prop where
  whole : ∀ c ∈ l.whole, isDigit c = true
  places : ∀ c ∈ l.places, isDigit c = true
  start : l.negative = true ∨ l.whole ≠ []

/-- Whether a character after a literal would belong to it. -/
def NumberLiteral.goesOn (l : NumberLiteral) (c : Char) : Bool :=
  isDigit c || (l.fraction.isNone && c == '.')

/-- The ways to write a token. -/
inductive Lexeme : Token → List Char → Prop
  | openParen : Lexeme .openParen ['(']
  | closeParen : Lexeme .closeParen [')']
  | comma : Lexeme .comma [',']
  | text {s cs : List Char} (h : Quoting s cs) : Lexeme (.text (String.ofList s)) ('"' :: (cs ++ ['"']))
  | number {l : NumberLiteral} {x : Number} (hl : l.Proper) (hx : l.value? = some x) :
    Lexeme (.number x) l.text
  | word {c : Char} {w : List Char} (hc : isWordStart c = true) (hw : ∀ x ∈ w, isWordRest x = true) :
    Lexeme (.ofWord (String.ofList (c :: w))) (c :: w)

/-- The ways to write tokens: a lexeme for each of them, with blanks before, between and after them. -/
inductive Written : List Token → List Char → Prop
  | nil {blanks : List Char} (hb : ∀ c ∈ blanks, isBlank c = true) : Written [] blanks
  | cons {t : Token} {ts : List Token} {cs rest : List Char} (blanks : List Char)
    (hb : ∀ c ∈ blanks, isBlank c = true) (hl : Lexeme t cs) (hr : Written ts rest) :
    Written (t :: ts) (blanks ++ cs ++ rest)

/-- Whether a token is a number or a word, which ends only where the next character does not belong to
it. -/
def Token.isOpenEnded : Token → Bool
  | number _ => true
  | boolean _ => true
  | undefined => true
  | name _ => true
  | _ => false

/-- Whether some characters followed by the next one are not a lexeme. -/
def Longest (cs rest : List Char) : Prop := ∀ c ∈ rest.head?, ∀ t, ¬Lexeme t (cs ++ [c])

/-- A cut of a text at a position into lexemes, with blanks before, between and after them, in which
every number and word is as long as possible. A token is located where its lexeme begins. -/
inductive Segmented : Nat → List Located → List Char → Prop
  | nil {p : Nat} {blanks : List Char} (hb : ∀ c ∈ blanks, isBlank c = true) : Segmented p [] blanks
  | cons {p : Nat} {t : Token} {lts : List Located} {cs rest : List Char} (blanks : List Char)
    (hb : ∀ c ∈ blanks, isBlank c = true) (hl : Lexeme t cs)
    (hlong : t.isOpenEnded = true → Longest cs rest)
    (hr : Segmented (p + Text.byteLength blanks + Text.byteLength cs) lts rest) :
    Segmented p (⟨t, p + Text.byteLength blanks⟩ :: lts) (blanks ++ cs ++ rest)

/-- Whether a token is a parenthesis or a comma. -/
def Token.isPunctuation : Token → Bool
  | openParen => true
  | closeParen => true
  | comma => true
  | _ => false

/-- Whether of any two neighbours one is a parenthesis or a comma. -/
def Token.Separated : List Token → Prop
  | [] => True
  | [_] => True
  | t :: u :: rest => (t.isPunctuation = true ∨ u.isPunctuation = true) ∧ Separated (u :: rest)

/-! ## The tokens of an expression are separated -/

namespace Token

theorem Separated.punctuation_cons {t : Token} {ts : List Token} (ht : t.isPunctuation = true)
    (h : Separated ts) : Separated (t :: ts) := by
  cases ts with
  | nil => trivial
  | cons u rest => exact ⟨.inl ht, h⟩

theorem Separated.append_punctuation {t : Token} {ts us : List Token} (h : Separated ts)
    (ht : t.isPunctuation = true) (hu : Separated us) : Separated (ts ++ t :: us) := by
  induction ts with
  | nil => exact hu.punctuation_cons ht
  | cons x rest ih =>
    cases rest with
    | nil => exact ⟨.inr ht, hu.punctuation_cons ht⟩
    | cons y rest => exact ⟨h.1, ih h.2⟩

end Token

namespace Expr

mutual
theorem Yields.separated : ∀ {e : Expr} {ts : List Token}, Yields e ts → Token.Separated ts
  | _, _, .literal _ => trivial
  | _, _, .name _ => trivial
  | _, _, .empty _ => ⟨.inr rfl, .inl rfl, trivial⟩
  | _, _, .call h =>
    have hs : Token.Separated [] := trivial
    ⟨.inr rfl, (h.separated.append_punctuation rfl hs).punctuation_cons rfl⟩

theorem YieldsAll.separated : ∀ {es : List Expr} {ts : List Token}, YieldsAll es ts → Token.Separated ts
  | _, _, .one h => h.separated
  | _, _, .cons h hr => h.separated.append_punctuation rfl hr.separated
end

end Expr

/-! ## Scanning one lexeme -/

theorem takeWhile_eq_nil {p : Char → Bool} {cs : List Char} (h : ∀ c ∈ cs.head?, p c = false) :
    cs.takeWhile p = [] := by
  cases cs with
  | nil => rfl
  | cons c rest => simp [h c rfl]

theorem dropWhile_eq_self {p : Char → Bool} {cs : List Char} (h : ∀ c ∈ cs.head?, p c = false) :
    cs.dropWhile p = cs := by
  cases cs with
  | nil => rfl
  | cons c rest => simp [h c rfl]

/-- A text literal is taken up to its closing quote. -/
theorem take_quoting {s cs : List Char} (h : Quoting s cs) (rest : List Char) :
    TextLiteral.take? (cs ++ '"' :: rest) = some (⟨s, cs ++ ['"']⟩, rest) := by
  induction h with
  | nil => rfl
  | @plain c s cs hq hb _ ih =>
    rw [List.cons_append, TextLiteral.take?]
    · rw [ih]
      rfl
    · exact hq
    · intro hc
      exact absurd hc hb
    · intro _ _ hc
      exact absurd hc hb
  | escaped c _ ih =>
    rw [List.cons_append, List.cons_append, TextLiteral.take?, ih]
    rfl

theorem takeUnsigned_literal {l : NumberLiteral} (hl : l.Proper) {rest cs : List Char}
    (hr : ∀ c ∈ rest.head?, l.goesOn c = false)
    (hcs : l.text ++ rest = (if l.negative then ['-'] else []) ++ cs) :
    NumberLiteral.takeUnsigned l.negative cs = (l, rest) := by
  obtain ⟨negative, whole, fraction⟩ := l
  have hw : ∀ c ∈ whole, isDigit c = true := hl.whole
  simp only [NumberLiteral.text, List.append_assoc, List.append_cancel_left_eq] at hcs
  subst hcs
  cases fraction with
  | none =>
    -- without fraction, a point after the digits would belong to the literal
    have hr' : ∀ c ∈ rest.head?, isDigit c = false ∧ c ≠ '.' := by
      intro c hc
      simpa [NumberLiteral.goesOn] using hr c hc
    have hd : rest.dropWhile isDigit = rest := dropWhile_eq_self fun c hc => (hr' c hc).1
    have ht : rest.takeWhile isDigit = [] := takeWhile_eq_nil fun c hc => (hr' c hc).1
    simp only [List.nil_append, NumberLiteral.takeUnsigned, List.dropWhile_append_of_pos hw,
      List.takeWhile_append_of_pos hw, hd, ht]
    cases rest with
    | nil => simp
    | cons c rest' =>
      have hc : c ≠ '.' := (hr' c rfl).2
      split
      · rename_i hs
        exact absurd (List.cons.inj hs).1 hc
      · simp
  | some ds =>
    have hds : ∀ c ∈ ds, isDigit c = true := hl.places
    have hr' : ∀ c ∈ rest.head?, isDigit c = false := by
      intro c hc
      simpa [NumberLiteral.goesOn] using hr c hc
    have hd : rest.dropWhile isDigit = rest := dropWhile_eq_self hr'
    have ht : rest.takeWhile isDigit = [] := takeWhile_eq_nil hr'
    have hp : isDigit '.' = false := by decide
    simp [NumberLiteral.takeUnsigned, List.dropWhile_append_of_pos hw, List.takeWhile_append_of_pos hw,
      List.dropWhile_append_of_pos hds, List.takeWhile_append_of_pos hds, hd, ht, hp]

theorem head_literal {l : NumberLiteral} (hl : l.Proper) :
    ∃ c cs, l.text = c :: cs ∧ (c == '-' || isDigit c) = true := by
  cases hn : l.negative with
  | true => exact ⟨'-', _, by simp only [NumberLiteral.text, hn]; rfl, rfl⟩
  | false =>
    have hw : l.whole ≠ [] := by simpa [hn] using hl.start
    obtain ⟨c, w, hc⟩ := List.exists_cons_of_ne_nil hw
    have hd : isDigit c = true := hl.whole c (by simp [hc])
    exact ⟨c, _, by simp only [NumberLiteral.text, hn, hc]; rfl, by simp [hd]⟩

/-- A number literal is taken up to the first character that does not belong to it. -/
theorem take_literal {l : NumberLiteral} (hl : l.Proper) {rest : List Char}
    (hr : ∀ c ∈ rest.head?, l.goesOn c = false) :
    NumberLiteral.take (l.text ++ rest) = (l, rest) := by
  cases hn : l.negative with
  | true =>
    have hcs : l.text ++ rest = (if l.negative then ['-'] else []) ++ (l.text ++ rest).tail := by
      simp only [NumberLiteral.text, hn]
      rfl
    have ht := takeUnsigned_literal hl hr hcs
    rw [hn] at ht
    have he : l.text ++ rest = '-' :: (l.text ++ rest).tail := by
      simp only [NumberLiteral.text, hn]
      rfl
    rw [he]
    exact ht
  | false =>
    have hcs : l.text ++ rest = (if l.negative then ['-'] else []) ++ (l.text ++ rest) := by simp [hn]
    have ht := takeUnsigned_literal hl hr hcs
    rw [hn] at ht
    have hw : l.whole ≠ [] := by simpa [hn] using hl.start
    obtain ⟨c, w, hc⟩ := List.exists_cons_of_ne_nil hw
    have hd : isDigit c = true := hl.whole c (by simp [hc])
    unfold NumberLiteral.take
    split
    · -- no digit is a sign
      rename_i cs hs
      simp only [NumberLiteral.text, hn, hc] at hs
      have : c = '-' := (List.cons.inj hs).1
      rw [this] at hd
      cases hd
    · exact ht

namespace Scanner

theorem scanHere_other {p : Nat} {c : Char} {cs : List Char} (hc : c ∉ ['(', ')', ',', '"']) :
    scanHere ⟨p, c :: cs⟩ =
      (if c == '-' || isDigit c then
        match (NumberLiteral.take (c :: cs)).1.value? with
        | some x => (.token ⟨.number x, p⟩,
            past ⟨p, c :: cs⟩ (NumberLiteral.take (c :: cs)).1.text (NumberLiteral.take (c :: cs)).2)
        | none => (.error (.invalidNumber (String.ofList (NumberLiteral.take (c :: cs)).1.text) p),
            past ⟨p, c :: cs⟩ (NumberLiteral.take (c :: cs)).1.text (NumberLiteral.take (c :: cs)).2)
      else if isWordStart c then
        (.token ⟨.ofWord (String.ofList (c :: cs.takeWhile isWordRest)), p⟩,
          past ⟨p, c :: cs⟩ (c :: cs.takeWhile isWordRest) (cs.dropWhile isWordRest))
      else (.error (.unexpectedCharacter c p), ⟨p, c :: cs⟩)) := by
  simp only [List.mem_cons, List.not_mem_nil, or_false, not_or] at hc
  unfold scanHere
  split
  · rename_i h
    cases h
  · rename_i h
    exact absurd (List.cons.inj h).1 hc.1
  · rename_i h
    exact absurd (List.cons.inj h).1 hc.2.1
  · rename_i h
    exact absurd (List.cons.inj h).1 hc.2.2.1
  · rename_i h
    exact absurd (List.cons.inj h).1 hc.2.2.2
  · rename_i h
    cases h
    rfl

theorem not_punctuation_of_number {c : Char} (h : (c == '-' || isDigit c) = true) :
    c ∉ ['(', ')', ',', '"'] := by
  intro hm
  simp only [List.mem_cons, List.not_mem_nil, or_false] at hm
  rcases hm with rfl | rfl | rfl | rfl <;> revert h <;> decide

theorem not_punctuation_of_wordStart {c : Char} (h : isWordStart c = true) :
    c ∉ ['(', ')', ',', '"'] := by
  intro hm
  simp only [List.mem_cons, List.not_mem_nil, or_false] at hm
  rcases hm with rfl | rfl | rfl | rfl <;> revert h <;> decide

theorem not_number_of_wordStart {c : Char} (h : isWordStart c = true) :
    (c == '-' || isDigit c) = false := by
  rw [Bool.or_eq_false_iff]
  constructor
  · rw [beq_eq_false_iff_ne]
    rintro rfl
    revert h
    decide
  · simp only [isWordStart, isDigit, Bool.or_eq_true, Bool.and_eq_true, decide_eq_true_eq, beq_iff_eq,
      Bool.and_eq_false_iff, decide_eq_false_iff_not, Char.le_def, UInt32.le_iff_toNat_le] at h ⊢
    rcases h with (⟨h, -⟩ | ⟨h, -⟩) | rfl
    · right
      have : ('A' : Char).val.toNat = 65 := rfl
      have : ('9' : Char).val.toNat = 57 := rfl
      omega
    · right
      have : ('a' : Char).val.toNat = 97 := rfl
      have : ('9' : Char).val.toNat = 57 := rfl
      omega
    · right
      decide

theorem goesOn_of_not_wordRest {l : NumberLiteral} {c : Char} (h : isWordRest c = false) :
    l.goesOn c = false := by
  simp only [isWordRest, Bool.or_eq_false_iff] at h
  simp [NumberLiteral.goesOn, h.1.2, h.2]

theorem isPunctuation_ofWord (w : String) : (Token.ofWord w).isPunctuation = false := by
  unfold Token.ofWord
  split
  · rfl
  · split
    · rfl
    · split <;> rfl

theorem isOpenEnded_ofWord (w : String) : (Token.ofWord w).isOpenEnded = true := by
  unfold Token.ofWord
  split
  · rfl
  · split
    · rfl
    · split <;> rfl

/-- The first character of a lexeme determines its kind. -/
theorem lexeme_cases {t : Token} {c : Char} {cs : List Char} (h : Lexeme t (c :: cs)) :
    c ∈ ['(', ')', ',', '"'] ∨ (∃ l : NumberLiteral, l.Proper ∧ l.text = c :: cs) ∨
      isWordStart c = true ∧ ∀ x ∈ cs, isWordRest x = true := by
  generalize hw : c :: cs = w at h
  cases h with
  | openParen => exact .inl (by simp [(List.cons.inj hw).1])
  | closeParen => exact .inl (by simp [(List.cons.inj hw).1])
  | comma => exact .inl (by simp [(List.cons.inj hw).1])
  | text _ => exact .inl (by simp [(List.cons.inj hw).1])
  | @number l _ hl _ => exact .inr (.inl ⟨l, hl, rfl⟩)
  | word hc hs =>
    cases hw
    exact .inr (.inr ⟨hc, hs⟩)

theorem lexeme_of_numberStart {t : Token} {c : Char} {cs : List Char} (h : Lexeme t (c :: cs))
    (hc : (c == '-' || isDigit c) = true) : ∃ l : NumberLiteral, l.Proper ∧ l.text = c :: cs := by
  rcases lexeme_cases h with hp | hl | ⟨hs, -⟩
  · exact absurd hp (not_punctuation_of_number hc)
  · exact hl
  · rw [not_number_of_wordStart hs] at hc
    cases hc

theorem lexeme_of_wordStart {t : Token} {c : Char} {cs : List Char} (h : Lexeme t (c :: cs))
    (hc : isWordStart c = true) : ∀ x ∈ cs, isWordRest x = true := by
  rcases lexeme_cases h with hp | ⟨l, hl, ht⟩ | ⟨-, hs⟩
  · exact absurd hp (not_punctuation_of_wordStart hc)
  · obtain ⟨d, ds, hd, hn⟩ := head_literal hl
    rw [ht] at hd
    cases hd
    rw [not_number_of_wordStart hc] at hn
    cases hn
  · exact hs

theorem lexeme_snoc_of_goesOn {l : NumberLiteral} (hl : l.Proper) {c : Char}
    (hc : l.goesOn c = true) (hv : l.value?.isSome = true) : ∃ t, Lexeme t (l.text ++ [c]) := by
  -- it is enough to say which literal it is
  suffices h : ∃ l' : NumberLiteral, l'.Proper ∧ l'.text = l.text ++ [c] ∧ l'.value?.isSome = true by
    obtain ⟨l', hl', ht, hv'⟩ := h
    obtain ⟨x, hx⟩ := Option.isSome_iff_exists.mp hv'
    exact ⟨.number x, ht ▸ .number hl' hx⟩
  obtain ⟨negative, whole, fraction⟩ := l
  obtain ⟨hw, hp, hs⟩ := hl
  have hsnoc : ∀ {ds : List Char}, (∀ d ∈ ds, isDigit d = true) → isDigit c = true →
      ∀ d ∈ ds ++ [c], isDigit d = true := by
    intro ds hds hd x hx
    rcases List.mem_append.mp hx with hx | hx
    · exact hds x hx
    · rw [List.mem_singleton.mp hx]
      exact hd
  cases fraction with
  | some ds =>
    have hd : isDigit c = true := by simpa [NumberLiteral.goesOn] using hc
    refine ⟨⟨negative, whole, some (ds ++ [c])⟩, ⟨hw, hsnoc hp hd, hs⟩, ?_, ?_⟩
    · simp [NumberLiteral.text]
    · simp [NumberLiteral.value?, NumberLiteral.places]
  | none =>
    cases hd : isDigit c with
    | true =>
      refine ⟨⟨negative, whole ++ [c], none⟩, ⟨hsnoc hw hd, hp, .inr (by simp)⟩, ?_, ?_⟩
      · simp [NumberLiteral.text]
      · simp [NumberLiteral.value?]
    | false =>
      -- the first point
      have hpoint : c = '.' := by simpa [NumberLiteral.goesOn, hd] using hc
      refine ⟨⟨negative, whole, some []⟩, ⟨hw, by simp [NumberLiteral.places], hs⟩, ?_, ?_⟩
      · simp [NumberLiteral.text, hpoint]
      · simpa [NumberLiteral.value?, NumberLiteral.places] using hv

/-- A number is as long as possible if and only if the next character does not belong to it. -/
theorem longest_number {l : NumberLiteral} (hl : l.Proper) (hv : l.value?.isSome = true)
    {rest : List Char} : Longest l.text rest ↔ ∀ c ∈ rest.head?, l.goesOn c = false := by
  constructor
  · intro h c hc
    rw [Bool.eq_false_iff]
    intro hg
    obtain ⟨t, ht⟩ := lexeme_snoc_of_goesOn hl hg hv
    exact h c hc t ht
  · intro h c hc t ht
    obtain ⟨d, ds, hd, hn⟩ := head_literal hl
    have ht' := ht
    rw [hd, List.cons_append] at ht'
    obtain ⟨l', hl', he⟩ := lexeme_of_numberStart ht' hn
    rw [← List.cons_append, ← hd] at he
    -- the longer literal would be taken whole, and the shorter one up to the character
    have hlong := @take_literal _ hl' [] (by simp)
    rw [List.append_nil, he] at hlong
    have hshort := @take_literal _ hl [c] (by simpa using h c hc)
    rw [hlong] at hshort
    cases hshort

/-- A word is as long as possible if and only if the next character cannot continue a word. -/
theorem longest_word {c : Char} {w rest : List Char} (hc : isWordStart c = true)
    (hw : ∀ x ∈ w, isWordRest x = true) :
    Longest (c :: w) rest ↔ ∀ x ∈ rest.head?, isWordRest x = false := by
  constructor
  · intro h x hx
    rw [Bool.eq_false_iff]
    intro hr
    refine h x hx _ (.word hc ?_)
    intro y hy
    rcases List.mem_append.mp hy with hy | hy
    · exact hw y hy
    · rw [List.mem_singleton.mp hy]
      exact hr
  · intro h x hx t ht
    have := lexeme_of_wordStart ht hc x (by simp)
    rw [h x hx] at this
    cases this

/-- A lexeme is scanned as its token, provided that a number or a word is as long as possible. -/
theorem scanHere_lexeme {t : Token} {cs : List Char} (h : Lexeme t cs) {rest : List Char}
    (hr : t.isOpenEnded = true → Longest cs rest) (p : Nat) :
    scanHere ⟨p, cs ++ rest⟩ = (.token ⟨t, p⟩, ⟨p + Text.byteLength cs, rest⟩) := by
  cases h with
  | openParen => rfl
  | closeParen => rfl
  | comma => rfl
  | @text s cs h =>
    have ht := take_quoting h rest
    have he : '"' :: (cs ++ ['"']) ++ rest = '"' :: (cs ++ '"' :: rest) := by simp
    rw [he]
    simp only [scanHere, ht]
    rfl
  | @number l x hl hx =>
    obtain ⟨c, cs, hc, hn⟩ := head_literal hl
    have ht := take_literal hl ((longest_number hl (by rw [hx]; rfl)).mp (hr rfl))
    rw [hc, List.cons_append] at ht ⊢
    rw [scanHere_other (not_punctuation_of_number hn), if_pos hn, ht]
    simp only [hx, ← hc]
    rfl
  | @word c w hc hw =>
    have hn := not_number_of_wordStart hc
    have hr := (longest_word hc hw).mp (hr (isOpenEnded_ofWord _))
    have ht : (w ++ rest).takeWhile isWordRest = w := by
      rw [List.takeWhile_append_of_pos hw, takeWhile_eq_nil hr, List.append_nil]
    have hd : (w ++ rest).dropWhile isWordRest = rest := by
      rw [List.dropWhile_append_of_pos hw, dropWhile_eq_self hr]
    rw [List.cons_append, scanHere_other (not_punctuation_of_wordStart hc), if_neg (by simp [hn]),
      if_pos hc, ht, hd]
    rfl

/-! ## Scanning written tokens -/

theorem all_of_token {s s' : Scanner} {t : Located} (h : s.next = (.token t, s')) :
    s.all = s'.all.map (t :: ·) := by
  rw [all]
  split
  · rename_i h'
    rw [h] at h'
    cases h'
  · rename_i h'
    rw [h] at h'
    cases h'
  · rename_i h'
    rw [h] at h'
    cases h'
    rfl

theorem all_of_finished {s s' : Scanner} (h : s.next = (.finished, s')) : s.all = .ok [] := by
  rw [all]
  split
  · rfl
  · rename_i h'
    rw [h] at h'
    cases h'
  · rename_i h'
    rw [h] at h'
    cases h'

theorem skipBlanks_append {blanks cs : List Char} (hb : ∀ c ∈ blanks, isBlank c = true)
    (hc : ∀ c ∈ cs.head?, isBlank c = false) (p : Nat) :
    skipBlanks ⟨p, blanks ++ cs⟩ = ⟨p + Text.byteLength blanks, cs⟩ := by
  simp only [skipBlanks, past, List.takeWhile_append_of_pos hb, List.dropWhile_append_of_pos hb,
    takeWhile_eq_nil hc, dropWhile_eq_self hc, List.append_nil]

theorem not_blank_of_number {c : Char} (h : (c == '-' || isDigit c) = true) : isBlank c = false := by
  rw [Bool.eq_false_iff]
  intro hb
  simp only [isBlank, Bool.or_eq_true, beq_iff_eq] at hb
  rcases hb with ((rfl | rfl) | rfl) | rfl <;> revert h <;> decide

theorem not_wordRest_of_blank {c : Char} (h : isBlank c = true) : isWordRest c = false := by
  simp only [isBlank, Bool.or_eq_true, beq_iff_eq] at h
  rcases h with ((rfl | rfl) | rfl) | rfl <;> decide

theorem head_lexeme {t : Token} {cs : List Char} (h : Lexeme t cs) :
    ∃ c rest, cs = c :: rest ∧ isBlank c = false ∧ (t.isPunctuation = true → isWordRest c = false) := by
  cases h with
  | openParen => exact ⟨_, _, rfl, by decide, fun _ => by decide⟩
  | closeParen => exact ⟨_, _, rfl, by decide, fun _ => by decide⟩
  | comma => exact ⟨_, _, rfl, by decide, fun _ => by decide⟩
  | text _ => exact ⟨_, _, rfl, by decide, fun hp => by cases hp⟩
  | number hl _ =>
    obtain ⟨c, cs, hc, hn⟩ := head_literal hl
    exact ⟨c, cs, hc, not_blank_of_number hn, fun hp => by cases hp⟩
  | @word c w hc _ =>
    refine ⟨c, w, rfl, ?_, fun hp => by rw [isPunctuation_ofWord] at hp; cases hp⟩
    rw [Bool.eq_false_iff]
    intro hb
    have := not_wordRest_of_blank hb
    simp [isWordRest, hc] at this

theorem head_written {ts : List Token} {cs : List Char} (h : Written ts cs)
    (ht : ∀ t ∈ ts.head?, t.isPunctuation = true) : ∀ c ∈ cs.head?, isWordRest c = false := by
  cases h with
  | nil hb =>
    intro c hc
    exact not_wordRest_of_blank (hb c (List.mem_of_mem_head? hc))
  | @cons t ts cs rest blanks hb hl _ =>
    intro x hx
    obtain ⟨c, cs', rfl, -, hw⟩ := head_lexeme hl
    cases blanks with
    | nil =>
      cases hx
      exact hw (ht t rfl)
    | cons b blanks =>
      cases hx
      exact not_wordRest_of_blank (hb _ List.mem_cons_self)

theorem segmented_of_written {ts : List Token} {cs : List Char} (h : Written ts cs)
    (hs : Token.Separated ts) :
    ∀ p, ∃ lts, Segmented p lts cs ∧ lts.map Located.token = ts := by
  induction h with
  | nil hb => exact fun p => ⟨[], .nil hb, rfl⟩
  | @cons t ts cs rest blanks hb hl hr ih =>
    intro p
    -- after a word or a number there is a blank or punctuation, as the tokens are separated
    have hfollow : t.isPunctuation = false → ∀ c ∈ rest.head?, isWordRest c = false := by
      intro ht
      refine head_written hr ?_
      intro u hu
      cases ts with
      | nil => cases hu
      | cons v vs =>
        cases hu
        have := hs.1
        simpa [ht] using this
    have htail : Token.Separated ts := by
      cases ts with
      | nil => trivial
      | cons u us => exact hs.2
    have hlong : t.isOpenEnded = true → Longest cs rest := by
      intro ht
      cases hl with
      | number hl hx =>
        have hr := hfollow rfl
        exact (longest_number hl (by rw [hx]; rfl)).mpr fun c hc => goesOn_of_not_wordRest (hr c hc)
      | word hc hw => exact (longest_word hc hw).mpr (hfollow (isPunctuation_ofWord _))
      | _ => cases ht
    obtain ⟨lts, hseg, hmap⟩ := ih htail (p + Text.byteLength blanks + Text.byteLength cs)
    exact ⟨_, .cons blanks hb hl hlong hseg, by rw [List.map_cons, hmap]⟩

/-- A text is scanned to the tokens of a cut. -/
theorem all_of_segmented {p : Nat} {lts : List Located} {cs : List Char} (h : Segmented p lts cs) :
    all ⟨p, cs⟩ = .ok lts := by
  induction h with
  | @nil p blanks hb =>
    have hn : next ⟨p, blanks⟩ = (.finished, ⟨p + Text.byteLength blanks, []⟩) := by
      have hskip := @skipBlanks_append blanks [] hb (by simp) p
      rw [List.append_nil] at hskip
      rw [next, hskip]
      rfl
    exact all_of_finished hn
  | @cons p t lts cs rest blanks hb hl hlong _ ih =>
    obtain ⟨c, cs', hcs, hblank, -⟩ := head_lexeme hl
    have hc : ∀ c ∈ (cs ++ rest).head?, isBlank c = false := by simp [hcs, hblank]
    have hskip := skipBlanks_append hb hc p
    have hn : next ⟨p, blanks ++ cs ++ rest⟩ = (.token ⟨t, p + Text.byteLength blanks⟩,
        ⟨p + Text.byteLength blanks + Text.byteLength cs, rest⟩) := by
      rw [next, List.append_assoc, hskip, scanHere_lexeme hl hlong]
    rw [all_of_token hn, ih]
    rfl

theorem all_of_written {ts : List Token} {cs : List Char} (h : Written ts cs)
    (hs : Token.Separated ts) (p : Nat) :
    ∃ lts, all ⟨p, cs⟩ = .ok lts ∧ lts.map Located.token = ts := by
  obtain ⟨lts, hseg, hmap⟩ := segmented_of_written h hs p
  exact ⟨lts, all_of_segmented hseg, hmap⟩

end Scanner

/-! ## Reading texts -/

/-- A text is parsed if and only if its tokens are those of a tree of the grammar with at most
`maxDepth` nested calls. There is one such tree, and the nodes are its nodes: those of the arguments
from last to first, followed by the operator with the number of its arguments. Neither the spelling of
tokens nor the blanks between them matter. A lexical error anywhere is the result for the text. -/
theorem parse_grammar (text : String) :
    (∀ lts nodes, tokenize text = .ok lts → (Node.parse text = .ok nodes ↔
      ∃ e : Expr, e.Yields (lts.map Located.token) ∧ e.depth ≤ maxDepth ∧ nodes = e.flatten)) ∧
    (∀ err, tokenize text = .error err → Node.parse text = .error err) ∧
    (∀ (e : Expr) ts, e.Yields ts → e.depth ≤ maxDepth → Written ts text.toList →
      Node.parse text = .ok e.flatten) ∧
    (∀ (e e' : Expr) ts, e.Yields ts → e'.Yields ts → e = e') ∧
    (∀ v, (Expr.literal v).flatten = [.operand v]) ∧
    (∀ name arguments, (Expr.call name arguments).flatten =
      arguments.reverse.flatMap Expr.flatten ++ [.operator name arguments.length]) := by
  have hok : ∀ {lts}, tokenize text = .ok lts → Node.parse text =
      (Expr.ofTokens (Text.byteLength text.toList) lts).map Expr.flatten := by
    intro lts h
    simp only [Node.parse, Expr.parse, h, Except.bind]
  refine ⟨?_, ?_, ?_, fun e e' ts h h' => Expr.yields_unique h h', fun v => rfl, ?_⟩
  · intro lts nodes h
    rw [hok h]
    constructor
    · intro hn
      cases ho : Expr.ofTokens (Text.byteLength text.toList) lts with
      | error err => rw [ho] at hn; cases hn
      | ok e =>
        rw [ho] at hn
        cases hn
        obtain ⟨hy, hd⟩ := Expr.ofTokens_eq_ok_iff.mp ho
        exact ⟨e, hy, hd, rfl⟩
    · rintro ⟨e, hy, hd, rfl⟩
      rw [Expr.ofTokens_eq_ok_iff.mpr ⟨hy, hd⟩]
      rfl
  · intro err h
    simp only [Node.parse, Expr.parse, h]
    rfl
  · intro e ts hy hd hw
    obtain ⟨lts, hall, hmap⟩ := Scanner.all_of_written hw hy.separated 0
    rw [hok hall, Expr.ofTokens_eq_ok_iff.mpr ⟨hmap ▸ hy, hd⟩]
    rfl
  · intro name arguments
    rw [Expr.flatten, Expr.flattenAll_eq]

/-- A text with blanks, an escaped quote and an empty pair of parentheses. -/
theorem parse_grammar_asymmetric :
    Node.parse "  and(\n f( ) , \"a\\\"\",true )" =
      .ok [.operand (.boolean true), .operand (.text "a\""), .operator "f" 0, .operator "and" 3] := by
  have hy : (Expr.call "and" [.call "f" [], .literal (.text "a\""), .literal (.boolean true)]).Yields
      (.name "and" :: .openParen :: ([.name "f", .openParen, .closeParen] ++
        .comma :: ([.text "a\""] ++ .comma :: [.boolean true]) ++ [.closeParen])) :=
    .call (.cons (.empty "f") (.cons (.literal rfl) (.one (.literal rfl))))
  have hw : Written (.name "and" :: .openParen :: ([.name "f", .openParen, .closeParen] ++
        .comma :: ([.text "a\""] ++ .comma :: [.boolean true]) ++ [.closeParen]))
      "  and(\n f( ) , \"a\\\"\",true )".toList := by
    have none : ∀ c ∈ [], isBlank c = true := List.all_eq_true.mp rfl
    have one : ∀ c ∈ [' '], isBlank c = true := List.all_eq_true.mp rfl
    have line : ∀ c ∈ ['\n', ' '], isBlank c = true := List.all_eq_true.mp rfl
    have hand : Lexeme (.name "and") ['a', 'n', 'd'] :=
      .word (c := 'a') (w := ['n', 'd']) rfl (List.all_eq_true.mp rfl)
    have hf : Lexeme (.name "f") ['f'] := .word (c := 'f') (w := []) rfl (List.all_eq_true.mp rfl)
    have hquote : Lexeme (.text "a\"") ['"', 'a', '\\', '"', '"'] :=
      .text (s := ['a', '"']) (.plain (by decide) (by decide) (.escaped '"' .nil))
    have htrue : Lexeme (.boolean true) ['t', 'r', 'u', 'e'] :=
      .word (c := 't') (w := ['r', 'u', 'e']) rfl (List.all_eq_true.mp rfl)
    refine .cons [' ', ' '] (List.all_eq_true.mp rfl) hand ?_
    refine .cons [] none .openParen ?_
    refine .cons ['\n', ' '] line hf ?_
    refine .cons [] none .openParen ?_
    refine .cons [' '] one .closeParen ?_
    refine .cons [' '] one .comma ?_
    refine .cons [' '] one hquote ?_
    refine .cons [] none .comma ?_
    refine .cons [] none htrue ?_
    exact .cons [' '] one .closeParen (.nil none)
  exact (parse_grammar _).2.2.1 _ _ hy (by decide) hw

end FeatureFlags
