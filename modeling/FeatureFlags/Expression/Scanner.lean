import FeatureFlags.Expression.SyntaxError

/-!
# Scanning

`Scanner.next` skips blanks and takes the longest token at the next character. A scanner can be used
after an error: a character that begins no token is not taken, a number without digits is taken, and
of an unterminated text literal only the opening quote is taken.

`Scanner.next_shorter` shows that a token takes at least one character, which makes `Scanner.all`
terminate.
-/

namespace FeatureFlags

/-- A position in a text: the bytes before it and the characters after it. -/
structure Scanner where
  position : Nat
  rest : List Char
  deriving DecidableEq, Repr, Inhabited

/-- What a scanner finds: the end, a token, or an error. -/
inductive Scan where
  | finished
  | token (t : Located)
  | error (e : SyntaxError)
  deriving DecidableEq, Repr, Inhabited

/-- The characters that can occur between tokens. -/
def isBlank (c : Char) : Bool := c == ' ' || c == '\t' || c == '\r' || c == '\n'

def isDigit (c : Char) : Bool := '0' ≤ c && c ≤ '9'

/-- The characters with which a word begins. -/
def isWordStart (c : Char) : Bool := ('A' ≤ c && c ≤ 'Z') || ('a' ≤ c && c ≤ 'z') || c == '_'

/-- The characters that continue a word. -/
def isWordRest (c : Char) : Bool := isWordStart c || isDigit c || c == '.'

/-- The parts of a number literal; without a point there is no fraction. -/
structure NumberLiteral where
  negative : Bool
  whole : List Char
  fraction : Option (List Char)
  deriving DecidableEq, Repr, Inhabited

namespace NumberLiteral

/-- The digits after the point. -/
def places (l : NumberLiteral) : List Char := l.fraction.getD []

def text (l : NumberLiteral) : List Char :=
  (if l.negative then ['-'] else []) ++ l.whole
    ++ match l.fraction with
      | some ds => '.' :: ds
      | none => []

def digitsValue (ds : List Char) : Nat := ds.foldl (fun n c => 10 * n + (c.toNat - '0'.toNat)) 0

/-- The number of a literal with at least one digit. -/
def value? (l : NumberLiteral) : Option Number :=
  let ds := l.whole ++ l.places
  if ds.isEmpty then none else some (.ofDecimal l.negative (digitsValue ds) l.places.length)

/-- The longest literal at the start of a text whose sign has been taken, with what follows it. -/
def takeUnsigned (negative : Bool) (cs : List Char) : NumberLiteral × List Char :=
  match cs.dropWhile isDigit with
  | '.' :: r =>
    (⟨negative, cs.takeWhile isDigit, some (r.takeWhile isDigit)⟩, r.dropWhile isDigit)
  | r => (⟨negative, cs.takeWhile isDigit, none⟩, r)

/-- The longest number literal at the start of a text, with what follows it. -/
def take : List Char → NumberLiteral × List Char
  | '-' :: cs => takeUnsigned true cs
  | cs => takeUnsigned false cs

end NumberLiteral

/-- The character that a backslash and a character stand for. -/
def unescape : Char → Char
  | 'n' => '\n'
  | 't' => '\t'
  | 'r' => '\r'
  | c => c

/-- A text literal whose opening quote has been taken: its characters, and how they and the closing quote
are written. -/
structure TextLiteral where
  content : List Char
  written : List Char
  deriving DecidableEq, Repr, Inhabited

namespace TextLiteral

/-- The literal with one more character before the others. -/
def prepend (c : Char) (written : List Char) (l : TextLiteral) : TextLiteral :=
  ⟨c :: l.content, written ++ l.written⟩

/-- The literal up to the closing quote, and what follows it; nothing when there is no closing quote. -/
def take? : List Char → Option (TextLiteral × List Char)
  | [] => none
  | '"' :: rest => some (⟨[], ['"']⟩, rest)
  | ['\\'] => none
  | '\\' :: c :: rest => (take? rest).map fun p => (p.1.prepend (unescape c) ['\\', c], p.2)
  | c :: rest => (take? rest).map fun p => (p.1.prepend c [c], p.2)

end TextLiteral

namespace Scanner

def ofString (s : String) : Scanner := ⟨0, s.toList⟩

/-- The scanner after the characters `taken`, where `rest` is left. -/
def past (s : Scanner) (taken rest : List Char) : Scanner :=
  ⟨s.position + Text.byteLength taken, rest⟩

def skipBlanks (s : Scanner) : Scanner :=
  s.past (s.rest.takeWhile isBlank) (s.rest.dropWhile isBlank)

/-- The token at the position of the scanner, if there is no blank, and the scanner after it. -/
def scanHere (s : Scanner) : Scan × Scanner :=
  match s.rest with
  | [] => (.finished, s)
  | '(' :: rest => (.token ⟨.openParen, s.position⟩, s.past ['('] rest)
  | ')' :: rest => (.token ⟨.closeParen, s.position⟩, s.past [')'] rest)
  | ',' :: rest => (.token ⟨.comma, s.position⟩, s.past [','] rest)
  | '"' :: rest =>
    match TextLiteral.take? rest with
    | some (literal, rest') =>
      (.token ⟨.text (String.ofList literal.content), s.position⟩, s.past ('"' :: literal.written) rest')
    | none => (.error (.unterminatedText s.position), s.past ['"'] rest)
  | c :: rest =>
    if c == '-' || isDigit c then
      let (literal, rest') := NumberLiteral.take (c :: rest)
      match literal.value? with
      | some x => (.token ⟨.number x, s.position⟩, s.past literal.text rest')
      | none =>
        (.error (.invalidNumber (String.ofList literal.text) s.position), s.past literal.text rest')
    else if isWordStart c then
      let word := c :: rest.takeWhile isWordRest
      (.token ⟨.ofWord (String.ofList word), s.position⟩, s.past word (rest.dropWhile isWordRest))
    else (.error (.unexpectedCharacter c s.position), s)

/-- The next token, and the scanner after it. -/
def next (s : Scanner) : Scan × Scanner := s.skipBlanks.scanHere

/-! ## The characters of a token -/

theorem written_append_take {cs rest : List Char} {l : TextLiteral}
    (h : TextLiteral.take? cs = some (l, rest)) : cs = l.written ++ rest := by
  fun_induction TextLiteral.take? cs generalizing l with
  | case1 => simp at h
  | case2 r =>
    simp only [Option.some.injEq, Prod.mk.injEq] at h
    simp [← h.1, h.2]
  | case3 => simp at h
  | case4 c r ih =>
    obtain ⟨⟨l', rest'⟩, hp, he⟩ := Option.map_eq_some_iff.1 h
    simp only [Prod.mk.injEq] at he
    have := ih (he.2 ▸ hp)
    simp [← he.1, TextLiteral.prepend, this]
  | case5 c r _ _ _ ih =>
    obtain ⟨⟨l', rest'⟩, hp, he⟩ := Option.map_eq_some_iff.1 h
    simp only [Prod.mk.injEq] at he
    have := ih (he.2 ▸ hp)
    simp [← he.1, TextLiteral.prepend, this]

theorem text_append_takeUnsigned (negative : Bool) (cs : List Char) :
    (NumberLiteral.takeUnsigned negative cs).1.text ++ (NumberLiteral.takeUnsigned negative cs).2 =
      (if negative then ['-'] else []) ++ cs := by
  unfold NumberLiteral.takeUnsigned
  split
  · rename_i r hr
    have hc : cs.takeWhile isDigit ++ '.' :: r = cs := by
      rw [← hr]; exact List.takeWhile_append_dropWhile
    have hf : r.takeWhile isDigit ++ r.dropWhile isDigit = r := List.takeWhile_append_dropWhile
    simp [NumberLiteral.text, hf, hc]
  · have hc : cs.takeWhile isDigit ++ cs.dropWhile isDigit = cs := List.takeWhile_append_dropWhile
    simp [NumberLiteral.text, hc]

theorem text_append_take (cs : List Char) :
    (NumberLiteral.take cs).1.text ++ (NumberLiteral.take cs).2 = cs := by
  unfold NumberLiteral.take
  split
  · simpa using text_append_takeUnsigned true _
  · simpa using text_append_takeUnsigned false cs

theorem text_ne_nil {l : NumberLiteral} {x : Number} (h : l.value? = some x) : l.text ≠ [] := by
  intro ht
  simp only [NumberLiteral.text, List.append_eq_nil_iff] at ht
  have hp : l.places = [] := by
    cases hl : l.fraction with
    | none => simp [NumberLiteral.places, hl]
    | some ds => simp [hl] at ht
  simp [NumberLiteral.value?, ht.1.2, hp] at h

/-- The characters between the two scanners are those of the token, at least one. -/
theorem scanHere_token {s s' : Scanner} {t : Located} (h : s.scanHere = (.token t, s')) :
    ∃ taken, taken ≠ [] ∧ s.rest = taken ++ s'.rest ∧ s' = s.past taken s'.rest := by
  unfold scanHere at h
  split at h
  · simp at h
  · rename_i rest hr
    rw [← (Prod.mk.inj h).2]; exact ⟨['('], by simp, hr, rfl⟩
  · rename_i rest hr
    rw [← (Prod.mk.inj h).2]; exact ⟨[')'], by simp, hr, rfl⟩
  · rename_i rest hr
    rw [← (Prod.mk.inj h).2]; exact ⟨[','], by simp, hr, rfl⟩
  · rename_i rest hr
    split at h
    · rename_i l rest' hl
      rw [← (Prod.mk.inj h).2]
      exact ⟨'"' :: l.written, by simp, by simp [hr, past, written_append_take hl], rfl⟩
    · simp at h
  · rename_i c rest _ _ _ _ hr
    split at h
    · have ht := text_append_take (c :: rest)
      simp only at h
      split at h
      · rename_i hx
        rw [← (Prod.mk.inj h).2]
        exact ⟨_, text_ne_nil hx, by rw [hr]; exact ht.symm, rfl⟩
      · simp at h
    · split at h
      · rw [← (Prod.mk.inj h).2]
        exact ⟨c :: rest.takeWhile isWordRest, by simp, by simp [hr, past], rfl⟩
      · simp at h

theorem next_shorter {s s' : Scanner} {t : Located} (h : s.next = (.token t, s')) :
    s'.rest.length < s.rest.length := by
  obtain ⟨taken, hne, hr, _⟩ := scanHere_token h
  have hl : 0 < taken.length := List.length_pos_iff.2 hne
  have hd : (s.rest.dropWhile isBlank).length ≤ s.rest.length := (List.dropWhile_sublist _).length_le
  have hs : s.skipBlanks.rest = s.rest.dropWhile isBlank := rfl
  rw [hs] at hr
  rw [hr, List.length_append] at hd
  omega

/-- All tokens from the position of the scanner on, or the first error. -/
def all (s : Scanner) : Except SyntaxError (List Located) :=
  match _h : s.next with
  | (.finished, _) => .ok []
  | (.error e, _) => .error e
  | (.token t, s') => (s'.all).map (t :: ·)
termination_by s.rest.length
decreasing_by exact next_shorter _h

/-- The results of the given number of calls, continued after errors. -/
def steps : Nat → Scanner → List Scan
  | 0, _ => []
  | n + 1, s => s.next.1 :: steps n s.next.2

end Scanner

/-- The tokens of a text, or its first lexical error. -/
def tokenize (s : String) : Except SyntaxError (List Located) := (Scanner.ofString s).all

end FeatureFlags
