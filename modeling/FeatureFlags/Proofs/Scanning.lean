import Mathlib.Data.List.Forall2
import Mathlib.Data.List.TakeWhile
import FeatureFlags.Proofs.Lexeme

/-!
# Scanning takes the longest lexemes

A text has tokens if and only if it can be cut into lexemes none of whose numbers and words could be
longer, and its tokens are those of the lexemes (`tokenize_longest_match`). One direction is
`Scanner.all_of_segmented`; here every call of `Scanner.next` is shown to take a lexeme that could
not be longer (`Scanner.lexeme_of_next`).

`Spelling` states how the characters of a text literal can be written, without the function that
unescapes them.
-/

namespace FeatureFlags

/-- The ways to write a character of a text between quotes. -/
inductive Spelling : Char → List Char → Prop
  | plain {c : Char} (hq : c ≠ '"') (hb : c ≠ '\\') : Spelling c [c]
  | escaped {c : Char} (hc : c ∉ ['n', 't', 'r']) : Spelling c ['\\', c]
  | newline : Spelling '\n' ['\\', 'n']
  | tab : Spelling '\t' ['\\', 't']
  | carriageReturn : Spelling '\r' ['\\', 'r']

theorem spelling_unescape (c : Char) : Spelling (unescape c) ['\\', c] := by
  by_cases hn : c = 'n'
  · subst hn
    exact .newline
  · by_cases ht : c = 't'
    · subst ht
      exact .tab
    · by_cases hr : c = 'r'
      · subst hr
        exact .carriageReturn
      · have hu : unescape c = c := by
          unfold unescape
          split <;> first | rfl | contradiction
        rw [hu]
        exact .escaped (by simp [hn, ht, hr])

theorem Spelling.quoting {c : Char} {w s cs : List Char} (h : Spelling c w) (hq : Quoting s cs) :
    Quoting (c :: s) (w ++ cs) := by
  cases h with
  | plain hq' hb => exact .plain hq' hb hq
  | @escaped c hc =>
    have hu : unescape c = c := by
      unfold unescape
      split <;> simp at hc ⊢
    have := Quoting.escaped c hq
    rwa [hu] at this
  | newline => exact .escaped 'n' hq
  | tab => exact .escaped 't' hq
  | carriageReturn => exact .escaped 'r' hq

theorem quoting_iff {s cs : List Char} :
    Quoting s cs ↔ ∃ ws, List.Forall₂ Spelling s ws ∧ ws.flatten = cs := by
  constructor
  · intro h
    induction h with
    | nil => exact ⟨[], .nil, rfl⟩
    | @plain c s cs hq hb _ ih =>
      obtain ⟨ws, hws, rfl⟩ := ih
      exact ⟨[c] :: ws, .cons (.plain hq hb) hws, rfl⟩
    | escaped c _ ih =>
      obtain ⟨ws, hws, rfl⟩ := ih
      exact ⟨['\\', c] :: ws, .cons (spelling_unescape c) hws, rfl⟩
  · rintro ⟨ws, hws, rfl⟩
    induction hws with
    | nil => exact .nil
    | cons h _ ih => exact h.quoting ih

/-- The beginning of a text that is cut into lexemes. -/
theorem Segmented.of_cons {p : Nat} {t : Located} {lts : List Located} {w : List Char}
    (h : Segmented p (t :: lts) w) :
    ∃ blanks cs rest, (∀ c ∈ blanks, isBlank c = true) ∧ Lexeme t.token cs ∧
      t.position = p + Text.byteLength blanks ∧ w = blanks ++ cs ++ rest ∧
      Segmented (p + Text.byteLength blanks + Text.byteLength cs) lts rest := by
  cases h with
  | cons blanks hb hl _ hr => exact ⟨blanks, _, _, hb, hl, rfl, rfl, hr⟩

theorem Segmented.of_nil {p : Nat} {w : List Char} (h : Segmented p [] w) :
    ∀ c ∈ w, isBlank c = true := by
  cases h with
  | nil hb => exact hb

theorem Segmented.position {p : Nat} {lts : List Located} {w : List Char} (h : Segmented p lts w) :
    ∀ t ∈ lts, ∃ front back, w = front ++ back ∧ t.position = p + Text.byteLength front := by
  induction h with
  | nil _ => exact fun t ht => nomatch ht
  | @cons p t lts cs rest blanks _ _ _ _ ih =>
    intro x hx
    rcases List.mem_cons.mp hx with rfl | hx
    · exact ⟨blanks, cs ++ rest, List.append_assoc .., rfl⟩
    · obtain ⟨front, back, rfl, hp⟩ := ih x hx
      refine ⟨blanks ++ cs ++ front, back, (List.append_assoc ..).symm, ?_⟩
      rw [hp, Text.byteLength_append, Text.byteLength_append, Nat.add_assoc, Nat.add_assoc,
        Nat.add_assoc]

theorem quoting_of_lexeme {s w : List Char} (h : Lexeme (.text (String.ofList s)) w) :
    ∃ cs, Quoting s cs ∧ w = '"' :: (cs ++ ['"']) := by
  generalize ht : Token.text (String.ofList s) = t at h
  cases h with
  | @text s' cs hq =>
    have hs : s = s' := by simpa using congrArg String.toList (Token.text.inj ht)
    exact ⟨cs, hs ▸ hq, rfl⟩
  | @word c w =>
    have := Scanner.isOpenEnded_ofWord (String.ofList (c :: w))
    rw [← ht] at this
    cases this
  | _ => cases ht

/-! ## Calls of the scanner -/

theorem head_dropWhile {p : Char → Bool} {cs : List Char} :
    ∀ c ∈ (cs.dropWhile p).head?, p c = false := by
  intro c hc
  have := List.head?_dropWhile_not p cs
  rw [hc] at this
  exact this

theorem quoting_of_take? {cs rest : List Char} {l : TextLiteral}
    (h : TextLiteral.take? cs = some (l, rest)) :
    ∃ ws, Quoting l.content ws ∧ l.written = ws ++ ['"'] := by
  fun_induction TextLiteral.take? cs generalizing l with
  | case1 => cases h
  | case2 r =>
    cases h
    exact ⟨[], .nil, rfl⟩
  | case3 => cases h
  | case4 c r ih =>
    obtain ⟨⟨l', rest'⟩, hp, he⟩ := Option.map_eq_some_iff.mp h
    cases he
    obtain ⟨ws, hws, hw⟩ := ih hp
    exact ⟨'\\' :: c :: ws, .escaped c hws, by simp [TextLiteral.prepend, hw]⟩
  | case5 c r hq hend hesc ih =>
    obtain ⟨⟨l', rest'⟩, hp, he⟩ := Option.map_eq_some_iff.mp h
    cases he
    obtain ⟨ws, hws, hw⟩ := ih hp
    -- a backslash would have been taken with the character after it
    have hb : c ≠ '\\' := by
      rintro rfl
      cases r with
      | nil => exact hend rfl rfl
      | cons d r => exact hesc d r rfl rfl
    exact ⟨c :: ws, .plain hq hb hws, by simp [TextLiteral.prepend, hw]⟩

theorem takeUnsigned_proper {negative : Bool} {cs : List Char}
    (hs : negative = true ∨ cs.takeWhile isDigit ≠ []) :
    (NumberLiteral.takeUnsigned negative cs).1.Proper ∧
      ∀ c ∈ (NumberLiteral.takeUnsigned negative cs).2.head?,
        (NumberLiteral.takeUnsigned negative cs).1.goesOn c = false := by
  unfold NumberLiteral.takeUnsigned
  split
  · refine ⟨⟨fun _ => List.mem_takeWhile_imp, fun _ => List.mem_takeWhile_imp, hs⟩, fun c hc => ?_⟩
    simpa [NumberLiteral.goesOn] using head_dropWhile c hc
  · rename_i hpoint
    refine ⟨⟨fun _ => List.mem_takeWhile_imp, by simp [NumberLiteral.places], hs⟩, fun c hc => ?_⟩
    have hc' : c ≠ '.' := by
      rintro rfl
      obtain ⟨r, hr⟩ := List.head?_eq_some_iff.mp hc
      exact hpoint r hr
    simp [NumberLiteral.goesOn, head_dropWhile c hc, hc']

/-- A number that is taken is a literal, as long as possible. -/
theorem take_proper {c : Char} {cs : List Char} (hc : (c == '-' || isDigit c) = true) :
    (NumberLiteral.take (c :: cs)).1.Proper ∧
      ∀ d ∈ (NumberLiteral.take (c :: cs)).2.head?,
        (NumberLiteral.take (c :: cs)).1.goesOn d = false := by
  unfold NumberLiteral.take
  split
  · exact takeUnsigned_proper (.inl rfl)
  · rename_i hminus
    have hd : isDigit c = true := by
      rcases Bool.or_eq_true_iff.mp hc with h | h
      · exact absurd (by rw [beq_iff_eq.mp h]) (hminus cs)
      · exact h
    refine takeUnsigned_proper (.inr ?_)
    rw [List.takeWhile_cons, if_pos hd]
    exact List.cons_ne_nil _ _

namespace Scanner

/-- The characters between two scanners are a lexeme, as long as possible. -/
theorem lexeme_of_scanHere {s s' : Scanner} {t : Located} (h : s.scanHere = (.token t, s')) :
    ∃ cs, Lexeme t.token cs ∧ (t.token.isOpenEnded = true → Longest cs s'.rest) ∧
      t.position = s.position ∧ s.rest = cs ++ s'.rest ∧
      s'.position = s.position + Text.byteLength cs := by
  obtain ⟨p, rest⟩ := s
  unfold scanHere at h
  split at h
  · cases h
  · rename_i hr
    cases h
    exact ⟨['('], .openParen, (nomatch ·), rfl, hr, rfl⟩
  · rename_i hr
    cases h
    exact ⟨[')'], .closeParen, (nomatch ·), rfl, hr, rfl⟩
  · rename_i hr
    cases h
    exact ⟨[','], .comma, (nomatch ·), rfl, hr, rfl⟩
  · -- a text
    rename_i cs hr
    split at h
    · rename_i l rest' hl
      cases h
      obtain ⟨ws, hws, hw⟩ := quoting_of_take? hl
      refine ⟨'"' :: (ws ++ ['"']), .text hws, (nomatch ·), rfl, ?_, ?_⟩
      · rw [hr, written_append_take hl, hw]
        rfl
      · rw [← hw]
        rfl
    · cases h
  · rename_i c cs _ _ _ _ hr
    split at h
    · -- a number
      rename_i hc
      have ht := text_append_take (c :: cs)
      obtain ⟨hproper, hends⟩ := @take_proper c cs hc
      dsimp only at h
      split at h
      · rename_i x hx
        cases h
        have hlong := (longest_number hproper (by rw [hx]; rfl)).mpr hends
        exact ⟨_, .number hproper hx, fun _ => hlong, rfl, hr.trans ht.symm, rfl⟩
      · cases h
    · split at h
      · -- a word
        rename_i hc
        cases h
        have hw : ∀ x ∈ cs.takeWhile isWordRest, isWordRest x = true :=
          fun _ => List.mem_takeWhile_imp
        have hlong := (longest_word hc hw).mpr (@head_dropWhile isWordRest cs)
        exact ⟨_, .word hc hw, fun _ => hlong, rfl, hr.trans (by simp [past]), rfl⟩
      · cases h

theorem scanHere_finished {s s' : Scanner} (h : s.scanHere = (.finished, s')) : s.rest = [] := by
  unfold scanHere at h
  split at h
  · assumption
  · cases h
  · cases h
  · cases h
  · split at h <;> cases h
  · split at h
    · dsimp only at h
      split at h <;> cases h
    · split at h <;> cases h

theorem lexeme_of_next {s s' : Scanner} {t : Located} (h : s.next = (.token t, s')) :
    ∃ blanks cs, (∀ c ∈ blanks, isBlank c = true) ∧ Lexeme t.token cs ∧
      (t.token.isOpenEnded = true → Longest cs s'.rest) ∧
      t.position = s.position + Text.byteLength blanks ∧ s.rest = blanks ++ cs ++ s'.rest ∧
      s'.position = s.position + Text.byteLength blanks + Text.byteLength cs := by
  obtain ⟨cs, hl, hlong, hp, hr, hp'⟩ := lexeme_of_scanHere h
  refine ⟨s.rest.takeWhile isBlank, cs, fun _ => List.mem_takeWhile_imp, hl, hlong, hp, ?_, hp'⟩
  have hr : s.rest.dropWhile isBlank = cs ++ s'.rest := hr
  rw [List.append_assoc, ← hr]
  exact List.takeWhile_append_dropWhile.symm

theorem blank_of_next {s s' : Scanner} (h : s.next = (.finished, s')) :
    ∀ c ∈ s.rest, isBlank c = true := by
  have hr : s.rest.dropWhile isBlank = [] := scanHere_finished h
  exact List.dropWhile_eq_nil_iff.mp hr

theorem segmented_of_all (s : Scanner) {lts : List Located} (h : s.all = .ok lts) :
    Segmented s.position lts s.rest := by
  fun_induction all s generalizing lts with
  | case1 s s' hn =>
    cases h
    exact .nil (blank_of_next hn)
  | case2 => cases h
  | case3 s t s' hn ih =>
    cases ha : s'.all with
    | error e =>
      rw [ha] at h
      cases h
    | ok rest =>
      rw [ha] at h
      cases h
      obtain ⟨blanks, cs, hb, hl, hlong, hp, hr, hp'⟩ := lexeme_of_next hn
      obtain ⟨t, p⟩ := t
      have hp : p = s.position + Text.byteLength blanks := hp
      rw [hr, hp]
      exact .cons blanks hb hl hlong (hp' ▸ ih ha)

/-- The tokens from a position on are those of the lexemes into which the text is cut. -/
theorem all_eq_ok_iff {p : Nat} {lts : List Located} {cs : List Char} :
    all ⟨p, cs⟩ = .ok lts ↔ Segmented p lts cs :=
  ⟨segmented_of_all _, all_of_segmented⟩

theorem all_of_quoting {s cs : List Char} (h : Quoting s cs) (p : Nat) (rest : List Char) :
    all ⟨p, '"' :: (cs ++ '"' :: rest)⟩ =
      (all ⟨p + Text.byteLength ('"' :: (cs ++ ['"'])), rest⟩).map
        (⟨.text (String.ofList s), p⟩ :: ·) := by
  have hl : scanHere ⟨p, '"' :: (cs ++ ['"']) ++ rest⟩ = _ :=
    scanHere_lexeme (.text h) (nomatch ·) p
  have he : '"' :: (cs ++ ['"']) ++ rest = '"' :: (cs ++ '"' :: rest) := by simp
  rw [he] at hl
  exact all_of_token hl

theorem quoting_of_all {p : Nat} {s cs : List Char}
    (h : all ⟨p, '"' :: (cs ++ ['"'])⟩ = .ok [⟨.text (String.ofList s), p⟩]) : Quoting s cs := by
  obtain ⟨blanks, w, rest, hb, hl, -, hw, hrest⟩ := (segmented_of_all _ h).of_cons
  obtain ⟨ws, hq, rfl⟩ := quoting_of_lexeme hl
  -- neither are there blanks before the first quote nor behind the last one
  cases blanks with
  | cons b blanks =>
    have hquote : b = '"' := (List.cons.inj hw).1.symm
    have := hb b List.mem_cons_self
    rw [hquote] at this
    cases this
  | nil =>
    have hw : cs ++ ['"'] = ws ++ ['"'] ++ rest := by simpa using hw
    rcases List.eq_nil_or_concat rest with rfl | ⟨r, x, rfl⟩
    · rw [List.append_nil, List.append_cancel_right_eq] at hw
      exact hw ▸ hq
    · rw [List.concat_eq_append, ← List.append_assoc] at hw
      have hx : '"' = x := List.singleton_inj.mp (List.append_inj' hw rfl).2
      have := hrest.of_nil x (by simp)
      rw [← hx] at this
      cases this

end Scanner

/-! ## The tokens of a text -/

/-- A text has tokens if and only if it can be cut into lexemes, with blanks anywhere between, of which
every number and word is as long as possible; its tokens are those of the lexemes, each with the number
of bytes before it. Between quotes there is one text literal if and only if each of its characters is
spelled there in order, and it is read whatever follows. -/
theorem tokenize_longest_match (text : String) :
    (∀ lts, tokenize text = .ok lts ↔ Segmented 0 lts text.toList) ∧
    (∀ s cs, text.toList = '"' :: (cs ++ ['"']) →
      (tokenize text = .ok [⟨.text (String.ofList s), 0⟩] ↔
        ∃ ws, List.Forall₂ Spelling s ws ∧ ws.flatten = cs)) ∧
    ∀ s ws rest, List.Forall₂ Spelling s ws → text.toList = '"' :: (ws.flatten ++ '"' :: rest) →
      tokenize text = (Scanner.all ⟨Text.byteLength ('"' :: (ws.flatten ++ ['"'])), rest⟩).map
        (⟨.text (String.ofList s), 0⟩ :: ·) := by
  refine ⟨fun lts => Scanner.all_eq_ok_iff, ?_, ?_⟩
  · intro s cs ht
    rw [← quoting_iff, tokenize, Scanner.ofString, ht]
    constructor
    · exact Scanner.quoting_of_all
    · intro hq
      have hnil : Segmented (0 + Text.byteLength ('"' :: (cs ++ ['"']))) [] [] := .nil (by simp)
      rw [Scanner.all_of_quoting hq 0 [], Scanner.all_of_segmented hnil]
      rfl
  · intro s ws rest hws ht
    have hq : Quoting s ws.flatten := quoting_iff.mpr ⟨ws, hws, rfl⟩
    rw [tokenize, Scanner.ofString, ht, Scanner.all_of_quoting hq, Nat.zero_add]

/-- A text literal with escapes, directly followed by a number that ends where a word begins. -/
theorem tokenize_longest_match_glued :
    tokenize "\"\\q\\\"é\"1.e5" =
      .ok [⟨.text "q\"é", 0⟩, ⟨.number (.ofDecimal false 1 0), 8⟩, ⟨.name "e5", 10⟩] := by
  have hs : List.Forall₂ Spelling ['q', '"', 'é'] [['\\', 'q'], ['\\', '"'], ['é']] :=
    .cons (.escaped (by decide)) (.cons (.escaped (by decide))
      (.cons (.plain (by decide) (by decide)) .nil))
  have hl : (NumberLiteral.mk false ['1'] (some [])).Proper :=
    ⟨List.all_eq_true.mp rfl, List.all_eq_true.mp rfl, .inr (by simp)⟩
  have hnumber : Lexeme (.number (.ofDecimal false 1 0)) ['1', '.'] := .number hl rfl
  have hone : Longest ['1', '.'] ['e', '5'] := by
    refine (Scanner.longest_number hl rfl).mpr fun c hc => ?_
    cases hc
    rfl
  have hw : ∀ x ∈ ['5'], isWordRest x = true := List.all_eq_true.mp rfl
  have hword : Lexeme (.name "e5") ['e', '5'] := .word (c := 'e') rfl hw
  have hnone : ∀ c ∈ [], isBlank c = true := List.all_eq_true.mp rfl
  have hseg : Segmented 8 [⟨.number (.ofDecimal false 1 0), 8⟩, ⟨.name "e5", 10⟩]
      ['1', '.', 'e', '5'] := by
    refine .cons [] hnone hnumber (fun _ => hone) ?_
    exact .cons [] hnone hword (fun _ => (Scanner.longest_word rfl hw).mpr (by simp)) (.nil hnone)
  rw [(tokenize_longest_match _).2.2 _ _ ['1', '.', 'e', '5'] hs rfl]
  exact congrArg _ (Scanner.all_of_segmented hseg)

end FeatureFlags
