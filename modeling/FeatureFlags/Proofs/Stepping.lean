import Mathlib.Data.Nat.Find
import FeatureFlags.Proofs.Bytewise

/-!
# A scanner that continues after errors

A call of `Scanner.next` takes blanks and then, except at the end and before a character that begins
no token, at least one character: a token, a number without digits, or the quote of an unterminated
text (`Scanner.step_next`). Its position is on a character boundary again (`Scanner.Stands`), so it
finds what the scanner by bytes finds. After a call that takes nothing but blanks further calls
repeat it (`Scanner.next_next`). The main result is `Scanner.sound_ofString`.
-/

namespace FeatureFlags

namespace Scan

/-- Whether a result takes characters. -/
def takes : Scan → Bool
  | token _ => true
  | error (.invalidNumber _ _) => true
  | error (.unterminatedText _) => true
  | _ => false

/-- The position of a result. -/
def position? : Scan → Option Nat
  | finished => none
  | token t => some t.position
  | error e => some e.position

end Scan

namespace Scanner

def after (s : Scanner) : Nat → Scanner
  | 0 => s
  | n + 1 => (s.after n).next.2

/-- The result of the call after `n` others. -/
def found (s : Scanner) (n : Nat) : Scan := (s.after n).next.1

/-- One call: it takes characters, or it stands at the end or before a character that it does not take.
-/
inductive Step : Scanner → Scan → Scanner → Prop
  | takes {p : Nat} {blanks taken rest : List Char} {found : Scan} (hb : ∀ c ∈ blanks, isBlank c = true)
    (hne : taken ≠ []) (hf : found.takes = true)
    (hp : found.position? = some (p + Text.byteLength blanks)) :
    Step ⟨p, blanks ++ taken ++ rest⟩ found ⟨p + Text.byteLength blanks + Text.byteLength taken, rest⟩
  | finished {p : Nat} {blanks : List Char} (hb : ∀ c ∈ blanks, isBlank c = true) :
    Step ⟨p, blanks⟩ .finished ⟨p + Text.byteLength blanks, []⟩
  | stuck {p : Nat} {blanks rest : List Char} {c : Char} (hb : ∀ c ∈ blanks, isBlank c = true) :
    Step ⟨p, blanks ++ c :: rest⟩ (.error (.unexpectedCharacter c (p + Text.byteLength blanks)))
      ⟨p + Text.byteLength blanks, c :: rest⟩

/-- Whether a scanner is on a character boundary of a text. -/
def Stands (text : List Char) (s : Scanner) : Prop :=
  ∃ front, text = front ++ s.rest ∧ s.position = Text.byteLength front

/-! ## One call -/

theorem step_scanHere {p : Nat} {blanks cs : List Char} (hb : ∀ c ∈ blanks, isBlank c = true) :
    Step ⟨p, blanks ++ cs⟩ (scanHere ⟨p + Text.byteLength blanks, cs⟩).1
      (scanHere ⟨p + Text.byteLength blanks, cs⟩).2 := by
  have htakes : ∀ (taken rest : List Char) {found : Scan}, cs = taken ++ rest → taken ≠ [] →
      found.takes = true → found.position? = some (p + Text.byteLength blanks) →
      Step ⟨p, blanks ++ cs⟩ found ⟨p + Text.byteLength blanks + Text.byteLength taken, rest⟩ := by
    rintro taken rest found rfl hne hf hp
    rw [← List.append_assoc]
    exact .takes hb hne hf hp
  unfold scanHere
  split
  · rename_i hr
    have hr : cs = [] := hr
    rw [hr, List.append_nil]
    exact .finished hb
  · rename_i rest hr
    exact htakes ['('] rest hr (List.cons_ne_nil _ _) rfl rfl
  · rename_i rest hr
    exact htakes [')'] rest hr (List.cons_ne_nil _ _) rfl rfl
  · rename_i rest hr
    exact htakes [','] rest hr (List.cons_ne_nil _ _) rfl rfl
  · rename_i rest hr
    have hr : cs = '"' :: rest := hr
    split
    · rename_i l rest' hl
      refine htakes ('"' :: l.written) rest' ?_ (List.cons_ne_nil _ _) rfl rfl
      rw [hr, written_append_take hl, List.cons_append]
    · exact htakes ['"'] rest hr (List.cons_ne_nil _ _) rfl rfl
  · rename_i c rest _ _ _ _ hr
    have hr : cs = c :: rest := hr
    split
    · rename_i hc
      have htext := text_append_take (c :: rest)
      obtain ⟨d, ds, hd, -⟩ := head_literal (@take_proper c rest hc).1
      have hne : (NumberLiteral.take (c :: rest)).1.text ≠ [] := hd ▸ List.cons_ne_nil d ds
      dsimp only
      split
      · exact htakes _ _ (hr.trans htext.symm) hne rfl rfl
      · exact htakes _ _ (hr.trans htext.symm) hne rfl rfl
    · split
      · refine htakes (c :: rest.takeWhile isWordRest) _ ?_ (List.cons_ne_nil _ _) rfl rfl
        rw [hr, List.cons_append, List.takeWhile_append_dropWhile]
      · rw [hr]
        exact .stuck hb

/-- A call skips blanks and then does one of these things. -/
theorem step_next (s : Scanner) : Step s s.next.1 s.next.2 := by
  have hs : s.rest.takeWhile isBlank ++ s.rest.dropWhile isBlank = s.rest :=
    List.takeWhile_append_dropWhile
  have hb : ∀ c ∈ s.rest.takeWhile isBlank, isBlank c = true := fun _ => List.mem_takeWhile_imp
  have hstep := @step_scanHere s.position _ (s.rest.dropWhile isBlank) hb
  rw [hs] at hstep
  exact hstep

namespace Step

variable {s s' : Scanner} {found : Scan}

theorem position_le (h : Step s found s') : s.position ≤ s'.position := by
  cases h with
  | takes => exact (Nat.le_add_right _ _).trans (Nat.le_add_right _ _)
  | finished => exact Nat.le_add_right _ _
  | stuck => exact Nat.le_add_right _ _

theorem left_lt (h : Step s found s') (hf : found.takes = true) :
    Text.byteLength s'.rest < Text.byteLength s.rest := by
  cases h with
  | takes hb hne hf hp =>
    have hpos := Text.byteLength_pos hne
    simp only [Text.byteLength_append]
    omega
  | finished => cases hf
  | stuck => cases hf

theorem position_lt (h : Step s found s') (hf : found.takes = true) : s.position < s'.position := by
  cases h with
  | takes hb hne hf hp =>
    have hpos := Text.byteLength_pos hne
    dsimp only
    omega
  | finished => cases hf
  | stuck => cases hf

/-- The position of a result is after what was taken before, and before the end of what is taken now. -/
theorem reported (h : Step s found s') {q : Nat} (hq : found.position? = some q) :
    s.position ≤ q ∧ (found.takes = true → q < s'.position) := by
  cases h with
  | takes hb hne hf hp =>
    have hpos := Text.byteLength_pos hne
    rw [hp, Option.some.injEq] at hq
    dsimp only
    omega
  | finished => cases hq
  | stuck =>
    cases hq
    exact ⟨Nat.le_add_right _ _, nofun⟩

theorem end_or_character (h : Step s found s') (hf : found.takes = false) :
    found = .finished ∨ ∃ c, found = .error (.unexpectedCharacter c s'.position) := by
  cases h with
  | takes _ _ hf' _ =>
    rw [hf] at hf'
    cases hf'
  | finished => exact .inl rfl
  | stuck => exact .inr ⟨_, rfl⟩

theorem stands {text : List Char} (h : Step s found s') (hs : Stands text s) : Stands text s' := by
  obtain ⟨front, ht, hp⟩ := hs
  cases h with
  | @takes p blanks taken rest =>
    refine ⟨front ++ blanks ++ taken, by simp [ht], ?_⟩
    have hp : p = Text.byteLength front := hp
    rw [hp, Text.byteLength_append, Text.byteLength_append]
  | @finished p blanks =>
    refine ⟨front ++ blanks, by simp [ht], ?_⟩
    have hp : p = Text.byteLength front := hp
    rw [hp, Text.byteLength_append]
  | @stuck p blanks rest c =>
    refine ⟨front ++ blanks, by simp [ht], ?_⟩
    have hp : p = Text.byteLength front := hp
    rw [hp, Text.byteLength_append]

theorem character_at {text : List Char} {c : Char} {q : Nat}
    (h : Step s (.error (.unexpectedCharacter c q)) s') (hs : Stands text s) :
    ∃ front back, text = front ++ c :: back ∧ q = Text.byteLength front := by
  obtain ⟨front, ht, hp⟩ := h.stands hs
  cases h with
  | takes _ _ hf _ => cases hf
  | stuck => exact ⟨front, _, ht, hp⟩

end Step

theorem scanHere_of_not_takes {s : Scanner} (h : s.scanHere.1.takes = false) : s.scanHere.2 = s := by
  revert h
  unfold scanHere
  split
  · exact fun _ => rfl
  · exact nofun
  · exact nofun
  · exact nofun
  · split <;> exact nofun
  · split
    · dsimp only
      split <;> exact nofun
    · split
      · exact nofun
      · exact fun _ => rfl

theorem skipBlanks_skipBlanks (s : Scanner) : s.skipBlanks.skipBlanks = s.skipBlanks := by
  have hhead : ∀ c ∈ (s.rest.dropWhile isBlank).head?, isBlank c = false := @head_dropWhile isBlank s.rest
  have ht : s.skipBlanks.rest.takeWhile isBlank = [] := takeWhile_eq_nil hhead
  have hd : s.skipBlanks.rest.dropWhile isBlank = s.skipBlanks.rest := dropWhile_eq_self hhead
  calc s.skipBlanks.skipBlanks
      = s.skipBlanks.past (s.skipBlanks.rest.takeWhile isBlank) (s.skipBlanks.rest.dropWhile isBlank) := rfl
    _ = s.skipBlanks.past [] s.skipBlanks.rest := by rw [ht, hd]
    _ = s.skipBlanks := rfl

/-- After a call that takes nothing, every call has the same result. -/
theorem next_next {s : Scanner} (h : s.next.1.takes = false) : s.next.2.next = s.next := by
  have hs : s.next.2 = s.skipBlanks := scanHere_of_not_takes h
  rw [hs, next, skipBlanks_skipBlanks]
  rfl

/-! ## All calls -/

theorem step_after (s : Scanner) (n : Nat) : Step (s.after n) (s.found n) (s.after (n + 1)) :=
  step_next _

theorem stands_after {text : List Char} {s : Scanner} (h : Stands text s) (n : Nat) :
    Stands text (s.after n) := by
  induction n with
  | zero => exact h
  | succ n ih => exact (s.step_after n).stands ih

theorem position_mono (s : Scanner) {m n : Nat} (h : m ≤ n) :
    (s.after m).position ≤ (s.after n).position := by
  induction h with
  | refl => exact Nat.le_refl _
  | step _ ih => exact ih.trans (s.step_after _).position_le

theorem position_lt_of_lt {s : Scanner} {m n p q : Nat} (h : m < n) (hf : (s.found m).takes = true)
    (hp : (s.found m).position? = some p) (hq : (s.found n).position? = some q) : p < q := by
  calc p < (s.after (m + 1)).position := ((s.step_after m).reported hp).2 hf
    _ ≤ (s.after n).position := s.position_mono h
    _ ≤ q := ((s.step_after n).reported hq).1

theorem add_left_le {s : Scanner} {n : Nat} (h : ∀ m < n, (s.found m).takes = true) :
    n + Text.byteLength (s.after n).rest ≤ Text.byteLength s.rest := by
  induction n with
  | zero => rw [Nat.zero_add]; rfl
  | succ n ih =>
    have hlt := (s.step_after n).left_lt (h n (Nat.lt_succ_self n))
    have hle := ih fun m hm => h m (Nat.lt_succ_of_lt hm)
    omega

theorem next_of_not_takes {s : Scanner} {k : Nat} (h : (s.found k).takes = false) (j : Nat) :
    (s.after (k + j)).next = (s.after k).next := by
  induction j with
  | zero => rfl
  | succ j ih =>
    have hstep : s.after (k + (j + 1)) = (s.after k).next.2 := congrArg Prod.snd ih
    rw [hstep]
    exact next_next h

/-- Finitely many calls take something, and no call after them does. -/
theorem exists_last (s : Scanner) :
    ∃ k ≤ Text.byteLength s.rest, (s.found k).takes = false ∧ ∀ n < k, (s.found n).takes = true := by
  have hex : ∃ k, (s.found k).takes = false := by
    by_contra hnone
    have hall : ∀ n, (s.found n).takes = true := by simpa using hnone
    have hle := s.add_left_le (n := Text.byteLength s.rest + 1) fun m _ => hall m
    omega
  have hbefore : ∀ n < Nat.find hex, (s.found n).takes = true := by
    intro n hn
    simpa using Nat.find_min hex hn
  have hle := add_left_le hbefore
  exact ⟨Nat.find hex, by omega, Nat.find_spec hex, hbefore⟩

theorem stands_ofString (text : String) (n : Nat) : Stands text.toList ((ofString text).after n) := by
  have hstart : Stands text.toList (ofString text) := ⟨[], rfl, rfl⟩
  exact stands_after hstart n

theorem after_next (s : Scanner) (n : Nat) : s.next.2.after n = s.after (n + 1) := by
  induction n with
  | zero => rfl
  | succ n ih => exact congrArg (fun t => t.next.2) ih

theorem steps_eq_map (s : Scanner) (n : Nat) : steps n s = (List.range n).map s.found := by
  induction n generalizing s with
  | zero => rfl
  | succ n ih =>
    have hfound : s.next.2.found = s.found ∘ Nat.succ := by
      funext m
      rw [found, after_next]
      rfl
    rw [steps, ih, hfound, List.range_succ_eq_map, List.map_cons, List.map_map]
    rfl

end Scanner

/-! ## The scanner of a text -/

theorem utf8ByteSize_ofList (cs : List Char) : (String.ofList cs).utf8ByteSize = Text.byteLength cs := by
  rw [← Text.length_utf8, Text.utf8]
  change (String.ofList cs).toByteArray.size = _
  rw [String.toByteArray_ofList]
  simp [List.utf8Encode]

theorem Scanner.Stands.isValid {text : String} {s : Scanner} (h : s.Stands text.toList) :
    String.Pos.Raw.IsValid text ⟨s.position⟩ := by
  obtain ⟨front, ht, hp⟩ := h
  refine String.Pos.Raw.isValid_iff_exists_append.mpr
    ⟨String.ofList front, String.ofList s.rest, ?_, ?_⟩
  · rw [← String.ofList_append, ← ht, String.ofList_toList]
  · rw [hp, ← utf8ByteSize_ofList]
    rfl

/-- What holds of the calls of a scanner of a text, continued after all errors. -/
structure Scanner.Sound (text : String) (s : Scanner) : Prop where
  /-- The results of several calls are what each of them finds. -/
  results : ∀ n, steps n s = (List.range n).map s.found
  /-- Before every call the scanner is on a character boundary of the text. -/
  stands : ∀ n, (s.after n).position ≤ text.utf8ByteSize ∧
    String.Pos.Raw.IsValid text ⟨(s.after n).position⟩
  /-- The scanner by bytes finds the same and ends at the same position, and never slices the text within
  a character or beyond the end. -/
  bytewise : ∀ n, Text.scan? text.toList (s.after n).position =
    some (s.found n, (s.after (n + 1)).position)
  /-- Positions never decrease. -/
  onward : ∀ m n, m ≤ n → (s.after m).position ≤ (s.after n).position
  /-- A call that finds a token, a number without digits, or an unterminated text takes at least one
  byte. -/
  advances : ∀ n, (s.found n).takes = true → (s.after n).position < (s.after (n + 1)).position
  /-- Such calls come first, at most as many as the text has bytes, and all later calls find the same: the
  end, or a character that begins no token. -/
  ends : ∃ k ≤ text.utf8ByteSize, (∀ n, (s.found n).takes = true ↔ n < k) ∧
    ∃ last, (last = .finished ∨ ∃ c p, last = .error (.unexpectedCharacter c p)) ∧
      ∀ n, k ≤ n → s.found n = last
  /-- Anything found after something that was taken has a greater position. -/
  ordered : ∀ m n p q, m < n → (s.found m).takes = true → (s.found m).position? = some p →
    (s.found n).position? = some q → p < q
  /-- A character that begins no token is the one at its position. -/
  character : ∀ n c p, s.found n = .error (.unexpectedCharacter c p) →
    ∃ front back, text = front ++ String.ofList (c :: back) ∧ p = front.utf8ByteSize

/-- The calls of the scanner of any text are sound, continued after errors. -/
theorem Scanner.sound_ofString (text : String) : (Scanner.ofString text).Sound text where
  results := steps_eq_map _
  stands n := ⟨(stands_ofString text n).isValid.le_utf8ByteSize, (stands_ofString text n).isValid⟩
  bytewise n := by
    obtain ⟨front, ht, hp⟩ := stands_ofString text n
    rw [ht, hp, Text.scan?_eq, ← hp]
    rfl
  onward m n h := position_mono _ h
  advances n h := (step_after _ n).position_lt h
  ends := by
    obtain ⟨k, hk, hlast, hbefore⟩ := exists_last (ofString text)
    have hsize : Text.byteLength (ofString text).rest = text.utf8ByteSize := by
      rw [← utf8ByteSize_ofList, ofString, String.ofList_toList]
    -- after the last call that takes something, all calls find the same
    have hsame : ∀ n, k ≤ n → (ofString text).found n = (ofString text).found k := by
      intro n hn
      obtain ⟨j, rfl⟩ := Nat.exists_eq_add_of_le hn
      exact congrArg Prod.fst (next_of_not_takes hlast j)
    refine ⟨k, hsize ▸ hk, fun n => ⟨fun hf => ?_, hbefore n⟩, _, ?_, hsame⟩
    · by_contra hn
      rw [hsame n (Nat.not_lt.mp hn), hlast] at hf
      cases hf
    · rcases (step_after _ k).end_or_character hlast with hend | ⟨c, hc⟩
      · exact .inl hend
      · exact .inr ⟨c, _, hc⟩
  ordered m n p q := position_lt_of_lt
  character n c p h := by
    have hstep := (ofString text).step_after n
    rw [h] at hstep
    obtain ⟨front, back, ht, hp⟩ := hstep.character_at (stands_ofString text n)
    refine ⟨String.ofList front, back, ?_, ?_⟩
    · rw [← String.ofList_append, ← ht, String.ofList_toList]
    · rw [hp, utf8ByteSize_ofList]

/-- Behind an open quote its content is scanned, up to a character outside ASCII. -/
example : (Scanner.ofString "\"a é").steps 4 =
    [.error (.unterminatedText 0), .token ⟨.name "a", 1⟩, .error (.unexpectedCharacter 'é' 3),
      .error (.unexpectedCharacter 'é' 3)] := by decide +kernel

end FeatureFlags
