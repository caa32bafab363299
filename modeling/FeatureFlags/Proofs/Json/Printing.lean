import FeatureFlags.Proofs.Json.Reading
import FeatureFlags.Json.Printer

/-!
# Printed values

`Json.print` of a value without numerals is one of the texts that are written for the value
(`writes_print`).
-/

namespace FeatureFlags.Json

open Form

/-! ## Texts -/

theorem hexDigit?_digitChar {n : Nat} (hn : n < 16) : hexDigit? (Nat.digitChar n) = some n := by
  have h : ∀ n : Fin 16, hexDigit? (Nat.digitChar n) = some n.val := by decide
  exact h ⟨n, hn⟩

theorem quoting_escapeChar (c : Char) {ps : List Piece} {w cs : List Char} (hw : Quoting ps w)
    (hd : Denotes ps cs) :
    ∃ p, Quoting (p :: ps) (escapeChar c ++ w) ∧ Denotes (p :: ps) (c :: cs) := by
  have hshort : ∀ e : Char, shortEscape? e = some c →
      ∃ p, Quoting (p :: ps) (['\\', e] ++ w) ∧ Denotes (p :: ps) (c :: cs) :=
    fun e he => ⟨.char c, .short he hw, .char c hd⟩
  unfold escapeChar
  split
  · rename_i h
    exact hshort '"' (by rw [h]; rfl)
  split
  · rename_i h
    exact hshort '\\' (by rw [h]; rfl)
  split
  · rename_i h
    exact hshort 'b' (by rw [h]; rfl)
  split
  · rename_i h
    exact hshort 'f' (by rw [h]; rfl)
  split
  · rename_i h
    exact hshort 'n' (by rw [h]; rfl)
  split
  · rename_i h
    exact hshort 'r' (by rw [h]; rfl)
  split
  · rename_i h
    exact hshort 't' (by rw [h]; rfl)
  split
  · rename_i h
    have hc : c.toNat < 32 := h
    have hn : ((0 * 16 + 0) * 16 + c.toNat / 16) * 16 + c.toNat % 16 = c.toNat := by omega
    have hzero : hexDigit? '0' = some 0 := rfl
    have hunit := Quoting.unit hzero hzero (hexDigit?_digitChar (by omega : c.toNat / 16 < 16))
      (hexDigit?_digitChar (by omega : c.toNat % 16 < 16)) hw
    rw [hn] at hunit
    exact ⟨_, hunit, .unit (by omega) hd⟩
  · rename_i hq hb _ _ _ _ _ hc
    exact ⟨.char c, .plain hq hb hc hw, .char c hd⟩

theorem quoting_escaped (cs : List Char) :
    ∃ ps, Quoting ps (cs.flatMap escapeChar) ∧ Denotes ps cs := by
  induction cs with
  | nil => exact ⟨[], .nil, .nil⟩
  | cons c cs ih =>
    obtain ⟨ps, hw, hd⟩ := ih
    obtain ⟨p, hw, hd⟩ := quoting_escapeChar c hw hd
    exact ⟨p :: ps, hw, hd⟩

theorem written_printText (s : String) : Written (.text (some s)) (printText s) := by
  obtain ⟨ps, hw, hd⟩ := quoting_escaped s.toList
  exact .text_of_denotes hw hd

/-! ## Values -/

mutual
/-- Whether there are no numerals in a value. -/
def isPlain : Json → Bool
  | null => true
  | boolean _ => true
  | number _ => false
  | text _ => true
  | array items => arePlain items
  | object members => arePlainMembers members

def arePlain : List Json → Bool
  | [] => true
  | v :: rest => v.isPlain && arePlain rest

/-- Whether there are no numerals in members. -/
def arePlainMembers : List (String × Json) → Bool
  | [] => true
  | (_, v) :: rest => v.isPlain && arePlainMembers rest
end

theorem arePlain_iff {vs : List Json} : arePlain vs = true ↔ ∀ v ∈ vs, v.isPlain = true := by
  induction vs with
  | nil => simp [arePlain]
  | cons v rest ih => simp [arePlain, ih]

theorem arePlainMembers_iff {ms : List (String × Json)} :
    arePlainMembers ms = true ↔ ∀ m ∈ ms, m.2.isPlain = true := by
  induction ms with
  | nil => simp [arePlainMembers]
  | cons m rest ih => simp [arePlainMembers, ih]

theorem writes_printItems {vs : List Json} (h : ∀ v ∈ vs, Writes v.form.yield v.print) :
    Writes (yieldItems true (formItems vs)) (printItems vs) := by
  induction vs with
  | nil => exact .nil (List.forall_mem_nil _)
  | cons v rest ih =>
    have hv := h v List.mem_cons_self
    have hrest := ih fun w hw => h w (List.mem_cons_of_mem _ hw)
    cases rest with
    | nil =>
      rw [formItems, formItems, yieldItems, yieldItems, List.append_nil]
      exact hv
    | cons w rest => exact hv.append (.lexeme .comma hrest rfl) (by rintro _ ⟨⟩; rfl)

theorem writes_printMembers {ms : List (String × Json)}
    (h : ∀ m ∈ ms, Writes m.2.form.yield m.2.print) :
    Writes (yieldMembers true (formMembers ms)) (printMembers ms) := by
  induction ms with
  | nil => exact .nil (List.forall_mem_nil _)
  | cons m rest ih =>
    have hm := h m List.mem_cons_self
    have hrest := ih fun n hn => h n (List.mem_cons_of_mem _ hn)
    cases rest with
    | nil =>
      rw [formMembers, formMembers, yieldMembers, yieldMembers, List.append_nil]
      exact .lexeme (written_printText m.1) (.lexeme .colon hm rfl) rfl
    | cons n rest =>
      have hmore := hm.append (.lexeme .comma hrest rfl) (by rintro _ ⟨⟩; rfl)
      have hcolon := Writes.lexeme .colon hmore rfl
      have hname := Writes.lexeme (written_printText m.1) hcolon rfl
      rw [printMembers, List.append_assoc]
      · exact hname
      · intro hrest
        cases hrest

/-- The compact form of a value without numerals is written for it. -/
theorem writes_print {v : Json} (hv : v.isPlain = true) : Writes v.form.yield v.print := by
  induction v with
  | null => exact .lexeme .null (.nil (List.forall_mem_nil _)) rfl
  | boolean b =>
    cases b with
    | true => exact .lexeme .yes (.nil (List.forall_mem_nil _)) rfl
    | false => exact .lexeme .no (.nil (List.forall_mem_nil _)) rfl
  | number => cases hv
  | text s =>
    have ht := Writes.lexeme (written_printText s) (.nil (List.forall_mem_nil _)) rfl
    rwa [List.append_nil] at ht
  | array items ih =>
    have hitems := writes_printItems fun v hmem => ih v hmem (arePlain_iff.mp hv v hmem)
    have hclose := Writes.lexeme .closeBracket (.nil (List.forall_mem_nil _)) rfl
    rw [print, List.append_assoc]
    exact .lexeme .openBracket (hitems.append hclose (by rintro _ ⟨⟩; rfl)) rfl
  | object members ih =>
    have hmembers := writes_printMembers fun m hmem => ih m hmem (arePlainMembers_iff.mp hv m hmem)
    have hclose := Writes.lexeme .closeBrace (.nil (List.forall_mem_nil _)) rfl
    rw [print, List.append_assoc]
    exact .lexeme .openBrace (hmembers.append hclose (by rintro _ ⟨⟩; rfl)) rfl

end FeatureFlags.Json
