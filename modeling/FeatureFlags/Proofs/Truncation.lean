import FeatureFlags.Proofs.Refresh

/-!
# Payloads that are cut off

A payload is an object or a list and ends with its closing bracket. The text up to there is not a
proper prefix of another payload (`Json.space_of_writes_append`): skipping a value ends where the
value ends, so only white space can follow a complete one.

So no proper prefix of an accepted payload is accepted, unless only white space is missing. A
truncated payload is not read as one with fewer experiments either; the client refuses it and stays
as it was (`Application.truncated_refused`).
-/

namespace FeatureFlags

namespace Json

/-! ## Prefixes of texts -/

theorem lexemesUpTo_spaces {spaces : List Char} (hs : ∀ c ∈ spaces, isSpace c = true) (fuel : Nat)
    (cs : List Char) : lexemesUpTo fuel (spaces ++ cs) = lexemesUpTo fuel cs := by
  cases fuel with
  | zero => rfl
  | succ fuel => rw [lexemesUpTo, List.dropWhile_append_of_pos hs, lexemesUpTo]

theorem space_of_lexemesUpTo_eq_nil {fuel : Nat} {cs : List Char} (hf : cs.length ≤ fuel)
    (h : lexemesUpTo fuel cs = []) : ∀ c ∈ cs, isSpace c = true := by
  cases fuel with
  | zero =>
    rw [List.eq_nil_of_length_eq_zero (Nat.le_zero.mp hf)]
    exact List.forall_mem_nil _
  | succ fuel =>
    rw [lexemesUpTo] at h
    cases hd : cs.dropWhile isSpace with
    | nil => exact List.dropWhile_eq_nil_iff.mp hd
    | cons c rest =>
      rw [hd] at h
      rcases ht : takeLexeme c rest with ⟨l, _ | rest'⟩
      · simp [ht] at h
      · simp [ht] at h

theorem Writes.ne_nil {l : Lexeme} {ls : List Lexeme} {cs : List Char} (h : Writes (l :: ls) cs) :
    cs ≠ [] := by
  cases h with
  | cons spaces _ hl _ _ =>
    obtain ⟨c, v, rfl, -⟩ := hl.head
    simp

/-- The lexemes of a text remain when it is continued, except a numeral at its end, which could be
longer. -/
theorem Writes.lexemesUpTo_append {ls : List Lexeme} {cs : List Char} (h : Writes ls cs)
    (hlast : ∀ l ∈ ls.getLast?, l.isNumber = false) (ds : List Char) {fuel : Nat}
    (hf : (cs ++ ds).length ≤ fuel) :
    ∃ n, ds.length ≤ n ∧ lexemesUpTo fuel (cs ++ ds) = ls ++ lexemesUpTo n ds := by
  induction h generalizing fuel with
  | nil hs =>
    rw [List.length_append] at hf
    exact ⟨fuel, by omega, lexemesUpTo_spaces hs fuel ds⟩
  | @cons l ls w rest spaces hs hl hr hn ih =>
    have hstop : l.isNumber = true → ∀ c ∈ (rest ++ ds).head?, goesOn c = false := by
      intro hnumber c hc
      cases ls with
      | nil =>
        have := hlast l rfl
        rw [hnumber] at this
        cases this
      | cons k ks =>
        rw [List.head?_append_of_ne_nil _ hr.ne_nil] at hc
        exact (hr.head c hc).trans (hn hnumber c hc)
    have hlast' : ∀ k ∈ ls.getLast?, k.isNumber = false := by
      intro k hk
      cases ls with
      | nil => cases hk
      | cons _ _ => exact hlast k (by rwa [List.getLast?_cons_cons])
    obtain ⟨c, v, rfl, hspace, -⟩ := hl.head
    obtain ⟨_, _, hcv, ht⟩ := hl.take hstop
    cases hcv
    have hlength : (rest ++ ds).length < fuel := by
      simp only [List.length_append, List.length_cons] at hf ⊢
      omega
    obtain ⟨fuel, rfl⟩ := Nat.exists_eq_succ_of_ne_zero (by omega : fuel ≠ 0)
    obtain ⟨n, hn, he⟩ := ih hlast' (Nat.lt_succ_iff.mp hlength)
    have hdrop : (spaces ++ (c :: v ++ rest) ++ ds).dropWhile isSpace = c :: (v ++ (rest ++ ds)) := by
      rw [List.append_assoc, List.dropWhile_append_of_pos hs, List.cons_append, List.cons_append,
        List.dropWhile_cons, hspace, List.append_assoc]
      rfl
    refine ⟨n, hn, ?_⟩
    rw [lexemesUpTo, hdrop]
    simp only [ht, he, List.cons_append]

/-- If a complete text is continued to a complete text, it is by white space only, unless it ends with a
numeral. -/
theorem space_of_writes_append {f g : Form} {cs ds : List Char} (hg : Writes g.yield cs)
    (hlast : ∀ l ∈ g.yield.getLast?, l.isNumber = false) (hf : Writes f.yield (cs ++ ds)) :
    ∀ c ∈ ds, isSpace c = true := by
  obtain ⟨n, hn, he⟩ := hg.lexemesUpTo_append hlast ds (Nat.le_refl _)
  rw [hf.lexemesUpTo_eq (Nat.le_refl _)] at he
  -- one value is skipped in two ways
  have hwhole : skipValue f.yield = .ok [] := skipValue_eq_ok.mpr ⟨f, (List.append_nil _).symm⟩
  have hfirst : skipValue f.yield = .ok (lexemesUpTo n ds) := skipValue_eq_ok.mpr ⟨g, he⟩
  rw [hwhole, Except.ok.injEq] at hfirst
  exact space_of_lexemesUpTo_eq_nil hn hfirst.symm

theorem Form.not_number_of_opened {f : Form} {ks : List Lexeme}
    (h : f.yield = .openBrace :: ks ∨ f.yield = .openBracket :: ks) :
    ∀ l ∈ f.yield.getLast?, l.isNumber = false := by
  cases f with
  | array items =>
    intro l hl
    rw [yield, ← List.cons_append, List.getLast?_concat] at hl
    cases hl
    rfl
  | object members =>
    intro l hl
    rw [yield, ← List.cons_append, List.getLast?_concat] at hl
    cases hl
    rfl
  | _ => rcases h with h | h <;> cases h

theorem opened_of_readRecord {defaults : List (String × Option Json)} {readers : FieldReaders}
    {depth : Nat} {ls : List Lexeme} {p : Json × List Lexeme}
    (h : readRecord defaults readers depth ls = .ok p) :
    ∃ ks, ls = .openBrace :: ks ∨ ls = .openBracket :: ks := by
  unfold readRecord at h
  split at h
  · exact ⟨_, .inl rfl⟩
  · exact ⟨_, .inr rfl⟩
  · cases h

end Json

open Json

/-! ## Prefixes of payloads -/

namespace Configuration

theorem exists_form_of_read {payload : String} {k : Configuration} (h : read payload = .ok k) :
    ∃ f : Form, Writes f.yield payload.toList ∧ ∀ l ∈ f.yield.getLast?, l.isNumber = false := by
  have hfields : ∀ p ∈ [("experiments", readList readValue)], PassesForms (p.2 1) := by
    refine List.forall_mem_singleton.mpr (passesForms_readList fun ls v rest hv => ?_)
    exact ⟨v.form, ((readValue_eq_ok (by decide)).mp hv).1⟩
  cases hwhole : readWhole (schema.read 0) payload with
  | error e =>
    rw [read, hwhole] at h
    cases h
  | ok v =>
    obtain ⟨⟨w, rest⟩, hread, hend⟩ := bind_eq_ok.mp hwhole
    have hrecord : readRecord [("experiments", some (.array []))]
        [("experiments", readList readValue)] 0 (lexemes payload) = .ok (w, rest) := hread
    obtain ⟨f, hf⟩ := passesForms_readRecord hfields _ _ _ hrecord
    obtain ⟨ks, hks⟩ := opened_of_readRecord hrecord
    -- nothing can follow the record
    cases rest with
    | cons l ls => cases hend
    | nil =>
      rw [List.append_nil] at hf
      rw [hf] at hks
      exact ⟨f, writes_iff_lexemes.mpr ⟨hf, f.isBroken_of_mem_yield⟩, Form.not_number_of_opened hks⟩

/-- A prefix of an accepted payload is accepted only if nothing but white space is missing. -/
theorem space_of_read_append {q r : String} {k k' : Configuration} (h : read (q ++ r) = .ok k)
    (h' : read q = .ok k') : ∀ c ∈ r.toList, isSpace c = true := by
  obtain ⟨f, hf, -⟩ := exists_form_of_read h
  obtain ⟨g, hg, hlast⟩ := exists_form_of_read h'
  rw [String.toList_append] at hf
  exact space_of_writes_append hg hlast hf

end Configuration

namespace Application

/-- If a payload is accepted, every prefix of it that lacks a character other than white space is
refused, by every client at any time. The only effect is a report, so all clients keep their experiments
and all variants their bindings. -/
theorem truncated_refused {a : Application} {limit : Nat} {c : ClientId} {payload q r : String}
    (h : (a.perform limit c (.applyConfiguration payload)).1 = .ok .done) (hp : payload = q ++ r)
    (hr : ∃ x ∈ r.toList, isSpace x = false) (a' : Application) (limit' : Nat) (c' : ClientId) :
    ∃ fault, Configuration.read q = .error fault ∧
      a'.perform limit' c' (.applyConfiguration q) =
        (.ok (.refused (.invalidConfiguration fault)), a'.tell [.reported .unreadableConfiguration]) ∧
      (a'.perform limit' c' (.applyConfiguration q)).2.clients = a'.clients ∧
      (a'.perform limit' c' (.applyConfiguration q)).2.variants = a'.variants := by
  cases hq : Configuration.read q with
  | error fault =>
    rw [perform_of_unreadable hq]
    exact ⟨fault, rfl, rfl, rfl, rfl⟩
  | ok k' =>
    cases hread : Configuration.read payload with
    | error fault =>
      rw [perform_of_unreadable hread] at h
      cases h
    | ok k =>
      obtain ⟨x, hx, hspace⟩ := hr
      rw [hp] at hread
      rw [Configuration.space_of_read_append hread hq x hx] at hspace
      cases hspace

/-- A payload without its last brace is refused, though its list of experiments is complete. -/
theorem truncated_refused_braceless :
    ∃ fault, (((ofVariants []).addClient ⟨.empty, .ofNat 0, [], none, false⟩).perform 0 0
      (.applyConfiguration "\x7b\"experiments\":[7]")).1 =
        .ok (.refused (.invalidConfiguration fault)) := by
  let a := (ofVariants []).addClient ⟨.empty, .ofNat 0, [], none, false⟩
  have hwrites : Writes (Form.object [(some "experiments",
      .array ([.number (.natural 7)].map Json.form))]).yield
        "\x7b\"experiments\":[7]\x7d\n".toList :=
    writes_iff_lexemes.mpr ⟨by decide +kernel, Form.isBroken_of_mem_yield _⟩
  have hread := Configuration.read_of_values (by decide)
    ⟨[], _, List.forall_mem_nil _, .refl _, rfl⟩ hwrites
  have hdone : (a.perform 0 0 (.applyConfiguration "\x7b\"experiments\":[7]\x7d\n")).1 = .ok .done := by
    rw [perform_of_readable hread]
    exact (perform_setExperiments _).1
  obtain ⟨fault, -, hperform, -⟩ := truncated_refused (q := "\x7b\"experiments\":[7]") (r := "\x7d\n")
    hdone (by decide +kernel) ⟨'\x7d', by decide, rfl⟩ a 0 0
  exact ⟨fault, congrArg Prod.fst hperform⟩

end Application

end FeatureFlags
