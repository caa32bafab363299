import FeatureFlags.Proofs.Scanning

/-!
# Where a text stops being an expression

`Node.parse` refuses a text at the first token that no expression can have there, or at the end of
the text if an expression could still continue (`Refusal`, `parse_refused_where_viability_ends`). So
the text before the refused token is the longest beginning that can be completed to an expression.

That the refused token cannot occur there follows from completeness of the parser
(`Reading.run_of_yields`). That everything before it can be completed is shown by closing the open
calls (`Reading.Opened.closes`).
-/

namespace FeatureFlags

def tokensOf (lts : List Located) : List Token := lts.map Located.token

/-- Tokens with arbitrary positions. -/
def unlocated (ts : List Token) : List Located := ts.map fun t => ⟨t, 0⟩

theorem tokensOf_append_unlocated (lts : List Located) (us : List Token) :
    tokensOf (lts ++ unlocated us) = tokensOf lts ++ us := by
  simp [tokensOf, unlocated, Function.comp_def]

/-- Whether tokens are an expression with at most `maxDepth` nested calls. -/
def Complete (ts : List Token) : Prop := ∃ e : Expr, e.Yields ts ∧ e.depth ≤ maxDepth

/-- Whether tokens can be completed to an expression with at most `maxDepth` nested calls. -/
def Viable (ts : List Token) : Prop := ∃ us, Complete (ts ++ us)

/-- Whether tokens can be completed to an expression of any depth. -/
def Grammatical (ts : List Token) : Prop := ∃ (e : Expr) (us : List Token), e.Yields (ts ++ us)

/-- The number of parentheses opened and not closed, that is of calls around what follows. -/
def openCalls (ts : List Token) : Nat := ts.count .openParen - ts.count .closeParen

/-- Whether a token is the first one that no expression can have there. -/
structure StopsAt (lts before : List Located) (x : Located) : Prop where
  /-- The tokens before the token. -/
  splits : ∃ after, lts = before ++ x :: after
  /-- These can be completed to an expression. -/
  viable : Viable (tokensOf before)
  /-- These with the token cannot. -/
  stops : ¬Viable (tokensOf before ++ [x.token])

/-- The reason why tokens, from a text of `size` bytes, are not an expression. -/
inductive Refusal (size : Nat) (lts : List Located) : SyntaxError → Prop
  /-- A token that the grammar does not allow after tokens that are not an expression yet. -/
  | unexpectedToken {before : List Located} {x : Located} (hs : StopsAt lts before x)
    (hg : ¬Grammatical (tokensOf before ++ [x.token])) (hc : ¬Complete (tokensOf before)) :
    Refusal size lts (.unexpectedToken x.token x.position)
  /-- A name that the grammar allows, but nested too deeply. -/
  | nestedTooDeeply {before : List Located} {x : Located} {name : String}
    (hs : StopsAt lts before x) (hx : x.token = .name name)
    (hg : Grammatical (tokensOf before ++ [x.token])) (ho : openCalls (tokensOf before) = maxDepth) :
    Refusal size lts (.nestedTooDeeply x.position)
  /-- A token after an expression. -/
  | trailingInput {before : List Located} {x : Located} (hs : StopsAt lts before x)
    (hg : ¬Grammatical (tokensOf before ++ [x.token])) (hc : Complete (tokensOf before)) :
    Refusal size lts (.trailingInput x.position)
  /-- The end of the text, before the expression is complete. -/
  | unexpectedEnd (hv : ∃ us, us ≠ [] ∧ Complete (tokensOf lts ++ us))
    (hc : ¬Complete (tokensOf lts)) : Refusal size lts (.unexpectedEnd size)

theorem Viable.of_append {ts us : List Token} (h : Viable (ts ++ us)) : Viable ts := by
  obtain ⟨vs, hc⟩ := h
  exact ⟨us ++ vs, by rwa [← List.append_assoc]⟩

theorem Complete.viable {ts : List Token} (h : Complete ts) : Viable ts :=
  ⟨[], by rwa [List.append_nil]⟩

namespace Expr

mutual
theorem Yields.count_parens : ∀ {e : Expr} {ts : List Token}, Yields e ts →
    ts.count .openParen = ts.count .closeParen
  | _, _, .literal (t := t) hv => by cases t <;> simp [Token.literal?] at hv ⊢
  | _, _, .name _ => by simp
  | _, _, .empty _ => by simp
  | _, _, .call h => by simp [List.count_append, h.count_parens]

theorem YieldsAll.count_parens : ∀ {es : List Expr} {ts : List Token}, YieldsAll es ts →
    ts.count .openParen = ts.count .closeParen
  | _, _, .one h => h.count_parens
  | _, _, .cons h hr => by simp [List.count_append, h.count_parens, hr.count_parens]
end

end Expr

namespace Reading

/-! ## Prefixes of expressions -/

theorem Followed.count_parens {es : List Expr} {ts : List Token} (h : Followed es ts) :
    ts.count .openParen = ts.count .closeParen := by
  induction h with
  | nil => rfl
  | cons _ hy ih => simp [List.count_append, ih, hy.count_parens]

theorem Opened.openCalls_eq {frames : List Frame} {ts : List Token} (h : Opened frames ts) :
    openCalls ts = frames.length := by
  suffices hc : ts.count .openParen = ts.count .closeParen + frames.length by
    unfold openCalls
    omega
  induction h with
  | nil => rfl
  | cons _ ha ih =>
    simp [List.count_append, ih, ha.count_parens]
    omega

/-- Open calls around an expression can be closed, and the result is not too deep if nothing in it is.
-/
theorem Opened.closes {frames : List Frame} {us : List Token} (ho : Opened frames us) :
    ∀ {e : Expr} {vs : List Token}, e.Yields vs → ∃ (e' : Expr) (ws : List Token),
      e'.Yields (us ++ vs ++ ws) ∧
      (Bounded frames → e.depth + frames.length ≤ maxDepth → e'.depth ≤ maxDepth) := by
  induction ho with
  | nil =>
    intro e vs he
    exact ⟨e, [], by simpa using he, fun _ hd => hd⟩
  | cons _ ha ih =>
    intro e vs he
    obtain ⟨e', ws, hy, hd⟩ := ih (closed_yields ha he)
    refine ⟨e', .closeParen :: ws, by simpa using hy, fun hb hdepth => ?_⟩
    exact hd hb.2.2 (closed_depth hb hdepth)

theorem viable_of_reads {r : Reading} {ts : List Token} (hr : Reads r ts) (hs : Shallow r) :
    Viable ts := by
  cases r with
  | operand mayClose frames =>
    -- any literal can be here
    have hy : (Expr.literal .undefined).Yields [.undefined] := .literal rfl
    obtain ⟨e, ws, he, hd⟩ := hr.1.closes hy
    rw [List.append_assoc] at he
    refine ⟨_, e, he, hd hs ?_⟩
    have := Bounded.length_le hs
    simp only [Expr.depth]
    omega
  | named n frames =>
    obtain ⟨us, ho, rfl⟩ := hr
    obtain ⟨e, ws, he, hd⟩ := ho.closes (.name n)
    refine ⟨ws, e, he, hd hs.2 ?_⟩
    have := hs.1
    simp only [Expr.depth, Expr.depthAll]
    omega
  | complete e frames =>
    obtain ⟨us, vs, ho, hy, rfl⟩ := hr
    obtain ⟨e', ws, he, hd⟩ := ho.closes hy
    exact ⟨ws, e', he, hd hs.2 hs.1⟩

theorem grammatical_name {mayClose : Bool} {frames : List Frame} {ts : List Token}
    (hr : Reads (operand mayClose frames) ts) (n : String) : Grammatical (ts ++ [.name n]) := by
  obtain ⟨e, ws, he, -⟩ := hr.1.closes (.name n)
  exact ⟨e, ws, he⟩

/-! ## Refused tokens -/

/-- The tokens that a step refuses, and the state in which it does. -/
theorem step_error {r : Reading} {t : Located} {err : SyntaxError} (h : step r t = .error err) :
    (err = .nestedTooDeeply t.position ∧ (∃ n, t.token = .name n) ∧
      ∃ mayClose frames, r = operand mayClose frames ∧ maxDepth ≤ frames.length) ∨
    (err = .trailingInput t.position ∧ ∃ e, Behind e [] r) ∨
    (err = .unexpectedToken t.token t.position ∧ ∀ e, ¬Behind e [] r) := by
  have hafter : ∀ {e : Expr} {frames : List Frame}, afterExpression e frames t = .error err →
      Behind e frames r → (err = .trailingInput t.position ∧ ∃ e, Behind e [] r) ∨
        (err = .unexpectedToken t.token t.position ∧ ∀ e, ¬Behind e [] r) := by
    intro e frames h hb
    cases frames with
    | nil =>
      cases h
      exact .inl ⟨rfl, e, hb⟩
    | cons f outer =>
      simp only [afterExpression] at h
      split at h
      · cases h
      · cases h
      · cases h
        refine .inr ⟨rfl, fun e' hb' => ?_⟩
        -- the state is inside a call
        rcases hb with rfl | ⟨n, -, rfl⟩ <;> rcases hb' with hb' | ⟨n', -, hb'⟩ <;> cases hb'
  cases r with
  | operand mayClose frames =>
    have hnot : ∀ e, ¬Behind e [] (operand mayClose frames) := by
      rintro e (hb | ⟨n, -, hb⟩) <;> cases hb
    simp only [step, atOperand] at h
    split at h
    · cases h
    · rename_i n _ hn
      split at h
      · rename_i hd
        cases h
        exact .inl ⟨rfl, ⟨n, hn⟩, _, _, rfl, hd⟩
      · cases h
    · split at h
      · cases h
      · cases h
        exact .inr (.inr ⟨rfl, hnot⟩)
    · cases h
      exact .inr (.inr ⟨rfl, hnot⟩)
  | named n frames =>
    simp only [step] at h
    split at h
    · cases h
    · exact .inr (hafter h (.inr ⟨n, rfl, rfl⟩))
  | complete e frames => exact .inr (hafter h (.inl rfl))

theorem run_error {r : Reading} {lts : List Located} {err : SyntaxError}
    (h : run r lts = .error err) :
    ∃ before x after r', lts = before ++ x :: after ∧ run r before = .ok r' ∧
      step r' x = .error err := by
  induction lts generalizing r with
  | nil => cases h
  | cons t rest ih =>
    rw [run_cons] at h
    cases ht : step r t with
    | error e =>
      rw [ht] at h
      cases h
      exact ⟨[], t, rest, r, rfl, rfl, ht⟩
    | ok r₁ =>
      rw [ht] at h
      obtain ⟨before, x, after, r', rfl, hb, hx⟩ := ih h
      exact ⟨t :: before, x, after, r', rfl, by rw [run_cons, ht]; exact hb, hx⟩

/-- Tokens with a refused token at the end cannot be completed; unless the token was refused for depth,
not even to a deeper expression. -/
theorem refused {before : List Located} {x : Located} {r : Reading} {err : SyntaxError}
    (hb : run start before = .ok r) (hx : step r x = .error err) :
    ¬Viable (tokensOf before ++ [x.token]) ∧
      (Grammatical (tokensOf before ++ [x.token]) → ∃ position, err = .nestedTooDeeply position) := by
  -- whatever follows, the parser reaches the refused token
  have hrun : ∀ us : List Token, run start (before ++ x :: unlocated us) = .error err := by
    intro us
    rw [run_append, hb]
    show run r (x :: unlocated us) = _
    rw [run_cons, hx]
    rfl
  have htokens : ∀ us : List Token, tokensOf (before ++ x :: unlocated us) =
      tokensOf before ++ [x.token] ++ us := by
    intro us
    have := tokensOf_append_unlocated (before ++ [x]) us
    simpa [tokensOf] using this
  constructor
  · rintro ⟨us, e, hy, hd⟩
    obtain ⟨r', hr', -⟩ := (run_of_yields hy false [] (htokens us)).eq_ok (by simpa using hd)
    have := hrun us
    rw [start, hr'] at this
    cases this
  · rintro ⟨e, us, hy⟩
    have hreach := run_of_yields hy false [] (htokens us)
    have := hrun us
    rw [start] at this
    rw [this] at hreach
    exact hreach.2

/-- Parsed tokens are an expression if and only if the parser is in a state after one. -/
theorem complete_iff {lts : List Located} {r : Reading} (h : run start lts = .ok r) :
    Complete (tokensOf lts) ↔ ∃ e, Behind e [] r := by
  constructor
  · rintro ⟨e, hy, hd⟩
    obtain ⟨r', hr', hb⟩ := (run_of_yields hy false [] rfl).eq_ok (by simpa using hd)
    rw [start, hr'] at h
    cases h
    exact ⟨e, hb⟩
  · rintro ⟨e, hb⟩
    have : Expr.ofTokens 0 lts = .ok e := by
      unfold Expr.ofTokens
      rw [h]
      exact hb.finish
    exact ⟨e, yields_of_ofTokens this⟩

theorem reads_of_run {lts : List Located} {r : Reading} (h : run start lts = .ok r) :
    Reads r (tokensOf lts) ∧ Shallow r := by
  have hstart : Reads start [] := ⟨.nil, by simp⟩
  exact reads_run hstart trivial h

end Reading

/-! ## The error of some tokens -/

open Reading in
theorem Expr.refusal_of_ofTokens {size : Nat} {lts : List Located} {err : SyntaxError}
    (h : Expr.ofTokens size lts = .error err) : Refusal size lts err := by
  unfold Expr.ofTokens at h
  cases hr : start.run lts with
  | error e =>
    rw [hr] at h
    cases h
    obtain ⟨before, x, after, r, hl, hb, hx⟩ := run_error hr
    obtain ⟨hreads, hshallow⟩ := reads_of_run hb
    obtain ⟨hstops, hdeep⟩ := refused hb hx
    have hs : StopsAt lts before x := ⟨⟨after, hl⟩, viable_of_reads hreads hshallow, hstops⟩
    rcases step_error hx with ⟨rfl, ⟨n, hn⟩, mayClose, frames, rfl, hd⟩ | ⟨rfl, hend⟩ | ⟨rfl, hend⟩
    · refine .nestedTooDeeply hs hn (hn ▸ grammatical_name hreads n) ?_
      rw [hreads.1.openCalls_eq]
      exact Nat.le_antisymm (Bounded.length_le hshallow) hd
    · refine .trailingInput hs (fun hg => ?_) ((complete_iff hb).mpr hend)
      obtain ⟨_, he⟩ := hdeep hg
      cases he
    · refine .unexpectedToken hs (fun hg => ?_) fun hc => ?_
      · obtain ⟨_, he⟩ := hdeep hg
        cases he
      · obtain ⟨e, he⟩ := (complete_iff hb).mp hc
        exact hend e he
  | ok r =>
    rw [hr] at h
    have hfinish : err = .unexpectedEnd size := by
      simp only [Except.bind] at h
      unfold finish at h
      split at h <;> cases h
      rfl
    have hc : ¬Complete (tokensOf lts) := by
      intro hc
      obtain ⟨e, hb⟩ := (complete_iff hr).mp hc
      rw [show Except.bind (.ok r) (finish size) = r.finish size from rfl, hb.finish] at h
      cases h
    obtain ⟨hreads, hshallow⟩ := reads_of_run hr
    obtain ⟨us, hus⟩ := viable_of_reads hreads hshallow
    subst hfinish
    refine .unexpectedEnd ⟨us, ?_, hus⟩ hc
    rintro rfl
    exact hc (by rwa [List.append_nil] at hus)

theorem not_viable_beyond {before after : List Located} {x : Located}
    (h : ¬Viable (tokensOf before ++ [x.token])) : ¬Viable (tokensOf (before ++ x :: after)) := by
  intro hv
  refine h (@Viable.of_append _ (tokensOf after) ?_)
  simpa [tokensOf] using hv

/-- There is at most one token at which expressions stop. -/
theorem StopsAt.unique {lts before before' : List Located} {x x' : Located}
    (h : StopsAt lts before x) (h' : StopsAt lts before' x') : before = before' ∧ x = x' := by
  obtain ⟨⟨after, hl⟩, hv, hn⟩ := h
  obtain ⟨⟨after', hl'⟩, hv', hn'⟩ := h'
  rw [hl] at hl'
  -- if one of the two were later, the other would be in the viable part before it
  rcases List.append_eq_append_iff.mp hl' with ⟨as, rfl, has⟩ | ⟨as, rfl, has⟩
  · cases as with
    | nil => exact ⟨by simp, (List.cons.inj has).1⟩
    | cons y more =>
      cases (List.cons.inj has).1
      exact absurd hv' (not_viable_beyond hn)
  · cases as with
    | nil => exact ⟨by simp, (List.cons.inj has).1.symm⟩
    | cons y more =>
      cases (List.cons.inj has).1
      exact absurd hv (not_viable_beyond hn')

theorem StopsAt.not_viable {lts before : List Located} {x : Located} (h : StopsAt lts before x) :
    ¬Viable (tokensOf lts) := by
  obtain ⟨after, rfl⟩ := h.splits
  exact not_viable_beyond h.stops

theorem Refusal.not_complete {size : Nat} {lts : List Located} {err : SyntaxError}
    (h : Refusal size lts err) : ¬Complete (tokensOf lts) := by
  cases h with
  | unexpectedToken hs _ _ => exact fun hc => hs.not_viable hc.viable
  | nestedTooDeeply hs _ _ _ => exact fun hc => hs.not_viable hc.viable
  | trailingInput hs _ _ => exact fun hc => hs.not_viable hc.viable
  | unexpectedEnd _ hc => exact hc

theorem Refusal.unique {size : Nat} {lts : List Located} {err err' : SyntaxError}
    (h : Refusal size lts err) (h' : Refusal size lts err') : err = err' := by
  -- both are about the same token, or both about the end
  have hend : ∀ {before : List Located} {x : Located}, StopsAt lts before x →
      ¬∃ us, us ≠ [] ∧ Complete (tokensOf lts ++ us) :=
    fun hs ⟨us, _, hc⟩ => hs.not_viable ⟨us, hc⟩
  cases h with
  | unexpectedToken hs hg hc =>
    cases h' with
    | unexpectedToken hs' _ _ => rw [(hs.unique hs').2]
    | nestedTooDeeply hs' _ hg' _ =>
      obtain ⟨rfl, rfl⟩ := hs.unique hs'
      exact absurd hg' hg
    | trailingInput hs' _ hc' =>
      obtain ⟨rfl, rfl⟩ := hs.unique hs'
      exact absurd hc' hc
    | unexpectedEnd hv _ => exact absurd hv (hend hs)
  | nestedTooDeeply hs _ hg _ =>
    cases h' with
    | unexpectedToken hs' hg' _ =>
      obtain ⟨rfl, rfl⟩ := hs.unique hs'
      exact absurd hg hg'
    | nestedTooDeeply hs' _ _ _ => rw [(hs.unique hs').2]
    | trailingInput hs' hg' _ =>
      obtain ⟨rfl, rfl⟩ := hs.unique hs'
      exact absurd hg hg'
    | unexpectedEnd hv _ => exact absurd hv (hend hs)
  | trailingInput hs hg hc =>
    cases h' with
    | unexpectedToken hs' _ hc' =>
      obtain ⟨rfl, rfl⟩ := hs.unique hs'
      exact absurd hc hc'
    | nestedTooDeeply hs' _ hg' _ =>
      obtain ⟨rfl, rfl⟩ := hs.unique hs'
      exact absurd hg' hg
    | trailingInput hs' _ _ => rw [(hs.unique hs').2]
    | unexpectedEnd hv _ => exact absurd hv (hend hs)
  | unexpectedEnd hv _ =>
    cases h' with
    | unexpectedToken hs' _ _ => exact absurd hv (hend hs')
    | nestedTooDeeply hs' _ _ _ => exact absurd hv (hend hs')
    | trailingInput hs' _ _ => exact absurd hv (hend hs')
    | unexpectedEnd _ _ => rfl

/-- The error is the reason why the tokens are not an expression. -/
theorem Expr.ofTokens_eq_error_iff {size : Nat} {lts : List Located} {err : SyntaxError} :
    Expr.ofTokens size lts = .error err ↔ Refusal size lts err := by
  refine ⟨Expr.refusal_of_ofTokens, fun h => ?_⟩
  cases ho : Expr.ofTokens size lts with
  | ok e => exact absurd ⟨e, Reading.yields_of_ofTokens ho⟩ h.not_complete
  | error err' => rw [(Expr.refusal_of_ofTokens ho).unique h]

namespace Reading

theorem step_eq_named {r r' : Reading} {x : Located} {n : String} (hx : x.token = .name n)
    (h : step r x = .ok r') : ∃ frames, r' = named n frames := by
  have hafter : ∀ e frames, afterExpression e frames x ≠ .ok r' := by
    intro e frames h
    cases frames <;> simp [afterExpression, hx] at h
  cases r with
  | operand mayClose frames =>
    have hreach := @step_name x n mayClose frames hx
    rw [h] at hreach
    exact ⟨frames, hreach⟩
  | named m frames =>
    rw [step, if_neg (by simp [hx])] at h
    exact absurd h (hafter _ _)
  | complete e frames => exact absurd h (hafter _ _)

/-- Viable tokens are parsed. -/
theorem run_of_viable {lts : List Located} (h : Viable (tokensOf lts)) :
    ∃ r, run start lts = .ok r := by
  obtain ⟨us, e, hy, hd⟩ := h
  have hmap := tokensOf_append_unlocated lts us
  obtain ⟨r, hr, -⟩ := (run_of_yields hy false [] hmap).eq_ok (by simpa using hd)
  rw [run_append] at hr
  cases hl : run start lts with
  | ok r' => exact ⟨r', rfl⟩
  | error err =>
    rw [start] at hl
    rw [hl] at hr
    cases hr

end Reading

theorem not_viable_of_openCalls {before : List Located} {x : Located} {name : String}
    (hx : x.token = .name name) (ho : openCalls (tokensOf before) = maxDepth) :
    ¬Viable (tokensOf before ++ [x.token]) := by
  intro hv
  obtain ⟨r, hr⟩ := Reading.run_of_viable hv.of_append
  obtain ⟨r', hr'⟩ := @Reading.run_of_viable (before ++ [x]) (by simpa [tokensOf] using hv)
  have hstep : r.step x = .ok r' := by
    rw [Reading.run_append, hr] at hr'
    change Reading.run r [x] = _ at hr'
    rw [Reading.run_cons] at hr'
    cases hs : r.step x with
    | error err =>
      rw [hs] at hr'
      cases hr'
    | ok r₁ =>
      rw [hs] at hr'
      exact hr'
  obtain ⟨frames, rfl⟩ := Reading.step_eq_named hx hstep
  obtain ⟨⟨us, hopen, hus⟩, hlt, -⟩ := Reading.reads_of_run hr'
  have hus : tokensOf before = us := by
    rw [tokensOf, List.map_append] at hus
    exact (List.append_inj' hus rfl).1
  rw [hus, hopen.openCalls_eq] at ho
  omega

/-! ## The error of a text -/

theorem Node.parse_eq_error_iff {text : String} {lts : List Located} (h : tokenize text = .ok lts)
    {err : SyntaxError} :
    Node.parse text = .error err ↔ Refusal (Text.byteLength text.toList) lts err := by
  have hp : Node.parse text =
      (Expr.ofTokens (Text.byteLength text.toList) lts).map Expr.flatten := by
    simp only [Node.parse, Expr.parse, h, Except.bind]
  rw [hp, ← Expr.ofTokens_eq_error_iff]
  cases Expr.ofTokens (Text.byteLength text.toList) lts with
  | ok e => exact ⟨(fun h => by cases h), fun h => by cases h⟩
  | error err' => exact ⟨fun h => by cases h; rfl, fun h => by cases h; rfl⟩

theorem Refusal.position {lts : List Located} {w : List Char} {err : SyntaxError}
    (h : Segmented 0 lts w) (hr : Refusal (Text.byteLength w) lts err) :
    ∃ front back, w = front ++ back ∧ err.position = Text.byteLength front := by
  have hstop : ∀ {before : List Located} {x : Located}, StopsAt lts before x →
      ∃ front back, w = front ++ back ∧ x.position = Text.byteLength front := by
    intro before x hs
    obtain ⟨after, rfl⟩ := hs.splits
    obtain ⟨front, back, hw, hp⟩ := h.position x (by simp)
    exact ⟨front, back, hw, by rw [hp, Nat.zero_add]⟩
  cases hr with
  | unexpectedToken hs _ _ => exact hstop hs
  | nestedTooDeeply hs _ _ _ => exact hstop hs
  | trailingInput hs _ _ => exact hstop hs
  | unexpectedEnd _ _ => exact ⟨w, [], by simp, rfl⟩

/-- A tokenized text that is not an expression is refused at the first token that no expression can have
there, or else at its end; the error says which of these it is and why. A name nested in the greatest
number of calls is refused for depth only. The error is located on a character boundary. -/
theorem parse_refused_where_viability_ends {text : String} {lts : List Located}
    (h : tokenize text = .ok lts) :
    (∀ err, Node.parse text = .error err ↔ Refusal (Text.byteLength text.toList) lts err) ∧
    (∀ before x after name, lts = before ++ x :: after → x.token = .name name →
      Viable (tokensOf before) → Grammatical (tokensOf before ++ [x.token]) →
      openCalls (tokensOf before) = maxDepth →
      Node.parse text = .error (.nestedTooDeeply x.position)) ∧
    ∀ err, Node.parse text = .error err → err.position ≤ Text.byteLength text.toList ∧
      ∃ front back, text.toList = front ++ back ∧ err.position = Text.byteLength front := by
  refine ⟨fun err => Node.parse_eq_error_iff h, ?_, ?_⟩
  · intro before x after name hl hx hv hg ho
    have hs : StopsAt lts before x := ⟨⟨after, hl⟩, hv, not_viable_of_openCalls hx ho⟩
    exact (Node.parse_eq_error_iff h).mpr (.nestedTooDeeply hs hx hg ho)
  · intro err he
    obtain ⟨front, back, ht, hp⟩ :=
      ((Node.parse_eq_error_iff h).mp he).position (Scanner.all_eq_ok_iff.mp h)
    refine ⟨?_, front, back, ht, hp⟩
    rw [hp, ht, Text.byteLength_append]
    exact Nat.le_add_right _ _

/-- A parenthesis closed too early, in a text with more bytes than characters. -/
theorem parse_refused_where_viability_ends_comma :
    Refusal 8 [⟨.name "f", 0⟩, ⟨.openParen, 1⟩, ⟨.text "é", 2⟩, ⟨.comma, 6⟩, ⟨.closeParen, 7⟩]
      (.unexpectedToken .closeParen 7) := by
  have h : tokenize "f(\"é\",)" = .ok [⟨.name "f", 0⟩, ⟨.openParen, 1⟩, ⟨.text "é", 2⟩,
      ⟨.comma, 6⟩, ⟨.closeParen, 7⟩] := by decide +kernel
  have he : Node.parse "f(\"é\",)" = .error (.unexpectedToken .closeParen 7) := by decide +kernel
  exact ((parse_refused_where_viability_ends h).1 _).mp he

end FeatureFlags
