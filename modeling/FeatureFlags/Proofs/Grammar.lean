import FeatureFlags.Expression.Node

/-!
# The grammar of expressions

`Yields` says which tokens stand for which tree, independently of the parser: a literal, a name, a
name with an empty pair of parentheses, or a name with arguments between parentheses and commas. No
two trees have the same tokens (`yields_unique`).

`Reads` is the invariant of the parser: what the tokens before a place are, given the stack of open
calls. Each step preserves it (`reads_step`), so a parsed tree is a tree of the grammar. Conversely
every tree of the grammar within the limit on depth is parsed, by induction on the derivation
(`run_of_yields`).
-/

namespace FeatureFlags

namespace Expr

mutual
/-- The tokens of a tree. A name by itself is a call without arguments. -/
inductive Yields : Expr → List Token → Prop
  | literal {t : Token} {v : Value} (h : t.literal? = some v) : Yields (.literal v) [t]
  | name (n : String) : Yields (.call n []) [.name n]
  | empty (n : String) : Yields (.call n []) [.name n, .openParen, .closeParen]
  | call {n : String} {arguments : List Expr} {ts : List Token} (h : YieldsAll arguments ts) :
    Yields (.call n arguments) (.name n :: .openParen :: (ts ++ [.closeParen]))

/-- The tokens of one or more trees, separated by commas. -/
inductive YieldsAll : List Expr → List Token → Prop
  | one {e : Expr} {ts : List Token} (h : Yields e ts) : YieldsAll [e] ts
  | cons {e : Expr} {rest : List Expr} {ts us : List Token} (h : Yields e ts) (hr : YieldsAll rest us) :
    YieldsAll (e :: rest) (ts ++ .comma :: us)
end

/-! ## Depth and nodes of a list of trees -/

theorem depthAll_le_iff {es : List Expr} {k : Nat} : depthAll es ≤ k ↔ ∀ e ∈ es, e.depth ≤ k := by
  induction es with
  | nil => simp [depthAll]
  | cons e rest ih =>
    rw [depthAll, Nat.max_le, ih]
    simp

theorem flattenAll_eq (es : List Expr) : flattenAll es = es.reverse.flatMap flatten := by
  induction es with
  | nil => rfl
  | cons e rest ih => simp [flattenAll, ih]

/-! ## A tree is determined by its tokens -/

theorem literal_ne_name {t : Token} {v : Value} {n : String} (h : t.literal? = some v) :
    t ≠ .name n := by
  rintro rfl
  cases h

theorem Yields.head {e : Expr} {ts : List Token} (h : Yields e ts) :
    ∃ t rest, ts = t :: rest ∧ ((∃ v, t.literal? = some v) ∨ ∃ n, t = .name n) := by
  cases h with
  | literal hv => exact ⟨_, _, rfl, .inl ⟨_, hv⟩⟩
  | name n => exact ⟨_, _, rfl, .inr ⟨n, rfl⟩⟩
  | empty n => exact ⟨_, _, rfl, .inr ⟨n, rfl⟩⟩
  | call _ => exact ⟨_, _, rfl, .inr ⟨_, rfl⟩⟩

theorem YieldsAll.head {es : List Expr} {ts : List Token} (h : YieldsAll es ts) :
    ∃ t rest, ts = t :: rest ∧ ((∃ v, t.literal? = some v) ∨ ∃ n, t = .name n) := by
  cases h with
  | one h => exact h.head
  | cons h _ =>
    obtain ⟨t, rest, rfl, ht⟩ := h.head
    exact ⟨t, _, rfl, ht⟩

theorem YieldsAll.head_ne_closeParen {es : List Expr} {ts us vs : List Token} (h : YieldsAll es ts) :
    ts ++ us ≠ .closeParen :: vs := by
  obtain ⟨t, rest, rfl, ht⟩ := h.head
  intro hc
  rw [List.cons_append, List.cons.injEq] at hc
  rw [hc.1] at ht
  rcases ht with ⟨v, hv⟩ | ⟨n, hn⟩
  · simp [Token.literal?] at hv
  · cases hn

mutual
/-- Of two trees whose tokens are prefixes of the same tokens, with no parenthesis opened after them,
both are equal. -/
theorem Yields.unique_prefix : ∀ {e e' : Expr} {ts ts' us us' : List Token},
    Yields e ts → Yields e' ts' → ts ++ us = ts' ++ us' →
    us.head? ≠ some .openParen → us'.head? ≠ some .openParen → e = e' ∧ us = us'
  | _, _, _, _, us, us', .literal hv, h', he, hu, hu' => by
    cases h' with
    | literal hv' =>
      simp only [List.cons_append, List.nil_append, List.cons.injEq] at he
      rw [he.1, hv'] at hv
      exact ⟨by rw [Option.some.inj hv], he.2⟩
    | name n => exact absurd (List.cons.inj he).1 (literal_ne_name hv)
    | empty n => exact absurd (List.cons.inj he).1 (literal_ne_name hv)
    | call _ => exact absurd (List.cons.inj he).1 (literal_ne_name hv)
  | _, _, _, _, us, us', .name n, h', he, hu, hu' => by
    cases h' with
    | literal hv => exact absurd (List.cons.inj he).1.symm (literal_ne_name hv)
    | name n' =>
      simp only [List.cons_append, List.nil_append, List.cons.injEq, Token.name.injEq] at he
      exact ⟨by rw [he.1], he.2⟩
    -- a name by itself, followed by an opening parenthesis in the other tree
    | empty n' =>
      simp only [List.cons_append, List.nil_append, List.cons.injEq] at he
      exact absurd (by rw [he.2]; rfl) hu
    | call _ =>
      simp only [List.cons_append, List.nil_append, List.cons.injEq] at he
      exact absurd (by rw [he.2]; rfl) hu
  | _, _, _, _, us, us', .empty n, h', he, hu, hu' => by
    cases h' with
    | literal hv => exact absurd (List.cons.inj he).1.symm (literal_ne_name hv)
    | name n' =>
      simp only [List.cons_append, List.nil_append, List.cons.injEq] at he
      exact absurd (by rw [← he.2]; rfl) hu'
    | empty n' =>
      simp only [List.cons_append, List.nil_append, List.cons.injEq, Token.name.injEq, true_and] at he
      exact ⟨by rw [he.1], he.2⟩
    | call h =>
      simp only [List.cons_append, List.nil_append, List.cons.injEq, true_and, List.append_assoc] at he
      exact absurd he.2.symm h.head_ne_closeParen
  | _, _, _, _, us, us', .call (n := n) h, h', he, hu, hu' => by
    cases h' with
    | literal hv => exact absurd (List.cons.inj he).1.symm (literal_ne_name hv)
    | name n' =>
      simp only [List.cons_append, List.nil_append, List.cons.injEq] at he
      exact absurd (by rw [← he.2]; rfl) hu'
    | empty n' =>
      simp only [List.cons_append, List.nil_append, List.cons.injEq, true_and, List.append_assoc] at he
      exact absurd he.2 h.head_ne_closeParen
    -- within both calls the arguments end at the same parenthesis
    | call h' =>
      simp only [List.cons_append, List.nil_append, List.cons.injEq, Token.name.injEq, true_and,
        List.append_assoc] at he
      obtain ⟨rfl, hr⟩ := h.unique_prefix h' he.2
      exact ⟨by rw [he.1], hr⟩

theorem YieldsAll.unique_prefix : ∀ {es es' : List Expr} {ts ts' us us' : List Token},
    YieldsAll es ts → YieldsAll es' ts' →
    ts ++ .closeParen :: us = ts' ++ .closeParen :: us' → es = es' ∧ us = us'
  | _, _, _, _, us, us', .one h, h', he => by
    cases h' with
    | one h' =>
      obtain ⟨rfl, hr⟩ := h.unique_prefix h' he (by simp) (by simp)
      exact ⟨rfl, (List.cons.inj hr).2⟩
    | cons h' _ =>
      -- a comma here, a closing parenthesis there
      rw [List.append_assoc] at he
      obtain ⟨-, hr⟩ := h.unique_prefix h' he (by simp) (by simp)
      exact absurd hr (by simp)
  | _, _, _, _, us, us', .cons h hr, h', he => by
    cases h' with
    | one h' =>
      rw [List.append_assoc] at he
      obtain ⟨-, hr'⟩ := h.unique_prefix h' he (by simp) (by simp)
      exact absurd hr' (by simp)
    | cons h' hr' =>
      rw [List.append_assoc, List.append_assoc] at he
      obtain ⟨rfl, ht⟩ := h.unique_prefix h' he (by simp) (by simp)
      simp only [List.cons_append, List.cons.injEq, true_and] at ht
      obtain ⟨rfl, hu⟩ := hr.unique_prefix hr' ht
      exact ⟨rfl, hu⟩
end

/-- No two trees have the same tokens. -/
theorem yields_unique {e e' : Expr} {ts : List Token} (h : Yields e ts) (h' : Yields e' ts) : e = e' :=
  have he : ts ++ [] = ts ++ [] := rfl
  (h.unique_prefix h' he (by simp) (by simp)).1

end Expr

namespace Reading

/-! ## Soundness -/

/-- The tokens of arguments, each followed by a comma; the latest argument comes first in the list. -/
inductive Followed : List Expr → List Token → Prop
  | nil : Followed [] []
  | cons {e : Expr} {rest : List Expr} {ts us : List Token} (hr : Followed rest us) (h : e.Yields ts) :
    Followed (e :: rest) (us ++ ts ++ [.comma])

/-- The tokens of open calls, up to the next argument of the innermost one. -/
inductive Opened : List Frame → List Token → Prop
  | nil : Opened [] []
  | cons {f : Frame} {outer : List Frame} {ts us : List Token} (ho : Opened outer ts)
    (ha : Followed f.arguments us) : Opened (f :: outer) (ts ++ .name f.name :: .openParen :: us)

/-- The tokens before a place, given the state of the parser there. -/
def Reads : Reading → List Token → Prop
  | operand mayClose frames, ts =>
    Opened frames ts ∧ (mayClose = true → ∃ n outer, frames = ⟨n, []⟩ :: outer)
  | named n frames, ts => ∃ us, Opened frames us ∧ ts = us ++ [.name n]
  | complete e frames, ts => ∃ us vs, Opened frames us ∧ e.Yields vs ∧ ts = us ++ vs

/-- The limit on depth for a stack of open calls and the arguments parsed so far. -/
def Bounded : List Frame → Prop
  | [] => True
  | f :: outer =>
    outer.length < maxDepth ∧ (∀ e ∈ f.arguments, e.depth + outer.length + 1 ≤ maxDepth) ∧ Bounded outer

theorem Bounded.length_le {frames : List Frame} (h : Bounded frames) : frames.length ≤ maxDepth := by
  cases frames with
  | nil => exact Nat.zero_le _
  | cons f outer => exact h.1

/-- The limit on depth for a state of the parser. -/
def Shallow : Reading → Prop
  | operand _ frames => Bounded frames
  | named _ frames => frames.length < maxDepth ∧ Bounded frames
  | complete e frames => e.depth + frames.length ≤ maxDepth ∧ Bounded frames

theorem Followed.yieldsAll {before : List Expr} {us : List Token} (h : Followed before us) :
    ∀ {es : List Expr} {ts : List Token}, Expr.YieldsAll es ts →
      Expr.YieldsAll (before.reverse ++ es) (us ++ ts) := by
  induction h with
  | nil =>
    intro es ts he
    exact he
  | cons hr hy ih =>
    intro es ts he
    have := ih (.cons hy he)
    simpa using this

/-- The expression that is completed by a closing parenthesis after an argument. -/
theorem closed_yields {f : Frame} {e : Expr} {us ts : List Token} (ha : Followed f.arguments us)
    (he : e.Yields ts) :
    (Expr.call f.name (e :: f.arguments).reverse).Yields
      (.name f.name :: .openParen :: (us ++ ts ++ [.closeParen])) := by
  rw [List.reverse_cons]
  exact .call (ha.yieldsAll (.one he))

theorem closed_depth {f : Frame} {e : Expr} {outer : List Frame} (hb : Bounded (f :: outer))
    (he : e.depth + (f :: outer).length ≤ maxDepth) :
    (Expr.call f.name (e :: f.arguments).reverse).depth + outer.length ≤ maxDepth := by
  rw [List.length_cons] at he
  have hd : Expr.depthAll (e :: f.arguments).reverse ≤ maxDepth - outer.length - 1 := by
    rw [Expr.depthAll_le_iff]
    intro x hx
    rcases List.mem_cons.mp (List.mem_reverse.mp hx) with rfl | hx
    · omega
    · have := hb.2.1 x hx
      omega
  have := hb.1
  simp only [Expr.depth]
  omega

theorem reads_afterExpression {e : Expr} {frames : List Frame} {t : Located} {r : Reading}
    {us vs : List Token} (ho : Opened frames us) (hy : e.Yields vs)
    (hs : e.depth + frames.length ≤ maxDepth) (hb : Bounded frames)
    (h : afterExpression e frames t = .ok r) : Reads r (us ++ vs ++ [t.token]) ∧ Shallow r := by
  cases ho with
  | nil => cases h
  | @cons f outer ts ws ho ha =>
    simp only [afterExpression] at h
    split at h
    · -- a comma: the next argument follows
      rename_i hc
      cases h
      refine ⟨⟨?_, by simp⟩, hb.1, ?_, hb.2.2⟩
      · have := Opened.cons ho (f := ⟨f.name, e :: f.arguments⟩) (.cons ha hy)
        simpa [hc] using this
      · intro x hx
        rcases List.mem_cons.mp hx with rfl | hx
        · simpa [Nat.add_assoc] using hs
        · exact hb.2.1 x hx
    · -- a closing parenthesis: the innermost call is complete
      rename_i hc
      cases h
      refine ⟨⟨ts, _, ho, closed_yields ha hy, by simp [hc]⟩, closed_depth hb hs, hb.2.2⟩
    · cases h

/-- A step preserves the invariant and the limit on depth. -/
theorem reads_step {r r' : Reading} {t : Located} {ts : List Token} (hr : Reads r ts) (hs : Shallow r)
    (h : step r t = .ok r') : Reads r' (ts ++ [t.token]) ∧ Shallow r' := by
  cases r with
  | operand mayClose frames =>
    obtain ⟨ho, hm⟩ := hr
    simp only [step, atOperand] at h
    split at h
    · -- a literal, which may stand inside as many calls as are allowed
      rename_i hv
      cases h
      refine ⟨⟨ts, _, ho, .literal hv, rfl⟩, ?_, hs⟩
      have := Bounded.length_le hs
      simp only [Expr.depth]
      omega
    · -- a name
      rename_i hn
      split at h
      · cases h
      · cases h
        exact ⟨⟨ts, ho, by rw [hn]⟩, by omega, hs⟩
    · -- a closing parenthesis right behind the opening one
      rename_i f outer _ hc
      split at h
      · rename_i hmay
        cases h
        obtain ⟨n, outer', hf⟩ := hm hmay
        cases hf
        cases ho with
        | cons ho ha =>
          cases ha
          refine ⟨⟨_, _, ho, .empty n, by simp [hc]⟩, ?_, hs.2.2⟩
          have := hs.1
          simp only [Expr.depth, Expr.depthAll]
          omega
      · cases h
    · cases h
  | named n frames =>
    obtain ⟨us, ho, rfl⟩ := hr
    simp only [step] at h
    split at h
    · -- an opening parenthesis: one more call is open
      rename_i hp
      cases h
      refine ⟨⟨?_, fun _ => ⟨n, frames, rfl⟩⟩, hs.1, by simp, hs.2⟩
      have := Opened.cons ho (f := ⟨n, []⟩) .nil
      simpa [hp] using this
    · -- anything else: the name was a call by itself
      refine reads_afterExpression ho (.name n) ?_ hs.2 h
      have := hs.1
      simp only [Expr.depth, Expr.depthAll]
      omega
  | complete e frames =>
    obtain ⟨us, vs, ho, hy, rfl⟩ := hr
    exact reads_afterExpression ho hy hs.1 hs.2 h

theorem run_cons (r : Reading) (t : Located) (rest : List Located) :
    run r (t :: rest) = (step r t).bind fun r' => run r' rest := rfl

theorem run_append (r : Reading) (ts us : List Located) :
    run r (ts ++ us) = (run r ts).bind fun r' => run r' us :=
  List.foldlM_append

/-- Parsing preserves the invariant and the limit on depth. -/
theorem reads_run {r r' : Reading} {ts : List Token} {lts : List Located} (hr : Reads r ts)
    (hs : Shallow r) (h : run r lts = .ok r') :
    Reads r' (ts ++ lts.map Located.token) ∧ Shallow r' := by
  induction lts generalizing r ts with
  | nil =>
    cases h
    rw [List.map_nil, List.append_nil]
    exact ⟨hr, hs⟩
  | cons t rest ih =>
    rw [run_cons] at h
    cases ht : step r t with
    | error e => rw [ht] at h; cases h
    | ok r₁ =>
      rw [ht] at h
      obtain ⟨hr₁, hs₁⟩ := reads_step hr hs ht
      have := ih hr₁ hs₁ h
      simpa using this

theorem yields_of_ofTokens {size : Nat} {lts : List Located} {e : Expr}
    (h : Expr.ofTokens size lts = .ok e) :
    e.Yields (lts.map Located.token) ∧ e.depth ≤ maxDepth := by
  unfold Expr.ofTokens at h
  cases hr : start.run lts with
  | error err => rw [hr] at h; cases h
  | ok r =>
    rw [hr] at h
    have hstart : Reads start [] := ⟨.nil, by simp⟩
    obtain ⟨hread, hs⟩ := reads_run hstart trivial hr
    rw [List.nil_append] at hread
    simp only [Except.bind] at h
    unfold finish at h
    -- parsing ends only where no call is open
    split at h
    · rename_i n
      cases h
      obtain ⟨us, ho, hts⟩ := hread
      cases ho
      rw [hts]
      exact ⟨.name n, by simp [Expr.depth, Expr.depthAll, maxDepth]⟩
    · cases h
      obtain ⟨us, vs, ho, hy, hts⟩ := hread
      cases ho
      rw [hts]
      exact ⟨hy, hs.1⟩
    · cases h

/-! ## Completeness -/

/-- Whether the parser reached a state with a property; otherwise the tokens are too deep, as `deep`
says, and were refused for this. -/
def Reaches (deep : Prop) (place : Reading → Prop) : Except SyntaxError Reading → Prop
  | .ok r => place r
  | .error e => deep ∧ ∃ position, e = .nestedTooDeeply position

theorem Reaches.imp {deep deep' : Prop} {place place' : Reading → Prop}
    {x : Except SyntaxError Reading} (h : Reaches deep place x) (hd : deep → deep')
    (hp : ∀ r, place r → place' r) : Reaches deep' place' x := by
  cases x with
  | ok r => exact hp r h
  | error e => exact ⟨hd h.1, h.2⟩

theorem Reaches.mono {deep deep' : Prop} {place : Reading → Prop} {x : Except SyntaxError Reading}
    (h : Reaches deep place x) (hd : deep → deep') : Reaches deep' place x :=
  h.imp hd fun _ hp => hp

theorem Reaches.bind {deep : Prop} {place place' : Reading → Prop} {x : Except SyntaxError Reading}
    {f : Reading → Except SyntaxError Reading} (h : Reaches deep place x)
    (hf : ∀ r, place r → Reaches deep place' (f r)) : Reaches deep place' (x.bind f) := by
  cases x with
  | ok r => exact hf r h
  | error e => exact h

theorem Reaches.eq_ok {deep : Prop} {place : Reading → Prop} {x : Except SyntaxError Reading}
    (h : Reaches deep place x) (hd : ¬deep) : ∃ r, x = .ok r ∧ place r := by
  cases x with
  | ok r => exact ⟨r, rfl, h⟩
  | error e => exact absurd h.1 hd

/-- The states of the parser after an expression: after a name by itself, arguments could still follow.
-/
def Behind (e : Expr) (frames : List Frame) (r : Reading) : Prop :=
  r = complete e frames ∨ ∃ n, e = .call n [] ∧ r = named n frames

theorem Behind.step {e : Expr} {frames : List Frame} {r : Reading} {t : Located}
    (h : Behind e frames r) (ht : t.token ≠ .openParen) : r.step t = afterExpression e frames t := by
  rcases h with rfl | ⟨n, rfl, rfl⟩
  · rfl
  · simp [Reading.step, ht]

theorem Behind.finish {e : Expr} {r : Reading} {size : Nat} (h : Behind e [] r) :
    r.finish size = .ok e := by
  rcases h with rfl | ⟨n, rfl, rfl⟩ <;> rfl

theorem step_literal {t : Located} {v : Value} {mayClose : Bool} {frames : List Frame}
    (h : t.token.literal? = some v) :
    step (operand mayClose frames) t = .ok (complete (.literal v) frames) := by
  simp [step, atOperand, h]

theorem step_name {t : Located} {n : String} {mayClose : Bool} {frames : List Frame}
    (h : t.token = .name n) :
    Reaches (maxDepth ≤ frames.length) (· = named n frames) (step (operand mayClose frames) t) := by
  by_cases hd : maxDepth ≤ frames.length
  · simp [step, atOperand, h, Token.literal?, hd, Reaches]
  · simp [step, atOperand, h, Token.literal?, hd, Reaches]

theorem step_openParen {t : Located} {n : String} {frames : List Frame} (h : t.token = .openParen) :
    step (named n frames) t = .ok (operand true (⟨n, []⟩ :: frames)) := by
  simp [step, h]

theorem step_closeParen {t : Located} {f : Frame} {outer : List Frame} (h : t.token = .closeParen) :
    step (operand true (f :: outer)) t = .ok (complete (.call f.name []) outer) := by
  simp [step, atOperand, h, Token.literal?]

mutual
/-- The tokens of a tree are parsed where an expression has to follow, unless it is too deep there. -/
theorem run_of_yields : ∀ {e : Expr} {ts : List Token}, e.Yields ts →
    ∀ {lts : List Located} (mayClose : Bool) (frames : List Frame), lts.map Located.token = ts →
      Reaches (maxDepth < e.depth + frames.length) (Behind e frames)
        (run (operand mayClose frames) lts)
  | _, _, .literal hv, lts, mayClose, frames, hl => by
    obtain ⟨t, rfl, ht⟩ := List.map_eq_singleton_iff.mp hl
    rw [← ht] at hv
    rw [run_cons, step_literal hv]
    exact .inl rfl
  | _, _, .name n, lts, mayClose, frames, hl => by
    obtain ⟨t, rfl, ht⟩ := List.map_eq_singleton_iff.mp hl
    rw [run_cons]
    refine ((step_name ht).mono ?_).bind ?_
    · simp only [Expr.depth, Expr.depthAll]
      omega
    · rintro r rfl
      exact .inr ⟨n, rfl, rfl⟩
  | _, _, .empty n, lts, mayClose, frames, hl => by
    obtain ⟨t₁, l₁, rfl, ht₁, hl₁⟩ := List.map_eq_cons_iff.mp hl
    obtain ⟨t₂, l₂, rfl, ht₂, hl₂⟩ := List.map_eq_cons_iff.mp hl₁
    obtain ⟨t₃, rfl, ht₃⟩ := List.map_eq_singleton_iff.mp hl₂
    rw [run_cons]
    refine ((step_name ht₁).mono ?_).bind ?_
    · simp only [Expr.depth, Expr.depthAll]
      omega
    · rintro r rfl
      rw [run_cons, step_openParen ht₂]
      show Reaches _ _ (run (operand true (⟨n, []⟩ :: frames)) [t₃])
      rw [run_cons, step_closeParen ht₃]
      exact .inl rfl
  | .call n arguments, _, .call h, lts, mayClose, frames, hl => by
    obtain ⟨t₁, l₁, rfl, ht₁, hl₁⟩ := List.map_eq_cons_iff.mp hl
    obtain ⟨t₂, l₂, rfl, ht₂, hl₂⟩ := List.map_eq_cons_iff.mp hl₁
    rw [run_cons]
    refine ((step_name ht₁).mono ?_).bind ?_
    · simp only [Expr.depth]
      omega
    · rintro r rfl
      rw [run_cons, step_openParen ht₂]
      have hall := run_of_yieldsAll h true ⟨n, []⟩ frames hl₂
      refine hall.imp ?_ ?_
      · simp only [Expr.depth]
        omega
      · rintro r rfl
        exact .inl rfl

theorem run_of_yieldsAll : ∀ {es : List Expr} {ts : List Token}, Expr.YieldsAll es ts →
    ∀ {lts : List Located} (mayClose : Bool) (f : Frame) (outer : List Frame),
      lts.map Located.token = ts ++ [.closeParen] →
      Reaches (maxDepth ≤ Expr.depthAll es + outer.length)
        (· = complete (.call f.name (f.arguments.reverse ++ es)) outer)
        (run (operand mayClose (f :: outer)) lts)
  | [e], _, .one h, lts, mayClose, f, outer, hl => by
    obtain ⟨l₁, l₂, rfl, hl₁, hl₂⟩ := List.map_eq_append_iff.mp hl
    obtain ⟨t, rfl, ht⟩ := List.map_eq_singleton_iff.mp hl₂
    rw [run_append]
    refine ((run_of_yields h mayClose (f :: outer) hl₁).mono ?_).bind fun r hb => ?_
    · simp only [Expr.depthAll, List.length_cons]
      omega
    · have hs : r.step t = .ok (complete (.call f.name (f.arguments.reverse ++ [e])) outer) := by
        rw [hb.step (by simp [ht])]
        simp [afterExpression, ht]
      rw [run_cons, hs]
      rfl
  | e :: rest, _, .cons h hr, lts, mayClose, f, outer, hl => by
    rw [List.append_assoc] at hl
    obtain ⟨l₁, l₂, rfl, hl₁, hl₂⟩ := List.map_eq_append_iff.mp hl
    obtain ⟨t, l₃, rfl, ht, hl₃⟩ := List.map_eq_cons_iff.mp hl₂
    rw [run_append]
    refine ((run_of_yields h mayClose (f :: outer) hl₁).mono ?_).bind fun r hb => ?_
    · simp only [Expr.depthAll, List.length_cons]
      omega
    · -- the comma puts the argument aside, and the rest is read in the same call
      have hs : r.step t = .ok (operand false (⟨f.name, e :: f.arguments⟩ :: outer)) := by
        rw [hb.step (by simp [ht])]
        simp [afterExpression, ht]
      have hrest := run_of_yieldsAll hr false ⟨f.name, e :: f.arguments⟩ outer hl₃
      rw [run_cons, hs]
      simp only [List.reverse_cons, List.append_assoc, List.singleton_append] at hrest
      refine hrest.mono ?_
      simp only [Expr.depthAll]
      omega
end

theorem ofTokens_of_yields {size : Nat} {lts : List Located} {e : Expr}
    (h : e.Yields (lts.map Located.token)) (hd : e.depth ≤ maxDepth) :
    Expr.ofTokens size lts = .ok e := by
  obtain ⟨r, hr, hb⟩ := (run_of_yields h false [] rfl).eq_ok (by simpa using hd)
  unfold Expr.ofTokens
  rw [start, hr]
  exact hb.finish

end Reading

/-- Tokens are parsed to a tree if and only if they are its tokens and it is not too deep. -/
theorem Expr.ofTokens_eq_ok_iff {size : Nat} {lts : List Located} {e : Expr} :
    Expr.ofTokens size lts = .ok e ↔ e.Yields (lts.map Located.token) ∧ e.depth ≤ maxDepth :=
  ⟨Reading.yields_of_ofTokens, fun h => Reading.ofTokens_of_yields h.1 h.2⟩

end FeatureFlags
