import FeatureFlags.Proofs.Performing

/-!
# Two runs side by side

A computation often depends on a part of the application only. A `Likeness` relates two applications
and says which events count. `Alike` says that two computations, run side by side, preserve the
likeness, emit the same events as far as they count, and end in the same way. It is closed under
sequencing, conditionals and loops, so an evaluation preserves every likeness under which user code
runs alike (`Alike.evaluateAs`).

An instance is `Likeness.unseen`: nothing depends on the events emitted so far, so a client answers
requests in the same way whatever was reported before (`replies_congr`).
-/

namespace FeatureFlags

/-! ## User code of clients -/

/-- Whether all user code that a client holds has a property. -/
structure Client.Holds (P : Program → Prop) (s : Client) : Prop where
  operators : ∀ name o, s.operators.find? name = some o → ∀ args x, P (o.run args x)
  handlers : ∀ h ∈ s.hub.handlers, ∀ i, P (h.react i)
  sink : ∀ h, s.hub.sink = some h → ∀ i, P (h.react i)

theorem Client.Holds.of_inert {P : Program → Prop} {s : Client} (ho : s.operators = .empty)
    (hh : s.hub.handlers = []) (hs : s.hub.sink = none) : s.Holds P := by
  refine ⟨fun name o h => ?_, fun h hm => ?_, fun h hm => ?_⟩
  · rw [ho] at h
    cases h
  · rw [hh] at hm
    cases hm
  · rw [hs] at hm
    cases hm

namespace Client.Holds

variable {P : Program → Prop} {s : Client}

theorem operator (hs : s.Holds P) (name : String) {o : CustomOperator}
    (ho : ∀ args x, P (o.run args x)) :
    Client.Holds P { s with operators := s.operators.insert name o } := by
  refine ⟨fun n o' ho' => ?_, hs.handlers, hs.sink⟩
  have hi : (s.operators.insert name o).find? n = some o' := ho'
  rw [Dict.find?_insert] at hi
  split at hi
  · cases hi
    exact ho
  · exact hs.operators n o' hi

theorem handler (hs : s.Holds P) (label : String) {react : Impression → Program}
    (hr : ∀ i, P (react i)) :
    Client.Holds P { s with hub := { s.hub with handlers := s.hub.handlers ++ [⟨label, react⟩] } } := by
  refine ⟨hs.operators, fun h hm i => ?_, hs.sink⟩
  rcases List.mem_append.mp hm with hm | hm
  · exact hs.handlers h hm i
  · rw [List.mem_singleton.mp hm]
    exact hr i

end Client.Holds

/-- Whether all user code that the clients of an application hold has a property. -/
def Application.Holds (P : Program → Prop) (a : Application) : Prop := ∀ c, (a.client c).Holds P

namespace Application

variable {P : Program → Prop} {a b : Application} {c : ClientId}

theorem Holds.congr (ho : ∀ d, (b.client d).operators = (a.client d).operators)
    (hh : ∀ d, (b.client d).hub = (a.client d).hub) (ha : a.Holds P) : b.Holds P := by
  intro d
  refine ⟨?_, ?_, ?_⟩
  · rw [ho d]
    exact (ha d).operators
  · rw [hh d]
    exact (ha d).handlers
  · rw [hh d]
    exact (ha d).sink

theorem Holds.modifyClient {f : Client → Client} (hf : ∀ s : Client, s.Holds P → (f s).Holds P)
    (ha : a.Holds P) : (a.modifyClient c f).Holds P := by
  intro d
  by_cases hd : d = c
  · subst hd
    by_cases hc : d < a.clients.length
    · rw [client_modifyClient_self hc]
      exact hf _ (ha d)
    · rw [client_modifyClient_of_le (Nat.le_of_not_lt hc)]
      exact ha d
  · rw [client_modifyClient_ne hd]
    exact ha d

theorem Holds.add {name : String} {h : Handle} (ha : a.Holds P) : (a.add c name h).Holds P :=
  ha.congr (fun _ => client_add_congr Client.operators fun _ _ => rfl)
    fun _ => client_add_congr Client.hub fun _ _ => rfl

theorem Holds.configure {t : ExperimentTable} (ha : a.Holds P) : (a.configure c t).Holds P :=
  ha.congr (fun _ => client_configure_congr Client.operators fun _ _ => rfl)
    fun _ => client_configure_congr Client.hub fun _ _ => rfl

end Application

theorem Application.holds_true (a : Application) : a.Holds fun _ => True := fun _ =>
  ⟨fun _ _ _ _ _ => trivial, fun _ _ _ => trivial, fun _ _ _ => trivial⟩

/-! ## Likenesses -/

/-- A client without its variants. -/
def Client.withoutFlags (s : Client) : Client := { s with flags := .empty }

theorem Client.congr {β : Type} {s t : Client} (h : s.withoutFlags = t.withoutFlags)
    (p : Client → β) (hp : ∀ s f, p { s with flags := f } = p s) : p s = p t :=
  (hp s .empty).symm.trans ((congrArg p h).trans (hp t .empty))

namespace Application

/-- A relation of two applications, with the events that count. -/
structure Likeness where
  /-- Whether two applications are alike. -/
  rel : Application → Application → Prop
  /-- Whether an event counts. -/
  counts : Event → Bool
  /-- The user code that clients hold. -/
  code : Program → Prop
  /-- Earlier events do not matter. -/
  tell : ∀ {a b}, rel a b → ∀ es fs, rel (a.tell es) (b.tell fs)
  /-- Clients may differ in their variants only. -/
  client : ∀ {a b}, rel a b → ∀ c, (a.client c).withoutFlags = (b.client c).withoutFlags
  holds : ∀ {a b}, rel a b → a.Holds code

/-- Two computations end in the same way: early for the same reason, or with related results. -/
def SameEnd {α β : Type} (R : α → β → Prop) : Except Stop α → Except Stop β → Prop
  | .ok v, .ok w => R v w
  | .error e, .error f => e = f
  | _, _ => False

theorem SameEnd.eq {α : Type} {r s : Except Stop α} (h : SameEnd Eq r s) : r = s := by
  cases r with
  | ok v =>
    cases s with
    | ok w => exact congrArg Except.ok h
    | error e => cases h
  | error e =>
    cases s with
    | ok w => cases h
    | error f => exact congrArg Except.error h

/-- Two applications, reached from two others, are alike, and the same counting events were emitted on
both sides. -/
def Likeness.Keeps (L : Likeness) (a b a' b' : Application) : Prop :=
  ∃ es fs, a'.events = a.events ++ es ∧ b'.events = b.events ++ fs ∧
    es.filter L.counts = fs.filter L.counts ∧ L.rel a' b'

/-- Two computations preserve a likeness, from any two applications that have it, and end in the same
way. -/
def Alike {α β : Type} (L : Likeness) (x : Run α) (y : Run β) (R : α → β → Prop) : Prop :=
  ∀ a b, L.rel a b → L.Keeps a b (x.run a).2 (y.run b).2 ∧ SameEnd R (x.run a).1 (y.run b).1

namespace Likeness.Keeps

variable {L : Likeness} {a b a' b' d d' : Application}

theorem refl (h : L.rel a b) : L.Keeps a b a b :=
  ⟨[], [], (List.append_nil _).symm, (List.append_nil _).symm, rfl, h⟩

theorem trans (h : L.Keeps a b a' b') (h' : L.Keeps a' b' d d') : L.Keeps a b d d' := by
  obtain ⟨es, fs, hes, hfs, hf, -⟩ := h
  obtain ⟨es', fs', hes', hfs', hf', hr⟩ := h'
  refine ⟨es ++ es', fs ++ fs', ?_, ?_, ?_, hr⟩
  · rw [hes', hes, List.append_assoc]
  · rw [hfs', hfs, List.append_assoc]
  · rw [List.filter_append, List.filter_append, hf, hf']

theorem change (h : L.rel a' b') (ha : a'.events = a.events) (hb : b'.events = b.events) :
    L.Keeps a b a' b' :=
  ⟨[], [], by rw [ha, List.append_nil], by rw [hb, List.append_nil], rfl, h⟩

theorem tell (h : L.rel a b) {es fs : List Event} (he : es.filter L.counts = fs.filter L.counts) :
    L.Keeps a b (a.tell es) (b.tell fs) := ⟨es, fs, rfl, rfl, he, L.tell h es fs⟩

theorem rel (h : L.Keeps a b a' b') : L.rel a' b' :=
  let ⟨_, _, _, _, _, hr⟩ := h
  hr

end Likeness.Keeps

/-- The evaluation of a variant that was read before. -/
def Run.evaluateAs (run : Runner) (v : Variant) (x : Option Context) (default : Option String) :
    Run Outcome :=
  match v.binding with
  | none => do
    let o := v.outcome default none
    (v.reports o).forM report
    pure o
  | some b => do
    let merged := (← client b.client).globalContext.overlay? x
    let decided ← decide run b.client b.experiment merged
    let o := v.outcome default decided
    (v.reports o).forM report
    (delivery run b.client).deliver ⟨v.name, o.value, v.experiment, merged⟩
    pure o

theorem Run.evaluate_eq (run : Runner) (h : Handle) (x : Option Context)
    (default : Option String) :
    evaluate run h x default = variant h >>= fun v => evaluateAs run v x default := by
  unfold evaluate evaluateAs
  rfl

namespace Alike

variable {α β γ δ : Type} {L : Likeness} {R : α → β → Prop} {S : γ → δ → Prop}

theorem of_run {x : Run α} {y : Run β}
    (h : ∀ a b, L.rel a b → ∃ v w a' b', x.run a = (.ok v, a') ∧ y.run b = (.ok w, b') ∧
      L.Keeps a b a' b' ∧ R v w) : Alike L x y R := by
  intro a b hr
  obtain ⟨v, w, a', b', hx, hy, hk, hv⟩ := h a b hr
  rw [hx, hy]
  exact ⟨hk, hv⟩

theorem pure' {v : α} {w : β} (h : R v w) : Alike L (pure v) (pure w) R :=
  of_run fun a b hr => ⟨v, w, a, b, rfl, rfl, .refl hr, h⟩

theorem throw' {e : Stop} : Alike L (throw e : Run α) (throw e : Run β) R :=
  fun _ _ hr => ⟨.refl hr, rfl⟩

theorem bind' {x : Run α} {y : Run β} {f : α → Run γ} {g : β → Run δ} (hx : Alike L x y R)
    (hf : ∀ v w, R v w → Alike L (f v) (g w) S) : Alike L (x >>= f) (y >>= g) S := by
  intro a b hr
  obtain ⟨hk, he⟩ := hx a b hr
  rcases hxr : x.run a with ⟨r, a'⟩
  rcases hyr : y.run b with ⟨s, b'⟩
  rw [hxr, hyr] at hk he
  -- either both sides continue or both end, as different ends are never the same
  cases r with
  | ok v =>
    cases s with
    | ok w =>
      obtain ⟨hk', he'⟩ := hf v w he a' b' hk.rel
      rw [Run.run_bind_ok hxr, Run.run_bind_ok hyr]
      exact ⟨hk.trans hk', he'⟩
    | error e => cases he
  | error e =>
    cases s with
    | ok w => cases he
    | error e' =>
      rw [Run.run_bind_error hxr, Run.run_bind_error hyr]
      exact ⟨hk, he⟩

/-- The continuations can assume that both sides have the same result. -/
theorem bind_eq {x y : Run α} {f : α → Run γ} {g : α → Run δ} (hx : Alike L x y Eq)
    (hf : ∀ v, Alike L (f v) (g v) S) : Alike L (x >>= f) (y >>= g) S :=
  bind' hx fun v _ hv => hv ▸ hf v

theorem ite' {p : Prop} [Decidable p] {x x' : Run α} {y y' : Run β} (hx : p → Alike L x y R)
    (hy : ¬p → Alike L x' y' R) : Alike L (if p then x else x') (if p then y else y') R := by
  split
  · exact hx ‹_›
  · exact hy ‹_›

theorem forM' {l : List α} {f g : α → Run Unit}
    (h : ∀ v ∈ l, Alike L (f v) (g v) fun _ _ => True) :
    Alike L (l.forM f) (l.forM g) fun _ _ => True := by
  induction l with
  | nil => exact pure' trivial
  | cons v rest ih =>
    have hr : Alike L (rest.forM f) (rest.forM g) fun _ _ => True :=
      ih fun w hw => h w (List.mem_cons_of_mem _ hw)
    exact bind' (h v List.mem_cons_self) fun _ _ _ => hr

theorem read {f : Application → α} {g : Application → β} (h : ∀ a b, L.rel a b → R (f a) (g b)) :
    Alike L (do return f (← get)) (do return g (← get)) R :=
  of_run fun a b hr => ⟨f a, g b, a, b, rfl, rfl, .refl hr, h a b hr⟩

/-- Events are never removed. -/
theorem events_prefix {x : Run α} {y : Run β} (h : Alike L x y R) {a b : Application} (hr : L.rel a b) :
    a.events <+: (x.run a).2.events := by
  obtain ⟨⟨es, -, hes, -⟩, -⟩ := h a b hr
  exact ⟨es, hes.symm⟩

theorem change {f : Application → Application} (hf : ∀ a b, L.rel a b → L.rel (f a) (f b))
    (he : ∀ a, (f a).events = a.events) : Alike L (modify f) (modify f) fun _ _ => True :=
  of_run fun a b hr =>
    ⟨(), (), f a, f b, rfl, rfl, .change (hf a b hr) (he a) (he b), trivial⟩

theorem emit {e : Event} : Alike L (Run.emit e) (Run.emit e) fun _ _ => True :=
  of_run fun a b hr =>
    ⟨(), (), a.tell [e], b.tell [e], rfl, rfl, .tell hr rfl, trivial⟩

theorem report {d : Diagnostic} : Alike L (Run.report d) (Run.report d) fun _ _ => True := emit

theorem reports {ds es : List Diagnostic}
    (h : (ds.map Event.reported).filter L.counts = (es.map Event.reported).filter L.counts) :
    Alike L (ds.forM Run.report) (es.forM Run.report) fun _ _ => True :=
  of_run fun _ _ hr => ⟨(), (), _, _, Run.forM_report_run (f := fun d => d),
    Run.forM_report_run (f := fun d => d), .tell hr h, trivial⟩

theorem client {c : ClientId} : Alike L (Run.client c) (Run.client c) fun s t =>
    s.withoutFlags = t.withoutFlags ∧ s.Holds L.code :=
  read fun _ _ hr => ⟨L.client hr c, L.holds hr c⟩

/-! ## Conditions -/

theorem standardOperator {s : Client} {c : ClientId} {name : String} {o : Operator Run}
    (ho : (s.standardOperators c).find? name = some o) (args : List Value) (x : Context) :
    Alike L (o.run args x) (o.run args x) Eq := by
  rcases Conducts.standardOperator_cases ho with rfl | rfl | ⟨arity, f, rfl⟩
  · unfold Operator.customProperty
    dsimp only
    split
    · refine bind_eq (bind' client fun s t hst => pure' ?_) fun p => ?_
      · exact Client.congr hst.1 (·.properties.find? _) fun _ _ => rfl
      · cases p <;> exact pure' rfl
    · exact pure' rfl
  · unfold Operator.matching
    dsimp only
    split
    · split
      · exact pure' rfl
      · exact bind' report fun _ _ _ => pure' rfl
    · exact pure' rfl
  · exact pure' rfl

theorem conclude {run : Runner} {c : ClientId} {expression : String} {stack : Option Stack} :
    Alike L ((Run.surroundings run c).conclude expression stack)
      ((Run.surroundings run c).conclude expression stack) Eq := by
  unfold Surroundings.conclude
  split
  · exact bind' report fun _ _ _ => pure' rfl
  · split
    · exact pure' rfl
    · exact bind' report fun _ _ _ => pure' rfl

section Code

variable {run : Runner} (hrun : ∀ p, L.code p → Alike L (run p) (run p) Eq)
include hrun

theorem operator? {s : Client} (hs : s.Holds L.code) {c : ClientId} {name : String}
    {o : Operator Run} (ho : s.operator? run c name = some o) (args : List Value) (x : Context) :
    Alike L (o.run args x) (o.run args x) Eq := by
  unfold Client.operator? at ho
  split at ho
  · rename_i o' ho'
    cases ho
    exact hrun _ (hs.operators name o' ho' args x)
  · exact standardOperator ho args x

theorem lookup {c : ClientId} {name : String} :
    Alike L ((Run.surroundings run c).lookup name) ((Run.surroundings run c).lookup name) fun o o' =>
      o = o' ∧ ∀ p, o = some p → ∀ args x, Alike L (p.run args x) (p.run args x) Eq := by
  refine bind' client fun s t hst => pure' ⟨?_, fun p hp => operator? hrun hst.2 hp⟩
  -- only the operators and the time of the client are read
  exact Client.congr hst.1 (·.operator? run c name) fun _ _ => rfl

theorem apply {c : ClientId} {expression name : String} {x : Context} {args : List Value} :
    Alike L ((Run.surroundings run c).apply expression x name args)
      ((Run.surroundings run c).apply expression x name args) Eq := by
  refine bind' (lookup hrun) fun o o' ho => ?_
  obtain ⟨rfl, ho⟩ := ho
  cases o with
  | none => exact bind' report fun _ _ _ => pure' rfl
  | some p => exact ite' (fun _ => ho p rfl args x) fun _ => pure' rfl

theorem run_nodes {c : ClientId} {expression : String} {x : Context} {nodes : List Node}
    {stack : Stack} :
    Alike L ((Run.surroundings run c).run expression x nodes stack)
      ((Run.surroundings run c).run expression x nodes stack) Eq := by
  induction nodes generalizing stack with
  | nil => exact pure' rfl
  | cons n rest ih =>
    cases n with
    | operand v => exact ih
    | operator name arity =>
      unfold Surroundings.run
      split
      · exact pure' rfl
      · refine bind_eq (apply hrun) fun v => ?_
        exact ih

theorem evaluate_condition {c : ClientId} {expression : String} {x : Context} :
    Alike L ((Run.surroundings run c).evaluate expression x)
      ((Run.surroundings run c).evaluate expression x) Eq := by
  unfold Surroundings.evaluate
  split
  · exact bind' report fun _ _ _ => pure' rfl
  · refine bind_eq (run_nodes hrun) fun v => ?_
    exact conclude

theorem decide {c : ClientId} {m : Option ExperimentModel} {x : Context} :
    Alike L (Run.decide run c m x) (Run.decide run c m x) Eq := by
  cases m with
  | none => exact pure' rfl
  | some m => exact bind_eq (evaluate_condition hrun) fun _ => pure' rfl

/-! ## Deliveries -/

theorem succeeds {p : Program} (hp : L.code p) :
    Alike L (Run.succeeds run p) (Run.succeeds run p) Eq := by
  intro a b hr
  obtain ⟨hk, he⟩ := hrun p hp a b hr
  rcases hx : (run p).run a with ⟨r, a'⟩
  rcases hy : (run p).run b with ⟨s, b'⟩
  rw [hx, hy] at hk he
  unfold Run.succeeds
  cases r with
  | ok v =>
    cases s with
    | error e => cases he
    | ok w =>
      have hx' : (run p >>= fun _ => (pure true : Run Bool)).run a = (.ok true, a') := by
        rw [Run.run_bind_ok hx]
        rfl
      have hy' : (run p >>= fun _ => (pure true : Run Bool)).run b = (.ok true, b') := by
        rw [Run.run_bind_ok hy]
        rfl
      rw [Run.run_tryCatch, Run.run_tryCatch, hx', hy']
      exact ⟨hk, rfl⟩
  | error e =>
    cases s with
    | ok w => cases he
    | error e' =>
      cases he
      have hx' : (run p >>= fun _ => (pure true : Run Bool)).run a = (.error e, a') :=
        Run.run_bind_error hx
      have hy' : (run p >>= fun _ => (pure true : Run Bool)).run b = (.error e, b') :=
        Run.run_bind_error hy
      rw [Run.run_tryCatch, Run.run_tryCatch, hx', hy']
      -- a failure is caught, and any other early end is passed on
      cases e <;> exact ⟨hk, rfl⟩

theorem dispatch {c : ClientId} {i : Impression} {h : Handler Program}
    (hh : ∀ i, L.code (h.react i)) :
    Alike L ((Run.delivery run c).dispatch i h) ((Run.delivery run c).dispatch i h)
      fun _ _ => True := by
  refine bind' emit fun _ _ _ => bind_eq (succeeds hrun (hh i)) fun v => ?_
  exact ite' (fun _ => report) fun _ => pure' trivial

omit hrun in
theorem hub {c : ClientId} : Alike L (Run.delivery run c).hub (Run.delivery run c).hub
    fun hub hub' => hub = hub' ∧ (∀ h ∈ hub.handlers, ∀ i, L.code (h.react i)) ∧
      ∀ h, hub.sink = some h → ∀ i, L.code (h.react i) :=
  bind' client fun _ _ hst =>
    pure' ⟨Client.congr hst.1 Client.hub fun _ _ => rfl, hst.2.handlers, hst.2.sink⟩

theorem analyse {c : ClientId} {i : Impression} :
    Alike L ((Run.delivery run c).analyse i) ((Run.delivery run c).analyse i) fun _ _ => True := by
  refine bind' hub fun hub hub' hh => ?_
  obtain ⟨rfl, -, hsink⟩ := hh
  cases hs : hub.sink with
  | none => exact pure' trivial
  | some sink =>
    refine ite' (fun _ => bind' emit fun _ _ _ => ?_) fun _ => pure' trivial
    exact ite' (fun _ => dispatch hrun (hsink sink hs)) fun _ => pure' trivial

theorem spread {c : ClientId} {i : Impression} :
    Alike L ((Run.delivery run c).spread i) ((Run.delivery run c).spread i) fun _ _ => True := by
  refine bind' hub fun hub hub' hh => ?_
  obtain ⟨rfl, hhandlers, -⟩ := hh
  exact bind' (forM' fun h hm => dispatch hrun (hhandlers h hm)) fun _ _ _ => analyse hrun

theorem deliver {c : ClientId} {i : Impression} :
    Alike L ((Run.delivery run c).deliver i) ((Run.delivery run c).deliver i) fun _ _ => True :=
  bind' emit fun _ _ _ => spread hrun

end Code

/-! ## Evaluations -/

section Evaluation

variable {run : Runner} (hrun : ∀ p, L.code p → Alike L (run p) (run p) Eq)
include hrun

/-- Two variants with the same name and binding are evaluated alike, if they have the same outcomes and
reports. -/
theorem evaluateAs {v w : Variant} {default : Option String} {x : Option Context}
    (hn : v.name = w.name) (hb : v.binding = w.binding)
    (ho : ∀ s, v.outcome default s = w.outcome default s)
    (hreports : ∀ o, ((v.reports o).map Event.reported).filter L.counts =
      ((w.reports o).map Event.reported).filter L.counts) :
    Alike L (Run.evaluateAs run v x default) (Run.evaluateAs run w x default) Eq := by
  have he : v.experiment = w.experiment := by
    rw [Variant.experiment, hb]
    rfl
  unfold Run.evaluateAs
  rw [← hb]
  cases v.binding with
  | none =>
    rw [← ho]
    exact bind' (reports (hreports _)) fun _ _ _ => pure' rfl
  | some b =>
    refine bind' client fun s t hst => ?_
    have hc : s.globalContext = t.globalContext := Client.congr hst.1 _ fun _ _ => rfl
    rw [← hc]
    refine bind_eq (decide hrun) fun s => ?_
    rw [← ho, ← hn, ← he]
    exact bind' (reports (hreports _)) fun _ _ _ => bind' (deliver hrun) fun _ _ _ => pure' rfl

theorem evaluate {h : Handle} {x : Option Context} {default : Option String}
    (hv : ∀ a b, L.rel a b → a.variant h = b.variant h) :
    Alike L (Run.evaluate run h x default) (Run.evaluate run h x default) Eq := by
  have hread : Alike L (Run.variant h) (Run.variant h) Eq := read hv
  refine bind_eq hread fun v => ?_
  exact evaluateAs hrun rfl rfl (fun _ => rfl) fun _ => rfl

end Evaluation

end Alike

/-! ## Earlier events -/

/-- Two applications that differ in events only. -/
def Likeness.unseen : Likeness where
  rel a b := a.variants = b.variants ∧ a.clients = b.clients
  counts _ := true
  code _ := True
  tell h _ _ := h
  client h c := congrArg (fun s => (s.getD c default).withoutFlags) h.2
  holds {a _} _ := a.holds_true

namespace Alike

variable {c : ClientId}

theorem unseen_client : Alike .unseen (Run.client c) (Run.client c) Eq :=
  read fun _ _ hr => client_congr hr.2 c

theorem unseen_variant {h : Handle} : Alike .unseen (Run.variant h) (Run.variant h) Eq :=
  read fun _ _ hr => variant_congr hr.1 h

theorem unseen_modifyClient {f : Client → Client} :
    Alike .unseen (modify (·.modifyClient c f)) (modify (·.modifyClient c f)) fun _ _ => True :=
  change (fun _ _ hr => ⟨hr.1, congrArg (·.modify c f) hr.2⟩) fun _ => rfl

theorem unseen_modifyVariant {h : Handle} {f : Variant → Variant} :
    Alike .unseen (modify (·.modifyVariant h f)) (modify (·.modifyVariant h f)) fun _ _ => True :=
  change (fun _ _ hr => ⟨congrArg (·.modify h f) hr.1, hr.2⟩) fun _ => rfl

theorem unseen_bindVariant {t : ExperimentTable} {h : Handle} :
    Alike .unseen (Run.bindVariant c t h) (Run.bindVariant c t h) fun _ _ => True := by
  refine bind_eq unseen_variant fun v => ?_
  exact bind' report fun _ _ _ => unseen_modifyVariant

theorem unseen_giveName {h : Handle} {name : String} :
    Alike .unseen (Run.giveName h name) (Run.giveName h name) fun _ _ => True := by
  refine bind_eq unseen_variant fun v => ?_
  cases v.naming name with
  | none => exact unseen_modifyVariant
  | some d => exact report

theorem unseen_find? {name : String} :
    Alike .unseen ((Run.flagStore c).find? name) ((Run.flagStore c).find? name) Eq :=
  read fun _ _ hr => congrArg (fun s => (s.getD c default).flags.find? name) hr.2

theorem unseen_announce {h : Handle} :
    Alike .unseen ((Run.flagStore c).announce h) ((Run.flagStore c).announce h)
      fun _ _ => True := by
  refine bind_eq unseen_client fun s => ?_
  exact unseen_bindVariant

theorem unseen_add {name : String} {h : Handle} :
    Alike .unseen ((Run.flagStore c).add name h) ((Run.flagStore c).add name h) Eq := by
  refine bind' unseen_giveName fun _ _ _ => bind_eq unseen_find? fun p => ?_
  refine bind' unseen_modifyClient fun _ _ _ => ?_
  cases p with
  | none => exact bind' unseen_announce fun _ _ _ => pure' rfl
  | some g => exact bind' report fun _ _ _ => bind' unseen_announce fun _ _ _ => pure' rfl

theorem unseen_create {v : Variant} : Alike .unseen (Run.create v) (Run.create v) Eq :=
  of_run fun a b hr => ⟨_, _, a.addVariant v, b.addVariant v, rfl, rfl,
    .change ⟨congrArg (· ++ [v]) hr.1, hr.2⟩ rfl rfl, congrArg List.length hr.1⟩

theorem unseen_getOrAdd {name : String} {v : Variant} :
    Alike .unseen ((Run.flagStore c).getOrAdd name (Run.create v))
      ((Run.flagStore c).getOrAdd name (Run.create v)) Eq := by
  refine bind_eq unseen_find? fun p => ?_
  cases p with
  | some h => exact pure' rfl
  | none =>
    refine bind_eq unseen_create fun h => ?_
    exact bind' unseen_giveName fun _ _ _ => bind' unseen_modifyClient fun _ _ _ =>
      bind' unseen_announce fun _ _ _ => pure' rfl

theorem unseen_setExperiments {models : List ExperimentModel} :
    Alike .unseen (Run.setExperiments c models) (Run.setExperiments c models)
      fun _ _ => True := by
  refine bind' (reports rfl) fun _ _ _ => bind' unseen_modifyClient fun _ _ _ => ?_
  refine bind_eq unseen_client fun s => ?_
  exact bind' (forM' fun _ _ => unseen_bindVariant) fun _ _ _ => report

theorem unseen_applyConfiguration {payload : String} :
    Alike .unseen (Run.applyConfiguration c payload) (Run.applyConfiguration c payload) Eq := by
  unfold Run.applyConfiguration
  cases Configuration.read payload with
  | error fault => exact bind' report fun _ _ _ => pure' rfl
  | ok k =>
    exact bind' (forM' fun _ _ => report) fun _ _ _ =>
      bind' unseen_setExperiments fun _ _ _ => pure' rfl

theorem unseen_register {r : Container} :
    Alike .unseen (Run.register c r) (Run.register c r) Eq := by
  refine bind_eq unseen_client fun s => ?_
  refine ite' (fun _ => bind' report fun _ _ _ => pure' rfl) fun _ => ?_
  exact bind' unseen_modifyClient fun _ _ _ =>
    bind' (forM' fun _ _ => bind' unseen_add fun _ _ _ => pure' trivial) fun _ _ _ => pure' rfl

theorem unseen_addOperator {name : String} {o : CustomOperator} :
    Alike .unseen (Run.addOperator c name o) (Run.addOperator c name o) fun _ _ => True := by
  refine bind_eq unseen_client fun s => ?_
  exact bind' unseen_modifyClient fun _ _ _ =>
    ite' (fun _ => report) fun _ => pure' trivial

section Code

variable {run : Runner} (hrun : ∀ p, Alike .unseen (run p) (run p) Eq)
include hrun

theorem unseen_evaluate {h : Handle} {x : Option Context} {default : Option String} :
    Alike .unseen (Run.evaluate run h x default) (Run.evaluate run h x default) Eq :=
  evaluate (fun p _ => hrun p) fun _ _ hr => variant_congr hr.1 h

theorem unseen_valueOf {name default : String} {v : Variant} {x : Option Context} :
    Alike .unseen (Run.valueOf run c name default v x) (Run.valueOf run c name default v x)
      Eq := by
  refine bind_eq unseen_getOrAdd fun h => ?_
  exact bind' (unseen_evaluate hrun) fun o o' ho => pure' (congrArg Outcome.value ho)

/-- A response does not depend on earlier events. -/
theorem unseen_answer {r : Request Program} :
    Alike .unseen (Run.answer run c r) (Run.answer run c r) Eq := by
  cases r with
  | register r => exact unseen_register
  | setExperiments models => exact bind' unseen_setExperiments fun _ _ _ => pure' rfl
  | applyConfiguration payload => exact unseen_applyConfiguration
  | isEnabled name default x =>
    exact bind_eq (bind_eq (unseen_valueOf hrun) fun _ => pure' rfl) fun _ => pure' rfl
  | value name default options x =>
    exact bind_eq (unseen_valueOf hrun) fun _ => pure' rfl
  | evaluate h x =>
    exact bind_eq (unseen_evaluate hrun) fun _ => pure' rfl
  | addProperty p => exact bind' unseen_modifyClient fun _ _ _ => pure' rfl
  | addOperator name arity operation => exact bind' unseen_addOperator fun _ _ _ => pure' rfl
  | addHandler label react => exact bind' unseen_modifyClient fun _ _ _ => pure' rfl
  | setGate isOpen => exact bind' unseen_modifyClient fun _ _ _ => pure' rfl

theorem unseen_follow (p : Program) : Alike .unseen (Run.follow run p) (Run.follow run p) Eq := by
  match p with
  | .done v => exact pure' rfl
  | .fail => exact throw'
  | .request c r next =>
    refine bind_eq (unseen_answer hrun) fun x => ?_
    exact unseen_follow (next x)

end Code

theorem unseen_runProgram (limit : Nat) (p : Program) :
    Alike .unseen (Run.runProgram limit p) (Run.runProgram limit p) Eq := by
  induction limit generalizing p with
  | zero => exact throw'
  | succ limit ih => exact unseen_follow ih p

end Alike

/-! ## Sequences of requests -/

/-- The responses to requests made in sequence, each with the events emitted. -/
def replies (a : Application) : List Call → List (Except Stop Response × List Event)
  | [] => []
  | k :: rest =>
    ((a.call k).1, (a.call k).2.events.drop a.events.length) :: (a.call k).2.replies rest

theorem call_congr {a b : Application} (h : Likeness.unseen.rel a b) (k : Call) :
    (a.call k).1 = (b.call k).1 ∧ Likeness.unseen.rel (a.call k).2 (b.call k).2 ∧
      ∃ es, (a.call k).2.events = a.events ++ es ∧ (b.call k).2.events = b.events ++ es := by
  obtain ⟨⟨es, fs, hes, hfs, hf, hr⟩, hend⟩ :=
    Alike.unseen_answer (Alike.unseen_runProgram k.limit) (c := k.client) (r := k.request) a b h
  have hall : ∀ gs : List Event, gs.filter Likeness.unseen.counts = gs := fun gs =>
    List.filter_eq_self.mpr fun _ _ => rfl
  rw [hall, hall] at hf
  subst hf
  exact ⟨hend.eq, hr, es, hes, hfs⟩

/-- Responses do not depend on earlier events. -/
theorem replies_congr {a b : Application} (h : Likeness.unseen.rel a b) (calls : List Call) :
    a.replies calls = b.replies calls := by
  induction calls generalizing a b with
  | nil => rfl
  | cons k rest ih =>
    obtain ⟨hsame, hr, es, hes, hfs⟩ := call_congr h k
    rw [replies, replies, hsame, hes, hfs, List.drop_left, List.drop_left, ih hr]

theorem replies_tell (a : Application) (es : List Event) (calls : List Call) :
    (a.tell es).replies calls = a.replies calls :=
  replies_congr (a := a.tell es) (b := a) ⟨rfl, rfl⟩ calls

end Application

end FeatureFlags
