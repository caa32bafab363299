import FeatureFlags.Impression.Hub

/-!
# Deliveries

Describes what `Hub.deliverBy` does: `Runs` relates the scenes before and after a handler, and
`Delivers` those before and after a delivery, in which the handlers present at the beginning are
called in order. A tree of calls (`Fanout`, `Call`, `Act`) records what was done. A delivery is
unique (`Delivers.unique`).

Deliveries can nest. If the nesting is well-founded (`FinitelyNested`), the delivery exists
(`exists_delivers`) and the hub computes it (`deliverBy_of_delivers`); conversely a delivery that
the hub computes is finitely nested (`finitelyNested_iff`). The main result is
`Hub.deliver_fans_out`.
-/

namespace FeatureFlags

namespace Hub

mutual
/-- A delivery: the calls of the handlers, the answer of the gate if it was asked, and the calls of the
sink. -/
inductive Fanout where
  | mk (i : Impression) (calls : List Call) (answer : Option Bool) (sent : List Call)

/-- A call of a handler: its acts, and whether it succeeded. -/
inductive Call where
  | mk (handler : Handler Reaction) (i : Impression) (acts : List Act) (succeeded : Bool)

/-- An act of a handler on the hub. -/
inductive Act where
  | added (h : Handler Reaction)
  | delivered (f : Fanout)
end

namespace Fanout

def impression : Fanout → Impression
  | mk i _ _ _ => i

def calls : Fanout → List Call
  | mk _ calls _ _ => calls

def answer : Fanout → Option Bool
  | mk _ _ answer _ => answer

def sent : Fanout → List Call
  | mk _ _ _ sent => sent

end Fanout

namespace Call

def handler : Call → Handler Reaction
  | mk h _ _ _ => h

def impression : Call → Impression
  | mk _ i _ _ => i

def acts : Call → List Act
  | mk _ _ acts _ => acts

end Call

/-- How a handler ends. -/
def ending (succeeded : Bool) : Reaction := if succeeded then .done else .fail

/-- The events after a call that does not succeed. -/
def complaints (i : Impression) (succeeded : Bool) : List Event :=
  if succeeded then [] else [.reported (.handlerFailed i.name)]

/-- An observable step of a delivery: an event, or a new handler. -/
inductive Mark where
  | seen (e : Event)
  | added (h : Handler Reaction)

namespace Mark

def event? : Mark → Option Event
  | seen e => some e
  | added _ => none

def handler? : Mark → Option (Handler Reaction)
  | seen _ => none
  | added h => some h

end Mark

mutual
def Fanout.marks : Fanout → List Mark
  | .mk i calls answer sent =>
    .seen (.reported (.deliveringImpression i)) ::
      (Call.marksAll calls ++ (answer.toList.map .gateAsked).map .seen ++ Call.marksAll sent)

/-- The marks of a call: those of the handler's acts are between the event of the call and the report of
a failure. -/
def Call.marks : Call → List Mark
  | .mk h i acts succeeded =>
    .seen (.handled h.label i) :: (Act.marksAll acts ++ (complaints i succeeded).map .seen)

def Act.marks : Act → List Mark
  | .added h => [.added h]
  | .delivered f => f.marks

def Call.marksAll : List Call → List Mark
  | [] => []
  | c :: cs => c.marks ++ Call.marksAll cs

def Act.marksAll : List Act → List Mark
  | [] => []
  | a :: as => a.marks ++ Act.marksAll as
end

/-- Whether a delivery is another one or nested in it, at any depth. -/
inductive Fanout.Within : Fanout → Fanout → Prop
  | self {f : Fanout} : Within f f
  | inside {f g g' : Fanout} {c : Call} (hc : c ∈ f.calls ++ f.sent) (hg : .delivered g ∈ c.acts)
    (h : Within g' g) : Within g' f

namespace Scene

def say (s : Scene) (es : List Event) : Scene := { s with events := s.events ++ es }

def add (s : Scene) (h : Handler Reaction) : Scene :=
  { s with hub := { s.hub with handlers := s.hub.handlers ++ [h] } }

/-- The scene with the gate opened or closed. -/
def set (s : Scene) (isOpen : Bool) : Scene := { s with hub := { s.hub with isOpen := isOpen } }

/-- The answer of the gate for an impression, if it is asked. -/
def answer? (gate : Scene → Bool) (i : Impression) (s : Scene) : Option Bool :=
  if s.hub.sink.isSome && i.isTracked then some (gate s) else none

/-- The scene after the gate was asked, if it was. -/
def asked (gate : Scene → Bool) (i : Impression) (s : Scene) : Scene :=
  s.say ((s.answer? gate i).toList.map .gateAsked)

/-- The sink, if the gate let the impression pass. -/
def sinks (gate : Scene → Bool) (i : Impression) (s : Scene) : List (Handler Reaction) :=
  if s.answer? gate i = some true then s.hub.sink.toList else []

end Scene

variable (gate : Scene → Bool)

mutual
/-- A handler runs from one scene to another, with the reaction that remains. -/
inductive Runs : Scene → Reaction → List Act → Scene → Reaction → Prop
  | here {s : Scene} {r : Reaction} : Runs s r [] s r
  | addHandler {s s' : Scene} {label : String} {react : Impression → Reaction} {next r' : Reaction}
    {as : List Act} (h : Runs (s.add ⟨label, react⟩) next as s' r') :
    Runs s (.addHandler label react next) (.added ⟨label, react⟩ :: as) s' r'
  | setGate {s s' : Scene} {isOpen : Bool} {next r' : Reaction} {as : List Act}
    (h : Runs (s.set isOpen) next as s' r') : Runs s (.setGate isOpen next) as s' r'
  | look {s s' : Scene} {next : List Event → Reaction} {r' : Reaction} {as : List Act}
    (h : Runs s (next s.events) as s' r') : Runs s (.look next) as s' r'
  | deliver {s s₁ s' : Scene} {i : Impression} {next r' : Reaction} {f : Fanout} {as : List Act}
    (hf : Delivers s i f s₁) (h : Runs s₁ next as s' r') :
    Runs s (.deliver i next) (.delivered f :: as) s' r'

/-- Handlers are called in order, whether they succeed or not. -/
inductive Calls : Impression → Scene → List (Handler Reaction) → List Call → Scene → Prop
  | nil {i : Impression} {s : Scene} : Calls i s [] [] s
  | cons {i : Impression} {s s₁ s' : Scene} {h : Handler Reaction} {hs : List (Handler Reaction)}
    {as : List Act} {succeeded : Bool} {cs : List Call}
    (hr : Runs (s.say [.handled h.label i]) (h.react i) as s₁ (ending succeeded))
    (hc : Calls i (s₁.say (complaints i succeeded)) hs cs s') :
    Calls i s (h :: hs) (.mk h i as succeeded :: cs) s'

/-- An impression is delivered to the handlers present, and then to the sink if the gate lets it pass.
-/
inductive Delivers : Scene → Impression → Fanout → Scene → Prop
  | mk {s s₁ s' : Scene} {i : Impression} {calls sent : List Call}
    (hc : Calls i (s.say [.reported (.deliveringImpression i)]) s.hub.handlers calls s₁)
    (hs : Calls i (s₁.asked gate i) (s₁.sinks gate i) sent s') :
    Delivers s i (.mk i calls (s₁.answer? gate i) sent) s'
end

variable {gate}

/-! ## Uniqueness -/

theorem ending_injective {b b' : Bool} (h : ending b = ending b') : b = b' := by
  revert h
  cases b <;> cases b' <;> simp [ending]

mutual
theorem Runs.unique : ∀ {s s₁ s₂ : Scene} {r r₁ r₂ : Reaction} {as bs : List Act} {b b' : Bool},
    Runs gate s r as s₁ r₁ → Runs gate s r bs s₂ r₂ → r₁ = ending b → r₂ = ending b' →
      as = bs ∧ s₁ = s₂ ∧ b = b'
  | _, _, _, _, _, _, _, _, b, _, .here, h', he, he' => by
    -- nothing is done after an end
    subst he
    cases b with
    | true =>
      cases h'
      exact ⟨rfl, rfl, ending_injective he'⟩
    | false =>
      cases h'
      exact ⟨rfl, rfl, ending_injective he'⟩
  | _, _, _, _, _, _, _, _, _, b', .addHandler h, h', he, he' => by
    cases h' with
    | here => cases b' <;> cases he'
    | addHandler h' =>
      obtain ⟨rfl, rfl, rfl⟩ := h.unique h' he he'
      exact ⟨rfl, rfl, rfl⟩
  | _, _, _, _, _, _, _, _, _, b', .setGate h, h', he, he' => by
    cases h' with
    | here => cases b' <;> cases he'
    | setGate h' => exact h.unique h' he he'
  | _, _, _, _, _, _, _, _, _, b', .look h, h', he, he' => by
    cases h' with
    | here => cases b' <;> cases he'
    | look h' => exact h.unique h' he he'
  | _, _, _, _, _, _, _, _, _, b', .deliver hf h, h', he, he' => by
    cases h' with
    | here => cases b' <;> cases he'
    | deliver hf' h' =>
      obtain ⟨rfl, rfl⟩ := hf.unique hf'
      obtain ⟨rfl, rfl, rfl⟩ := h.unique h' he he'
      exact ⟨rfl, rfl, rfl⟩

theorem Calls.unique : ∀ {i : Impression} {s s₁ s₂ : Scene} {hs : List (Handler Reaction)}
    {cs ds : List Call}, Calls gate i s hs cs s₁ → Calls gate i s hs ds s₂ → cs = ds ∧ s₁ = s₂
  | _, _, _, _, _, _, _, .nil, h' => by
    cases h'
    exact ⟨rfl, rfl⟩
  | _, _, _, _, _, _, _, .cons hr hc, h' => by
    cases h' with
    | cons hr' hc' =>
      obtain ⟨rfl, rfl, rfl⟩ := hr.unique hr' rfl rfl
      obtain ⟨rfl, rfl⟩ := hc.unique hc'
      exact ⟨rfl, rfl⟩

/-- A delivery from a scene has one outcome and one tree of calls. -/
theorem Delivers.unique : ∀ {s s₁ s₂ : Scene} {i : Impression} {f g : Fanout},
    Delivers gate s i f s₁ → Delivers gate s i g s₂ → f = g ∧ s₁ = s₂
  | _, _, _, _, _, _, .mk hc hs, h' => by
    cases h' with
    | mk hc' hs' =>
      obtain ⟨rfl, rfl⟩ := hc.unique hc'
      obtain ⟨rfl, rfl⟩ := hs.unique hs'
      exact ⟨rfl, rfl⟩
end

/-! ## The hub computes deliveries -/

theorem perform_ending (deliver : Impression → Run Unit) (succeeded : Bool) (s : Scene) :
    perform deliver (ending succeeded) s = some (succeeded, s) := by
  cases succeeded <;> rfl

theorem perform_deliver (deliver : Impression → Run Unit) (i : Impression) (next : Reaction)
    (s : Scene) :
    perform deliver (.deliver i next) s = (deliver i s).bind fun p => perform deliver next p.2 := rfl

theorem Scene.say_nil (s : Scene) : s.say [] = s := by
  rw [say, List.append_nil]

theorem dispatch_eq (deliver : Impression → Run Unit) (i : Impression) (h : Handler Reaction)
    (s : Scene) :
    (delivery gate deliver).dispatch i h s =
      (perform deliver (h.react i) (s.say [.handled h.label i])).map
        fun p => ((), p.2.say (complaints i p.1)) := by
  have hbind : (delivery gate deliver).dispatch i h s =
      (perform deliver (h.react i) (s.say [.handled h.label i])).bind fun p =>
        (if !p.1 then emit (.reported (.handlerFailed i.name)) else pure ()) p.2 := rfl
  rw [hbind]
  cases perform deliver (h.react i) (s.say [.handled h.label i]) with
  | none => rfl
  | some p =>
    obtain ⟨succeeded, s₁⟩ := p
    cases succeeded with
    | true => exact congrArg (fun t => some ((), t)) s₁.say_nil.symm
    | false => rfl

theorem forM_cons (deliver : Impression → Run Unit) (i : Impression) (h : Handler Reaction)
    (hs : List (Handler Reaction)) (s : Scene) :
    (h :: hs).forM ((delivery gate deliver).dispatch i) s =
      ((delivery gate deliver).dispatch i h s).bind fun p =>
        hs.forM ((delivery gate deliver).dispatch i) p.2 := rfl

theorem forM_singleton (deliver : Impression → Run Unit) (i : Impression) (h : Handler Reaction)
    (s : Scene) :
    [h].forM ((delivery gate deliver).dispatch i) s = (delivery gate deliver).dispatch i h s := by
  rw [forM_cons]
  cases (delivery gate deliver).dispatch i h s <;> rfl

theorem analyse_eq (deliver : Impression → Run Unit) (i : Impression) (s : Scene) :
    (delivery gate deliver).analyse i s =
      (s.sinks gate i).forM ((delivery gate deliver).dispatch i) (s.asked gate i) := by
  obtain ⟨⟨handlers, sink, isOpen⟩, events⟩ := s
  cases sink with
  | none => exact congrArg (fun t => some ((), t)) (Scene.say_nil _).symm
  | some sink =>
    generalize hs : Scene.mk ⟨handlers, some sink, isOpen⟩ events = s
    have hanalyse : (delivery gate deliver).analyse i s =
        (if i.isTracked then do
          emit (.gateAsked (gate s))
          if gate s then (delivery gate deliver).dispatch i sink
        else pure () : Run Unit) s := by
      rw [← hs]
      rfl
    have hsink : s.hub.sink = some sink := by rw [← hs]
    have hanswer : s.answer? gate i = if i.isTracked then some (gate s) else none := by
      rw [Scene.answer?, hsink, Option.isSome_some, Bool.true_and]
    rw [hanalyse, Scene.sinks, Scene.asked, hanswer, hsink]
    cases i.isTracked with
    | false => exact congrArg (fun t => some ((), t)) s.say_nil.symm
    | true =>
      cases gate s with
      | false => rfl
      | true => exact (forM_singleton deliver i sink _).symm

theorem deliverBy_succ (n : Nat) (i : Impression) (s : Scene) :
    deliverBy gate (n + 1) i s =
      (s.hub.handlers.forM ((delivery gate (deliverBy gate n)).dispatch i)
        (s.say [.reported (.deliveringImpression i)])).bind fun p =>
          (delivery gate (deliverBy gate n)).analyse i p.2 := rfl

mutual
theorem perform_of_runs : ∀ {s s' : Scene} {r r' : Reaction} {as : List Act},
    Runs gate s r as s' r' → ∃ n, ∀ m, n ≤ m →
      perform (deliverBy gate m) r s = perform (deliverBy gate m) r' s'
  | _, _, _, _, _, .here => ⟨0, fun _ _ => rfl⟩
  | _, _, _, _, _, .addHandler h =>
    let ⟨n, hn⟩ := perform_of_runs h
    ⟨n, hn⟩
  | _, _, _, _, _, .setGate h =>
    let ⟨n, hn⟩ := perform_of_runs h
    ⟨n, hn⟩
  | _, _, _, _, _, .look h =>
    let ⟨n, hn⟩ := perform_of_runs h
    ⟨n, hn⟩
  | _, _, _, _, _, .deliver hf h => by
    obtain ⟨n₁, h₁⟩ := deliverBy_of_delivers hf
    obtain ⟨n₂, h₂⟩ := perform_of_runs h
    refine ⟨max n₁ n₂, fun m hm => ?_⟩
    rw [perform_deliver, h₁ m (by omega), Option.bind_some, h₂ m (by omega)]

theorem forM_of_calls : ∀ {i : Impression} {s s' : Scene} {hs : List (Handler Reaction)}
    {cs : List Call}, Calls gate i s hs cs s' → ∃ n, ∀ m, n ≤ m →
      hs.forM ((delivery gate (deliverBy gate m)).dispatch i) s = some ((), s')
  | _, _, _, _, _, .nil => ⟨0, fun _ _ => rfl⟩
  | _, _, _, _, _, .cons hr hc => by
    obtain ⟨n₁, h₁⟩ := perform_of_runs hr
    obtain ⟨n₂, h₂⟩ := forM_of_calls hc
    refine ⟨max n₁ n₂, fun m hm => ?_⟩
    rw [forM_cons, dispatch_eq, h₁ m (by omega), perform_ending, Option.map_some, Option.bind_some,
      h₂ m (by omega)]

theorem deliverBy_of_delivers : ∀ {s s' : Scene} {i : Impression} {f : Fanout},
    Delivers gate s i f s' → ∃ n, ∀ m, n ≤ m → deliverBy gate m i s = some ((), s')
  | _, _, _, _, .mk hc hs => by
    obtain ⟨n₁, h₁⟩ := forM_of_calls hc
    obtain ⟨n₂, h₂⟩ := forM_of_calls hs
    refine ⟨max n₁ n₂ + 1, fun m hm => ?_⟩
    obtain ⟨m, rfl⟩ := Nat.exists_eq_add_one.mpr (Nat.lt_of_lt_of_le (Nat.succ_pos _) hm)
    rw [deliverBy_succ, h₁ m (by omega), Option.bind_some, analyse_eq, h₂ m (by omega)]
end

/-! ## Existence -/

variable (gate)

/-- Whether a delivery begins, at a scene, while handlers are called. -/
def Reaches (i : Impression) (s : Scene) (hs : List (Handler Reaction)) (inner : Scene × Impression) :
    Prop :=
  ∃ hs₁ h hs₂ cs s₁ as next, hs = hs₁ ++ h :: hs₂ ∧ Calls gate i s hs₁ cs s₁ ∧
    Runs gate (s₁.say [.handled h.label i]) (h.react i) as inner.1 (.deliver inner.2 next)

/-- Whether a delivery is started by a handler or the sink during another one. -/
inductive Inside : Scene × Impression → Scene × Impression → Prop
  | handlers {s : Scene} {i : Impression} {inner : Scene × Impression}
    (h : Reaches gate i (s.say [.reported (.deliveringImpression i)]) s.hub.handlers inner) :
    Inside inner (s, i)
  | sink {s s₁ : Scene} {i : Impression} {inner : Scene × Impression} {cs : List Call}
    (hc : Calls gate i (s.say [.reported (.deliveringImpression i)]) s.hub.handlers cs s₁)
    (h : Reaches gate i (s₁.asked gate i) (s₁.sinks gate i) inner) : Inside inner (s, i)

/-- There is no infinite chain of deliveries each nested in the one before. -/
def FinitelyNested (s : Scene) (i : Impression) : Prop := Acc (Inside gate) (s, i)

variable {gate}

theorem exists_runs (r : Reaction) {s : Scene}
    (h : ∀ s₁ j as next, Runs gate s r as s₁ (.deliver j next) → ∃ f s₂, Delivers gate s₁ j f s₂) :
    ∃ as s' succeeded, Runs gate s r as s' (ending succeeded) := by
  induction r generalizing s with
  | done => exact ⟨[], s, true, .here⟩
  | fail => exact ⟨[], s, false, .here⟩
  | addHandler label react next _ ih =>
    obtain ⟨as, s', succeeded, hr⟩ := ih fun s₁ j as next h' => h s₁ j _ next h'.addHandler
    exact ⟨_, s', succeeded, hr.addHandler⟩
  | setGate isOpen next ih =>
    obtain ⟨as, s', succeeded, hr⟩ := ih fun s₁ j as next h' => h s₁ j as next h'.setGate
    exact ⟨as, s', succeeded, hr.setGate⟩
  | look next ih =>
    obtain ⟨as, s', succeeded, hr⟩ := ih s.events fun s₁ j as next h' => h s₁ j as next h'.look
    exact ⟨as, s', succeeded, hr.look⟩
  | deliver i next ih =>
    obtain ⟨f, s₁, hf⟩ := h s i [] next .here
    obtain ⟨as, s', succeeded, hr⟩ := ih fun s₂ j as next h' => h s₂ j _ next (.deliver hf h')
    exact ⟨_, s', succeeded, .deliver hf hr⟩

theorem exists_calls {i : Impression} (hs : List (Handler Reaction)) {s : Scene}
    (h : ∀ inner, Reaches gate i s hs inner → ∃ f s₂, Delivers gate inner.1 inner.2 f s₂) :
    ∃ cs s', Calls gate i s hs cs s' := by
  induction hs generalizing s with
  | nil => exact ⟨[], s, .nil⟩
  | cons k hs ih =>
    obtain ⟨as, s₁, succeeded, hr⟩ := exists_runs (k.react i) fun s₁ j as next hr =>
      h (s₁, j) ⟨[], k, hs, [], s, as, next, rfl, .nil, hr⟩
    have hrest : ∀ inner, Reaches gate i (s₁.say (complaints i succeeded)) hs inner →
        ∃ f s₂, Delivers gate inner.1 inner.2 f s₂ := by
      rintro inner ⟨hs₁, k', hs₂, cs, s₂, as', next, rfl, hc, hr'⟩
      exact h inner ⟨k :: hs₁, k', hs₂, _, s₂, as', next, rfl, .cons hr hc, hr'⟩
    obtain ⟨cs, s', hc⟩ := ih hrest
    exact ⟨_, s', .cons hr hc⟩

/-- A finitely nested delivery has an outcome. -/
theorem exists_delivers {s : Scene} {i : Impression} (h : FinitelyNested gate s i) :
    ∃ f s', Delivers gate s i f s' := by
  unfold FinitelyNested at h
  generalize hx : (s, i) = x at h
  induction h generalizing s i with
  | intro x _ ih =>
    subst hx
    obtain ⟨cs, s₁, hc⟩ := exists_calls s.hub.handlers fun inner hin => ih inner (.handlers hin) rfl
    obtain ⟨sent, s', hs⟩ := exists_calls (s₁.sinks gate i) fun inner hin =>
      ih inner (.sink hc hin) rfl
    exact ⟨_, s', .mk hc hs⟩

/-! ## Computed deliveries are finitely nested -/

/-- Whether a deliverer does what another one does, wherever that one returns. -/
def Extends (deliver deliver' : Impression → Run Unit) : Prop :=
  ∀ {i s p}, deliver i s = some p → deliver' i s = some p

section

variable {deliver deliver' : Impression → Run Unit} (hd : Extends deliver deliver')
include hd

theorem perform_mono {r : Reaction} {s : Scene} {p : Bool × Scene} (h : perform deliver r s = some p) :
    perform deliver' r s = some p := by
  induction r generalizing s with
  | done => exact h
  | fail => exact h
  | addHandler label react next _ ih => exact ih h
  | setGate isOpen next ih => exact ih h
  | look next ih => exact ih s.events h
  | deliver i next ih =>
    rw [perform_deliver, Option.bind_eq_some_iff] at h ⊢
    obtain ⟨q, hq, hp⟩ := h
    exact ⟨q, hd hq, ih hp⟩

theorem forM_mono {i : Impression} {hs : List (Handler Reaction)} {s : Scene} {p : Unit × Scene}
    (h : hs.forM ((delivery gate deliver).dispatch i) s = some p) :
    hs.forM ((delivery gate deliver').dispatch i) s = some p := by
  induction hs generalizing s with
  | nil => exact h
  | cons k hs ih =>
    rw [forM_cons, Option.bind_eq_some_iff] at h ⊢
    obtain ⟨q, hq, hp⟩ := h
    refine ⟨q, ?_, ih hp⟩
    rw [dispatch_eq, Option.map_eq_some_iff] at hq ⊢
    obtain ⟨o, ho, rfl⟩ := hq
    exact ⟨o, perform_mono hd ho, rfl⟩

end

/-- With a larger limit, a delivery that returned has the same result. -/
theorem deliverBy_mono {n m : Nat} (hnm : n ≤ m) :
    Extends (deliverBy gate n) (deliverBy gate m) := by
  induction n generalizing m with
  | zero => exact fun h => nomatch h
  | succ n ih =>
    obtain ⟨m, rfl⟩ := Nat.exists_eq_add_one.mpr (Nat.lt_of_lt_of_le (Nat.succ_pos _) hnm)
    have hd : Extends (deliverBy gate n) (deliverBy gate m) := ih (by omega)
    intro i s p h
    rw [deliverBy_succ, Option.bind_eq_some_iff] at h ⊢
    obtain ⟨q, hq, hp⟩ := h
    refine ⟨q, forM_mono hd hq, ?_⟩
    rw [analyse_eq] at hp ⊢
    exact forM_mono hd hp

/-- Whatever the limit, a computed result is the outcome of the delivery. -/
theorem eq_of_delivers {n : Nat} {s s' : Scene} {i : Impression} {f : Fanout} {p : Unit × Scene}
    (hf : Delivers gate s i f s') (h : deliverBy gate n i s = some p) : p = ((), s') := by
  obtain ⟨m, hm⟩ := deliverBy_of_delivers hf
  have hmax := @deliverBy_mono gate _ _ (Nat.le_max_left n m) _ _ _ h
  rw [hm (max n m) (Nat.le_max_right n m)] at hmax
  exact (Option.some.inj hmax).symm

theorem perform_eq_of_runs {n : Nat} {s s₁ : Scene} {r r₁ : Reaction} {as : List Act}
    (hr : Runs gate s r as s₁ r₁) {p : Bool × Scene} (h : perform (deliverBy gate n) r s = some p) :
    perform (deliverBy gate n) r₁ s₁ = some p := by
  match hr with
  | .here => exact h
  | .addHandler hr => exact perform_eq_of_runs hr h
  | .setGate hr => exact perform_eq_of_runs hr h
  | .look hr => exact perform_eq_of_runs hr h
  | .deliver hf hr =>
    rw [perform_deliver, Option.bind_eq_some_iff] at h
    obtain ⟨q, hq, hp⟩ := h
    rw [eq_of_delivers hf hq] at hp
    exact perform_eq_of_runs hr hp

theorem forM_eq_of_calls {n : Nat} {i : Impression} {s s₁ : Scene}
    {hs₁ hs₂ : List (Handler Reaction)} {cs : List Call} (hc : Calls gate i s hs₁ cs s₁)
    {p : Unit × Scene}
    (h : (hs₁ ++ hs₂).forM ((delivery gate (deliverBy gate n)).dispatch i) s = some p) :
    hs₂.forM ((delivery gate (deliverBy gate n)).dispatch i) s₁ = some p := by
  match hc with
  | .nil => exact h
  | .cons hr hc =>
    rw [List.cons_append, forM_cons, Option.bind_eq_some_iff] at h
    obtain ⟨q, hq, hp⟩ := h
    rw [dispatch_eq, Option.map_eq_some_iff] at hq
    obtain ⟨o, ho, rfl⟩ := hq
    have hend := perform_eq_of_runs hr ho
    rw [perform_ending, Option.some.injEq] at hend
    subst hend
    exact forM_eq_of_calls hc hp

theorem deliverBy_of_reaches {n : Nat} {i : Impression} {s : Scene} {hs : List (Handler Reaction)}
    {inner : Scene × Impression} (hin : Reaches gate i s hs inner) {p : Unit × Scene}
    (h : hs.forM ((delivery gate (deliverBy gate n)).dispatch i) s = some p) :
    ∃ q, deliverBy gate n inner.2 inner.1 = some q := by
  obtain ⟨hs₁, k, hs₂, cs, s₁, as, next, rfl, hc, hr⟩ := hin
  have hk := forM_eq_of_calls hc h
  rw [forM_cons, Option.bind_eq_some_iff] at hk
  obtain ⟨q, hq, -⟩ := hk
  rw [dispatch_eq, Option.map_eq_some_iff] at hq
  obtain ⟨o, ho, -⟩ := hq
  have hnext := perform_eq_of_runs hr ho
  rw [perform_deliver, Option.bind_eq_some_iff] at hnext
  obtain ⟨q', hq', -⟩ := hnext
  exact ⟨q', hq'⟩

theorem finitelyNested_of_deliverBy {n : Nat} {s : Scene} {i : Impression} {p : Unit × Scene}
    (h : deliverBy gate n i s = some p) : FinitelyNested gate s i := by
  induction n generalizing s i p with
  | zero => cases h
  | succ n ih =>
    rw [deliverBy_succ, Option.bind_eq_some_iff] at h
    obtain ⟨q, hq, hp⟩ := h
    rw [analyse_eq] at hp
    refine Acc.intro _ fun inner hin => ?_
    cases hin with
    | handlers hin =>
      obtain ⟨q', hq'⟩ := deliverBy_of_reaches hin hq
      exact ih hq'
    | @sink _ s₁ _ _ cs hc hin =>
      -- the calls of the handlers lead to the scene at which the gate is asked
      have hend : q = ((), s₁) := by
        have hnil := hc
        rw [← List.append_nil s.hub.handlers] at hq
        exact (Option.some.inj (forM_eq_of_calls hc hq)).symm
      rw [hend] at hp
      obtain ⟨q', hq'⟩ := deliverBy_of_reaches hin hp
      exact ih hq'

/-- A delivery returns, within some limit, if and only if it is finitely nested. -/
theorem finitelyNested_iff {s : Scene} {i : Impression} :
    FinitelyNested gate s i ↔ ∃ n p, deliverBy gate n i s = some p := by
  constructor
  · intro h
    obtain ⟨f, s', hf⟩ := exists_delivers h
    obtain ⟨n, hn⟩ := deliverBy_of_delivers hf
    exact ⟨n, _, hn n (Nat.le_refl n)⟩
  · rintro ⟨n, p, h⟩
    exact finitelyNested_of_deliverBy h

/-! ## The marks of a delivery -/

/-- A later scene: events and handlers are appended, in order, and the sink is the same. -/
structure Scene.Follows (s : Scene) (ms : List Mark) (s' : Scene) : Prop where
  events : s'.events = s.events ++ ms.filterMap Mark.event?
  handlers : s'.hub.handlers = s.hub.handlers ++ ms.filterMap Mark.handler?
  sink : s'.hub.sink = s.hub.sink

namespace Scene.Follows

theorem refl (s : Scene) : Follows s [] s := ⟨(List.append_nil _).symm, (List.append_nil _).symm, rfl⟩

theorem trans {s s₁ s' : Scene} {ms ms' : List Mark} (h : Follows s ms s₁) (h' : Follows s₁ ms' s') :
    Follows s (ms ++ ms') s' where
  events := by rw [h'.events, h.events, List.append_assoc, List.filterMap_append]
  handlers := by rw [h'.handlers, h.handlers, List.append_assoc, List.filterMap_append]
  sink := h'.sink.trans h.sink

theorem say (s : Scene) (es : List Event) : Follows s (es.map .seen) (s.say es) := by
  have hevents : (es.map Mark.seen).filterMap Mark.event? = es := by
    simp [List.filterMap_map, Function.comp_def, Mark.event?]
  have hhandlers : (es.map Mark.seen).filterMap Mark.handler? = [] := by
    simp [List.filterMap_map, Function.comp_def, Mark.handler?]
  refine ⟨?_, ?_, rfl⟩
  · rw [hevents]
    rfl
  · rw [hhandlers, List.append_nil]
    rfl

theorem add (s : Scene) (h : Handler Reaction) : Follows s [.added h] (s.add h) :=
  ⟨(List.append_nil _).symm, rfl, rfl⟩

theorem set (s : Scene) (isOpen : Bool) : Follows s [] (s.set isOpen) :=
  ⟨(List.append_nil _).symm, (List.append_nil _).symm, rfl⟩

end Scene.Follows

mutual
theorem Runs.follows : ∀ {s s' : Scene} {r r' : Reaction} {as : List Act},
    Runs gate s r as s' r' → s.Follows (Act.marksAll as) s'
  | _, _, _, _, _, .here => .refl _
  | _, _, _, _, _, .addHandler h => (Scene.Follows.add _ _).trans h.follows
  | _, _, _, _, _, .setGate h => (Scene.Follows.set _ _).trans h.follows
  | _, _, _, _, _, .look h => h.follows
  | _, _, _, _, _, .deliver hf h => hf.follows.trans h.follows

theorem Calls.follows : ∀ {i : Impression} {s s' : Scene} {hs : List (Handler Reaction)}
    {cs : List Call}, Calls gate i s hs cs s' → s.Follows (Call.marksAll cs) s'
  | _, _, _, _, _, .nil => .refl _
  | _, _, _, _, _, .cons hr hc => by
    have h := (((Scene.Follows.say _ _).trans hr.follows).trans (Scene.Follows.say _ _)).trans hc.follows
    simpa [Call.marksAll, Call.marks] using h

theorem Delivers.follows : ∀ {s s' : Scene} {i : Impression} {f : Fanout},
    Delivers gate s i f s' → s.Follows f.marks s'
  | _, _, _, _, .mk hc hs => by
    have h := (((Scene.Follows.say _ _).trans hc.follows).trans (Scene.Follows.say _ _)).trans hs.follows
    simpa [Fanout.marks] using h
end

variable (gate) in
/-- Whether a delivery is made between two scenes: its marks are a contiguous part of those between the
scenes. -/
def Scene.Passes (s : Scene) (ms : List Mark) (s' : Scene) (g : Fanout) : Prop :=
  ∃ s₁ s₂ before after, Delivers gate s₁ g.impression g s₂ ∧ s.Follows before s₁ ∧
    s₂.Follows after s' ∧ ms = before ++ g.marks ++ after

theorem Scene.Passes.wrap {t s s' t' : Scene} {ms₁ ms ms₂ : List Mark} {g : Fanout}
    (h : s.Passes gate ms s' g) (h₁ : t.Follows ms₁ s) (h₂ : s'.Follows ms₂ t') :
    t.Passes gate (ms₁ ++ ms ++ ms₂) t' g := by
  obtain ⟨s₁, s₂, before, after, hg, hbefore, hafter, rfl⟩ := h
  exact ⟨s₁, s₂, ms₁ ++ before, after ++ ms₂, hg, h₁.trans hbefore, hafter.trans h₂, by simp⟩

theorem Delivers.impression {s s' : Scene} {i : Impression} {f : Fanout} (h : Delivers gate s i f s') :
    f.impression = i := by
  cases h
  rfl

theorem Delivers.passes {s s' : Scene} {i : Impression} {f : Fanout} (h : Delivers gate s i f s') :
    s.Passes gate f.marks s' f := by
  have hf : Delivers gate s f.impression f s' := by rwa [h.impression]
  exact ⟨s, s', [], [], hf, .refl s, .refl s', by simp⟩

theorem Runs.passes {s s' : Scene} {r r' : Reaction} {as : List Act} (h : Runs gate s r as s' r')
    {g : Fanout} (hg : .delivered g ∈ as) : s.Passes gate (Act.marksAll as) s' g := by
  match h with
  | .here => cases hg
  | .addHandler h =>
    rcases List.mem_cons.mp hg with hg | hg
    · cases hg
    · simpa [Act.marksAll, Act.marks] using (h.passes hg).wrap (.add _ _) (.refl _)
  | .setGate h => simpa using (h.passes hg).wrap (.set _ _) (.refl _)
  | .look h => exact h.passes hg
  | .deliver hf h =>
    rcases List.mem_cons.mp hg with hg | hg
    · cases hg
      simpa [Act.marksAll, Act.marks] using hf.passes.wrap (.refl _) h.follows
    · simpa [Act.marksAll, Act.marks] using (h.passes hg).wrap hf.follows (.refl _)

theorem Calls.passes {i : Impression} {s s' : Scene} {hs : List (Handler Reaction)} {cs : List Call}
    (h : Calls gate i s hs cs s') {c : Call} (hc : c ∈ cs) {g : Fanout} (hg : .delivered g ∈ c.acts) :
    s.Passes gate (Call.marksAll cs) s' g := by
  match h with
  | .nil => cases hc
  | .cons hr hcs =>
    rcases List.mem_cons.mp hc with rfl | hc
    · have hpass := (hr.passes hg).wrap (.say _ _) ((Scene.Follows.say _ _).trans hcs.follows)
      simpa [Call.marksAll, Call.marks] using hpass
    · have hpass := (hcs.passes hc hg).wrap
        (((Scene.Follows.say _ _).trans hr.follows).trans (.say _ _)) (.refl _)
      simpa [Call.marksAll, Call.marks] using hpass

theorem Delivers.passes_inside {s s' : Scene} {i : Impression} {f : Fanout}
    (h : Delivers gate s i f s') {c : Call} (hc : c ∈ f.calls ++ f.sent) {g : Fanout}
    (hg : .delivered g ∈ c.acts) : s.Passes gate f.marks s' g := by
  match h with
  | .mk hcalls hsent =>
    rcases List.mem_append.mp hc with hc | hc
    · have hpass := (hcalls.passes hc hg).wrap (.say _ _) ((Scene.Follows.say _ _).trans hsent.follows)
      simpa [Fanout.marks] using hpass
    · have hpass := (hsent.passes hc hg).wrap
        (((Scene.Follows.say _ _).trans hcalls.follows).trans (.say _ _)) (.refl _)
      simpa [Fanout.marks] using hpass

/-- A nested delivery, at any depth, is made between the scenes of the outer one. -/
theorem Delivers.passes_within {s s' : Scene} {i : Impression} {f g : Fanout}
    (hg : g.Within f) (h : Delivers gate s i f s') : s.Passes gate f.marks s' g := by
  induction hg generalizing s s' i with
  | self => exact h.passes
  | inside hc hg _ ih =>
    obtain ⟨s₁, s₂, before, after, hg', hbefore, hafter, he⟩ := h.passes_inside hc hg
    rw [he]
    exact (ih hg').wrap hbefore hafter

/-! ## The law of deliveries -/

theorem Calls.handlers {i : Impression} {s s' : Scene} {hs : List (Handler Reaction)} {cs : List Call}
    (h : Calls gate i s hs cs s') : cs.map Call.handler = hs := by
  match h with
  | .nil => rfl
  | .cons _ hc => exact congrArg (List.cons _) hc.handlers

theorem Calls.arguments {i : Impression} {s s' : Scene} {hs : List (Handler Reaction)} {cs : List Call}
    (h : Calls gate i s hs cs s') : ∀ c ∈ cs, c.impression = i := by
  match h with
  | .nil => exact fun c hc => nomatch hc
  | .cons _ hc =>
    intro c hm
    rcases List.mem_cons.mp hm with rfl | hm
    · rfl
    · exact hc.arguments c hm

/-- What holds of every delivery, given the scenes before and after it. -/
structure Fanout.Lawful (gate : Scene → Bool) (s : Scene) (f : Fanout) (s' : Scene) : Prop where
  /-- Events and handlers after the delivery are those of its marks. -/
  follows : s.Follows f.marks s'
  /-- The handlers called are those present at the beginning, each once, in order. -/
  handlers : f.calls.map Call.handler = s.hub.handlers
  /-- All of them, and the sink, are called with the delivered impression. -/
  arguments : ∀ c ∈ f.calls ++ f.sent, c.impression = f.impression
  /-- The gate is asked after all handlers, once if there is a sink and the impression is tracked, and
  otherwise not at all. -/
  asked : ∃ s₁, s.Follows (.seen (.reported (.deliveringImpression f.impression)) ::
      Call.marksAll f.calls) s₁ ∧
    f.answer = if s.hub.sink.isSome && f.impression.isTracked then some (gate s₁) else none
  /-- The sink is called once if the gate is open, and otherwise not at all. -/
  sent : f.sent.map Call.handler = if f.answer = some true then s.hub.sink.toList else []

theorem Delivers.lawful {s s' : Scene} {i : Impression} {f : Fanout} (h : Delivers gate s i f s') :
    f.Lawful gate s s' := by
  have hfollows := h.follows
  cases h with
  | @mk _ s₁ _ _ calls sent hc hs =>
    have hcalls := (Scene.Follows.say s _).trans hc.follows
    refine ⟨hfollows, hc.handlers, ?_, ⟨s₁, hcalls, ?_⟩, ?_⟩
    · intro c hm
      rcases List.mem_append.mp hm with hm | hm
      · exact hc.arguments c hm
      · exact hs.arguments c hm
    · rw [← hcalls.sink]
      rfl
    · rw [← hcalls.sink]
      exact hs.handlers

/-- For any handlers and any gate, a finitely nested delivery returns, with one outcome for all limits
that are large enough. It and all deliveries nested in it are lawful. The handlers of a nested delivery
are those present at the outer one followed by those added since, and its marks are a contiguous part of
those of the call that started it. -/
theorem deliver_fans_out (gate : Scene → Bool) {s : Scene} {i : Impression}
    (h : FinitelyNested gate s i) :
    ∃ f s', Delivers gate s i f s' ∧ (∀ g s₁, Delivers gate s i g s₁ → g = f ∧ s₁ = s') ∧
      (∃ n, ∀ limit, n ≤ limit → deliverBy gate limit i s = some ((), s')) ∧
      f.impression = i ∧ f.Lawful gate s s' ∧
      ∀ g, g.Within f → ∃ s₁ s₂ before after, Delivers gate s₁ g.impression g s₂ ∧
        g.Lawful gate s₁ s₂ ∧ s.Follows before s₁ ∧ s₂.Follows after s' ∧
        f.marks = before ++ g.marks ++ after := by
  obtain ⟨f, s', hf⟩ := exists_delivers h
  refine ⟨f, s', hf, fun g s₁ hg => hg.unique hf, deliverBy_of_delivers hf, hf.impression, hf.lawful,
    fun g hg => ?_⟩
  obtain ⟨s₁, s₂, before, after, hg', hbefore, hafter, he⟩ := hf.passes_within hg
  exact ⟨s₁, s₂, before, after, hg', hg'.lawful, hbefore, hafter, he⟩

/-- A handler that adds another one, delivers a second impression, and fails. -/
def reentrant : Handler Reaction where
  label := "reentrant"
  react i :=
    if i.name = "outer" then
      .addHandler "late" (fun _ => .done) (.deliver ⟨"inner", "true", none, .empty⟩ .fail)
    else .done

/-- A hub with this handler and another one, and a sink that fails. -/
def reentrantScene : Scene :=
  ⟨⟨[reentrant, ⟨"plain", fun _ => .done⟩], some ⟨"sink", fun _ => .fail⟩, true⟩, []⟩

/-- Neither the failure nor the added handler prevents the calls of the other handlers. -/
theorem deliver_fans_out_reentrant :
    ∃ f s', Delivers (fun _ => true) reentrantScene ⟨"outer", "true", some default, .empty⟩ f s' ∧
      f.calls.map (·.handler.label) = ["reentrant", "plain"] ∧ f.answer = some true ∧
      f.sent.map (·.handler.label) = ["sink"] := by
  have hnested : FinitelyNested (fun _ => true) reentrantScene
      ⟨"outer", "true", some default, .empty⟩ := finitelyNested_iff.mpr ⟨2, _, rfl⟩
  obtain ⟨f, s', hf, -, -, hi, hlawful, -⟩ := deliver_fans_out (fun _ => true) hnested
  obtain ⟨s₁, -, hanswer⟩ := hlawful.asked
  rw [hi] at hanswer
  have hanswer : f.answer = some true := hanswer
  have hcalls := congrArg (List.map Handler.label) hlawful.handlers
  have hsent := congrArg (List.map Handler.label) hlawful.sent
  rw [List.map_map] at hcalls hsent
  rw [hanswer] at hsent
  exact ⟨f, s', hf, hcalls, hanswer, hsent⟩

end Hub

end FeatureFlags
