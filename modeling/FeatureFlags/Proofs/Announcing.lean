import FeatureFlags.Flag.Register
import Mathlib.Data.List.Basic

/-!
# Runs of a flag register

Describes what `FlagRegister.run` does: `Runs` and `Calls` relate the registers before and after a
run and an announcement, and a tree of deeds (`Deed`, `Call`) records what was done. The interpreter
computes exactly this relation (`run_iff`).

Listed in order, the insertions, the calls and the new observers of a run are its marks (`Mark`).
All that a deed finds in the register is determined by the marks before it, at any depth, and so is
the set of observers that are called for an insertion (`Announced.rightly`). Names are never
removed, and only `FlagStore.add` replaces a variant (`Announced.slots`). The main result is
`FlagRegister.announcing`.
-/

namespace FeatureFlags

/-- The variant that a creation yields; `fresh` is the number of the next variant that is made. -/
def Creation.yields (fresh : Handle) : Creation → Handle
  | held h => h
  | made _ _ => fresh

def Creation.isMade : Creation → Bool
  | held _ => false
  | made _ _ => true

namespace FlagRegister

/-- The origin of an inserted variant. -/
inductive Origin where
  /-- It was created by a request for the name. -/
  | created (c : Creation)
  /-- It was added, and possibly replaced another one. -/
  | added (previous : Option Handle)

mutual
/-- An action on a register, with what follows from it. -/
inductive Deed where
  /-- The register is looked at. -/
  | looked (v : FlagView)
  /-- An observer is added. -/
  | watched (o : Observer)
  /-- A name is asked for, and its variant is found. -/
  | found (name : String) (h : Handle)
  /-- A variant is inserted under a name, and announced. -/
  | inserted (name : String) (h : Handle) (origin : Origin) (calls : List Call)

/-- A call of an observer for a variant, with the actions of the observer. -/
inductive Call where
  | mk (o : Observer) (h : Handle) (deeds : List Deed)
end

namespace Call

def observer : Call → Observer
  | mk o _ _ => o

def variant : Call → Handle
  | mk _ h _ => h

end Call

/-- An observable step of a run. -/
inductive Mark where
  /-- A variant was stored under a name. -/
  | stored (name : String) (h : Handle) (origin : Origin)
  /-- An observer was called. -/
  | called (o : Observer) (h : Handle)
  /-- An observer was added. -/
  | watched (o : Observer)

namespace Mark

def entry? : Mark → Option (String × Handle)
  | stored name h _ => some (name, h)
  | _ => none

def call? : Mark → Option (String × Handle)
  | called o h => some (o.label, h)
  | _ => none

def observer? : Mark → Option Observer
  | watched o => some o
  | _ => none

def isMade : Mark → Bool
  | stored _ _ (.created c) => c.isMade
  | _ => false

end Mark

mutual
/-- The marks of a deed, in order: an insertion is stored before any observer is called. -/
def Deed.marks : Deed → List Mark
  | .looked _ => []
  | .watched o => [.watched o]
  | .found _ _ => []
  | .inserted name h origin calls => .stored name h origin :: Call.marksAll calls

def Call.marks : Call → List Mark
  | .mk o h deeds => .called o h :: Deed.marksAll deeds

def Deed.marksAll : List Deed → List Mark
  | [] => []
  | d :: ds => d.marks ++ Deed.marksAll ds

def Call.marksAll : List Call → List Mark
  | [] => []
  | c :: cs => c.marks ++ Call.marksAll cs
end

theorem Deed.marksAll_append {ds ds' : List Deed} : marksAll (ds ++ ds') = marksAll ds ++ marksAll ds' := by
  induction ds with
  | nil => rfl
  | cons d ds ih => rw [List.cons_append, marksAll, marksAll, ih, List.append_assoc]

theorem Call.marksAll_append {cs cs' : List Call} : marksAll (cs ++ cs') = marksAll cs ++ marksAll cs' := by
  induction cs with
  | nil => rfl
  | cons c cs ih => rw [List.cons_append, marksAll, marksAll, ih, List.append_assoc]

/-- A deed of a run, at any depth, with the marks before it. -/
inductive Stands : List Deed → List Mark → Deed → Prop
  | here {ds ds' : List Deed} {d : Deed} : Stands (ds ++ d :: ds') (Deed.marksAll ds) d
  | inside {ds ds' es : List Deed} {name : String} {h g : Handle} {origin : Origin} {cs cs' : List Call}
    {o : Observer} {before : List Mark} {d : Deed} (hd : Stands es before d) :
    Stands (ds ++ .inserted name h origin (cs ++ .mk o g es :: cs') :: ds')
      (Deed.marksAll ds ++ .stored name h origin :: (Call.marksAll cs ++ .called o g :: before)) d

/-! ## Steps -/

/-- The register after a variant was named, if it had no name. -/
def named (s : FlagRegister) (name : String) (h : Handle) : FlagRegister :=
  match (s.variant h).naming name with
  | some d => { s with diagnostics := s.diagnostics ++ [d] }
  | none => { s with variants := s.variants.set h ((s.variant h).withName name) }

/-- The register after a variant was created. -/
def afterCreation (s : FlagRegister) : Creation → FlagRegister
  | .held _ => s
  | .made default options => { s with variants := s.variants ++ [.make default options] }

/-- The register after a variant was stored under a name, before it is announced. -/
def put (s : FlagRegister) (name : String) (h : Handle) : Origin → FlagRegister
  | .created c =>
    let t := (s.afterCreation c).named name h
    { t with flags := t.flags.insert name h }
  | .added previous =>
    let t := s.named name h
    { t with
      flags := t.flags.insert name h
      diagnostics := if previous.isSome then t.diagnostics ++ [.replacedFlag name] else t.diagnostics }

def watchedBy (s : FlagRegister) (o : Observer) : FlagRegister := { s with observers := s.observers ++ [o] }

/-- The register after an observer was called. -/
def heard (s : FlagRegister) (o : Observer) (h : Handle) : FlagRegister :=
  let name := (s.variant h).name
  { s with sightings := s.sightings ++ [⟨o.label, h, name, (s.find? name).map (· == h)⟩] }

mutual
/-- A run from one register to another, with the actions that remain. -/
inductive Runs : FlagRegister → Observation → List Deed → FlagRegister → Observation → Prop
  | here {s : FlagRegister} {p : Observation} : Runs s p [] s p
  | look {s s' : FlagRegister} {next : FlagView → Observation} {ds : List Deed} {p' : Observation}
    (hr : Runs s (next s.toFlagView) ds s' p') : Runs s (.look next) (.looked s.toFlagView :: ds) s' p'
  | observe {s s' : FlagRegister} {label : String} {react : Handle → Observation} {next p' : Observation}
    {ds : List Deed} (hr : Runs (s.watchedBy ⟨label, react⟩) next ds s' p') :
    Runs s (.observe label react next) (.watched ⟨label, react⟩ :: ds) s' p'
  | found {s s' : FlagRegister} {name : String} {c : Creation} {next : Handle → Observation} {h : Handle}
    {ds : List Deed} {p' : Observation} (hf : s.find? name = some h) (hr : Runs s (next h) ds s' p') :
    Runs s (.getOrAdd name c next) (.found name h :: ds) s' p'
  | created {s s₁ s' : FlagRegister} {name : String} {c : Creation} {next : Handle → Observation} {h : Handle}
    {calls : List Call} {ds : List Deed} {p' : Observation} (hf : s.find? name = none)
    (hh : c.yields s.variants.length = h)
    (hc : Calls h (s.put name h (.created c)) (s.put name h (.created c)).observers calls s₁)
    (hr : Runs s₁ (next h) ds s' p') :
    Runs s (.getOrAdd name c next) (.inserted name h (.created c) calls :: ds) s' p'
  | added {s s₁ s' : FlagRegister} {name : String} {h : Handle} {next : Option Handle → Observation}
    {previous : Option Handle} {calls : List Call} {ds : List Deed} {p' : Observation}
    (hf : s.find? name = previous)
    (hc : Calls h (s.put name h (.added previous)) (s.put name h (.added previous)).observers calls s₁)
    (hr : Runs s₁ (next previous) ds s' p') :
    Runs s (.add name h next) (.inserted name h (.added previous) calls :: ds) s' p'

/-- The observers are called in order, each with all its actions. -/
inductive Calls : Handle → FlagRegister → List Observer → List Call → FlagRegister → Prop
  | nil {h : Handle} {s : FlagRegister} : Calls h s [] [] s
  | cons {h : Handle} {s s₁ s' : FlagRegister} {o : Observer} {os : List Observer} {ds : List Deed}
    {cs : List Call} (hr : Runs (s.heard o h) (o.react h) ds s₁ .done) (hc : Calls h s₁ os cs s') :
    Calls h s (o :: os) (.mk o h ds :: cs) s'
end

/-! ## The register computes runs -/

section Computes

variable {announce : Handle → Run Unit} {s : FlagRegister} {name : String} {h : Handle} {c : Creation}

theorem run_bind {α β : Type} {x : Run α} {f : α → Run β} {v : α} {t : FlagRegister}
    (hx : x s = some (v, t)) : (x >>= f) s = f v t := by
  show (x s).bind (fun p => f p.1 p.2) = _
  rw [hx]
  rfl

theorem announce_bind {α : Type} {v : α} : (announce h >>= fun _ => (pure v : Run α)) s =
    (announce h s).map fun p => (v, p.2) := by
  rw [Option.map_eq_bind]
  rfl

theorem giveName_eq : giveName h name s = some ((), s.named name h) := by
  have hs : (get : Run FlagRegister) s = some (s, s) := rfl
  unfold giveName named
  rw [run_bind hs]
  cases (s.variant h).naming name <;> rfl

theorem flags_named : (s.named name h).flags = s.flags := by
  unfold named
  split <;> rfl

theorem find?_eq : (flagStore announce).find? name s = some (s.find? name, s) := rfl

theorem add_eq : (flagStore announce).add name h s =
    (announce h (s.put name h (.added (s.find? name)))).map fun p => (s.find? name, p.2) := by
  have hnamed : (flagStore announce).giveName h name s = some ((), s.named name h) := giveName_eq
  have hfind : (s.named name h).find? name = s.find? name := congrArg (·.find? name) flags_named
  let t : FlagRegister := { s.named name h with flags := (s.named name h).flags.insert name h }
  have hstored : (flagStore announce).store name h (s.named name h) = some ((), t) := rfl
  unfold FlagStore.add
  rw [run_bind hnamed, run_bind find?_eq, run_bind hstored, hfind, ← announce_bind]
  cases s.find? name <;> rfl

theorem getOrAdd_of_found {create : Run Handle} (hf : s.find? name = some h) :
    (flagStore announce).getOrAdd name create s = some (h, s) := by
  unfold FlagStore.getOrAdd
  rw [run_bind find?_eq, hf]
  rfl

theorem createBy_eq : createBy c s = some (c.yields s.variants.length, s.afterCreation c) := by
  cases c <;> rfl

theorem getOrAdd_of_missing (hf : s.find? name = none) (hh : c.yields s.variants.length = h) :
    (flagStore announce).getOrAdd name (createBy c) s =
      (announce h (s.put name h (.created c))).map fun p => (h, p.2) := by
  have hnamed : (flagStore announce).giveName h name (s.afterCreation c) =
      some ((), (s.afterCreation c).named name h) := giveName_eq
  unfold FlagStore.getOrAdd
  rw [run_bind find?_eq, hf]
  show (createBy c >>= fun h => (flagStore announce).giveName h name >>= fun _ =>
    (flagStore announce).store name h >>= fun _ => (flagStore announce).announce h >>= fun _ =>
      pure h) s = _
  rw [run_bind createBy_eq, hh, run_bind hnamed, ← announce_bind]
  rfl

theorem perform_found {next : Handle → Observation} (hf : s.find? name = some h) :
    perform announce (.getOrAdd name c next) s = perform announce (next h) s :=
  run_bind (f := fun h => perform announce (next h)) (getOrAdd_of_found hf)

theorem perform_created {next : Handle → Observation} (hf : s.find? name = none)
    (hh : c.yields s.variants.length = h) : perform announce (.getOrAdd name c next) s =
      (announce h (s.put name h (.created c))).bind fun p => perform announce (next h) p.2 := by
  have hbind : perform announce (.getOrAdd name c next) s =
      ((flagStore announce).getOrAdd name (createBy c) s).bind fun p => perform announce (next p.1) p.2 := rfl
  rw [hbind, getOrAdd_of_missing hf hh, Option.bind_map]
  rfl

theorem perform_added {next : Option Handle → Observation} {previous : Option Handle}
    (hf : s.find? name = previous) : perform announce (.add name h next) s =
      (announce h (s.put name h (.added previous))).bind fun p => perform announce (next previous) p.2 := by
  have hbind : perform announce (.add name h next) s =
      ((flagStore announce).add name h s).bind fun p => perform announce (next p.1) p.2 := rfl
  rw [hbind, add_eq, Option.bind_map, hf]
  rfl

theorem forM_call_cons {o : Observer} {os : List Observer} : (o :: os).forM (call announce h) s =
    (perform announce (o.react h) (s.heard o h)).bind fun p => os.forM (call announce h) p.2 := rfl

theorem announce_succ (n : Nat) : FlagRegister.announce (n + 1) h s =
    s.observers.forM (call (FlagRegister.announce n) h) s := rfl

theorem announce_of_forM {s' : FlagRegister} {n : Nat}
    (hn : ∀ m, n ≤ m → s.observers.forM (call (FlagRegister.announce m) h) s = some ((), s')) :
    ∀ m, n + 1 ≤ m → FlagRegister.announce m h s = some ((), s') := by
  intro m hm
  obtain ⟨m, rfl⟩ := Nat.exists_eq_add_one.mpr (Nat.lt_of_lt_of_le (Nat.succ_pos _) hm)
  rw [announce_succ, hn m (by omega)]

end Computes

mutual
/-- With a large enough limit, performing the actions before a point of a run leads to that point. -/
theorem perform_of_runs : ∀ {s s' : FlagRegister} {p p' : Observation} {ds : List Deed}, Runs s p ds s' p' →
    ∃ n, ∀ m, n ≤ m → perform (announce m) p s = perform (announce m) p' s'
  | _, _, _, _, _, .here => ⟨0, fun _ _ => rfl⟩
  | _, _, _, _, _, .look hr =>
    let ⟨n, hn⟩ := perform_of_runs hr
    ⟨n, hn⟩
  | _, _, _, _, _, .observe hr =>
    let ⟨n, hn⟩ := perform_of_runs hr
    ⟨n, hn⟩
  | _, _, _, _, _, .found hf hr => by
    obtain ⟨n, hn⟩ := perform_of_runs hr
    exact ⟨n, fun m hm => (perform_found hf).trans (hn m hm)⟩
  | _, _, _, _, _, .created hf hh hc hr => by
    obtain ⟨n₁, h₁⟩ := forM_of_calls hc
    obtain ⟨n₂, h₂⟩ := perform_of_runs hr
    refine ⟨max (n₁ + 1) n₂, fun m hm => ?_⟩
    rw [perform_created hf hh, announce_of_forM h₁ m (by omega), Option.bind_some, h₂ m (by omega)]
  | _, _, _, _, _, .added hf hc hr => by
    obtain ⟨n₁, h₁⟩ := forM_of_calls hc
    obtain ⟨n₂, h₂⟩ := perform_of_runs hr
    refine ⟨max (n₁ + 1) n₂, fun m hm => ?_⟩
    rw [perform_added hf, announce_of_forM h₁ m (by omega), Option.bind_some, h₂ m (by omega)]

theorem forM_of_calls : ∀ {h : Handle} {s s' : FlagRegister} {os : List Observer} {cs : List Call},
    Calls h s os cs s' → ∃ n, ∀ m, n ≤ m → os.forM (call (announce m) h) s = some ((), s')
  | _, _, _, _, _, .nil => ⟨0, fun _ _ => rfl⟩
  | _, _, _, _, _, .cons hr hc => by
    obtain ⟨n₁, h₁⟩ := perform_of_runs hr
    obtain ⟨n₂, h₂⟩ := forM_of_calls hc
    refine ⟨max n₁ n₂, fun m hm => ?_⟩
    have hdone : ∀ t : FlagRegister, perform (announce m) .done t = some ((), t) := fun _ => rfl
    rw [forM_call_cons, h₁ m (by omega), hdone, Option.bind_some, h₂ m (by omega)]
end

section Converse

variable {n : Nat}

/-- A computed result is one of a run, if this holds of announcements. -/
theorem runs_of_perform
    (ha : ∀ {h : Handle} {s s' : FlagRegister}, announce n h s = some ((), s') →
      ∃ cs, Calls h s s.observers cs s')
    {p : Observation} {s s' : FlagRegister} (h : perform (announce n) p s = some ((), s')) :
    ∃ ds, Runs s p ds s' .done := by
  induction p generalizing s with
  | done =>
    obtain rfl : s = s' := congrArg Prod.snd (Option.some.inj h)
    exact ⟨[], .here⟩
  | look next ih =>
    obtain ⟨ds, hr⟩ := ih _ h
    exact ⟨_, .look hr⟩
  | observe label react next _ ih =>
    obtain ⟨ds, hr⟩ := ih (s := s.watchedBy ⟨label, react⟩) h
    exact ⟨_, .observe hr⟩
  | add name g next ih =>
    rw [perform_added rfl] at h
    obtain ⟨⟨⟨⟩, s₁⟩, hannounce, h⟩ := Option.bind_eq_some_iff.mp h
    obtain ⟨cs, hc⟩ := ha hannounce
    obtain ⟨ds, hr⟩ := ih _ h
    exact ⟨_, .added rfl hc hr⟩
  | getOrAdd name c next ih =>
    cases hf : s.find? name with
    | some g =>
      rw [perform_found hf] at h
      obtain ⟨ds, hr⟩ := ih _ h
      exact ⟨_, .found hf hr⟩
    | none =>
      rw [perform_created hf rfl] at h
      obtain ⟨⟨⟨⟩, s₁⟩, hannounce, h⟩ := Option.bind_eq_some_iff.mp h
      obtain ⟨cs, hc⟩ := ha hannounce
      obtain ⟨ds, hr⟩ := ih _ h
      exact ⟨_, .created hf rfl hc hr⟩

theorem calls_of_forM {h : Handle}
    (hp : ∀ {p : Observation} {s s' : FlagRegister}, perform (announce n) p s = some ((), s') →
      ∃ ds, Runs s p ds s' .done)
    {os : List Observer} {s s' : FlagRegister} (ho : os.forM (call (announce n) h) s = some ((), s')) :
    ∃ cs, Calls h s os cs s' := by
  induction os generalizing s with
  | nil =>
    obtain rfl : s = s' := congrArg Prod.snd (Option.some.inj ho)
    exact ⟨[], .nil⟩
  | cons o os ih =>
    rw [forM_call_cons] at ho
    obtain ⟨⟨⟨⟩, s₁⟩, hperform, ho⟩ := Option.bind_eq_some_iff.mp ho
    obtain ⟨ds, hr⟩ := hp hperform
    obtain ⟨cs, hc⟩ := ih ho
    exact ⟨_, .cons hr hc⟩

theorem calls_of_announce {h : Handle} {s s' : FlagRegister} (ha : announce n h s = some ((), s')) :
    ∃ cs, Calls h s s.observers cs s' := by
  -- on the limit: within the next one, observers announce within this one
  induction n generalizing h s s' with
  | zero => cases ha
  | succ n ih => exact calls_of_forM (runs_of_perform ih) ha

end Converse

/-- The register returns with a result, within some limit, if and only if there is a run with this
result. -/
theorem run_iff {s s' : FlagRegister} {p : Observation} :
    (∃ limit, run limit p s = some ((), s')) ↔ ∃ ds, Runs s p ds s' .done := by
  constructor
  · rintro ⟨n, h⟩
    exact runs_of_perform calls_of_announce h
  · rintro ⟨ds, hr⟩
    obtain ⟨n, hn⟩ := perform_of_runs hr
    exact ⟨n, hn n (Nat.le_refl n)⟩

/-! ## The marks of a run -/

/-- The variants by name after the insertions among some marks. -/
def flagsAfter (s : FlagRegister) (ms : List Mark) : Dict Handle := s.flags.insertAll (ms.filterMap Mark.entry?)

theorem flagsAfter_append {s : FlagRegister} {ms ms' : List Mark} :
    s.flagsAfter (ms ++ ms') = (s.flagsAfter ms).insertAll (ms'.filterMap Mark.entry?) := by
  rw [flagsAfter, flagsAfter, List.filterMap_append, Dict.insertAll, Dict.insertAll, Dict.insertAll,
    List.foldl_append]

/-- A later register of a run: it continues the lists of the earlier one by what the marks record. -/
structure Follows (s : FlagRegister) (ms : List Mark) (s' : FlagRegister) : Prop where
  flags : s'.flags = s.flagsAfter ms
  observers : s'.observers = s.observers ++ ms.filterMap Mark.observer?
  sightings : s'.sightings.map (fun x => (x.observer, x.variant)) =
    s.sightings.map (fun x => (x.observer, x.variant)) ++ ms.filterMap Mark.call?
  variants : s'.variants.length = s.variants.length + ms.countP Mark.isMade

namespace Follows

variable {s s₁ s' : FlagRegister} {ms ms' : List Mark}

theorem refl (s : FlagRegister) : Follows s [] s :=
  ⟨rfl, (List.append_nil _).symm, (List.append_nil _).symm, rfl⟩

theorem trans (h : Follows s ms s₁) (h' : Follows s₁ ms' s') : Follows s (ms ++ ms') s' where
  flags := by
    rw [flagsAfter_append, ← h.flags]
    exact h'.flags
  observers := by rw [h'.observers, h.observers, List.append_assoc, List.filterMap_append]
  sightings := by rw [h'.sightings, h.sightings, List.append_assoc, List.filterMap_append]
  variants := by rw [h'.variants, h.variants, List.countP_append, Nat.add_assoc]

theorem watchedBy (s : FlagRegister) (o : Observer) : Follows s [.watched o] (s.watchedBy o) :=
  ⟨rfl, rfl, (List.append_nil _).symm, rfl⟩

theorem heard (s : FlagRegister) (o : Observer) (h : Handle) : Follows s [.called o h] (s.heard o h) where
  flags := rfl
  observers := (List.append_nil _).symm
  sightings := List.map_append
  variants := rfl

theorem named (s : FlagRegister) (name : String) (h : Handle) : Follows s [] (s.named name h) := by
  unfold FlagRegister.named
  split
  · exact ⟨rfl, (List.append_nil _).symm, (List.append_nil _).symm, rfl⟩
  · exact ⟨rfl, (List.append_nil _).symm, (List.append_nil _).symm, List.length_set⟩

theorem stored {name : String} {h : Handle} {origin : Origin} (hn : Follows s₁ [] s')
    (hflags : s₁.flags = s.flags) (hobservers : s₁.observers = s.observers)
    (hsightings : s₁.sightings = s.sightings)
    (hvariants : s₁.variants.length = s.variants.length + [Mark.stored name h origin].countP Mark.isMade)
    (ds : List Diagnostic) : Follows s [.stored name h origin]
      { s' with flags := s'.flags.insert name h, diagnostics := ds } where
  flags := congrArg (·.insert name h) (hn.flags.trans hflags)
  observers := by
    rw [hn.observers, hobservers]
    rfl
  sightings := by
    rw [hn.sightings, hsightings]
    rfl
  variants := hn.variants.trans hvariants

theorem put (s : FlagRegister) (name : String) (h : Handle) (origin : Origin) :
    Follows s [.stored name h origin] (s.put name h origin) := by
  cases origin with
  | created c =>
    cases c with
    | held g => exact (named s name h).stored rfl rfl rfl rfl _
    | made default options =>
      let c : Creation := .made default options
      have hmade : (s.afterCreation c).variants.length =
          s.variants.length + [Mark.stored name h (.created c)].countP Mark.isMade := List.length_append
      exact stored (s := s) (named (s.afterCreation c) name h) rfl rfl rfl hmade _
  | added previous => exact (named s name h).stored rfl rfl rfl rfl _

end Follows

mutual
theorem Runs.follows : ∀ {s s' : FlagRegister} {p p' : Observation} {ds : List Deed}, Runs s p ds s' p' →
    s.Follows (Deed.marksAll ds) s'
  | _, _, _, _, _, .here => .refl _
  | _, _, _, _, _, .look hr => hr.follows
  | _, _, _, _, _, .observe hr => (Follows.watchedBy _ _).trans hr.follows
  | _, _, _, _, _, .found _ hr => hr.follows
  | _, _, _, _, _, .created _ _ hc hr => ((Follows.put _ _ _ _).trans hc.follows).trans hr.follows
  | _, _, _, _, _, .added _ hc hr => ((Follows.put _ _ _ _).trans hc.follows).trans hr.follows

theorem Calls.follows : ∀ {h : Handle} {s s' : FlagRegister} {os : List Observer} {cs : List Call},
    Calls h s os cs s' → s.Follows (Call.marksAll cs) s'
  | _, _, _, _, _, .nil => .refl _
  | _, _, _, _, _, .cons hr hc => ((Follows.heard _ _ _).trans hr.follows).trans hc.follows
end

/-! ## Splitting runs -/

/-- A run can be split at every deed. -/
theorem Runs.split {ds ds' : List Deed} {s s' : FlagRegister} {p p' : Observation}
    (h : Runs s p (ds ++ ds') s' p') :
    ∃ s₁ p₁, Runs s p ds s₁ p₁ ∧ Runs s₁ p₁ ds' s' p' := by
  induction ds generalizing s p with
  | nil => exact ⟨s, p, .here, h⟩
  | cons d ds ih =>
    cases h with
    | look hr =>
      obtain ⟨s₁, p₁, h₁, h₂⟩ := ih hr
      exact ⟨s₁, p₁, .look h₁, h₂⟩
    | observe hr =>
      obtain ⟨s₁, p₁, h₁, h₂⟩ := ih hr
      exact ⟨s₁, p₁, .observe h₁, h₂⟩
    | found hf hr =>
      obtain ⟨s₁, p₁, h₁, h₂⟩ := ih hr
      exact ⟨s₁, p₁, .found hf h₁, h₂⟩
    | created hf hh hc hr =>
      obtain ⟨s₁, p₁, h₁, h₂⟩ := ih hr
      exact ⟨s₁, p₁, .created hf hh hc h₁, h₂⟩
    | added hf hc hr =>
      obtain ⟨s₁, p₁, h₁, h₂⟩ := ih hr
      exact ⟨s₁, p₁, .added hf hc h₁, h₂⟩

theorem Calls.split {cs cs' : List Call} {h : Handle} {s s' : FlagRegister} {os : List Observer}
    (hc : Calls h s os (cs ++ cs') s') :
    ∃ os₁ os₂ s₁, os = os₁ ++ os₂ ∧ Calls h s os₁ cs s₁ ∧ Calls h s₁ os₂ cs' s' := by
  induction cs generalizing s os with
  | nil => exact ⟨[], os, s, rfl, .nil, hc⟩
  | cons c cs ih =>
    cases hc with
    | cons hr hc =>
      obtain ⟨os₁, os₂, s₁, rfl, h₁, h₂⟩ := ih hc
      exact ⟨_ :: os₁, os₂, s₁, rfl, .cons hr h₁, h₂⟩

/-- A variant is stored under its name, whatever its origin, and then all observers are called. -/
theorem Runs.calls {name : String} {h : Handle} {origin : Origin} {calls : List Call} {ds : List Deed}
    {s s' : FlagRegister} {p p' : Observation} (hr : Runs s p (.inserted name h origin calls :: ds) s' p') :
    ∃ s₁, Calls h (s.put name h origin) s.observers calls s₁ := by
  have hobservers : (s.put name h origin).observers = s.observers :=
    (Follows.put s name h origin).observers.trans (List.append_nil _)
  rw [← hobservers]
  cases hr with
  | created _ _ hc _ => exact ⟨_, hc⟩
  | added _ hc _ => exact ⟨_, hc⟩

theorem Calls.observers {h : Handle} {s s' : FlagRegister} {os : List Observer} {cs : List Call}
    (hc : Calls h s os cs s') : cs.map Call.observer = os := by
  match hc with
  | .nil => rfl
  | .cons _ hc => exact congrArg (List.cons _) hc.observers

theorem Calls.variants {h : Handle} {s s' : FlagRegister} {os : List Observer} {cs : List Call}
    (hc : Calls h s os cs s') : ∀ c ∈ cs, c.variant = h := by
  match hc with
  | .nil => exact fun c hm => nomatch hm
  | .cons _ hc =>
    intro c hm
    rcases List.mem_cons.mp hm with rfl | hm
    · rfl
    · exact hc.variants c hm

/-- The marks before a deed lead to a register in which the deed is performed. -/
theorem Stands.runs {ds : List Deed} {before : List Mark} {d : Deed} (hd : Stands ds before d)
    {s s' : FlagRegister} {p p' : Observation} (h : Runs s p ds s' p') :
    ∃ s₁ p₁ ds' s₂ p₂, s.Follows before s₁ ∧ Runs s₁ p₁ (d :: ds') s₂ p₂ := by
  induction hd generalizing s s' p p' with
  | here =>
    obtain ⟨s₁, p₁, h₁, h₂⟩ := h.split
    exact ⟨s₁, p₁, _, _, _, h₁.follows, h₂⟩
  | inside _ ih =>
    -- first up to the insertion, then up to the call with the deed
    obtain ⟨s₁, p₁, h₁, h₂⟩ := h.split
    obtain ⟨s₂, hc⟩ := h₂.calls
    obtain ⟨os, os', s₃, -, hc₁, hc₂⟩ := hc.split
    cases hc₂ with
    | cons hr _ =>
      obtain ⟨s₄, p₄, ds₄, s₅, p₅, hf, h₄⟩ := ih hr
      exact ⟨s₄, p₄, ds₄, s₅, p₅, h₁.follows.trans ((Follows.put _ _ _ _).trans
        (hc₁.follows.trans ((Follows.heard _ _ _).trans hf))), h₄⟩

theorem Stands.marks {ds : List Deed} {before : List Mark} {d : Deed} (hd : Stands ds before d) :
    before ++ d.marks <+: Deed.marksAll ds := by
  induction hd with
  | here =>
    rw [Deed.marksAll_append, Deed.marksAll, ← List.append_assoc]
    exact List.prefix_append _ _
  | @inside ds ds' es name h g origin cs cs' o before d _ ih =>
    obtain ⟨after, ha⟩ := ih
    refine ⟨after ++ Call.marksAll cs' ++ Deed.marksAll ds', ?_⟩
    simp only [Deed.marksAll_append, Deed.marksAll, Deed.marks, Call.marksAll_append, Call.marksAll,
      Call.marks, ← ha, List.append_assoc, List.cons_append]

/-! ## The law of runs -/

/-- What holds of an insertion, given the variants stored when it begins, the number of the next
variant, and the observers present. -/
structure InsertedRightly (flags : Dict Handle) (fresh : Handle) (observers : List Observer) (name : String)
    (h : Handle) (origin : Origin) (calls : List Call) : Prop where
  /-- A variant is created only for a name that has none. -/
  created : ∀ c, origin = .created c → flags.find? name = none ∧ c.yields fresh = h
  /-- An added variant can replace another one, which the caller then gets. -/
  added : ∀ previous, origin = .added previous → flags.find? name = previous
  /-- The observers present are called, each once, in the order in which they were added. -/
  observers : calls.map Call.observer = observers
  /-- They are called with the inserted variant. -/
  variants : ∀ c ∈ calls, c.variant = h

/-- What holds of a deed, given the marks before it. -/
def Deed.RightAt (s : FlagRegister) (before : List Mark) : Deed → Prop
  | .looked v => v.flags = s.flagsAfter before
  | .watched _ => True
  | .found name h => (s.flagsAfter before).find? name = some h
  | .inserted name h origin calls =>
    InsertedRightly (s.flagsAfter before) (s.variants.length + before.countP Mark.isMade)
      (s.observers ++ before.filterMap Mark.observer?) name h origin calls

theorem Runs.rightAt {ds : List Deed} {before : List Mark} {d : Deed} {s s₁ s' : FlagRegister}
    {p p' : Observation} (hf : s.Follows before s₁) (h : Runs s₁ p (d :: ds) s' p') : d.RightAt s before := by
  match d, h with
  | .looked _, .look _ => exact hf.flags
  | .watched _, _ => trivial
  | .found name g, .found hfound _ =>
    have hfind : s₁.flags.find? name = some g := hfound
    rwa [hf.flags] at hfind
  | .inserted name g origin calls, h =>
    obtain ⟨s₂, hc⟩ := h.calls
    refine ⟨?_, ?_, hc.observers.trans hf.observers, hc.variants⟩
    · rintro c rfl
      cases h with
      | created hnone hh _ _ =>
        have hfind : s₁.flags.find? name = none := hnone
        rw [hf.flags] at hfind
        rw [hf.variants] at hh
        exact ⟨hfind, hh⟩
    · rintro previous rfl
      cases h with
      | added hfound _ _ =>
        have hfind : s₁.flags.find? name = previous := hfound
        rwa [hf.flags] at hfind

/-! ## Names -/

/-- Whether, in a list of marks, a variant is created for a name only if there is none of this name. -/
def Proper : Dict Handle → List Mark → Prop
  | _, [] => True
  | d, .stored name h origin :: ms =>
    (∀ c, origin = .created c → d.find? name = none) ∧ Proper (d.insert name h) ms
  | d, .called _ _ :: ms => Proper d ms
  | d, .watched _ :: ms => Proper d ms

section Names

variable {d : Dict Handle} {ms ms' : List Mark} {name : String} {h : Handle}

theorem proper_append :
    Proper d (ms ++ ms') ↔ Proper d ms ∧ Proper (d.insertAll (ms.filterMap Mark.entry?)) ms' := by
  induction ms generalizing d with
  | nil => exact (and_iff_right trivial).symm
  | cons m ms ih =>
    cases m with
    | stored name h origin =>
      rw [List.cons_append, Proper, Proper, ih, and_assoc]
      rfl
    | called o h => exact ih
    | watched o => exact ih

theorem isSome_insertAll {l : List (String × Handle)} (hs : (d.find? name).isSome = true) :
    ((d.insertAll l).find? name).isSome = true := by
  induction l generalizing d with
  | nil => exact hs
  | cons e l ih =>
    refine ih (d := d.insert e.1 e.2) ?_
    rw [Dict.find?_insert]
    split
    · rfl
    · exact hs

theorem Proper.find? (hp : Proper d ms) (hf : d.find? name = some h)
    (hn : ∀ g previous, .stored name g (.added previous) ∉ ms) :
    (d.insertAll (ms.filterMap Mark.entry?)).find? name = some h := by
  induction ms generalizing d with
  | nil => exact hf
  | cons m ms ih =>
    have hrest : ∀ g previous, .stored name g (.added previous) ∉ ms := fun g previous hm =>
      hn g previous (List.mem_cons_of_mem _ hm)
    cases m with
    | stored n g origin =>
      obtain ⟨hcreated, hp⟩ := hp
      have hne : name ≠ n := by
        rintro rfl
        cases origin with
        | created c => rw [hcreated c rfl] at hf; cases hf
        | added previous => exact hn g previous List.mem_cons_self
      refine ih (d := d.insert n g) hp ?_ hrest
      rw [Dict.find?_insert, if_neg hne]
      exact hf
    | called o g => exact ih hp hf hrest
    | watched o => exact ih hp hf hrest

end Names

theorem Proper.behind {s s₁ : FlagRegister} {ms ms' : List Mark} (hp : Proper s.flags ms) (hf : s.Follows ms s₁)
    (hp' : Proper s₁.flags ms') : Proper s.flags (ms ++ ms') := by
  rw [hf.flags] at hp'
  exact proper_append.mpr ⟨hp, hp'⟩

mutual
theorem Runs.proper : ∀ {s s' : FlagRegister} {p p' : Observation} {ds : List Deed}, Runs s p ds s' p' →
    Proper s.flags (Deed.marksAll ds)
  | _, _, _, _, _, .here => trivial
  | _, _, _, _, _, .look hr => hr.proper
  | _, _, _, _, _, .observe hr => hr.proper
  | _, _, _, _, _, .found _ hr => hr.proper
  | _, _, _, _, _, @Runs.created s _ _ name c _ h _ _ _ hf _ hc hr => by
    have hstored : Proper s.flags [.stored name h (.created c)] := ⟨fun _ _ => hf, trivial⟩
    exact hstored.behind (.put s name h _) (hc.proper.behind hc.follows hr.proper)
  | _, _, _, _, _, @Runs.added s _ _ name h _ previous _ _ _ _ hc hr => by
    have hstored : Proper s.flags [.stored name h (.added previous)] := ⟨fun _ he => (nomatch he), trivial⟩
    exact hstored.behind (.put s name h _) (hc.proper.behind hc.follows hr.proper)

theorem Calls.proper : ∀ {h : Handle} {s s' : FlagRegister} {os : List Observer} {cs : List Call},
    Calls h s os cs s' → Proper s.flags (Call.marksAll cs)
  | _, _, _, _, _, .nil => trivial
  | h, s, _, _, _, @Calls.cons _ _ _ _ o _ _ _ hr hc => by
    have hcalled : Proper s.flags [.called o h] := trivial
    exact hcalled.behind (.heard s o h) (hr.proper.behind hr.follows hc.proper)
end

/-- What holds of all deeds of a run, at any depth. -/
structure Announced (s : FlagRegister) (ds : List Deed) (s' : FlagRegister) : Prop where
  /-- The final variants by name, observers and calls are those of the marks. -/
  follows : s.Follows (Deed.marksAll ds) s'
  /-- The marks of each deed follow those before it, which determine what it finds and, for an insertion,
  which observers are called. -/
  rightly : ∀ before d, Stands ds before d → before ++ d.marks <+: Deed.marksAll ds ∧ d.RightAt s before
  /-- A name is never removed. -/
  kept : ∀ ms ms' name, ms ++ ms' <+: Deed.marksAll ds → ((s.flagsAfter ms).find? name).isSome = true →
    ((s.flagsAfter (ms ++ ms')).find? name).isSome = true
  /-- A name keeps its variant until another one is added under it. -/
  slots : ∀ ms ms' name h, ms ++ ms' <+: Deed.marksAll ds → (s.flagsAfter ms).find? name = some h →
    (∀ g previous, .stored name g (.added previous) ∉ ms') → (s.flagsAfter (ms ++ ms')).find? name = some h

theorem Runs.announced {s s' : FlagRegister} {p p' : Observation} {ds : List Deed} (h : Runs s p ds s' p') :
    Announced s ds s' where
  follows := h.follows
  rightly before d hd := by
    obtain ⟨s₁, p₁, ds₁, s₂, p₂, hf, hr⟩ := hd.runs h
    exact ⟨hd.marks, hr.rightAt hf⟩
  kept ms ms' name _ hs := by
    rw [flagsAfter_append]
    exact isSome_insertAll hs
  slots ms ms' name g hp hf hn := by
    obtain ⟨rest, hrest⟩ := hp
    have hproper : Proper s.flags (ms ++ ms') := by
      have hall := h.proper
      rw [← hrest] at hall
      exact (proper_append.mp hall).1
    rw [flagsAfter_append]
    exact (proper_append.mp hproper).2.find? hf hn

section Calls

variable {s : FlagRegister} {limit : Nat} {name : String} {h : Handle} {c : Creation}

theorem add_run {r : Option Handle × FlagRegister} (hr : add limit name h s = some r) :
    r.1 = s.find? name ∧ ∃ calls, Calls h (s.put name h (.added r.1)) s.observers calls r.2 := by
  rw [add, add_eq, Option.map_eq_some_iff] at hr
  obtain ⟨⟨⟨⟩, s'⟩, ha, rfl⟩ := hr
  obtain ⟨calls, hc⟩ := calls_of_announce ha
  have hobservers := (Follows.put s name h (.added (s.find? name))).observers.trans (List.append_nil _)
  exact ⟨rfl, calls, hobservers ▸ hc⟩

theorem getOrAdd_run {r : Handle × FlagRegister} (hf : s.find? name = none)
    (hr : getOrAdd limit name (createBy c) s = some r) :
    r.1 = c.yields s.variants.length ∧
      ∃ calls, Calls r.1 (s.put name r.1 (.created c)) s.observers calls r.2 := by
  rw [getOrAdd, getOrAdd_of_missing hf rfl, Option.map_eq_some_iff] at hr
  obtain ⟨⟨⟨⟩, s'⟩, ha, rfl⟩ := hr
  obtain ⟨calls, hc⟩ := calls_of_announce ha
  have hobservers :=
    (Follows.put s name (c.yields s.variants.length) (.created c)).observers.trans (List.append_nil _)
  exact ⟨rfl, calls, hobservers ▸ hc⟩

end Calls

/-- For any actions on a register, from outside and by its observers: `run` returns within some limit if
and only if there is a run of these actions, and then, for every insertion at any depth, all observers
present when it is announced are called, each once and in order, after the variant was stored; an
observer added meanwhile is called for all later insertions. `add` returns the variant that was there,
and is always announced. `getOrAdd` returns the variant of a name that has one, without a change; for
any other name it creates, stores and announces one. -/
theorem announcing (s : FlagRegister) (p : Observation) :
    (∀ s', (∃ limit, run limit p s = some ((), s')) ↔ ∃ ds, Runs s p ds s' .done) ∧
    (∀ ds s', Runs s p ds s' .done → Announced s ds s') ∧
    (∀ limit name h r, add limit name h s = some r →
      r.1 = s.find? name ∧ ∃ calls, Calls h (s.put name h (.added r.1)) s.observers calls r.2) ∧
    (∀ limit name (create : Run Handle) h, s.find? name = some h →
      getOrAdd limit name create s = some (h, s)) ∧
    ∀ limit name c r, s.find? name = none → getOrAdd limit name (createBy c) s = some r →
      r.1 = c.yields s.variants.length ∧
        ∃ calls, Calls r.1 (s.put name r.1 (.created c)) s.observers calls r.2 :=
  ⟨fun _ => run_iff, fun _ _ => Runs.announced, fun _ _ _ _ => add_run, fun _ _ _ _ => getOrAdd_of_found,
    fun _ _ _ _ => getOrAdd_run⟩

/-- An observer that, when the outer variant is announced, asks for the inner one and then adds another
observer. -/
def nesting (h : Handle) : Observation := .look fun r =>
  if (r.variant h).name = "outer" then
    .getOrAdd "inner" (.made "" []) fun _ => .observe "late" (fun _ => .done) .done
  else .done

/-- The observer above and another one are added, then the outer variant; the inner one is asked for,
and added under a second name. -/
def nested : Observation :=
  .observe "first" nesting <| .observe "second" (fun _ => .done) <|
    .add "outer" 0 fun _ => .getOrAdd "inner" (.held 0) fun h => .add "again" h fun _ => .done

/-- The two observers are called for the inner variant while the outer one is being announced; the third
observer is called for later variants only. -/
theorem announcing_nested :
    ∃ ds s', Runs (.ofVariants [.flag false]) nested ds s' .done ∧
      Announced (.ofVariants [.flag false]) ds s' ∧
      (Deed.marksAll ds).filterMap Mark.call? =
        [("first", 0), ("first", 1), ("second", 1), ("second", 0), ("first", 1), ("second", 1), ("late", 1)] := by
  have hrun : ∃ s', run 3 nested (.ofVariants [.flag false]) = some ((), s') ∧
      s'.sightings.map (fun x => (x.observer, x.variant)) =
        [("first", 0), ("first", 1), ("second", 1), ("second", 0), ("first", 1), ("second", 1), ("late", 1)] :=
    ⟨_, rfl, rfl⟩
  obtain ⟨s', hs, hsightings⟩ := hrun
  obtain ⟨hiff, hall, -⟩ := announcing (.ofVariants [.flag false]) nested
  obtain ⟨ds, hr⟩ := (hiff s').mp ⟨3, hs⟩
  have hannounced := hall ds s' hr
  refine ⟨ds, s', hr, hannounced, ?_⟩
  rw [hannounced.follows.sightings] at hsightings
  exact hsightings

end FlagRegister

end FeatureFlags
