import Mathlib.Data.List.Forall2
import FeatureFlags.Proofs.Likeness

/-!
# Asking by name

`Run.valueOf` and `Run.isEnabled` add a variant if there is none of the name. That variant has the
default and options of the first question, is bound with all others, and is replaced when a variant
is registered under its name. None of this can be observed later: a question by name brings its own
default, so only the name and the binding of such a variant count, and these follow from the
experiments in force.

Two applications whose clients differ in such variants only give the same answers
(`Likeness.byName`), so any questions by name can be removed from a run without a change for the
remaining requests (`Application.asking_leaves_no_trace`).
-/

namespace FeatureFlags

/-- Whether user code makes no requests. -/
def Program.isInert : Program → Bool
  | done _ => true
  | fail => true
  | request .. => false

/-- Whether an event shows a variant's stored state: its name, its binding or its options. -/
def Event.isInternal : Event → Bool
  | reported (.unlistedValue ..) => true
  | e => e.isBookkeeping

namespace Application

/-- A client holds variants of two kinds: some of the first `n`, and variants made by requests for their
names. The latter have the names under which they are stored, and are bound to the experiments in force.
-/
structure Orderly (n : Nat) (c : ClientId) (a : Application) : Prop where
  size : n ≤ a.variants.length
  client : c < a.clients.length
  holds : a.Holds fun p => p.isInert = true
  made : ∀ name h, a.findFlag? c name = some h → n ≤ h → h < a.variants.length ∧
    (a.variant h).name? = some name ∧
    (a.variant h).binding = some ⟨c, (a.client c).experiments.forFlag? name⟩

/-- Two applications differ only in variants of a client beyond the first `n`. -/
structure Agree (n : Nat) (c : ClientId) (a b : Application) : Prop where
  variants : ∀ h, h < n → a.variant h = b.variant h
  clients : ∀ d, (a.client d).withoutFlags = (b.client d).withoutFlags
  flags : ∀ name h, h < n → (a.findFlag? c name = some h ↔ b.findFlag? c name = some h)

section

variable {n : Nat} {c : ClientId} {a a' b b' : Application} {h : Handle} {name : String}

theorem Orderly.congr (ha : Orderly n c a) (h : Likeness.unseen.rel a' a) : Orderly n c a' := by
  obtain ⟨hv, hc⟩ := h
  have hfind : ∀ m, a'.findFlag? c m = a.findFlag? c m := fun m =>
    congrArg (·.flags.find? m) (client_congr hc c)
  refine ⟨hv ▸ ha.size, hc ▸ ha.client, fun d => client_congr hc d ▸ ha.holds d, fun m g hg hn => ?_⟩
  rw [hv, variant_congr hv, client_congr hc]
  exact ha.made m g (hfind m ▸ hg) hn

theorem Agree.refl (n : Nat) (c : ClientId) (a : Application) : Agree n c a a :=
  ⟨fun _ _ => rfl, fun _ => rfl, fun _ _ _ => .rfl⟩

theorem Agree.symm (h : Agree n c a b) : Agree n c b a :=
  ⟨fun g hg => (h.variants g hg).symm, fun d => (h.clients d).symm,
    fun m g hg => (h.flags m g hg).symm⟩

theorem Agree.trans (h : Agree n c a b) (h' : Agree n c b b') : Agree n c a b' :=
  ⟨fun g hg => (h.variants g hg).trans (h'.variants g hg),
    fun d => (h.clients d).trans (h'.clients d),
    fun m g hg => (h.flags m g hg).trans (h'.flags m g hg)⟩

theorem Agree.of_unseen (n : Nat) (c : ClientId) (h : Likeness.unseen.rel a b) : Agree n c a b := by
  obtain ⟨hv, hc⟩ := h
  refine ⟨fun g _ => variant_congr hv g, fun d => congrArg _ (client_congr hc d), fun m g _ => ?_⟩
  rw [findFlag?, client_congr hc, ← findFlag?]

theorem Agree.experiments (h : Agree n c a b) :
    (a.client c).experiments = (b.client c).experiments :=
  Client.congr (h.clients c) Client.experiments fun _ _ => rfl

theorem Orderly.tell (ha : Orderly n c a) (es : List Event) : Orderly n c (a.tell es) :=
  ha.congr ⟨rfl, rfl⟩

theorem Agree.tell (n : Nat) (c : ClientId) (a : Application) (es : List Event) :
    Agree n c a (a.tell es) := .of_unseen n c ⟨rfl, rfl⟩

/-! ## Adding variants -/

theorem Orderly.add (ha : Orderly n c a) (hh : h < n) : Orderly n c (a.add c name h) := by
  refine ⟨by simpa using ha.size, by simpa using ha.client, ha.holds.add, fun m g hg hn => ?_⟩
  rw [findFlag?_add ha.client] at hg
  split at hg
  · cases hg
    exact absurd hn (Nat.not_le_of_lt hh)
  · obtain ⟨hlt, hname, hbinding⟩ := ha.made m g hg hn
    rw [length_variants_add, variant_add_ne (Nat.ne_of_gt (Nat.lt_of_lt_of_le hh hn)),
      client_add_self ha.client]
    exact ⟨hlt, hname, hbinding⟩

theorem Agree.add (h' : Agree n c a b) (ha : Orderly n c a) (hb : Orderly n c b) (hh : h < n) :
    Agree n c (a.add c name h) (b.add c name h) := by
  refine ⟨fun g hg => ?_, fun d => ?_, fun m g hg => ?_⟩
  · by_cases hgh : g = h
    · subst hgh
      rw [variant_add_self (Nat.lt_of_lt_of_le hg ha.size),
        variant_add_self (Nat.lt_of_lt_of_le hg hb.size), h'.variants g hg, h'.experiments]
    · rw [variant_add_ne hgh, variant_add_ne hgh, h'.variants g hg]
  · rw [client_add_congr Client.withoutFlags fun _ _ => rfl,
      client_add_congr Client.withoutFlags fun _ _ => rfl]
    exact h'.clients d
  · rw [findFlag?_add ha.client, findFlag?_add hb.client]
    split
    · exact .rfl
    · exact h'.flags m g hg

theorem Agree.addAll {entries : List (String × Handle)} (h : Agree n c a b) (ha : Orderly n c a)
    (hb : Orderly n c b) (he : ∀ e ∈ entries, e.2 < n) :
    Orderly n c (a.addAll c entries) ∧ Orderly n c (b.addAll c entries) ∧
      Agree n c (a.addAll c entries) (b.addAll c entries) := by
  induction entries generalizing a b with
  | nil => exact ⟨ha, hb, h⟩
  | cons e rest ih =>
    obtain ⟨hlt, hrest⟩ := List.forall_mem_cons.mp he
    exact ih (h.add ha hb hlt) (ha.add hlt) (hb.add hlt) hrest

/-- A variant made by a request for its name is of the second kind. -/
theorem Orderly.make {v : Variant} (ha : Orderly n c a) (hn : a.findFlag? c name = none)
    (hv : v.name? = none) :
    Orderly n c (a.make c name v) ∧ Agree n c a (a.make c name v) := by
  have hself : ((a.make c name v).variant a.variants.length).name? = some name ∧
      ((a.make c name v).variant a.variants.length).binding =
        some ⟨c, (a.client c).experiments.forFlag? name⟩ := variant_make_fresh hv
  have hother : ∀ g, g < a.variants.length → (a.make c name v).variant g = a.variant g := fun g hg =>
    variant_make_ne (Nat.ne_of_lt hg)
  have hlt : a.variants.length < (a.make c name v).variants.length := by
    rw [length_variants_make]
    exact Nat.lt_succ_self _
  constructor
  · refine ⟨?_, ?_, ?_, fun m g hg hng => ?_⟩
    · exact Nat.le_trans ha.size (Nat.le_of_lt hlt)
    · rw [Application.make, length_clients_add]
      exact ha.client
    · exact Holds.add (a := a.addVariant v) ha.holds
    · rw [client_make_congr Client.experiments fun _ _ => rfl]
      rw [findFlag?_make ha.client] at hg
      split at hg
      · rename_i hm
        cases hg
        subst hm
        exact ⟨hlt, hself⟩
      · obtain ⟨hlt', hname, hbinding⟩ := ha.made m g hg hng
        rw [hother g hlt']
        exact ⟨Nat.lt_trans hlt' hlt, hname, hbinding⟩
  · refine ⟨fun g hg => (hother g (Nat.lt_of_lt_of_le hg ha.size)).symm, fun d => ?_,
      fun m g hg => ?_⟩
    · exact (client_make_congr Client.withoutFlags fun _ _ => rfl).symm
    · rw [findFlag?_make ha.client]
      split
      · rename_i hm
        subst hm
        have hne : a.variants.length ≠ g := by
          have := ha.size
          omega
        rw [hn]
        simp [hne]
      · exact .rfl

/-! ## Changes of clients -/

theorem withoutFlags_modifyClient {f : Client → Client} {d : ClientId} (hb : c < b.clients.length)
    (ha : c < a.clients.length)
    (hf : ∀ s t : Client, s.withoutFlags = t.withoutFlags → (f s).withoutFlags = (f t).withoutFlags)
    (h : ∀ d, (a.client d).withoutFlags = (b.client d).withoutFlags) :
    ((a.modifyClient c f).client d).withoutFlags = ((b.modifyClient c f).client d).withoutFlags := by
  by_cases hd : d = c
  · subst hd
    rw [client_modifyClient_self ha, client_modifyClient_self hb]
    exact hf _ _ (h d)
  · rw [client_modifyClient_ne hd, client_modifyClient_ne hd]
    exact h d

theorem findFlag?_modifyClient {f : Client → Client} (hf : ∀ s, (f s).flags = s.flags) (m : String) :
    (a.modifyClient c f).findFlag? c m = a.findFlag? c m :=
  congrArg (·.find? m) (client_modifyClient_congr Client.flags hf)

theorem Orderly.arrange {f : Client → Client} (ha : Orderly n c a) (hf : Client.Arranges f)
    (hk : ∀ s : Client, (s.Holds fun p => p.isInert = true) → (f s).Holds fun p => p.isInert = true) :
    Orderly n c (a.modifyClient c f) := by
  refine ⟨ha.size, by simpa using ha.client, ha.holds.modifyClient hk, fun m g hg hn => ?_⟩
  rw [findFlag?_modifyClient hf.flags] at hg
  rw [client_modifyClient_congr Client.experiments hf.experiments]
  exact ha.made m g hg hn

theorem Agree.arrange {f : Client → Client} (h : Agree n c a b) (ha : Orderly n c a) (hb : Orderly n c b)
    (hf : Client.Arranges f)
    (hw : ∀ s t : Client, s.withoutFlags = t.withoutFlags → (f s).withoutFlags = (f t).withoutFlags) :
    Agree n c (a.modifyClient c f) (b.modifyClient c f) := by
  refine ⟨h.variants, fun d => withoutFlags_modifyClient hb.client ha.client hw h.clients,
    fun m g hg => ?_⟩
  rw [findFlag?_modifyClient hf.flags, findFlag?_modifyClient hf.flags]
  exact h.flags m g hg

theorem findFlag?_configure {t : ExperimentTable} (m : String) :
    (a.configure c t).findFlag? c m = a.findFlag? c m :=
  congrArg (·.find? m) (client_configure_congr Client.flags fun _ _ => rfl)

theorem Orderly.configure {t : ExperimentTable} (ha : Orderly n c a) : Orderly n c (a.configure c t) := by
  refine ⟨by simpa using ha.size, by simpa using ha.client, ha.holds.configure, fun m g hg hn => ?_⟩
  rw [findFlag?_configure] at hg
  obtain ⟨hlt, hname, -⟩ := ha.made m g hg hn
  rw [length_variants_configure, variant_configure_of_stored ha.client hg hlt,
    client_configure_self ha.client]
  refine ⟨hlt, hname, ?_⟩
  rw [Variant.name, hname]
  rfl

theorem Agree.configure {t : ExperimentTable} (h : Agree n c a b) (ha : Orderly n c a)
    (hb : Orderly n c b) : Agree n c (a.configure c t) (b.configure c t) := by
  refine ⟨fun g hg => ?_, fun d => ?_, fun m g hg => ?_⟩
  · by_cases hstored : ∃ m, a.findFlag? c m = some g
    · obtain ⟨m, hm⟩ := hstored
      have hm' := (h.flags m g hg).mp hm
      rw [variant_configure_of_stored ha.client hm (Nat.lt_of_lt_of_le hg ha.size),
        variant_configure_of_stored hb.client hm' (Nat.lt_of_lt_of_le hg hb.size), h.variants g hg]
    · have hstored' : ∀ m, a.findFlag? c m ≠ some g := fun m hm => hstored ⟨m, hm⟩
      rw [variant_configure_of_not_stored hstored',
        variant_configure_of_not_stored fun m hm => hstored' m ((h.flags m g hg).mpr hm),
        h.variants g hg]
  · rw [client_configure, client_configure]
    refine withoutFlags_modifyClient hb.client ha.client (fun s s' hs => ?_) h.clients
    exact congrArg (fun s : Client => { s with experiments := t }) hs
  · rw [findFlag?_configure, findFlag?_configure]
    exact h.flags m g hg

end

/-! ## Two runs -/

/-- Two applications with the same variants except for those made by requests for names. -/
def Likeness.byName (n : Nat) (c : ClientId) : Likeness where
  rel a b := Orderly n c a ∧ Orderly n c b ∧ Agree n c a b
  counts e := !e.isInternal
  code p := p.isInert = true
  tell := fun ⟨ha, hb, h⟩ es fs =>
    ⟨ha.tell es, hb.tell fs, (Agree.tell n c _ es).symm.trans (h.trans (.tell n c _ fs))⟩
  client h := h.2.2.clients
  holds h := h.1.holds

theorem filter_bookkeeping {n : Nat} {c : ClientId} {es : List Event} (h : Run.Bookkeeping es) :
    es.filter (Likeness.byName n c).counts = [] := by
  refine List.filter_eq_nil_iff.mpr fun e he => ?_
  have hb := h e he
  unfold Event.isBookkeeping at hb
  split at hb <;> first | exact Bool.false_ne_true | cases hb

/-- The variant of a name, made if there is none. -/
def Run.fetch (c : ClientId) (name : String) (v : Variant) : Run Variant := do
  variant (← (flagStore c).getOrAdd name (create v))

theorem Run.valueOf_eq (run : Runner) (c : ClientId) (name default : String) (v : Variant)
    (x : Option Context) :
    valueOf run c name default v x = fetch c name v >>= fun v =>
      evaluateAs run v x (some default) >>= fun o => pure o.value := by
  rw [fetch, valueOf, bind_assoc]
  refine congrArg _ (funext fun h => ?_)
  rw [evaluate_eq, bind_assoc]

variable {n : Nat} {c : ClientId} {a b : Application} {name : String}

/-- The variant found under a name: one of the first `n`, or one with this name and the binding that it
entails. -/
inductive Finds (n : Nat) (c : ClientId) (a : Application) (name : String) : Variant → Prop
  | first {h : Handle} (hn : h < n) (hf : a.findFlag? c name = some h) : Finds n c a name (a.variant h)
  | other {v : Variant} (hf : ∀ h, h < n → a.findFlag? c name ≠ some h) (hname : v.name = name)
    (hb : v.binding = some ⟨c, (a.client c).experiments.forFlag? name⟩) : Finds n c a name v

theorem Agree.finds (h : Agree n c a b) {v w : Variant} (hv : Finds n c a name v)
    (hw : Finds n c b name w) : v.name = w.name ∧ v.binding = w.binding := by
  cases hv with
  | first hn hf =>
    have hf' := (h.flags name _ hn).mp hf
    cases hw with
    | first hn' hf'' =>
      cases hf'.symm.trans hf''
      rw [h.variants _ hn]
      exact ⟨rfl, rfl⟩
    | other hf'' hname hb => exact absurd hf' (hf'' _ hn)
  | other hf hname hb =>
    cases hw with
    | first hn hf' => exact absurd ((h.flags name _ hn).mpr hf') (hf _ hn)
    | other hf' hname' hb' => exact ⟨hname.trans hname'.symm, by rw [hb, hb', h.experiments]⟩

theorem fetch_run {v : Variant} (ha : Orderly n c a) (name : String) (hv : v.name? = none) :
    ∃ w es a', (Run.fetch c name v).run a = (.ok w, a') ∧ Finds n c a name w ∧ Orderly n c a' ∧
      Agree n c a a' ∧ Run.Bookkeeping es ∧ a'.events = a.events ++ es := by
  cases hf : a.findFlag? c name with
  | some h =>
    have hrun : (Run.fetch c name v).run a = (.ok (a.variant h), a) := by
      unfold Run.fetch
      rw [Run.run_bind_ok (Run.getOrAdd_run_of_found hf)]
      rfl
    refine ⟨_, [], a, hrun, ?_, ha, .refl n c a, List.forall_mem_nil _, (List.append_nil _).symm⟩
    by_cases hn : h < n
    · exact .first hn hf
    · obtain ⟨-, hname, hbinding⟩ := ha.made name h hf (Nat.le_of_not_lt hn)
      refine .other (fun g hg he => ?_) (by rw [Variant.name, hname]; rfl) hbinding
      cases hf.symm.trans he
      exact hn hg
  | none =>
    obtain ⟨es, hes, hr⟩ := @Run.getOrAdd_run a c name v hf
    let b := a.tell es
    obtain ⟨hk, hagree⟩ := (ha.tell es).make hf hv
    have hrun : (Run.fetch c name v).run a =
        (.ok ((b.make c name v).variant b.variants.length), b.make c name v) := by
      unfold Run.fetch
      rw [Run.run_bind_ok hr]
      rfl
    have hfound : (b.make c name v).findFlag? c name = some b.variants.length :=
      (findFlag?_make (a := b) ha.client name).trans (if_pos rfl)
    -- the new variant is in order, as all that are not among the first
    obtain ⟨-, hname, hbinding⟩ := hk.made name _ hfound ha.size
    rw [← hagree.experiments] at hbinding
    refine ⟨_, es, _, hrun, .other (fun g hg he => ?_) (by rw [Variant.name, hname]; rfl) hbinding, hk,
      (Agree.tell n c a es).trans hagree, hes, rfl⟩
    cases hf.symm.trans he

namespace Alike

/-- The variants fetched on both sides have the same name and the same binding. -/
theorem fetch {v : Variant} (hv : v.name? = none) :
    Alike (.byName n c) (Run.fetch c name v) (Run.fetch c name v) fun v w =>
      v.name = w.name ∧ v.binding = w.binding := by
  refine of_run fun a b hr => ?_
  obtain ⟨ha, hb, h⟩ := hr
  obtain ⟨w, es, a', hra, hw, ha', haa', hes, hea⟩ := fetch_run ha name hv
  obtain ⟨u, fs, b', hrb, hu, hb', hbb', hfs, hfb⟩ := fetch_run hb name hv
  have hfilter : es.filter (Likeness.byName n c).counts = fs.filter (Likeness.byName n c).counts := by
    rw [filter_bookkeeping hes, filter_bookkeeping hfs]
  exact ⟨w, u, a', b', hra, hrb,
    ⟨es, fs, hea, hfb, hfilter, ha', hb', haa'.symm.trans (h.trans hbb')⟩, h.finds hw hu⟩

theorem inert {L : Likeness} (limit : Nat) {p : Program} (hp : p.isInert = true) :
    Alike L (Run.runProgram limit p) (Run.runProgram limit p) Eq := by
  cases limit with
  | zero => exact throw'
  | succ limit =>
    cases p with
    | done v => exact pure' rfl
    | fail => exact throw'
    | request c r next => cases hp

theorem filter_reports {v w : Variant} (hn : v.name = w.name) (o : Outcome) :
    ((v.reports o).map Event.reported).filter (Likeness.byName n c).counts =
      ((w.reports o).map Event.reported).filter (Likeness.byName n c).counts := by
  have hreports : ∀ u : Variant, ((u.reports o).map Event.reported).filter
      (Likeness.byName n c).counts = [.reported (.evaluatedVariant u.name o)] := by
    intro u
    unfold Variant.reports
    split <;> rfl
  rw [hreports, hreports, hn]

theorem valueOf {limit : Nat} {default : String} {v : Variant} {x : Option Context}
    (hv : v.name? = none) :
    Alike (.byName n c) (Run.valueOf (Run.runProgram limit) c name default v x)
      (Run.valueOf (Run.runProgram limit) c name default v x) Eq := by
  rw [Run.valueOf_eq]
  refine bind' (fetch hv) fun v w hvw => bind_eq ?_ fun _ => pure' rfl
  exact evaluateAs (fun _ hp => inert limit hp) hvw.1 hvw.2 (fun s => by cases s <;> rfl)
    (filter_reports hvw.1)

theorem byName_arrange {f : Client → Client} (hf : Client.Arranges f)
    (hw : ∀ s t : Client, s.withoutFlags = t.withoutFlags → (f s).withoutFlags = (f t).withoutFlags)
    (hk : ∀ s : Client, (s.Holds fun p => p.isInert = true) → (f s).Holds fun p => p.isInert = true) :
    Alike (.byName n c) (Run.modifyClient c f) (Run.modifyClient c f) fun _ _ => True :=
  change (fun _ _ hr => ⟨hr.1.arrange hf hk, hr.2.1.arrange hf hk,
    hr.2.2.arrange hr.1 hr.2.1 hf hw⟩) fun _ => rfl

theorem byName_register {r : Container} (he : ∀ e ∈ r.entries, e.2 < n) :
    Alike (.byName n c) (Run.register c r) (Run.register c r) Eq := by
  refine of_run fun a b hr => ?_
  have hsame : (a.client c).namespaces = (b.client c).namespaces :=
    Client.congr (hr.2.2.clients c) _ fun _ _ => rfl
  cases hn : (a.client c).namespaces.contains r.nameSpace with
  | true =>
    have hn' := hsame ▸ hn
    exact ⟨_, _, _, _, Run.register_run_of_registered hn, Run.register_run_of_registered hn',
      .tell hr rfl, rfl⟩
  | false =>
    have hn' := hsame ▸ hn
    obtain ⟨es, hes, hra⟩ := Run.register_run hn
    obtain ⟨fs, hfs, hrb⟩ := Run.register_run hn'
    have hclaimed := (byName_arrange (.claim r.nameSpace)
      (fun s t hst => congrArg (Client.claim · r.nameSpace) hst)
      (fun s hs => ⟨hs.1, hs.2, hs.3⟩) a b hr).1.rel
    have htold := (Likeness.byName n c).tell hclaimed es fs
    refine ⟨_, _, _, _, hra, hrb, ⟨es, fs, events_addAll, events_addAll, ?_,
      htold.2.2.addAll htold.1 htold.2.1 he⟩, rfl⟩
    rw [filter_bookkeeping hes, filter_bookkeeping hfs]

theorem byName_setExperiments {models : List ExperimentModel} :
    Alike (.byName n c) (Run.setExperiments c models) (Run.setExperiments c models)
      fun _ _ => True := by
  refine of_run fun a b hr => ?_
  obtain ⟨es, hes, hra⟩ := @Run.setExperiments_run a c models
  obtain ⟨fs, hfs, hrb⟩ := @Run.setExperiments_run b c models
  have htold := (Likeness.byName n c).tell hr
    ((ExperimentTable.shadowings models).map .reported ++ es)
    ((ExperimentTable.shadowings models).map .reported ++ fs)
  refine ⟨_, _, _, _, hra, hrb, ⟨_, _, events_bindAll, events_bindAll, ?_,
    htold.1.configure, htold.2.1.configure, htold.2.2.configure htold.1 htold.2.1⟩, trivial⟩
  rw [List.filter_append, List.filter_append, filter_bookkeeping hes, filter_bookkeeping hfs]

theorem byName_applyConfiguration {payload : String} :
    Alike (.byName n c) (Run.applyConfiguration c payload) (Run.applyConfiguration c payload) Eq := by
  unfold Run.applyConfiguration
  cases Configuration.read payload with
  | error fault => exact bind' report fun _ _ _ => pure' rfl
  | ok k =>
    exact bind' (forM' fun _ _ => report) fun _ _ _ =>
      bind' byName_setExperiments fun _ _ _ => pure' rfl

theorem byName_addOperator {name : String} {o : CustomOperator}
    (ho : ∀ args x, (o.run args x).isInert = true) :
    Alike (.byName n c) (Run.addOperator c name o) (Run.addOperator c name o) fun _ _ => True := by
  refine bind' client fun s t hst => bind' (byName_arrange (.operator name o) ?_ ?_) fun _ _ _ => ?_
  · exact fun s t h => congrArg
      (fun s : Client => { s with operators := s.operators.insert name o }) h
  · exact fun s hs => hs.operator name ho
  · have hwarn : (s.operators.contains name || (s.standardOperators c).contains name) =
        (t.operators.contains name || (t.standardOperators c).contains name) :=
      Client.congr hst.1 (fun s => s.operators.contains name || (s.standardOperators c).contains name)
        fun _ _ => rfl
    rw [hwarn]
    exact ite' (fun _ => report) fun _ => pure' trivial

end Alike

end Application

/-- A request with inert user code only, whose variants are among the first `n`. -/
structure Request.Plain (n : Nat) (r : Request Program) : Prop where
  adds : ∀ h, r.Adds h → h < n
  brings : ∀ p, r.Brings p → p.isInert = true
  asks : ∀ h x, r = .evaluate h x → h < n

/-- Whether a request asks for a flag by name. -/
def Request.isByName : Request Program → Bool
  | isEnabled .. => true
  | value .. => true
  | _ => false

namespace Application

variable {n : Nat} {c : ClientId}

/-- Responses do not depend on the variants made by requests for names. -/
theorem Alike.byName_answer (limit : Nat) {r : Request Program} (hr : r.Plain n) :
    Alike (.byName n c) (Run.answer (Run.runProgram limit) c r)
      (Run.answer (Run.runProgram limit) c r) Eq := by
  cases r with
  | register r => exact byName_register fun e he => hr.adds e.2 (.entry he)
  | setExperiments models => exact bind' byName_setExperiments fun _ _ _ => pure' rfl
  | applyConfiguration payload => exact byName_applyConfiguration
  | isEnabled name default x =>
    exact bind_eq (bind_eq (valueOf rfl) fun _ => pure' rfl) fun _ => pure' rfl
  | value name default options x =>
    exact bind_eq (valueOf rfl) fun _ => pure' rfl
  | evaluate h x =>
    refine bind_eq (evaluate (fun _ hp => inert limit hp) fun a b hab => ?_) fun _ => pure' rfl
    exact hab.2.2.variants h (hr.asks h x rfl)
  | addProperty p =>
    refine bind' (byName_arrange ⟨fun _ => rfl, fun _ => rfl, fun _ => rfl⟩ ?_ ?_) fun _ _ _ =>
      pure' rfl
    · exact fun s t h => congrArg
        (fun s : Client => { s with properties := s.properties.insert p.name p }) h
    · exact fun s hs => ⟨hs.1, hs.2, hs.3⟩
  | addOperator name arity operation =>
    refine bind' (byName_addOperator fun args x => ?_) fun _ _ _ => pure' rfl
    exact hr.brings _ (.operator name arity operation args x)
  | addHandler label react =>
    refine bind' (byName_arrange ⟨fun _ => rfl, fun _ => rfl, fun _ => rfl⟩ ?_ ?_) fun _ _ _ =>
      pure' rfl
    · let f : Client → Client := fun s =>
        { s with hub := { s.hub with handlers := s.hub.handlers ++ [⟨label, react⟩] } }
      exact fun s t h => congrArg f h
    · exact fun s hs => hs.handler label fun i => hr.brings _ (.handler label react i)
  | setGate isOpen =>
    refine bind' (byName_arrange ⟨fun _ => rfl, fun _ => rfl, fun _ => rfl⟩ ?_ ?_) fun _ _ _ =>
      pure' rfl
    · exact fun s t h => congrArg
        (fun s : Client => { s with hub := { s.hub with isOpen := isOpen } }) h
    · exact fun s hs => ⟨hs.1, hs.2, hs.3⟩

/-! ## Removing requests -/

/-- Two applications that differ from a third one in events only. -/
def Likeness.still (s : Application) (hs : s.Holds fun p => p.isInert = true) : Likeness where
  rel a b := Likeness.unseen.rel a s ∧ Likeness.unseen.rel b s
  counts _ := true
  code p := p.isInert = true
  tell h _ _ := h
  client h c := congrArg (fun l : List Client => (l.getD c default).withoutFlags)
    (h.1.2.trans h.2.2.symm)
  holds := fun {a _} h c => by
    rw [client_congr h.1.2]
    exact hs c

/-- An evaluation with inert user code changes events only. -/
theorem evaluateAs_still {a : Application} (ha : a.Holds fun p => p.isInert = true) (limit : Nat)
    (v : Variant) (x : Option Context) (default : Option String) :
    Likeness.unseen.rel ((Run.evaluateAs (Run.runProgram limit) v x default).run a).2 a := by
  have hstill : Alike (.still a ha) (Run.evaluateAs (Run.runProgram limit) v x default)
      (Run.evaluateAs (Run.runProgram limit) v x default) Eq :=
    .evaluateAs (fun _ hp => .inert limit hp) rfl rfl (fun _ => rfl) fun _ => rfl
  exact (hstill a a ⟨⟨rfl, rfl⟩, rfl, rfl⟩).1.rel.1

theorem valueOf_agree {a : Application} (ha : Orderly n c a) (limit : Nat) (name default : String)
    {v : Variant} (hv : v.name? = none) (x : Option Context) :
    Orderly n c ((Run.valueOf (Run.runProgram limit) c name default v x).run a).2 ∧
      Agree n c a ((Run.valueOf (Run.runProgram limit) c name default v x).run a).2 := by
  obtain ⟨w, es, b, hrun, -, hb, hab, -⟩ := fetch_run ha name hv
  rw [Run.valueOf_eq, Run.run_bind_ok hrun, Run.run_bind_pure_snd]
  have hstill := evaluateAs_still hb.holds limit w x (some default)
  exact ⟨hb.congr hstill, hab.trans (Agree.of_unseen n c hstill).symm⟩

theorem perform_agree {a : Application} (ha : Orderly n c a) (limit : Nat) {r : Request Program}
    (hr : r.isByName = true) :
    Orderly n c (a.perform limit c r).2 ∧ Agree n c a (a.perform limit c r).2 := by
  unfold perform Run.perform
  cases r with
  | isEnabled name default x =>
    rw [Run.answer, Run.run_bind_pure_snd, Run.isEnabled, Run.run_bind_pure_snd]
    exact valueOf_agree ha limit name _ rfl x
  | value name default options x =>
    rw [Run.answer, Run.run_bind_pure_snd]
    exact valueOf_agree ha limit name default rfl x
  | _ => cases hr

/-- The responses to requests, and the events that are visible from outside. -/
def visible (a : Application) (calls : List Call) : List (Except Stop Response × List Event) :=
  (a.replies calls).map fun r => (r.1, r.2.filter fun e => !e.isInternal)

end Application

/-- The items of a list at marked places. -/
def kept {α : Type} (marks : List Bool) (l : List α) : List α :=
  ((marks.zip l).filter (·.1)).map (·.2)

namespace Application

variable {n : Nat} {c : ClientId}

/-- Two applications that differ in variants made by requests for names respond in the same way. -/
theorem call_byName {a b : Application} (h : (Likeness.byName n c).rel a b) {k : Call}
    (hk : k.client = c) (hr : k.request.Plain n) :
    (Likeness.byName n c).rel (a.call k).2 (b.call k).2 ∧ (a.call k).1 = (b.call k).1 ∧
      ((a.call k).2.events.drop a.events.length).filter (fun e => !e.isInternal) =
        ((b.call k).2.events.drop b.events.length).filter fun e => !e.isInternal := by
  subst hk
  obtain ⟨⟨es, fs, hes, hfs, hf, hrel⟩, hend⟩ := Alike.byName_answer k.limit hr a b h
  have hleft : (a.call k).2.events = a.events ++ es := hes
  have hright : (b.call k).2.events = b.events ++ fs := hfs
  rw [hleft, hright, List.drop_left, List.drop_left]
  exact ⟨hrel, hend.eq, hf⟩

/-- A run with and without some of its requests by name, from two applications that differ in variants
made by such requests. -/
theorem visible_kept {a b : Application} {marks : List Bool} {calls : List Call}
    (h : (Likeness.byName n c).rel a b) (hcalls : ∀ k ∈ calls, k.client = c ∧ k.request.Plain n)
    (hmarks : List.Forall₂ (fun m k => m = false → k.request.isByName = true) marks calls) :
    kept marks (a.visible calls) = b.visible (kept marks calls) := by
  induction hmarks generalizing a b with
  | nil => rfl
  | @cons m k marks calls hm _ ih =>
    obtain ⟨⟨hk, hplain⟩, hrest⟩ := List.forall_mem_cons.mp hcalls
    cases m with
    | false =>
      -- the request is removed on the right, where nothing happens
      obtain ⟨ha, hb, hab⟩ := h
      obtain ⟨ha', haa'⟩ := perform_agree ha k.limit (hm rfl)
      have hcall : a.call k = a.perform k.limit c k.request := by rw [call, hk]
      show kept marks ((a.call k).2.visible calls) = b.visible (kept marks calls)
      rw [hcall]
      exact ih ⟨ha', hb, haa'.symm.trans hab⟩ hrest
    | true =>
      obtain ⟨hrel, hanswer, hevents⟩ := call_byName h hk hplain
      show (_, _) :: kept marks ((a.call k).2.visible calls) =
        (_, _) :: (b.call k).2.visible (kept marks calls)
      rw [hanswer, hevents, ih hrel hrest]

/-- Requests by name leave no observable trace: if some of them are removed from a sequence of requests
to a client, all other requests have the same responses and emit the same events, except those about the
stored state of variants. -/
theorem asking_leaves_no_trace {a : Application} {c : ClientId} {marks : List Bool}
    {calls : List Call} (hc : c < a.clients.length)
    (hstored : ∀ name h, a.findFlag? c name = some h → h < a.variants.length)
    (hcode : a.Holds fun p => p.isInert = true)
    (hcalls : ∀ k ∈ calls, k.client = c ∧ k.request.Plain a.variants.length)
    (hmarks : List.Forall₂ (fun m k => m = false → k.request.isByName = true) marks calls) :
    kept marks (a.visible calls) = a.visible (kept marks calls) := by
  have ha : Orderly a.variants.length c a := ⟨Nat.le_refl _, hc, hcode, fun name h hf hn =>
    absurd (hstored name h hf) (Nat.not_lt_of_le hn)⟩
  exact visible_kept ⟨ha, ha, .refl _ c a⟩ hcalls hmarks

/-- A client without variants, and one variant that is not registered yet. -/
def alone : Application :=
  (ofVariants [.make "a" ["a", "b"]]).addClient ⟨.empty, .ofNat 0, [], none, false⟩

/-- A handler is added, a name is asked for, experiments are put in force, the name is asked for again
with another default, a variant is registered under it, and both are asked for. -/
def askedAround : List Call :=
  [⟨1, 0, .addHandler "h" fun _ => .fail⟩,
   ⟨1, 0, .isEnabled "f" true none⟩,
   ⟨1, 0, .setExperiments [⟨"1", "e", "\"b\"", false, ["f"], []⟩]⟩,
   ⟨1, 0, .value "f" "c" ["d"] none⟩,
   ⟨1, 0, .register (.make "" [("f", 0)])⟩,
   ⟨1, 0, .evaluate 0 none⟩,
   ⟨1, 0, .value "f" "c" [] none⟩]

/-- The first and the last question change neither the one in between nor any other request. -/
theorem asking_leaves_no_trace_around :
    kept [true, false, true, true, true, true, false] (alone.visible askedAround) =
      alone.visible (kept [true, false, true, true, true, true, false] askedAround) := by
  have hstored : ∀ name h, alone.findFlag? 0 name = some h → h < alone.variants.length :=
    fun name h hf => nomatch hf
  have hcode : alone.Holds fun p => p.isInert = true := fun d => by
    cases d <;> exact .of_inert rfl rfl rfl
  have hhandler : (Request.addHandler "h" fun _ => .fail).Plain 1 := by
    refine ⟨nofun, fun p hp => ?_, nofun⟩
    cases hp
    rfl
  have hregister : (Request.register (.make "" [("f", 0)])).Plain 1 := by
    refine ⟨fun h hh => ?_, nofun, nofun⟩
    cases hh with
    | entry he =>
      rw [List.mem_singleton.mp he]
      exact Nat.one_pos
  have hevaluate : (Request.evaluate 0 none).Plain 1 := by
    refine ⟨nofun, nofun, fun h x he => ?_⟩
    cases he
    exact Nat.one_pos
  have hcalls : ∀ k ∈ askedAround, k.client = 0 ∧ k.request.Plain alone.variants.length := by
    simp only [askedAround, List.forall_mem_cons, true_and]
    exact ⟨hhandler, ⟨nofun, nofun, nofun⟩, ⟨nofun, nofun, nofun⟩, ⟨nofun, nofun, nofun⟩, hregister,
      hevaluate, ⟨nofun, nofun, nofun⟩, List.forall_mem_nil _⟩
  have hmarks : List.Forall₂ (fun m k => m = false → Request.isByName (Call.request k) = true)
      [true, false, true, true, true, true, false] askedAround :=
    .cons nofun (.cons (fun _ => rfl) (.cons nofun (.cons nofun (.cons nofun (.cons nofun
      (.cons (fun _ => rfl) .nil))))))
  exact asking_leaves_no_trace (by decide) hstored hcode hcalls hmarks

end Application

end FeatureFlags
