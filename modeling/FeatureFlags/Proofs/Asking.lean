import FeatureFlags.Proofs.Dynamic
import FeatureFlags.Proofs.Overtaking
import FeatureFlags.Proofs.Report

/-!
# Asking for names in sequence

`Application.ask` is what `FlagStore.getOrAdd` does for a name: it finds the variant, or makes one
and adds it. The evaluation that follows changes no variant and no client if user code makes no
requests, so requests made one after the other leave what asking for their names leaves
(`performAll_asks`). Asking keeps variants that are there (`Extends`) and keeps a client up to date.

An evaluation reads its variant once, when it begins. `SeesBound` says that the variant read there
is bound as the table in force says, and that the evaluation comes to one report; `SeesUnbound` that
it is not bound, so the caller's default is the value and nothing is delivered.
`SeesBound.answersAlike` compares two applications in which the variant is the same: if user code
makes no requests, the answers agree.
-/

namespace FeatureFlags

namespace Application

/-- The application after a client was asked for a name: the variant was found, or made and added. -/
def ask (a : Application) (c : ClientId) (name : String) (v : Variant) : Application :=
  (((Run.flagStore c).getOrAdd name (Run.create v)).run a).2

/-- The application after a client was asked for several names in sequence. -/
def askAll (a : Application) (c : ClientId) (names : List (String × Variant)) : Application :=
  names.foldl (fun a n => a.ask c n.1 n.2) a

/-- The second application has further variants of a client, under names that were free. -/
structure Extends (c : ClientId) (a b : Application) : Prop where
  found : ∀ name h, a.findFlag? c name = some h → b.findFlag? c name = some h
  variant : ∀ h, a.Named h → b.variant h = a.variant h
  clients : ∀ d, (b.client d).withoutFlags = (a.client d).withoutFlags
  length_clients : b.clients.length = a.clients.length

variable {a b d : Application} {c : ClientId} {h g : Handle} {name m : String} {v : Variant}
  {r : Request Program} {q : Question}

theorem ask_of_found (hf : a.findFlag? c name = some h) : a.ask c name v = a := by
  rw [ask, Run.getOrAdd_run_of_found hf]

theorem ask_of_missing (hf : a.findFlag? c name = none) :
    ∃ es, a.ask c name v = (a.tell es).make c name v := by
  obtain ⟨es, -, hr⟩ := @Run.getOrAdd_run a c name v hf
  exact ⟨es, by rw [ask, hr]⟩

theorem askAll_append (names names' : List (String × Variant)) :
    a.askAll c (names ++ names') = (a.askAll c names).askAll c names' := List.foldl_append ..

theorem exists_find?_ask (hc : c < a.clients.length) (name : String) (v : Variant) :
    ∃ h, (a.ask c name v).findFlag? c name = some h := by
  cases hf : a.findFlag? c name with
  | some h => exact ⟨h, by rw [ask_of_found hf, hf]⟩
  | none =>
    obtain ⟨es, he⟩ := ask_of_missing (v := v) hf
    exact ⟨_, by rw [he, findFlag?_make (a := a.tell es) hc, if_pos rfl]⟩

theorem getOrAdd_run_ask (hc : c < a.clients.length) (hf : (a.ask c name v).findFlag? c name = some h) :
    ((Run.flagStore c).getOrAdd name (Run.create v)).run a = (.ok h, a.ask c name v) := by
  cases hbefore : a.findFlag? c name with
  | some g =>
    rw [ask_of_found hbefore, hbefore] at hf
    cases hf
    rw [ask_of_found hbefore, Run.getOrAdd_run_of_found hbefore]
  | none =>
    obtain ⟨es, -, hr⟩ := @Run.getOrAdd_run a c name v hbefore
    have hask : a.ask c name v = (a.tell es).make c name v := by rw [ask, hr]
    rw [hask, findFlag?_make (a := a.tell es) hc, if_pos rfl] at hf
    cases hf
    rw [hask, hr]
    rfl

namespace Extends

theorem refl (c : ClientId) (a : Application) : Extends c a a :=
  ⟨fun _ _ hf => hf, fun _ _ => rfl, fun _ => rfl, rfl⟩

theorem named (h' : Extends c a b) (hn : a.Named h) : b.Named h :=
  hn.of_name? (congrArg Variant.name? (h'.variant h hn))

theorem trans (h : Extends c a b) (h' : Extends c b d) : Extends c a d :=
  ⟨fun n g hf => h'.found n g (h.found n g hf),
    fun g hn => (h'.variant g (h.named hn)).trans (h.variant g hn),
    fun e => (h'.clients e).trans (h.clients e), h'.length_clients.trans h.length_clients⟩

theorem experiments (h : Extends c a b) (d : ClientId) :
    (b.client d).experiments = (a.client d).experiments :=
  Client.congr (h.clients d) Client.experiments fun _ _ => rfl

theorem make (hc : c < a.clients.length) (hf : a.findFlag? c name = none) :
    Extends c a (a.make c name v) := by
  constructor
  case found =>
    intro m g hg
    have hm : m ≠ name := by
      rintro rfl
      cases hf.symm.trans hg
    rw [findFlag?_make hc, if_neg hm, hg]
  case variant => exact fun g hn => variant_make_ne (Nat.ne_of_lt hn.lt)
  case clients => exact fun d => client_make_congr Client.withoutFlags fun _ _ => rfl
  case length_clients => exact length_clients_add

theorem ask (hc : c < a.clients.length) (name : String) (v : Variant) :
    Extends c a (a.ask c name v) := by
  cases hf : a.findFlag? c name with
  | some h =>
    rw [ask_of_found hf]
    exact refl c a
  | none =>
    obtain ⟨es, he⟩ := ask_of_missing (v := v) hf
    have hmake : Extends c (a.tell es) ((a.tell es).make c name v) := make hc hf
    rw [he]
    exact ⟨hmake.found, hmake.variant, hmake.clients, hmake.length_clients⟩

theorem askAll (hc : c < a.clients.length) (names : List (String × Variant)) :
    Extends c a (a.askAll c names) := by
  induction names generalizing a with
  | nil => exact refl c a
  | cons n rest ih =>
    have hask : Extends c a (a.ask c n.1 n.2) := ask hc n.1 n.2
    exact hask.trans (ih (hask.length_clients ▸ hc))

end Extends

theorem boundTo_make (hv : v.name? = none) :
    (a.make c name v).BoundTo c (a.client c).experiments a.variants.length := by
  obtain ⟨hname, hb⟩ := @variant_make_fresh a c name v hv
  rw [BoundTo, hb, Variant.name, hname]
  rfl

theorem UpToDate.make (ha : a.UpToDate c) (hc : c < a.clients.length)
    (hf : a.findFlag? c name = none) (hv : v.name? = none) : (a.make c name v).UpToDate c := by
  have hext : Extends c a (a.make c name v) := .make hc hf
  have hnamed : (a.make c name v).Named a.variants.length := ⟨name, (variant_make_fresh hv).1⟩
  -- under each name there is the new variant or the one of before
  have hcases : ∀ n g, (a.make c name v).findFlag? c n = some g →
      g = a.variants.length ∨ a.findFlag? c n = some g := by
    intro n g hg
    rw [findFlag?_make hc] at hg
    split at hg
    · exact .inl (Option.some.inj hg).symm
    · exact .inr hg
  constructor
  case named =>
    intro n g hg
    rcases hcases n g hg with rfl | hg
    · exact hnamed
    · exact hext.named (ha.named n g hg)
  case bound =>
    intro n g hg
    rw [hext.experiments]
    rcases hcases n g hg with rfl | hg
    · exact boundTo_make hv
    · exact (ha.bound n g hg).congr (hext.variant g (ha.named n g hg))

theorem UpToDate.congr (ha : a.UpToDate c) (h : Likeness.unseen.rel b a) : b.UpToDate c := by
  obtain ⟨hv, hc⟩ := h
  constructor
  case named =>
    intro n g hg
    rw [client_congr hc] at hg
    exact (ha.named n g hg).of_name? (congrArg Variant.name? (variant_congr hv g))
  case bound =>
    intro n g hg
    rw [client_congr hc] at hg ⊢
    exact (ha.bound n g hg).congr (variant_congr hv g)

/-- Asking for a name keeps a client up to date. -/
theorem UpToDate.ask (ha : a.UpToDate c) (hc : c < a.clients.length) (hv : v.name? = none) :
    (a.ask c name v).UpToDate c := by
  cases hf : a.findFlag? c name with
  | some h =>
    rw [ask_of_found hf]
    exact ha
  | none =>
    obtain ⟨es, he⟩ := ask_of_missing (v := v) hf
    have htold : (a.tell es).UpToDate c := ha.congr ⟨rfl, rfl⟩
    rw [he]
    exact htold.make hc hf hv

/-! ## Requests by name -/

theorem Extends.holds {P : Program → Prop} (h : Extends c a b) (ha : a.Holds P) : b.Holds P :=
  ha.congr (fun d => Client.congr (h.clients d) Client.operators fun _ _ => rfl)
    fun d => Client.congr (h.clients d) Client.hub fun _ _ => rfl

theorem ask_congr (h : Likeness.unseen.rel a b) (name : String) (v : Variant) :
    Likeness.unseen.rel (a.ask c name v) (b.ask c name v) := (Alike.unseen_getOrAdd a b h).1.rel

/-- If its variant is there, a request for a value only evaluates it. -/
theorem perform_asks (hc : c < a.clients.length) (hr : r.Asks name v q)
    (hf : (a.ask c name v).findFlag? c name = some h) (limit : Nat) :
    a.perform limit c r = (r.finish limit h q).run (a.ask c name v) := by
  rw [perform, hr.perform_eq, Run.run_bind_ok (getOrAdd_run_ask hc hf)]

/-- Up to events, a request for a value leaves what asking for its name leaves. -/
theorem perform_asks_unseen (ha : a.Holds fun p => p.isInert = true) (hc : c < a.clients.length)
    (hr : r.Asks name v q) (limit : Nat) :
    Likeness.unseen.rel (a.perform limit c r).2 (a.ask c name v) := by
  obtain ⟨g, hg⟩ := exists_find?_ask hc name v
  have hv : (Run.variant g).run (a.ask c name v) = (.ok ((a.ask c name v).variant g), a.ask c name v) :=
    rfl
  rw [perform_asks hc hr hg, Request.finish, Run.run_bind_pure_snd, Run.evaluate_eq, Run.run_bind_ok hv]
  exact evaluateAs_still ((Extends.ask hc name v).holds ha) limit _ _ _

/-- The same for several requests in sequence. -/
theorem performAll_asks (h : Likeness.unseen.rel a b) (hb : b.Holds fun p => p.isInert = true)
    (hc : c < b.clients.length) {requests : List (Nat × Request Program)}
    {names : List (String × Variant)}
    (hr : List.Forall₂ (fun r n => ∃ q, r.2.Asks n.1 n.2 q) requests names) :
    Likeness.unseen.rel (a.performAll c requests) (b.askAll c names) := by
  induction hr generalizing a b with
  | nil => exact h
  | @cons r n requests names hr _ ih =>
    obtain ⟨q, hr⟩ := hr
    have ha : a.Holds fun p => p.isInert = true := by
      intro d
      rw [client_congr h.2]
      exact hb d
    have hext : Extends c b (b.ask c n.1 n.2) := .ask hc n.1 n.2
    have hfirst : Likeness.unseen.rel (a.perform r.1 c r.2).2 (a.ask c n.1 n.2) :=
      perform_asks_unseen ha (h.2 ▸ hc) hr r.1
    have hask : Likeness.unseen.rel (a.ask c n.1 n.2) (b.ask c n.1 n.2) := ask_congr h n.1 n.2
    exact ih ⟨hfirst.1.trans hask.1, hfirst.2.trans hask.2⟩ (hext.holds hb)
      (hext.length_clients ▸ hc)

/-! ## Looking at a variant -/

/-- An unbound variant has its default, or that of the caller, and delivers nothing. -/
theorem evaluate_run_of_unbound {run : Runner} {x : Option Context} {default : Option String}
    (hb : (a.variant h).binding = none) :
    let o := (a.variant h).outcome default none
    (Run.evaluate run h x default).run a =
      (.ok o, a.tell [.reported (.evaluatedVariant (a.variant h).name o)]) := by
  intro o
  have hv : (Run.variant h).run a = (.ok (a.variant h), a) := rfl
  unfold Run.evaluate
  rw [Run.run_bind_ok hv]
  simp only [hb]
  rw [Run.run_bind_ok (Run.forM_report_run (f := fun d => d))]
  rfl

/-- Two applications that differ from two given ones in events only. -/
def Likeness.beside (s t : Application) (hs : s.Holds fun p => p.isInert = true)
    (hc : ∀ c, (s.client c).withoutFlags = (t.client c).withoutFlags) : Likeness where
  rel a b := Likeness.unseen.rel a s ∧ Likeness.unseen.rel b t
  counts _ := true
  code p := p.isInert = true
  tell h _ _ := h
  client h c := by rw [client_congr h.1.2, client_congr h.2.2, hc]
  holds h c := by
    rw [client_congr h.1.2]
    exact hs c

/-- A call looks at variant `h` in the application `a`, while `b` is the application at its turn: the
variant is the same in both, it is bound, and its evaluation is reported once. -/
structure SeesBound (c : ClientId) (a b : Application) (h : Handle) (q : Question) : Prop where
  variant : a.variant h = b.variant h
  clients : ∀ d, (a.client d).withoutFlags = (b.client d).withoutFlags
  bound : a.BoundTo c (a.client c).experiments h
  /-- The evaluation itself delivers one impression. -/
  reported : ∀ run o d, (Run.evaluate run h q.context q.default).run a = (.ok o, d) →
    ∃ i acts, Reported run a d h ⟨c, (a.client c).experiments.forFlag? (a.variant h).name⟩ q.context
      q.default i acts ∧ o.value = i.value

/-- A call that looks at variant `h` in `a` has the same response as its request in `b`, where the
variant may have to be made first, and the evaluation emits the same events. -/
structure AnswersAlike (a b : Application) (limit : Nat) (c : ClientId) (r : Request Program)
    (h : Handle) (q : Question) : Prop where
  answer : ((r.finish limit h q).run a).1 = (b.perform limit c r).1
  events : ∃ es made, Run.Quiet made ∧ ((r.finish limit h q).run a).2.events = a.events ++ es ∧
    (b.perform limit c r).2.events = b.events ++ made ++ es

/-- A call looks at a variant that is not bound yet: its value is the default of the caller, and nothing
is delivered. -/
structure SeesUnbound (a b : Application) (h : Handle) (q : Question) : Prop where
  variant : a.variant h = { b.variant h with binding := none }
  /-- The caller gets its own default, and no impression is delivered. -/
  evaluated : ∃ default, q.default = some default ∧
    ∀ run, (Run.evaluate run h q.context q.default).run a = (.ok ⟨default, true⟩,
      a.tell [.reported (.evaluatedVariant (b.variant h).name ⟨default, true⟩)])

theorem SeesBound.of_variant (hv : a.variant h = b.variant h)
    (hc : ∀ d, (a.client d).withoutFlags = (b.client d).withoutFlags)
    (hb : a.BoundTo c (a.client c).experiments h) : SeesBound c a b h q :=
  ⟨hv, hc, hb, fun _ _ _ hr => evaluate_reported hb hr⟩

theorem SeesBound.congr (hs : SeesBound c a b h q) (hd : Likeness.unseen.rel d b) :
    SeesBound c a d h q :=
  ⟨hs.variant.trans (variant_congr hd.1 h).symm,
    fun e => (hs.clients e).trans (congrArg Client.withoutFlags (client_congr hd.2 e)).symm, hs.bound,
    hs.reported⟩

/-- The rest of a call depends only on the variant that it sees, if user code makes no requests. -/
theorem SeesBound.finish (hs : SeesBound c a b h q) (hin : a.Holds fun p => p.isInert = true)
    (limit : Nat) (r : Request Program) :
    ((r.finish limit h q).run a).1 = ((r.finish limit h q).run b).1 ∧
      ∃ es, ((r.finish limit h q).run a).2.events = a.events ++ es ∧
        ((r.finish limit h q).run b).2.events = b.events ++ es := by
  let L := Likeness.beside a b hin hs.clients
  have hvariant : ∀ a' b', L.rel a' b' → a'.variant h = b'.variant h := by
    rintro a' b' ⟨ha, hb⟩
    rw [variant_congr ha.1, variant_congr hb.1, hs.variant]
  have halike : Alike L (r.finish limit h q) (r.finish limit h q) Eq :=
    .bind_eq (.evaluate (fun p hp => .inert limit hp) hvariant) fun _ => .pure' rfl
  obtain ⟨⟨es, fs, hes, hfs, hf, -⟩, hend⟩ := halike a b ⟨⟨rfl, rfl⟩, rfl, rfl⟩
  have hall : ∀ gs : List Event, gs.filter L.counts = gs := fun gs =>
    List.filter_eq_self.mpr fun _ _ => rfl
  rw [hall, hall] at hf
  subst hf
  exact ⟨hend.eq, es, hes, hfs⟩

theorem ask_events (b : Application) (c : ClientId) (name : String) (v : Variant) :
    ∃ made, Run.Quiet made ∧ (b.ask c name v).events = b.events ++ made := by
  cases hf : b.findFlag? c name with
  | some g => exact ⟨[], .nil, by rw [ask_of_found hf, List.append_nil]⟩
  | none =>
    obtain ⟨es, hes, hr⟩ := @Run.getOrAdd_run b c name v hf
    exact ⟨es, hes.quiet, by rw [ask, hr]; rfl⟩

/-- A call that sees the variant that it would see at its turn in `b` has the response that it would
have there. -/
theorem SeesBound.answersAlike (hs : SeesBound c a (b.ask c name v) h q)
    (hin : a.Holds fun p => p.isInert = true) (hc : c < b.clients.length) (hr : r.Asks name v q)
    (hf : (b.ask c name v).findFlag? c name = some h) (limit : Nat) :
    AnswersAlike a b limit c r h q := by
  obtain ⟨hanswer, es, hes, hfs⟩ := hs.finish hin limit r
  obtain ⟨made, hquiet, hmade⟩ := ask_events b c name v
  have hperform := perform_asks hc hr hf limit
  refine ⟨by rw [hanswer, hperform], es, made, hquiet, hes, ?_⟩
  rw [hperform, hfs, hmade]

theorem SeesUnbound.of_variant {default : String}
    (hv : a.variant h = { b.variant h with binding := none }) (hq : q.default = some default) :
    SeesUnbound a b h q := by
  refine ⟨hv, default, hq, fun run => ?_⟩
  have hb : (a.variant h).binding = none := by rw [hv]
  rw [evaluate_run_of_unbound hb, hq, hv]
  rfl

end Application

end FeatureFlags
