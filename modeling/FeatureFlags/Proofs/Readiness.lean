import FeatureFlags.Proofs.Traffic

/-!
# Preconditions of sections

A section can bind a variant found by an earlier section, with sections of other callers in between.
It relies on the variant being there and having a name. Both hold because no section removes a
variant or a name (`Section.Does.ready_of_ready`), and because stored variants have names
(`Traffic.Sound`).
-/

namespace FeatureFlags

/-! ## The effect of sections on variants -/

namespace Application

/-- Whether a variant has a name. -/
def Named (a : Application) (h : Handle) : Prop := ∃ n, (a.variant h).name? = some n

/-- Whether a variant is bound to a client, and to what a table assigns to its name. -/
def BoundTo (a : Application) (c : ClientId) (t : ExperimentTable) (h : Handle) : Prop :=
  (a.variant h).binding = some ⟨c, t.forFlag? (a.variant h).name⟩

variable {a b : Application} {c : ClientId} {t : ExperimentTable} {h g : Handle} {name : String}

theorem Named.lt (hn : a.Named h) : h < a.variants.length := by
  refine Nat.lt_of_not_le fun hle => ?_
  obtain ⟨n, hn⟩ := hn
  rw [variant_of_le hle] at hn
  cases hn

theorem Named.of_name? (hn : a.Named h) (hb : (b.variant h).name? = (a.variant h).name?) :
    b.Named h := by
  obtain ⟨n, hn⟩ := hn
  exact ⟨n, hb.trans hn⟩

theorem BoundTo.congr (ht : a.BoundTo c t h) (hb : b.variant h = a.variant h) :
    b.BoundTo c t h := by
  rw [BoundTo, hb]
  exact ht

theorem named_giveName (hh : h < a.variants.length) : (a.giveName h name).Named h := by
  have hv : (a.giveName h name).variant h = (a.variant h).withName name := variant_modifyVariant_self hh
  rw [Named, hv, Variant.withName]
  cases (a.variant h).name? with
  | none => exact ⟨name, rfl⟩
  | some n => exact ⟨n, rfl⟩

theorem boundTo_bindVariant (hh : h < a.variants.length) : (a.bindVariant c t h).BoundTo c t h := by
  have hv : (a.bindVariant c t h).variant h =
      { a.variant h with binding := some ⟨c, t.forFlag? (a.variant h).name⟩ } :=
    variant_modifyVariant_self hh
  rw [BoundTo, hv]
  rfl

theorem flags_storeFlag {key : String}
    (hf : ((a.storeFlag c name h).client c).flags.find? key = some g) :
    g = h ∨ (a.client c).flags.find? key = some g := by
  by_cases hc : c < a.clients.length
  · rw [storeFlag, client_modifyClient_self hc, Dict.find?_insert] at hf
    split at hf
    · exact .inl (Option.some.inj hf).symm
    · exact .inr hf
  · rw [storeFlag, client_modifyClient_of_le (Nat.le_of_not_lt hc)] at hf
    exact .inr hf

end Application

namespace Section

open Application

variable {c d : ClientId} {a b : Application} {h : Handle} {x y : Section} {next : List Section}

theorem Does.experiments (hx : x.Does c a b next) (hs : ∀ t, x ≠ .swap t) :
    (b.client d).experiments = (a.client d).experiments := by
  cases hx with
  | swap t => exact absurd rfl (hs t)
  | arrange hf => exact client_modifyClient_congr _ hf.experiments
  | claim => exact client_modifyClient_congr Client.experiments fun _ => rfl
  | store name g =>
    exact client_modifyClient_congr (a := a) Client.experiments fun _ => rfl
  | @made name v q =>
    exact client_modifyClient_congr (a := (a.addVariant v).giveName a.variants.length name)
      Client.experiments fun _ => rfl
  | _ => rfl

/-- A newly stored variant is going to be bound. -/
theorem Does.stored (hx : x.Does c a b next) {key : String}
    (hb : (b.client c).flags.find? key = some h) :
    (a.client c).flags.find? key = some h ∨ .announce h ∈ next := by
  cases hx with
  | arrange hf =>
    rw [client_modifyClient_congr Client.flags hf.flags] at hb
    exact .inl hb
  | swap t =>
    rw [flags_swapTable] at hb
    exact .inl hb
  | claim =>
    rw [client_modifyClient_congr Client.flags (Client.Arranges.claim _).flags] at hb
    exact .inl hb
  | store name g =>
    rcases flags_storeFlag hb with rfl | hb
    · exact .inr (List.mem_append_right _ List.mem_cons_self)
    · exact .inl hb
  | made v q =>
    rcases flags_storeFlag hb with rfl | hb
    · exact .inr List.mem_cons_self
    · exact .inl hb
  | _ => exact .inl hb

theorem Does.length_variants (hx : x.Does c a b next) : a.variants.length ≤ b.variants.length := by
  cases hx with
  | write t g => exact Nat.le_of_eq length_variants_modifyVariant.symm
  | name n g => exact Nat.le_of_eq length_variants_modifyVariant.symm
  | @made n v q =>
    rw [length_variants_makeUnbound]
    exact Nat.le_succ _
  | _ => exact Nat.le_refl _

theorem Does.variant (hx : x.Does c a b next) (hn : a.Named h) (hw : ∀ t, x ≠ .write t h) :
    b.variant h = a.variant h := by
  cases hx with
  | write t g =>
    refine variant_modifyVariant_ne ?_
    rintro rfl
    exact hw t rfl
  | name n g =>
    by_cases hg : h = g
    · subst hg
      obtain ⟨m, hm⟩ := hn
      rw [Run.giveName_of_named hm]
    · exact variant_modifyVariant_ne hg
  | made v q => exact variant_makeUnbound_ne (Nat.ne_of_lt hn.lt)
  | _ => rfl

theorem Does.name? (hx : x.Does c a b next) (hn : a.Named h) :
    (b.variant h).name? = (a.variant h).name? := by
  by_cases hw : ∃ t, x = .write t h
  · obtain ⟨t, rfl⟩ := hw
    cases hx
    rw [bindVariant, variant_modifyVariant_self hn.lt]
  · rw [hx.variant hn fun t ht => hw ⟨t, ht⟩]

theorem Does.named (hx : x.Does c a b next) (hn : a.Named h) : b.Named h := hn.of_name? (hx.name? hn)

/-- What a section requires of its variants when its turn comes. -/
def Ready (a : Application) : Section → Prop
  | bind _ h | write _ h | store _ h | announce h => a.Named h
  | name _ h => h < a.variants.length
  | claim r => ∀ e ∈ r.entries, e.2 < a.variants.length
  | _ => True

theorem Does.ready_of_ready (hx : x.Does c a b next) (hy : y.Ready a) : y.Ready b := by
  cases y with
  | bind t g => exact hx.named hy
  | write t g => exact hx.named hy
  | store n g => exact hx.named hy
  | announce g => exact hx.named hy
  | name n g => exact Nat.lt_of_lt_of_le hy hx.length_variants
  | claim r => exact fun e he => Nat.lt_of_lt_of_le (hy e he) hx.length_variants
  | _ => trivial

theorem ready_of_mem_reports {l : List Diagnostic} (hy : y ∈ l.map Section.report) : y.Ready a := by
  obtain ⟨d, -, rfl⟩ := List.mem_map.mp hy
  trivial

/-- The sections that come next are ready, if stored variants have names. -/
theorem Does.ready (hx : x.Does c a b next)
    (ha : ∀ key g, (a.client c).flags.find? key = some g → a.Named g) (hr : x.Ready a) :
    ∀ y ∈ next, y.Ready b := by
  cases hx with
  | report d => exact List.forall_mem_nil _
  | arrange hf told => exact fun y hy => ready_of_mem_reports hy
  | swap t => exact List.forall_mem_singleton.mpr trivial
  | refresh => exact List.forall_mem_singleton.mpr trivial
  | list t hp =>
    intro y hy
    rcases List.mem_append.mp hy with hy | hy
    · obtain ⟨g, hg, rfl⟩ := List.mem_map.mp hy
      obtain ⟨key, hk⟩ := mem_handles_iff.mp (hp.mem_iff.mp hg)
      exact ha key g hk
    · rw [List.mem_singleton.mp hy]
      trivial
  | bind t g => exact List.forall_mem_cons.mpr ⟨trivial, List.forall_mem_singleton.mpr hr⟩
  | write t g => exact List.forall_mem_nil _
  | @claim r hc =>
    intro y hy
    obtain ⟨e, he, rfl⟩ := List.mem_map.mp hy
    exact hr e he
  | refuse => exact List.forall_mem_singleton.mpr trivial
  | name n g =>
    intro y hy
    rcases List.mem_append.mp hy with hy | hy
    · exact ready_of_mem_reports hy
    · rw [List.mem_singleton.mp hy]
      exact named_giveName hr
  | store n g =>
    intro y hy
    rcases List.mem_append.mp hy with hy | hy
    · split at hy
      · rw [List.mem_singleton.mp hy]
        trivial
      · cases hy
    · rw [List.mem_singleton.mp hy]
      exact hr
  | announce g => exact List.forall_mem_singleton.mpr hr
  | found v q hf => exact List.forall_mem_singleton.mpr trivial
  | @made n v q hf =>
    refine List.forall_mem_cons.mpr ⟨?_, List.forall_mem_singleton.mpr trivial⟩
    exact named_giveName (a := a.addVariant v) lt_length_addVariant
  | look g isNew q => exact List.forall_mem_nil _

end Section

namespace Traffic

variable {c : ClientId} {s t : Traffic} {k : Log} {i : Nat} {x : Section}

/-- Stored variants have names, and the sections that callers have still to do are ready. -/
structure Sound (c : ClientId) (s : Traffic) : Prop where
  stored : ∀ key h, (s.app.client c).flags.find? key = some h → s.app.Named h
  ready : ∀ i x, s.Pending i x → x.Ready s.app

/-- A variant stored by a step is announced next, so it has a name. -/
theorem Sound.step (hs : Sound c s) (h : Step c s (i, x) t) : Sound c t := by
  obtain ⟨next, hm⟩ := h.moves
  have hnext := hm.does.ready hs.stored (hs.ready i x hm.pending)
  constructor
  case stored =>
    intro key g hg
    rcases hm.does.stored hg with hg | hg
    · exact hm.does.named (hs.stored key g hg)
    · exact hnext _ hg
  case ready =>
    intro j y hy
    rcases hm.of_pending j y hy with hy | ⟨-, hy⟩
    · exact hm.does.ready_of_ready (hs.ready j y hy)
    · exact hnext y hy

theorem Path.sound (h : Path c s k t) (hs : Sound c s) : Sound c t := by
  induction h with
  | nil => exact hs
  | snoc _ hstep ih => exact ih.step hstep

theorem Sound.ofRequests {a : Application} {requests : List (Request Program)}
    (ha : ∀ key h, (a.client c).flags.find? key = some h → a.Named h)
    (hr : ∀ r ∈ requests, ∀ h, r.Adds h → h < a.variants.length) :
    Sound c (.ofRequests a c requests) := by
  refine ⟨ha, ?_⟩
  rintro i x ⟨agenda, hi, hx⟩
  obtain ⟨r, hm, rfl⟩ := List.mem_map.mp (List.mem_of_getElem? hi)
  have hconfiguring : ∀ models, x ∈ Section.configuring models → x.Ready a := by
    intro models hx
    rcases List.mem_append.mp hx with hx | hx
    · exact Section.ready_of_mem_reports hx
    · rw [List.mem_singleton.mp hx]
      trivial
  cases r with
  | register r =>
    rw [List.mem_singleton.mp hx]
    exact fun e he => hr _ hm e.2 (.entry he)
  | setExperiments models => exact hconfiguring models hx
  | applyConfiguration payload =>
    simp only [Request.agenda] at hx
    split at hx
    · rw [List.mem_singleton.mp hx]
      trivial
    · rcases List.mem_append.mp hx with hx | hx
      · obtain ⟨v, -, rfl⟩ := List.mem_map.mp hx
        trivial
      · exact hconfiguring _ hx
  | _ =>
    rw [List.mem_singleton.mp hx]
    trivial

end Traffic

end FeatureFlags
