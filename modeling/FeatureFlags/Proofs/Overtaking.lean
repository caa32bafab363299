import FeatureFlags.Proofs.Binding
import FeatureFlags.Proofs.Readiness

/-!
# Refreshes that are overtaken

Binding a variant takes two critical sections: one takes a snapshot of the table in force, a later
one writes the experiment found there. No lock is held in between, so a caller that took its
snapshot before `setExperiments` replaced the table can write after the refresh, and its stale
binding stays.

Nothing else keeps a variant from being bound to the table in force. `Unswapped` is the invariant
since the last swap: each stored variant is bound to that table, or some caller is about to bind it
so, or its binding was written from a snapshot taken before the swap. When all calls have ended, the
second case is excluded (`bound_unless_overtaken`).
-/

namespace FeatureFlags

open Application

/-- Whether a section has a snapshot of a table, to which it will bind a variant. -/
def Section.Holds (t : ExperimentTable) (h : Handle) : Section → Prop
  | .list t' => t' = t
  | .bind t' g | .write t' g => t' = t ∧ g = h
  | _ => False

/-- Whether a section will bind a variant to a table, provided that the table stays in force and the
variant stays stored. -/
def Section.Covers (t : ExperimentTable) (h : Handle) : Section → Prop
  | .refresh => True
  | .announce g => g = h
  | x => x.Holds t h

namespace Section

variable {c : ClientId} {a b : Application} {x y : Section} {next : List Section} {h : Handle}
  {t : ExperimentTable}

/-- A snapshot held after a section was held before, or is of the table in force. -/
theorem Does.holds (hx : x.Does c a b next) (hy : y ∈ next) (hh : y.Holds t h) :
    x.Holds t h ∨ t = (a.client c).experiments := by
  have hreport : ∀ {l : List Diagnostic}, y ∉ l.map Section.report := by
    intro l hl
    obtain ⟨d, -, rfl⟩ := List.mem_map.mp hl
    exact hh
  cases hx with
  | report d => cases hy
  | arrange => exact absurd hy hreport
  | swap => cases List.mem_singleton.mp hy; exact hh.elim
  | refresh => cases List.mem_singleton.mp hy; exact .inr hh.symm
  | list t' =>
    rcases List.mem_append.mp hy with hy | hy
    · obtain ⟨g, -, rfl⟩ := List.mem_map.mp hy
      exact .inl hh.1
    · cases List.mem_singleton.mp hy
      exact hh.elim
  | bind t' g =>
    rcases List.mem_cons.mp hy with rfl | hy
    · exact hh.elim
    · cases List.mem_singleton.mp hy
      exact .inl hh
  | write => cases hy
  | claim =>
    obtain ⟨e, -, rfl⟩ := List.mem_map.mp hy
    exact hh.elim
  | refuse => cases List.mem_singleton.mp hy; exact hh.elim
  | name =>
    rcases List.mem_append.mp hy with hy | hy
    · exact absurd hy hreport
    · cases List.mem_singleton.mp hy
      exact hh.elim
  | store =>
    rcases List.mem_append.mp hy with hy | hy
    · split at hy
      · cases List.mem_singleton.mp hy
        exact hh.elim
      · cases hy
    · cases List.mem_singleton.mp hy
      exact hh.elim
  | announce g => cases List.mem_singleton.mp hy; exact .inr hh.1.symm
  | found => cases List.mem_singleton.mp hy; exact hh.elim
  | made =>
    rcases List.mem_cons.mp hy with rfl | hy
    · exact hh.elim
    · cases List.mem_singleton.mp hy
      exact hh.elim
  | look => cases hy

/-- A section that will bind a stored variant to the table in force does so, or a following section
will. -/
theorem Does.covers (hx : x.Does c a b next) (hh : x.Covers (a.client c).experiments h) {key : String}
    (hk : (a.client c).flags.find? key = some h) :
    x = .write (a.client c).experiments h ∨ ∃ y ∈ next, y.Covers (a.client c).experiments h := by
  cases hx with
  | refresh => exact .inr ⟨_, List.mem_cons_self, rfl⟩
  | list t hp =>
    have ht : t = (a.client c).experiments := hh
    have hm : h ∈ (a.client c).flags.entries.map Prod.snd := mem_handles_iff.mpr ⟨key, hk⟩
    exact .inr ⟨.bind t h, List.mem_append_left _ (List.mem_map_of_mem (hp.mem_iff.mpr hm)), ht, rfl⟩
  | bind t g => exact .inr ⟨.write t g, List.mem_cons_of_mem _ List.mem_cons_self, hh⟩
  | write t g =>
    obtain ⟨rfl, rfl⟩ := hh
    exact .inl rfl
  | announce g =>
    have hg : g = h := hh
    exact .inr ⟨_, List.mem_cons_self, rfl, hg⟩
  | _ => exact hh.elim

end Section

namespace Traffic

/-- Whether a caller has a snapshot of a table to which it has still to bind a variant. -/
def Holds (s : Traffic) (i : Nat) (t : ExperimentTable) (h : Handle) : Prop :=
  ∃ x, s.Pending i x ∧ x.Holds t h

/-- The state after a part of a run, from `s₀`, in which the table was not swapped. -/
structure Unswapped (c : ClientId) (s₀ : Traffic) (k : Log) (s : Traffic) : Prop where
  /-- A snapshot is one of the table in force, or was held at the beginning. -/
  held : ∀ i t h, s.Holds i t h → t = (s.app.client c).experiments ∨ s₀.Holds i t h
  /-- A stored variant is bound to the table in force, or was bound to a snapshot held at the beginning,
  or is going to be bound to the table in force. -/
  stored : ∀ key h, (s.app.client c).flags.find? key = some h →
    s.app.BoundTo c (s.app.client c).experiments h ∨
    (∃ i t, s₀.Holds i t h ∧ (i, .write t h) ∈ k ∧ s.app.BoundTo c t h) ∨
    ∃ i x, s.Pending i x ∧ x.Covers (s.app.client c).experiments h

variable {c : ClientId} {s₀ s t : Traffic} {k : Log} {i : Nat} {x : Section}

theorem Unswapped.step (hs : Sound c s) (hu : Unswapped c s₀ k s) (h : Step c s (i, x) t)
    (hx : ∀ e, x ≠ .swap e) : Unswapped c s₀ (k ++ [(i, x)]) t := by
  obtain ⟨next, hm⟩ := h.moves
  have he : (t.app.client c).experiments = (s.app.client c).experiments := hm.does.experiments hx
  have held : ∀ e g, x.Holds e g → e = (s.app.client c).experiments ∨ s₀.Holds i e g := fun e g hg =>
    hu.held i e g ⟨x, hm.pending, hg⟩
  constructor
  case held =>
    rintro j e g ⟨y, hy, hg⟩
    rw [he]
    rcases hm.of_pending j y hy with hy | ⟨rfl, hy⟩
    · exact hu.held j e g ⟨y, hy, hg⟩
    · rcases hm.does.holds hy hg with hg | hg
      · exact held e g hg
      · exact .inl hg
  case stored =>
    intro key g hg
    rw [he]
    rcases hm.does.stored hg with hg | hg
    case inr => exact .inr (.inr ⟨i, _, hm.new _ hg, rfl⟩)
    -- the new binding counts, whatever the variant was bound to before
    by_cases hw : ∃ e, x = .write e g
    · obtain ⟨e, rfl⟩ := hw
      have hbound : t.app.BoundTo c e g := by
        rw [hm.does.of_write.1]
        exact boundTo_bindVariant (hs.stored key g hg).lt
      rcases held e g ⟨rfl, rfl⟩ with rfl | hh
      · exact .inl hbound
      · exact .inr (.inl ⟨i, e, hh, by simp, hbound⟩)
    · have hv : t.app.variant g = s.app.variant g :=
        hm.does.variant (hs.stored key g hg) fun e h => hw ⟨e, h⟩
      rcases hu.stored key g hg with hb | ⟨j, e, hh, hk, hb⟩ | ⟨j, y, hy, hcover⟩
      · exact .inl (hb.congr hv)
      · exact .inr (.inl ⟨j, e, hh, List.mem_append_left _ hk, hb.congr hv⟩)
      · rcases hm.kept j y hy with ⟨rfl, rfl⟩ | hy
        · rcases hm.does.covers hcover hg with hw' | ⟨z, hz, hcover⟩
          · exact absurd ⟨_, hw'⟩ hw
          · exact .inr (.inr ⟨j, z, hm.new z hz, hcover⟩)
        · exact .inr (.inr ⟨j, y, hy, hcover⟩)

theorem Unswapped.of_swap {e : ExperimentTable} (h : Step c s (i, .swap e) t) : Unswapped c t [] t := by
  obtain ⟨next, hm⟩ := h.moves
  have hnext : .refresh ∈ next := by
    rw [hm.does.of_swap.2]
    exact List.mem_cons_self
  exact ⟨fun j t' g hg => .inr hg, fun key g hg => .inr (.inr ⟨i, _, hm.new _ hnext, trivial⟩)⟩

/-- The part of a run from `s₀` to `s` since the last swap of the table, from `s₁`; without a swap it is
the whole run. -/
structure SinceSwap (c : ClientId) (s₀ : Traffic) (k : Log) (s s₁ : Traffic) (k₁ : Log) : Prop where
  before : ∃ k₀, k = k₀ ++ k₁ ∧ Path c s₀ k₀ s₁ ∧
    (k₀ = [] ∨ ∃ i t, k₀.getLast? = some (i, .swap t))
  after : Path c s₁ k₁ s
  unswapped : ∀ i t, (i, .swap t) ∉ k₁

/-- Every run has a last part in which the table is not swapped. -/
theorem Path.unswapped (h : Path c s₀ k s) (hs : Sound c s₀)
    (hb : ∀ key h, (s₀.app.client c).flags.find? key = some h →
      s₀.app.BoundTo c (s₀.app.client c).experiments h) :
    ∃ s₁ k₁, SinceSwap c s₀ k s s₁ k₁ ∧ Unswapped c s₁ k₁ s := by
  induction h with
  | nil =>
    refine ⟨s₀, [], ⟨⟨[], rfl, .nil s₀, .inl rfl⟩, .nil s₀, fun _ _ => List.not_mem_nil⟩, ?_⟩
    exact ⟨fun j t g hg => .inr hg, fun key g hg => .inl (hb key g hg)⟩
  | @snoc t u k l hp hstep ih =>
    obtain ⟨i, x⟩ := l
    by_cases hx : ∃ e, x = .swap e
    · obtain ⟨e, rfl⟩ := hx
      refine ⟨u, [], ⟨⟨_, (List.append_nil _).symm, hp.snoc hstep, .inr ⟨i, e, by simp⟩⟩, .nil u,
        fun _ _ => List.not_mem_nil⟩, .of_swap hstep⟩
    · obtain ⟨s₁, k₁, ⟨⟨k₀, hk, hp₀, h₀⟩, hp₁, hk₁⟩, hu⟩ := ih
      refine ⟨s₁, k₁ ++ [(i, x)], ⟨⟨k₀, by rw [hk, List.append_assoc], hp₀, h₀⟩, hp₁.snoc hstep, ?_⟩,
        hu.step (hp.sound hs) hstep fun e h => hx ⟨e, h⟩⟩
      intro j e hm
      rcases List.mem_append.mp hm with hm | hm
      · exact hk₁ j e hm
      · cases List.mem_singleton.mp hm
        exact hx ⟨e, rfl⟩

end Traffic

namespace Application

open Traffic

/-- Whether all variants of a client have names, and are bound to the experiments that the table in
force assigns to them. -/
structure UpToDate (a : Application) (c : ClientId) : Prop where
  named : ∀ key h, (a.client c).flags.find? key = some h → a.Named h
  bound : ∀ key h, (a.client c).flags.find? key = some h →
    a.BoundTo c (a.client c).experiments h

variable {a : Application} {c : ClientId}

theorem Follows.upToDate {L : History} (h : Follows L c a) : a.UpToDate c := by
  constructor
  case named =>
    intro key g hg
    rw [h.flags] at hg
    obtain ⟨n, hn⟩ := (History.Stored.added ⟨key, hg⟩).firstName?
    exact ⟨n, (h.names g).trans hn⟩
  case bound =>
    intro key g hg
    rw [BoundTo, h.experiments]
    exact h.stored key g hg

/-- Requests made in sequence keep a client up to date, if it shares no variants. -/
theorem upToDate_callAll {calls : List Call} (ha : a.Fresh) (hc : c < a.clients.length)
    (hL : History.Existing a.variants.length (a.history calls))
    (hu : (a.history calls).Unshared c) : (a.callAll calls).UpToDate c :=
  (follows_history ha hc hL hu).upToDate

end Application

namespace Traffic

/-- Concurrent requests to a client that is up to date, with sections in any order. When all of them
have ended, each stored variant is bound to the experiment that the table in force assigns to its name,
or to what a caller wrote after the last swap of the table from a snapshot that it held then. If no
caller held one, all variants are bound to the table in force. -/
theorem bound_unless_overtaken {a : Application} {c : ClientId} {requests : List (Request Program)}
    {k : Log} {s : Traffic} (ha : a.UpToDate c)
    (hr : ∀ r ∈ requests, ∀ h, r.Adds h → h < a.variants.length)
    (hp : Path c (.ofRequests a c requests) k s) (hs : s.IsIdle) :
    ∃ s₁ k₁, SinceSwap c (.ofRequests a c requests) k s s₁ k₁ ∧
      (∀ key h, (s.app.client c).flags.find? key = some h →
        s.app.BoundTo c (s.app.client c).experiments h ∨
        ∃ i t, s₁.Holds i t h ∧ (i, .write t h) ∈ k₁ ∧ s.app.BoundTo c t h) ∧
      ((∀ i t h, ¬s₁.Holds i t h) → s.app.UpToDate c) := by
  have hsound : Sound c (.ofRequests a c requests) := .ofRequests ha.named hr
  obtain ⟨s₁, k₁, hsince, hu⟩ := hp.unswapped hsound ha.bound
  have hstored : ∀ key h, (s.app.client c).flags.find? key = some h →
      s.app.BoundTo c (s.app.client c).experiments h ∨
      ∃ i t, s₁.Holds i t h ∧ (i, .write t h) ∈ k₁ ∧ s.app.BoundTo c t h := by
    intro key h hk
    rcases hu.stored key h hk with hb | hb | ⟨i, x, hx, -⟩
    · exact .inl hb
    · exact .inr hb
    · exact absurd hx hs.not_pending
  refine ⟨s₁, k₁, hsince, hstored, fun hnone => ⟨(hp.sound hsound).stored, fun key h hk => ?_⟩⟩
  rcases hstored key h hk with hb | ⟨i, t, hh, -⟩
  · exact hb
  · exact absurd hh (hnone i t h)

/-- A caller that makes a variant takes its snapshot before an experiment is put in force, and writes
what it found there after all variants have been bound again. -/
theorem overtaken_path :
    let e : ExperimentModel := .make "1" "e" "true" false ["f"] []
    let a := (ofVariants []).addClient ⟨.empty, .ofNat 0, [], none, false⟩
    ∃ k s, Path 0 (.ofRequests a 0 [.isEnabled "f" false none, .setExperiments [e]]) k s ∧
      s.IsIdle ∧ (s.app.client 0).flags.find? "f" = some 0 ∧
      (s.app.client 0).experiments.forFlag? (s.app.variant 0).name = some e ∧
      (s.app.variant 0).binding = some ⟨0, none⟩ := by
  intro e a
  have h := Path.nil (c := 0) (.ofRequests a 0 [.isEnabled "f" false none, .setExperiments [e]])
  have h := h.snoc (.mk (i := 0) rfl (.made _ _ rfl))
  have h := h.snoc (.mk (i := 0) rfl (.announce 0))
  -- the other caller now does its whole agenda
  have h := h.snoc (.mk (i := 1) rfl (.swap _))
  have h := h.snoc (.mk (i := 1) rfl .refresh)
  have h := h.snoc (.mk (i := 1) rfl (.list _ (.refl _)))
  have h := h.snoc (.mk (i := 1) rfl (.bind _ 0))
  have h := h.snoc (.mk (i := 1) rfl (.report _))
  have h := h.snoc (.mk (i := 1) rfl (.write _ 0))
  have h := h.snoc (.mk (i := 1) rfl (.report _))
  -- the snapshot that the first one took is not the table in force any more
  have h := h.snoc (.mk (i := 0) rfl (.bind _ 0))
  have h := h.snoc (.mk (i := 0) rfl (.report _))
  have h := h.snoc (.mk (i := 0) rfl (.write _ 0))
  have h := h.snoc (.mk (i := 0) rfl (.look 0 true _))
  refine ⟨_, _, h, ?_, rfl, rfl, rfl⟩
  intro agenda hm
  have hm' : agenda ∈ [[], []] := hm
  simpa using hm'

/-- The binding left by the overtaken caller comes from a snapshot held at the swap. -/
theorem bound_unless_overtaken_stale :
    let e : ExperimentModel := .make "1" "e" "true" false ["f"] []
    let s₀ := Traffic.ofRequests ((ofVariants []).addClient ⟨.empty, .ofNat 0, [], none, false⟩) 0
      [.isEnabled "f" false none, .setExperiments [e]]
    ∃ k s s₁ k₁, Path 0 s₀ k s ∧ s.IsIdle ∧ SinceSwap 0 s₀ k s s₁ k₁ ∧
      ∃ i t, s₁.Holds i t 0 ∧ (i, .write t 0) ∈ k₁ ∧ s.app.BoundTo 0 t 0 := by
  intro e s₀
  obtain ⟨k, s, hp, hs, hf, he, hb⟩ := overtaken_path
  let a := (ofVariants []).addClient ⟨.empty, .ofNat 0, [], none, false⟩
  have ha : a.UpToDate 0 := ⟨fun key h hk => (by cases hk), fun key h hk => (by cases hk)⟩
  have hr : ∀ r ∈ [Request.isEnabled "f" false none, .setExperiments [e]], ∀ h,
      r.Adds h → h < a.variants.length := by
    intro r hm h hadd
    cases hadd with
    | entry => simp at hm
  obtain ⟨s₁, k₁, hsince, hstored, -⟩ := bound_unless_overtaken ha hr hp hs
  refine ⟨k, s, s₁, k₁, hp, hs, hsince, (hstored "f" 0 hf).resolve_left fun h => ?_⟩
  have he' := hb.symm.trans h
  rw [he] at he'
  cases he'

/-- A variant can stay bound to a replaced table: if a caller is overtaken, and if the variant has been
registered with another client. -/
theorem refresh_overtaken :
    let e : ExperimentModel := .make "1" "e" "true" false ["f"] []
    let p : ClientConfig := ⟨.empty, .ofNat 0, [], none, false⟩
    let left (a : Application) (h : Handle) :=
      (a.client 0).flags.find? "f" = some h ∧
      (a.client 0).experiments.forFlag? (a.variant h).name = some e ∧
      ((a.variant h).binding.bind (·.experiment)).isNone
    (∃ k s, Path 0 (.ofRequests ((ofVariants []).addClient p) 0
      [.isEnabled "f" false none, .setExperiments [e]]) k s ∧ s.IsIdle ∧ left s.app 0) ∧
    let a := ((ofVariants [.flag false]).addClient p).addClient p
    let registered := (a.perform 0 0 (.register (.make "" [("f", 0)]))).2
    let configured := (registered.perform 0 0 (.setExperiments [e])).2
    left (configured.perform 0 1 (.register (.make "" [("f", 0)]))).2 0 := by
  refine ⟨?_, rfl, rfl, rfl⟩
  obtain ⟨k, s, h, hi, hf, he, hb⟩ := overtaken_path
  exact ⟨k, s, h, hi, hf, he, by rw [hb]; rfl⟩

end Traffic

end FeatureFlags
