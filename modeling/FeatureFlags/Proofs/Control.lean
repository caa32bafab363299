import Mathlib.Data.List.Basic
import Mathlib.Data.List.Induction
import FeatureFlags.Experiment.Register
import FeatureFlags.Proofs.Change

/-!
# Which experiment controls a flag

`ExperimentTable.ofModels` goes through the models, and through the flags of each, and leaves a flag
with the first model that takes it. The results are stated without the traversal: a flag is
controlled by the first model that lists it (`firstListing`), and the flags reported for a model are
those that an earlier model lists (`shadowed`).

`find?_addFlags` and `shadowings_addFlags` describe the effect of one model on any table under
construction. Models are then added at the end of the list, so the induction is on the last one.
-/

namespace FeatureFlags

namespace ExperimentTable

/-- The first of some experiments that lists a flag. -/
def firstListing (models : List ExperimentModel) (flag : String) : Option ExperimentModel :=
  models.find? fun m => m.flags.contains flag

/-- The flags of an experiment that earlier ones list, each with the first one that does. -/
def shadowed (before : List ExperimentModel) (m : ExperimentModel) : List Diagnostic :=
  m.flags.filterMap fun f => (firstListing before f).map fun other => .shadowedFlag f m.name other.name

variable {models : List ExperimentModel} {m : ExperimentModel} {flag : String}

theorem firstListing_snoc : firstListing (models ++ [m]) flag =
    (firstListing models flag).or (if flag ∈ m.flags then some m else none) := by
  rw [firstListing, List.find?_append, List.find?_singleton]
  simp only [List.contains_iff_mem, firstListing]

theorem firstListing_eq_none_iff : firstListing models flag = none ↔ ∀ m ∈ models, flag ∉ m.flags := by
  simp [firstListing]

theorem isSome_firstListing :
    (firstListing models flag).isSome = models.any fun m => m.flags.contains flag := by
  rw [Bool.eq_iff_iff, firstListing, List.find?_isSome, List.any_eq_true]

/-- An experiment that lists a flag controls it against all later ones. -/
theorem firstListing_take {n : Nat} : firstListing models flag =
    (firstListing (models.take n) flag).or (firstListing (models.drop n) flag) := by
  rw [firstListing, firstListing, firstListing, ← List.find?_append, List.take_append_drop]

/-- The flags reported of an experiment are those that an earlier one lists, with the controlling one.
-/
theorem shadowed_take {n : Nat} : shadowed (models.take n) m =
    (m.flags.filter fun f => (models.take n).any fun e => e.flags.contains f).filterMap fun f =>
      (firstListing models f).map fun other => .shadowedFlag f m.name other.name := by
  rw [shadowed, List.filterMap_filter]
  apply List.filterMap_congr
  intro f _
  rw [← isSome_firstListing, @firstListing_take models f n]
  cases firstListing (models.take n) f <;> simp

/-! ## The flags of one experiment -/

namespace Assignment

variable {a : Assignment} {f : String} {fs : List String}

theorem find?_addFlag : (addFlag m a f).controllers.find? flag =
    (a.controllers.find? flag).or (if flag = f then some m else none) := by
  unfold addFlag
  cases hf : a.controllers.find? f with
  | some other =>
    by_cases h : flag = f
    · rw [h, hf]
      rfl
    · simp [h]
  | none =>
    simp only [Dict.find?_insert]
    by_cases h : flag = f
    · simp [h, hf]
    · simp [h]

theorem shadowings_addFlag : (addFlag m a f).shadowings = a.shadowings ++
    ((a.controllers.find? f).map fun other => .shadowedFlag f m.name other.name).toList := by
  unfold addFlag
  cases a.controllers.find? f with
  | some other => rfl
  | none => simp

theorem find?_addFlags : (fs.foldl (addFlag m) a).controllers.find? flag =
    (a.controllers.find? flag).or (if flag ∈ fs then some m else none) := by
  induction fs generalizing a with
  | nil => simp
  | cons f rest ih =>
    rw [List.foldl_cons, ih, find?_addFlag, Option.or_assoc]
    congr 1
    by_cases h : flag = f
    · simp [h]
    · simp [h]

/-- Flags that are assigned already are reported, in order. No flag may be repeated, as the second time
the experiment itself would have it. -/
theorem shadowings_addFlags (hfs : fs.Nodup) : (fs.foldl (addFlag m) a).shadowings =
    a.shadowings ++ fs.filterMap fun f =>
      (a.controllers.find? f).map fun other => .shadowedFlag f m.name other.name := by
  induction fs generalizing a with
  | nil => simp
  | cons f rest ih =>
    obtain ⟨hf, hrest⟩ := List.nodup_cons.mp hfs
    have hkept : ∀ g ∈ rest, (addFlag m a f).controllers.find? g = a.controllers.find? g := by
      intro g hg
      have hne : g ≠ f := fun h => hf (h ▸ hg)
      simp [find?_addFlag, hne]
    rw [List.foldl_cons, ih hrest, shadowings_addFlag, List.append_assoc]
    congr 1
    have hreports := List.filterMap_congr fun g hg => congrArg
      (Option.map fun other : ExperimentModel => Diagnostic.shadowedFlag g m.name other.name) (hkept g hg)
    rw [hreports]
    cases h : a.controllers.find? f <;> simp [h]

end Assignment

/-! ## All experiments -/

theorem assign_snoc : assign (models ++ [m]) = (assign models).addModel m := by
  simp [assign]

theorem find?_assign : (assign models).controllers.find? flag = firstListing models flag := by
  induction models using List.reverseRecOn with
  | nil => rfl
  | append_singleton before m ih =>
    rw [assign_snoc, Assignment.addModel, Assignment.find?_addFlags, ih, firstListing_snoc]

theorem shadowings_assign (h : ∀ m ∈ models, m.flags.Nodup) : (assign models).shadowings =
    models.zipIdx.flatMap fun p => shadowed (models.take p.2) p.1 := by
  induction models using List.reverseRecOn with
  | nil => rfl
  | append_singleton before m ih =>
    have hbefore : ∀ m' ∈ before, m'.flags.Nodup := fun m' hm' => h m' (List.mem_append_left _ hm')
    have hm : m.flags.Nodup := h m (by simp)
    -- the experiments that come before one of the earlier ones are the same without the last one
    have htake : ∀ p ∈ before.zipIdx,
        shadowed ((before ++ [m]).take p.2) p.1 = shadowed (before.take p.2) p.1 := by
      intro p hp
      have hlt : p.2 < before.length := by
        have := List.snd_lt_of_mem_zipIdx hp
        omega
      rw [List.take_append_of_le_length (Nat.le_of_lt hlt)]
    calc (assign (before ++ [m])).shadowings
        = (assign before).shadowings ++ shadowed before m := by
          rw [assign_snoc, Assignment.addModel, Assignment.shadowings_addFlags hm]
          simp only [find?_assign, shadowed]
      _ = (before.zipIdx.flatMap fun p => shadowed (before.take p.2) p.1) ++ shadowed before m := by
          rw [ih hbefore]
      _ = (before ++ [m]).zipIdx.flatMap fun p => shadowed ((before ++ [m]).take p.2) p.1 := by
          rw [List.zipIdx_append, List.flatMap_append, List.flatMap_congr htake]
          simp

theorem severity_shadowed {d : Diagnostic} {before : List ExperimentModel} (hd : d ∈ shadowed before m) :
    d.severity = .warn := by
  obtain ⟨f, -, hf⟩ := List.mem_filterMap.mp hd
  obtain ⟨other, -, rfl⟩ := Option.map_eq_some_iff.mp hf
  rfl

end ExperimentTable

/-! ## Putting experiments in force -/

namespace ExperimentRegister

open ExperimentTable

variable {models : List ExperimentModel}

theorem lookups_run (r : ExperimentRegister) (flags : List String) :
    (flags.mapM forFlag?).run r = (flags.map r.table.forFlag?, r) := by
  induction flags with
  | nil => rfl
  | cons f rest ih =>
    have hf : (forFlag? f).run r = (r.table.forFlag? f, r) := rfl
    rw [List.mapM_cons, StateT.run_bind, hf]
    show (rest.mapM forFlag? >>= fun found => pure (r.table.forFlag? f :: found)).run r = _
    rw [StateT.run_bind, ih]
    rfl

theorem exchanges_run (r : ExperimentRegister) (earlier : List (List ExperimentModel)) :
    ((earlier ++ [models]).mapM exchange).run r =
      (r.table :: earlier.map .ofModels,
        ⟨.ofModels models, r.diagnostics ++ (earlier ++ [models]).flatMap shadowings⟩) := by
  induction earlier generalizing r with
  | nil =>
    have hlast : ([] ++ [models]).flatMap shadowings = shadowings models := by simp
    rw [hlast]
    rfl
  | cons ms rest ih =>
    let r' : ExperimentRegister := ⟨.ofModels ms, r.diagnostics ++ shadowings ms⟩
    have hms : (exchange ms).run r = (r.table, r') := rfl
    have hall : (ms :: rest ++ [models]).flatMap shadowings =
        shadowings ms ++ (rest ++ [models]).flatMap shadowings := by simp
    rw [List.cons_append, List.mapM_cons, StateT.run_bind, hms]
    show ((rest ++ [models]).mapM exchange >>= fun tables => pure (r.table :: tables)).run r' = _
    rw [StateT.run_bind, ih r', ← List.cons_append, hall, ← List.append_assoc]
    rfl

end ExperimentRegister

/-- A client replaces its own table and reports the shadowed flags; its other reports are about names
and bindings. -/
theorem Application.setExperiments_shadowings (a : Application) {c : ClientId}
    (hc : c < a.clients.length) (models : List ExperimentModel) :
    ∃ es, Run.Bookkeeping es ∧
      ((Run.setExperiments c models).run a).2.events =
        a.events ++ ((ExperimentTable.shadowings models).map .reported ++ es) ∧
      (((Run.setExperiments c models).run a).2.client c).experiments = .ofModels models := by
  obtain ⟨es, hes, hr⟩ := @Run.setExperiments_run a c models
  let b := a.tell ((ExperimentTable.shadowings models).map .reported ++ es)
  have hb : c < b.clients.length := hc
  rw [hr]
  refine ⟨es, hes, ?_, ?_⟩
  · show (b.configure c (.ofModels models)).events = _
    rw [configure, events_bindAll]
    rfl
  · show ((b.configure c (.ofModels models)).client c).experiments = _
    rw [client_configure_self hb]

namespace ExperimentTable

/-- A flag is controlled by the first experiment that lists it, and by none if none does; the table has
all experiments in order. Each flag that an experiment lists after another one is reported once, as a
warning with the first experiment that lists it: in the order of experiments and, within one, of flags.
Putting experiments in force returns the table of the previous ones, and from then on flags are looked
up in the new ones alone. A client reports and looks up the same. -/
theorem controlled_by_first_listing {models : List ExperimentModel}
    (h : ∀ m ∈ models, m.flags.Pairwise (· < ·)) :
    ((∀ flag m, (ofModels models).forFlag? flag = some m ↔
        flag ∈ m.flags ∧ ∃ before after, models = before ++ m :: after ∧ ∀ m' ∈ before, flag ∉ m'.flags) ∧
      (∀ flag, (ofModels models).forFlag? flag = none ↔ ∀ m ∈ models, flag ∉ m.flags) ∧
      (ofModels models).models = models) ∧
    (shadowings models = (models.zipIdx.flatMap fun p =>
        (p.1.flags.filter fun f => (models.take p.2).any fun e => e.flags.contains f).filterMap fun f =>
          ((ofModels models).forFlag? f).map fun other => .shadowedFlag f p.1.name other.name) ∧
      ∀ d ∈ shadowings models, d.severity = .warn) ∧
    (∀ (r : ExperimentRegister) (earlier : List (List ExperimentModel)) (flags : List String),
      (do
        let tables ← (earlier ++ [models]).mapM ExperimentRegister.exchange
        let found ← flags.mapM ExperimentRegister.forFlag?
        pure (tables, found)).run r =
      ((r.table :: earlier.map .ofModels, flags.map (firstListing models)),
        ⟨.ofModels models, r.diagnostics ++ (earlier ++ [models]).flatMap shadowings⟩)) ∧
    ∀ (a : Application) (c : ClientId), c < a.clients.length → ∃ es, Application.Run.Bookkeeping es ∧
      ((Application.Run.setExperiments c models).run a).2.events =
        a.events ++ ((shadowings models).map .reported ++ es) ∧
      (((Application.Run.setExperiments c models).run a).2.client c).experiments = .ofModels models := by
  have hfind : ∀ (ms : List ExperimentModel) (flag : String),
      (ofModels ms).forFlag? flag = firstListing ms flag := fun ms flag => find?_assign
  have hnodup : ∀ m ∈ models, m.flags.Nodup := by
    intro m hm
    apply (h m hm).imp
    rintro f _ hlt rfl
    exact String.lt_irrefl f hlt
  have hreported : shadowings models = _ := shadowings_assign hnodup
  refine ⟨⟨?_, ?_, rfl⟩, ⟨?_, ?_⟩, ?_, ?_⟩
  · intro flag m
    rw [hfind, firstListing, List.find?_eq_some_iff_append]
    simp
  · intro flag
    rw [hfind, firstListing_eq_none_iff]
  · simp only [hfind, ← shadowed_take]
    exact hreported
  · intro d hd
    rw [hreported] at hd
    obtain ⟨p, -, hp⟩ := List.mem_flatMap.mp hd
    exact severity_shadowed hp
  · intro r earlier flags
    rw [StateT.run_bind, ExperimentRegister.exchanges_run]
    show (flags.mapM ExperimentRegister.forFlag? >>= fun found => pure (_, found)).run _ = _
    rw [StateT.run_bind, ExperimentRegister.lookups_run]
    simp only [funext (hfind models)]
    rfl
  · intro a c hc
    exact a.setExperiments_shadowings hc models

/-- The second of three experiments shares a flag with the first, and the third shares all its flags. -/
theorem controlled_by_first_listing_overlapping :
    let one : ExperimentModel := ⟨"1", "one", "true", false, ["a", "b"], []⟩
    let two : ExperimentModel := ⟨"1", "two", "true", false, ["b", "c"], []⟩
    let three : ExperimentModel := ⟨"3", "two", "true", false, ["a", "b", "c"], []⟩
    (ofModels [one, two, three]).forFlag? "c" = some two ∧
      ((ExperimentRegister.exchange [one, two, three]).run .empty).2.diagnostics =
        [.shadowedFlag "b" "two" "one", .shadowedFlag "a" "two" "one", .shadowedFlag "b" "two" "one",
          .shadowedFlag "c" "two" "two"] := by
  intro one two three
  have h : ∀ m ∈ [one, two, three], m.flags.Pairwise (· < ·) := by decide +kernel
  obtain ⟨⟨hfirst, -, -⟩, ⟨hreported, -⟩, -, -⟩ := controlled_by_first_listing h
  refine ⟨(hfirst "c" two).mpr ⟨by decide, [one], [three], rfl, by decide⟩, ?_⟩
  have hrun : ∀ ms, ((ExperimentRegister.exchange ms).run .empty).2.diagnostics = shadowings ms := fun _ => rfl
  rw [hrun, hreported]
  rfl

end ExperimentTable

end FeatureFlags
