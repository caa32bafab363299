import FeatureFlags.Proofs.Likeness
import FeatureFlags.Proofs.Payload

/-!
# Refreshing by a payload

`Run.applyConfiguration` takes a payload as a whole or not at all. A payload that cannot be read is
refused with a report and no other change; for any other payload the client does what
`Run.setExperiments` does for its models (`Application.refresh_or_refuse`).
-/

namespace FeatureFlags

open Json

namespace Application

variable {a : Application} {limit : Nat} {c : ClientId} {payload : String}

/-- A payload that cannot be read has no effect except a report. -/
theorem perform_of_unreadable {fault : Fault} (h : Configuration.read payload = .error fault) :
    a.perform limit c (.applyConfiguration payload) =
      (.ok (.refused (.invalidConfiguration fault)), a.tell [.reported .unreadableConfiguration]) := by
  show (Run.applyConfiguration c payload).run a = _
  rw [Run.applyConfiguration, h]
  rfl

/-- A readable payload puts its models in force, after a report for each value that is not a model. -/
theorem perform_of_readable {k : Configuration} (h : Configuration.read payload = .ok k) :
    a.perform limit c (.applyConfiguration payload) =
      (a.tell (k.misfits.map fun v => .reported (.skippedExperiment v))).perform limit c
        (.setExperiments k.models) := by
  show (Run.applyConfiguration c payload).run a = _
  rw [Run.applyConfiguration, h]
  show ((k.misfits.forM fun v => Run.report (.skippedExperiment v)) >>= fun _ =>
    Run.setExperiments c k.models >>= fun _ => pure Response.done).run a = _
  rw [Run.run_bind_ok Run.forM_report_run]
  rfl

theorem perform_setExperiments (models : List ExperimentModel) :
    (a.perform limit c (.setExperiments models)).1 = .ok .done ∧ (c < a.clients.length →
      ((a.perform limit c (.setExperiments models)).2.client c).experiments = .ofModels models) := by
  obtain ⟨es, -, hr⟩ := @Run.setExperiments_run a c models
  let b := a.tell ((ExperimentTable.shadowings models).map .reported ++ es)
  have hrun : a.perform limit c (.setExperiments models) =
      (.ok .done, b.configure c (.ofModels models)) := by
    show (Run.setExperiments c models >>= fun _ => pure Response.done).run a = _
    rw [Run.run_bind_ok hr]
    rfl
  rw [hrun]
  refine ⟨rfl, fun hc => ?_⟩
  rw [@client_configure_self b c _ hc]

/-- A payload is refused, and then all later requests have the same responses as without it, or it puts
the decoded models in force. If its experiments are values within the limit of nesting, among any other
members, it is not refused, and the models are those of the elements that are models by themselves, in
order, each as it would be read from a text of its own. -/
theorem refresh_or_refuse (a : Application) (limit : Nat) (c : ClientId) (payload : String) :
    ((∃ fault, Configuration.read payload = .error fault ∧
        a.perform limit c (.applyConfiguration payload) =
          (.ok (.refused (.invalidConfiguration fault)), a.tell [.reported .unreadableConfiguration]) ∧
        ∀ calls, (a.perform limit c (.applyConfiguration payload)).2.replies calls = a.replies calls) ∨
      ∃ k, Configuration.read payload = .ok k ∧ a.perform limit c (.applyConfiguration payload) =
        (a.tell (k.misfits.map fun v => .reported (.skippedExperiment v))).perform limit c
          (.setExperiments k.models)) ∧
    ∀ (vs : List Json) (f : Form), (∀ v ∈ vs, v.depth + 2 < nestingLimit) →
      f.IsRecord ["experiments"] [("experiments", .array (vs.map Json.form))] →
      Writes f.yield payload.toList →
        (a.perform limit c (.applyConfiguration payload)).1 = .ok .done ∧
        (c < a.clients.length →
          ((a.perform limit c (.applyConfiguration payload)).2.client c).experiments =
            .ofModels (vs.filterMap ExperimentModel.ofJson?)) ∧
        ∀ v ∈ vs, ∀ t : String, Writes v.form.yield t.toList →
          (ExperimentModel.read t).toOption = ExperimentModel.ofJson? v := by
  constructor
  · cases h : Configuration.read payload with
    | error fault =>
      rw [perform_of_unreadable h]
      exact .inl ⟨fault, rfl, rfl, replies_tell a _⟩
    | ok k => exact .inr ⟨k, rfl, perform_of_readable h⟩
  · intro vs f hv hf hp
    have hread := Configuration.read_of_values hv hf hp
    rw [perform_of_readable hread, Configuration.models_map_element]
    obtain ⟨hdone, htable⟩ := @perform_setExperiments (a.tell ((Configuration.misfits
      ⟨vs.map Configuration.element⟩).map fun v => .reported (.skippedExperiment v))) limit c
      (vs.filterMap ExperimentModel.ofJson?)
    refine ⟨hdone, htable, fun v _ t ht => ?_⟩
    rw [ExperimentModel.read_of_writes ht, value_form]

/-- A number, an experiment, an experiment as a list of its fields, and one that repeats its name. -/
def mixedValues : List Json :=
  [.number (.natural 7),
   .object [("name", .text "e"), ("_id", .text "1"), ("featureFlags", .array []),
     ("deploymentConfiguration", .array [.text "true"]), ("note", .null)],
   .array [.text "2", .text "g", .array [.text "false"], .boolean true, .array [.array [.text "f"]]],
   .object [("name", .text "h"), ("name", .text "h")]]

/-- A payload with these experiments, and with a numeral out of range in an unknown member. -/
def mixedPayload : String :=
  "\x7b\"note\":1e999,\"experiments\":[7,\x7b\"name\":\"e\",\"_id\":\"1\",\"featureFlags\":[]," ++
    "\"deploymentConfiguration\":[\"true\"],\"note\":null\x7d,[\"2\",\"g\",[\"false\"],true,[[\"f\"]]]," ++
    "\x7b\"name\":\"h\",\"name\":\"h\"\x7d]\x7d"

/-- The second and the third experiment of the mixed payload are put in force. -/
theorem refresh_or_refuse_mixed :
    ((((ofVariants []).addClient ⟨.empty, .ofNat 0, [], none, false⟩).perform 0 0
      (.applyConfiguration mixedPayload)).2.client 0).experiments =
        .ofModels [⟨"1", "e", "true", false, [], []⟩, ⟨"2", "g", "false", true, ["f"], []⟩] := by
  have hwrites : Writes (Form.object [(some "note", .number none),
      (some "experiments", .array (mixedValues.map Json.form))]).yield mixedPayload.toList :=
    writes_iff_lexemes.mpr ⟨by decide +kernel, Form.isBroken_of_mem_yield _⟩
  exact ((refresh_or_refuse _ 0 0 mixedPayload).2 mixedValues _ (by decide)
    ⟨[("note", .number none)], _, by decide, .swap _ _ _, rfl⟩ hwrites).2.1 (by decide)

end Application

end FeatureFlags
