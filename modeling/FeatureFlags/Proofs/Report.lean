import FeatureFlags.Proofs.History
import FeatureFlags.Proofs.Performing

/-!
# One report for each evaluation

An evaluation of a bound variant delivers exactly one impression of its own (`Reported.once`). The
impressions of user code that it runs, at any depth, are not acts of the evaluation. The impression
comes after the condition has been decided. It has the variant's name and bound experiment from when
the evaluation began, the value that the caller gets, and the context in which the condition was
evaluated.

The results hold for any runner of user code, so they apply to evaluations inside operators and
handlers as well. The main result is `evaluations_reported_once`.
-/

namespace FeatureFlags

/-- The impression whose delivery an act begins. -/
def Act.delivery? : Act → Option Impression
  | event (.reported (.deliveringImpression i)) => some i
  | _ => none

theorem filterMap_delivery?_of_allowed {acts : List Act} (h : ∀ t ∈ acts, t.Allowed False) :
    acts.filterMap Act.delivery? = [] := by
  rw [List.filterMap_eq_nil_iff]
  intro t ht
  have hq := h t ht
  unfold Act.delivery?
  split
  · exact (hq rfl).elim
  · rfl

namespace Application

variable {run : Runner} {a b d : Application} {h : Handle}

/-- An evaluation of a variant bound as `b` led from one application to another, by acts that deliver
one impression. -/
structure Reported (run : Runner) (a d : Application) (h : Handle) (b : Binding) (x : Option Context)
    (default : Option String) (i : Impression) (acts : List Act) : Prop where
  /-- The binding of the variant when the evaluation began. -/
  binding : (a.variant h).binding = some b
  /-- The acts of the evaluation. -/
  conduct : Conduct (comes run) a acts d
  /-- The evaluation delivered this impression, and no other. -/
  once : acts.filterMap Act.delivery? = [i]
  name : i.name = (a.variant h).name
  experiment : i.experiment = b.experiment.map ExperimentModel.experiment
  context : i.context = (a.client b.client).globalContext.overlay? x
  /-- First the condition was decided, then the outcome was reported, and then the impression was
  delivered. -/
  decided : ∃ asked e s es, asked <+: acts ∧ asked.filterMap Act.delivery? = [] ∧
    Conduct (comes run) a asked e ∧
    (Run.decide run b.client b.experiment i.context).run a = (.ok s, e) ∧
    i.value = ((a.variant h).outcome default s).value ∧ Run.Quiet es ∧
    ((Run.delivery run b.client).deliver i).run (e.tell es) = (.ok (), d)

theorem evaluate_run_of_bound {b : Binding} {x : Option Context} {default : Option String}
    (hb : (a.variant h).binding = some b) : (Run.evaluate run h x default).run a =
      (Run.decide run b.client b.experiment ((a.client b.client).globalContext.overlay? x) >>= fun s =>
        ((a.variant h).reports ((a.variant h).outcome default s)).forM Run.report >>= fun _ =>
          (Run.delivery run b.client).deliver ⟨(a.variant h).name, ((a.variant h).outcome default s).value,
            (a.variant h).experiment, (a.client b.client).globalContext.overlay? x⟩ >>= fun _ =>
              (pure ((a.variant h).outcome default s) : Run Outcome)).run a := by
  have hv : (Run.variant h).run a = (.ok (a.variant h), a) := rfl
  have hc : (Run.client b.client).run a = (.ok (a.client b.client), a) := rfl
  unfold Run.evaluate
  rw [Run.run_bind_ok hv]
  simp only [hb]
  rw [Run.run_bind_ok hc]

/-- An evaluation of a bound variant is reported once. -/
theorem evaluate_reported {b : Binding} {x : Option Context} {default : Option String} {o : Outcome}
    (hb : (a.variant h).binding = some b) (hr : (Run.evaluate run h x default).run a = (.ok o, d)) :
    ∃ i acts, Reported run a d h b x default i acts ∧ o.value = i.value := by
  let merged := (a.client b.client).globalContext.overlay? x
  let outcome := fun s => (a.variant h).outcome default s
  let report := fun s =>
    Impression.mk (a.variant h).name (outcome s).value (a.variant h).experiment merged
  rw [evaluate_run_of_bound hb] at hr
  -- first the condition: an evaluation that is stopped here gives nothing
  have hdecide : Conducts False run (Run.decide run b.client b.experiment merged) fun _ => True :=
    .decide
  obtain ⟨asked, hasked, hquiet, -⟩ := hdecide a
  rcases hs : (Run.decide run b.client b.experiment merged).run a with ⟨stop | s, e⟩
  · rw [Run.run_bind_error hs] at hr
    cases hr
  rw [hs] at hasked
  let es := ((a.variant h).reports (outcome s)).map fun r => Event.reported r
  have hes : Run.Quiet es := .reported isDelivery_reports
  rw [Run.run_bind_ok hs, Run.run_bind_ok (Run.forM_report_run (f := fun r => r))] at hr
  rcases hd : ((Run.delivery run b.client).deliver (report s)).run (e.tell es) with ⟨stop | u, f⟩
  · rw [Run.run_bind_error hd] at hr
    cases hr
  rw [Run.run_bind_ok hd] at hr
  cases hr
  -- the delivery begins with its event, and what follows begins no other one
  let begin' : Event := .reported (.deliveringImpression (report s))
  have hspread : Conducts False run ((Run.delivery run b.client).spread (report s)) fun _ => True :=
    .spread
  let begun := (e.tell es).tell [begin']
  obtain ⟨heard, hheard, hquiet', -⟩ := hspread begun
  have hrest : ((Run.delivery run b.client).spread (report s)).run begun = (.ok u, d) := by
    have hemit : ((Run.delivery run b.client).emit begin').run (e.tell es) = (.ok (), begun) := rfl
    rw [Delivery.deliver_eq, Run.run_bind_ok hemit] at hd
    exact hd
  rw [hrest] at hheard
  refine ⟨report s, asked ++ (es.map .event ++ .event begin' :: heard), ?_, rfl⟩
  have hasked' := filterMap_delivery?_of_allowed hquiet
  constructor
  case binding => exact hb
  case conduct =>
    exact hasked.append ((Conduct.tell e es).append (.cons (.event _ begin') hheard))
  case once =>
    have hes' := filterMap_delivery?_of_allowed (allowed_quiet hes)
    rw [List.filterMap_append, List.filterMap_append, hasked', hes', List.filterMap_cons,
      filterMap_delivery?_of_allowed hquiet']
    rfl
  case name => rfl
  case experiment =>
    show (a.variant h).experiment = _
    rw [Variant.experiment, hb]
    rfl
  case context => rfl
  case decided =>
    exact ⟨asked, e, s, es, List.prefix_append _ _, hasked', hasked, hs, rfl, hes, hd⟩

/-! ## Evaluations of a client -/

theorem conducts_answer {c : ClientId} {r : Request Program} (hr : r.evaluates = true) :
    Conducts True run (Run.answer run c r) fun _ => True := by
  cases r with
  | isEnabled name default x =>
    refine .bind' (R := fun _ => True) ?_ fun _ _ => .pure' trivial
    exact .bind' (.valueOf trivial rfl rfl) fun _ _ => .pure' trivial
  | value name default options x => exact .bind' (.valueOf trivial rfl rfl) fun _ _ => .pure' trivial
  | evaluate g x => exact .bind' (.evaluate trivial) fun _ _ => .pure' trivial
  | _ => cases hr

/-- A request without response was stopped by its last act, user code. -/
theorem code_of_unanswered {c : ClientId} {r : Request Program} {e : Stop}
    (hr : (Run.answer run c r).run a = (.error e, d)) :
    ∃ acts p, Conduct (comes run) a acts d ∧ acts.getLast? = some (.code p (.error e)) := by
  cases hv : r.evaluates with
  | false =>
    obtain ⟨x, b, es, hx, -⟩ := performs run a c hv
    rw [hx] at hr
    cases hr
  | true => exact (conducts_answer hv).code_of_stopped hr

/-- An evaluation of a variant that was added before, in an application reached along a history, was
reported: with the name given to the variant, and the context of a client to which it was added. -/
structure ReportedOnce (start : Application) (L : History) (run : Runner) (a d : Application)
    (h : Handle) (x : Option Context) (default : Option String) (i : Impression)
    (acts : List Act) : Prop where
  history : Path start L a
  name : (a.variant h).name? = some i.name
  reported : ∃ b, Reported run a d h b x default i acts ∧ History.Added L b.client h ∧
    i.context = (start.client b.client).globalContext.overlay? x

/-- A request for a name led from one application to another, where its variant has been found, or made
and added; nothing was delivered. -/
structure Fetched (run : Runner) (a e : Application) (c : ClientId) (name : String) (h : Handle)
    (adding : List Act) : Prop where
  conduct : Conduct (comes run) a adding e
  silent : adding.filterMap Act.delivery? = []
  path : Path a (a.firstAdded c name) e
  found : a.findFlag? c name = some h ∨ a.firstAdded c name = [.added c name h true]

section Evaluations

variable {start : Application} {L : History} {c : ClientId} {x : Option Context} (hs : start.Fresh)
  (hp : Path start L a) (hL : History.Existing start.variants.length L)
include hs hp hL

/-- An evaluation of a variant that was added before is reported once. -/
theorem evaluate_reportedOnce {default : Option String} {o : Outcome} (hh : History.Added L c h)
    (hr : (Run.evaluate run h x default).run a = (.ok o, d)) :
    ∃ i acts, ReportedOnce start L run a d h x default i acts ∧ o.value = i.value := by
  have hrec := hp.recounts hs hL
  obtain ⟨b, hb, hadded⟩ := hrec.bound c h hh
  obtain ⟨i, acts, hi, ho⟩ := evaluate_reported hb hr
  obtain ⟨n, hn⟩ := hh.firstName?
  rw [← hrec.names h] at hn
  refine ⟨i, acts, ⟨hp, ?_, b, hi, hadded, ?_⟩, ho⟩
  · rw [hi.name, Variant.name, hn]
    rfl
  · rw [hi.context, hp.globalContext]

/-- A value asked for by name is that of a variant that was added before or by the request, and is
reported once. -/
theorem valueOf_reportedOnce {name default value : String} {v : Variant} (hn : v.name? = none)
    (hb : v.binding = none)
    (hr : (Run.valueOf run c name default v x).run a = (.ok value, d)) :
    ∃ h e adding i acts, Fetched run a e c name h adding ∧
      ReportedOnce start (L ++ a.firstAdded c name) run e d h x (some default) i acts ∧
      value = i.value := by
  obtain ⟨h, e, es, hg, hes, hc, hf⟩ := getOrAdd_conduct (comes run) a c name hn hb
  have hpath := hc.path_of_changes (by simp)
  rw [List.flatMap_append, flatMap_changes_event, flatMap_changes_changed, List.nil_append] at hpath
  have hsilent : ∀ t ∈ es.map Act.event ++ (a.firstAdded c name).map Act.changed,
      t.Allowed False :=
    List.forall_mem_append.mpr ⟨allowed_quiet hes, allowed_changed⟩
  have hadded : History.Added (L ++ a.firstAdded c name) c h := by
    rcases hf with hf | hf
    · exact ((hp.recounts hs hL).added_of_find? hf).append
    · rw [hf]
      exact History.added_self
  unfold Run.valueOf at hr
  rw [Run.run_bind_ok hg] at hr
  rcases ho : (Run.evaluate run h x (some default)).run e with ⟨stop | o, f⟩
  · rw [Run.run_bind_error ho] at hr
    cases hr
  rw [Run.run_bind_ok ho] at hr
  cases hr
  have hL' : History.Existing start.variants.length (L ++ a.firstAdded c name) :=
    hL.append within_firstAdded
  obtain ⟨i, acts, hi, hv⟩ := evaluate_reportedOnce hs (hp.append hpath) hL' hadded ho
  exact ⟨h, e, _, i, acts, ⟨hc, filterMap_delivery?_of_allowed hsilent, hpath, hf⟩, hi, hv⟩

end Evaluations

/-- Whenever in a run a variant is evaluated that was added before, the caller gets the value of the one
impression that the evaluation itself delivers; a flag is on if this value is `true`. The caller can
hold the variant or ask for it by name, in which case it is added first if it is missing. An evaluation
that ends early was stopped by user code. -/
theorem evaluations_reported_once {start : Application} {L : History} (hs : start.Fresh)
    (hp : Path start L a) (hL : History.Existing start.variants.length L)
    (run : Runner) (c : ClientId) (x : Option Context) :
    (∀ h o d, History.Added L c h → (Run.evaluate run h x none).run a = (.ok o, d) →
      ∃ i acts, ReportedOnce start L run a d h x none i acts ∧ o.value = i.value) ∧
    (∀ h isOn d, History.Added L c h → (Run.isOn run h x).run a = (.ok isOn, d) →
      ∃ i acts, ReportedOnce start L run a d h x none i acts ∧ isOn = (i.value == "true")) ∧
    (∀ name default isOn d, (Run.isEnabled run c name default x).run a = (.ok isOn, d) →
      ∃ h e adding i acts, Fetched run a e c name h adding ∧
        ReportedOnce start (L ++ a.firstAdded c name) run e d h x
          (some (Value.booleanText default)) i acts ∧ isOn = (i.value == "true")) ∧
    (∀ name default options value d,
      (Run.valueOf run c name default (.make default options) x).run a = (.ok value, d) →
      ∃ h e adding i acts, Fetched run a e c name h adding ∧
        ReportedOnce start (L ++ a.firstAdded c name) run e d h x (some default) i acts ∧
        value = i.value) ∧
    (∀ r stop d, (Run.answer run c r).run a = (.error stop, d) →
      ∃ acts p, Conduct (comes run) a acts d ∧ acts.getLast? = some (.code p (.error stop))) := by
  refine ⟨?_, ?_, ?_, ?_, ?_⟩
  · intro h o d hh hr
    exact evaluate_reportedOnce hs hp hL hh hr
  · intro h isOn d hh hr
    unfold Run.isOn at hr
    rcases ho : (Run.evaluate run h x none).run a with ⟨stop | o, f⟩
    · rw [Run.run_bind_error ho] at hr
      cases hr
    rw [Run.run_bind_ok ho] at hr
    cases hr
    obtain ⟨i, acts, hi, hv⟩ := evaluate_reportedOnce hs hp hL hh ho
    exact ⟨i, acts, hi, by rw [hv]⟩
  · intro name default isOn d hr
    unfold Run.isEnabled at hr
    rcases hv : (Run.valueOf run c name (Value.booleanText default) (.flag default) x).run a with
      ⟨stop | s, f⟩
    · rw [Run.run_bind_error hv] at hr
      cases hr
    rw [Run.run_bind_ok hv] at hr
    cases hr
    obtain ⟨h, e, adding, i, acts, hf, hi, rfl⟩ := valueOf_reportedOnce hs hp hL rfl rfl hv
    exact ⟨h, e, adding, i, acts, hf, hi, rfl⟩
  · intro name default options value d hr
    exact valueOf_reportedOnce hs hp hL rfl rfl hr
  · intro r stop d hr
    exact code_of_unanswered hr

/-- The condition of a flag calls an operator that evaluates another flag. There are two impressions,
one of each evaluation. -/
theorem evaluations_reported_once_nested :
    let start := (ofVariants [.flag false, .flag false]).addClient
      ⟨.ofList [("plan", .text "free")], .ofNat 0, [], none, false⟩
    let nest : CustomOperator :=
      ⟨.exactly 0, fun _ _ => .request 0 (.evaluate 1 none) fun _ => .done (.boolean true)⟩
    let e : ExperimentModel := .make "1" "e" "nest()" false ["f"] []
    let L : History := [.added 0 "f" 0 false, .added 0 "g" 1 false, .configured 0 [e]]
    let a := (((start.modifyClient 0 (·.withOperator "nest" nest)).add 0 "f" 0).add 0 "g" 1).configure 0
      (.ofModels [e])
    let run := Run.runProgram 2
    let x : Option Context := some (.ofList [("plan", .text "gold")])
    let d := ((Run.evaluate run 0 x none).run a).2
    (d.events.filterMap fun e => (Act.event e).delivery?).map (·.name) = ["g", "f"] ∧
      ∃ i acts, ReportedOnce start L run a d 0 x none i acts ∧ "true" = i.value := by
  intro start nest e L a run x d
  have hs : start.Fresh := by
    refine ⟨fun v hv => ?_, fun s hs => ⟨_, List.mem_singleton.mp hs⟩⟩
    rcases List.mem_cons.mp hv with rfl | hv
    · exact ⟨rfl, rfl⟩
    · rw [List.mem_singleton.mp hv]
      exact ⟨rfl, rfl⟩
  have hp : Path start L a :=
    (Path.arrange (.operator "nest" nest)).append
      ((Path.one (.added _ 0 "f" 0)).append ((Path.one (.added _ 0 "g" 1)).append
        (.one (.configured _ 0 [e]))))
  have hL : History.Existing start.variants.length L := by decide
  have hh : History.Added L 0 0 := ⟨"f", false, List.mem_cons_self⟩
  have hvalue : ((Run.evaluate run 0 x none).run a).1.toOption = some ⟨"true", false⟩ := by
    decide +kernel
  have hr : (Run.evaluate run 0 x none).run a = (.ok ⟨"true", false⟩, d) := by
    rcases ho : (Run.evaluate run 0 x none).run a with ⟨stop | o, b⟩
    · rw [ho] at hvalue
      cases hvalue
    · rw [ho] at hvalue
      cases hvalue
      exact congrArg (Prod.mk _) (congrArg Prod.snd ho).symm
  refine ⟨by decide +kernel, ?_⟩
  exact (evaluations_reported_once hs hp hL run 0 x).1 0 _ d hh hr

end Application

end FeatureFlags
