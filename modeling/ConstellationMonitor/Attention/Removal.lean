/-
  Attention/Removal.lean --- what happens to an open condition whose kind of input is no
  longer configured.

  A condition nothing observes is closed as "no longer evaluated" when its rule is disabled,
  when no input of the rule's kind is configured, or when the input label that names it is
  gone.  `host-disk` is fed by two kinds of input, so for it the first test does not tell
  which of the two was removed; `Stranded` says when such a condition is held instead.
-/
import ConstellationMonitor.Attention.Lifecycle
import ConstellationMonitor.Attention.Passes
import ConstellationMonitor.Attention.Reference

namespace ConstellationMonitor.Attention

open Foundation
open Std (ExtTreeMap)

/-- Conditions are filed under their own name, and their keys are well formed. -/
def State.WellFiled (state : State) : Prop :=
  ∀ (id : Text) (condition : ConditionState), state.conditions[id]? = some condition →
    condition.key.id = id ∧ condition.key.Plain

/-- A condition was last reported by an input of this kind of the configuration. -/
structure LastReported (config : Config) (kind : SourceKind) (condition : ConditionState) :
    Prop where
  source : ⟨kind, condition.inputLabel⟩ ∈ config.inputs.sources
  rule : ∃ rule, kind.reports rule = true ∧ condition.key.rule = rule.id

/-- A configuration names no input of a kind. -/
def Config.Lacks (config : Config) (kind : SourceKind) : Prop :=
  ∀ source ∈ config.inputs.sources, source.kind ≠ kind

instance (config : Config) (kind : SourceKind) : Decidable (config.Lacks kind) :=
  inferInstanceAs (Decidable (∀ source ∈ config.inputs.sources, source.kind ≠ kind))

/-- No input reports the condition in this pass. -/
def PassInput.Unreported (input : PassInput) (condition : ConditionState) : Prop :=
  ∀ item ∈ (readAll input.config input.readings).observed, item.key ≠ condition.key

/-- An open `host-disk` condition one of whose two kinds of input is still configured, and
which is not named by a label that is gone. -/
def Stranded (config : Config) (condition : ConditionState) : Prop :=
  condition.key.rule = SourceRule.hostDisk.id ∧
    (ruleFor config.effectiveRules condition.key.rule).any EffectiveRule.enabled = true ∧
    config.hasInput .hostPostureOrNqStatus = true ∧
    (condition.inputLabel ∈ config.inputs.sources.map Source.label ∨
      condition.key.targetClass ≠ some condition.inputLabel)

/-! ## Reports and rules -/

variable {input : PassInput} {state : State} {reports : List InputReport}
  {condition : ConditionState}

theorem mem_decided {files : ExtTreeMap Text Intent} {id : Text} {action : Action}
    {reason : ResolveReason} : (id, action, reason) ∈ (input.pass state files).decided ↔
      ∃ result, (id, result) ∈ input.reconciled state ∧
        result.transition = some (action, reason) := by
  simp only [PassInput.pass, List.mem_filterMap, Option.map_eq_some_iff, Prod.exists,
    Prod.mk.injEq]
  constructor
  · rintro ⟨other, result, hmem, action', reason', htransition, rfl, rfl, rfl⟩
    exact ⟨result, hmem, htransition⟩
  · rintro ⟨result, hmem, htransition⟩
    exact ⟨id, result, hmem, action, reason, htransition, rfl, rfl, rfl⟩

/-- The input a report is about. -/
def InputReport.source (report : InputReport) : Source := ⟨report.kind, report.label⟩

theorem faultCollision_sources (reports : List InputReport) (collision : Text × Text × Text) :
    (faultCollision reports collision).map InputReport.source = reports.map InputReport.source := by
  simp only [faultCollision, List.map_map]
  refine List.map_congr_left fun report _ => ?_
  simp only [Function.comp_apply]
  split <;> rfl

theorem faultFirst_sources (label message : Text) (reports : List InputReport) :
    (faultFirst label message reports).map InputReport.source = reports.map InputReport.source := by
  induction reports with
  | nil => rfl
  | cons report rest ih =>
    unfold faultFirst
    split
    · rfl
    · rw [List.map_cons, ih, List.map_cons]

theorem faultUnreported_sources (config : Config) (observed : ExtTreeMap Text Observed)
    (currentLabels : List Text) (reports : List InputReport) (entry : Text × ConditionState) :
    (faultUnreported config observed currentLabels reports entry).map InputReport.source =
      reports.map InputReport.source := by
  fun_cases faultUnreported config observed currentLabels reports entry <;>
    first | rfl | exact faultFirst_sources _ _ _

/-- The final reports of a pass are about the configured inputs, in order. -/
theorem readout_sources (input : PassInput) (state : State) :
    (input.readout state).reports.map InputReport.source = input.config.inputs.sources := by
  let sourced := fun reports : List InputReport =>
    reports.map InputReport.source = input.config.inputs.sources
  exact List.foldlRecOn (motive := sourced) _ _
    (List.foldlRecOn (motive := sourced) _ _ (readAll_sources input.config input.readings)
      fun reports h collision _ => (faultCollision_sources reports collision).trans h)
    fun reports h entry _ => (faultUnreported_sources _ _ _ reports entry).trans h

/-- A label has a status exactly when a configured input has it. -/
theorem statusOf_isSome {label : Text} :
    (statusOf reports label).isSome = true ↔ label ∈ reports.map InputReport.label := by
  simp only [statusOf, Option.isSome_map, List.find?_isSome, List.mem_reverse,
    decide_eq_true_eq, List.mem_map]

theorem status_isSome_iff (input : PassInput) (state : State) (label : Text) :
    (statusOf (input.readout state).reports label).isSome = true ↔
      label ∈ input.config.inputs.sources.map Source.label := by
  rw [statusOf_isSome, ← readout_sources input state, List.map_map]
  rfl

/-- The kind of input each reported rule reads. -/
theorem rule_source (source : SourceRule) :
    ∃ found, rule source.id = some found ∧ found.id = source.id ∧ found.input =
      match source with
      | .hostPostureUnknown => InputKind.hostPosture
      | .hostDisk => .hostPostureOrNqStatus
      | .nqNoFreshAcquisition => .hostPosture
      | .serviceDown => .nqStatus
      | .memoryPressure => .nqStatus
      | .nightshiftRecurrenceMissing => .nightshift
      | .sqliteHealth => .savedCheck := by
  cases source <;> exact ⟨_, rfl, rfl, rfl⟩

/-- Without inputs of a kind, no rule but `host-disk` that the kind feeds has an input. -/
theorem hasInput_of_lacks {config : Config} {kind : SourceKind} {source : SourceRule}
    (hlacks : config.Lacks kind) (hreports : kind.reports source = true)
    (hdisk : source ≠ .hostDisk) {found : Rule} (hrule : rule source.id = some found) :
    config.hasInput found.input = false := by
  obtain ⟨other, hother, _, hinput⟩ := rule_source source
  obtain rfl : found = other := Option.some.inj (hrule.symm.trans hother)
  rw [hinput]
  have hnone : ∀ (member : Source), member.kind = kind → member ∉ config.inputs.sources :=
    fun member hkind hmem => hlacks member hmem hkind
  cases kind <;> cases source <;>
    first
    | exact absurd hreports (by decide)
    | exact absurd rfl hdisk
    | skip
  · cases hlist : config.inputs.hostPosture with
    | nil => simp [Config.hasInput, hlist]
    | cons head rest => exact absurd (by simp [Inputs.sources, hlist]) (hnone ⟨_, head.label⟩ rfl)
  · cases hlist : config.inputs.hostPosture with
    | nil => simp [Config.hasInput, hlist]
    | cons head rest => exact absurd (by simp [Inputs.sources, hlist]) (hnone ⟨_, head.label⟩ rfl)
  · cases hlist : config.inputs.nqStatus with
    | none => simp [Config.hasInput, hlist]
    | some head => exact absurd (by simp [Inputs.sources, hlist]) (hnone ⟨_, head.label⟩ rfl)
  · cases hlist : config.inputs.nqStatus with
    | none => simp [Config.hasInput, hlist]
    | some head => exact absurd (by simp [Inputs.sources, hlist]) (hnone ⟨_, head.label⟩ rfl)
  · cases hlist : config.inputs.nightshift with
    | none => simp [Config.hasInput, hlist]
    | some head => exact absurd (by simp [Inputs.sources, hlist]) (hnone ⟨_, head.label⟩ rfl)
  · cases hlist : config.inputs.savedChecks with
    | nil => simp [Config.hasInput, hlist]
    | cons head rest =>
      exact absurd (by simp [Inputs.sources, hlist]) (hnone ⟨_, head.reference⟩ rfl)

/-! ## An open condition nothing reports -/

/-- A condition no input reports has no observation in the pass. -/
theorem observed_eq_none {id : Text} (hfiled : condition.key.id = id ∧ condition.key.Plain)
    (hrule : condition.key.rule ≠ inputUnavailable) (hunreported : input.Unreported condition) :
    (input.readout state).observed[id]? = none := by
  cases hitem : (input.readout state).observed[id]? with
  | none => rfl
  | some item =>
    obtain ⟨hid, hplain⟩ := readout_key hitem
    have hkey : item.key = condition.key := hplain.id_inj hfiled.2 (hid.trans hfiled.1.symm)
    rcases readout_getElem? hitem with hinput | ⟨_, _, _, key, hfault, _, rfl⟩
    · obtain ⟨origin, horigin, _, hsame, _⟩ := gather_key hinput
      exact absurd (hsame.symm.trans hkey) (hunreported origin horigin)
    · exact absurd (hkey ▸ (faultKey_rule hfault).1) hrule

/-- An active condition without an observation is resolved as no longer evaluated when it
counts as removed, and nothing is decided for it when it counts as unknown. -/
theorem reconcile_unobserved {config : Config} {now : Int} (hactive : condition.active = true) :
    (reconcile config now reports none condition).transition =
      if observationOf config reports none condition = .removed then
        some (.resolve, .noLongerEvaluated) else none := by
  have hcases : observationOf config reports none condition = .removed ∨
      observationOf config reports none condition = .unknown := by
    simp only [observationOf]
    repeat' split
    all_goals first | exact .inl rfl | exact .inr rfl
  rw [reconcile_transition]
  unfold passStep
  rw [show condition.relabelled none = condition from rfl]
  rcases hcases with hobservation | hobservation
  · simp [hobservation, step, hactive, resolveReason]
  · rw [hobservation]
    dsimp only [step]
    split <;> simp

/-- When an unreported condition of a removed kind of input counts as removed. -/
theorem observationOf_removed_iff {kind : SourceKind} {source : SourceRule}
    (hreports : kind.reports source = true) (hrule : condition.key.rule = source.id)
    (hlacks : input.config.Lacks kind) :
    observationOf input.config (input.readout state).reports none condition = .removed ↔
      ¬ Stranded input.config condition := by
  obtain ⟨found, hfound, _, hinput⟩ := rule_source source
  have hlookup : ruleFor input.config.effectiveRules condition.key.rule =
      some (input.config.effective found) := by
    rw [ruleFor_effectiveRules, hrule, hfound]
    rfl
  have hevaluator : condition.key.rule ≠ inputUnavailable := by
    rw [hrule]
    cases source <;> decide
  have hstatus := status_isSome_iff input state condition.inputLabel
  unfold observationOf Stranded
  simp only [hevaluator, if_false, hlookup, Option.any_some]
  by_cases hdisk : source = .hostDisk
  · -- the composite kind: what counts is the label
    subst hdisk
    have hkind : (input.config.effective found).rule.input = .hostPostureOrNqStatus := hinput
    rw [hkind]
    by_cases hon : (input.config.effective found).enabled = true ∧
        input.config.hasInput .hostPostureOrNqStatus = true
    · rw [if_pos hon]
      cases hlabel : statusOf (input.readout state).reports condition.inputLabel with
      | some status =>
        have hmem := hstatus.mp (by rw [hlabel]; rfl)
        simp [hon, hrule, hmem]
      | none =>
        have hmem : condition.inputLabel ∉ input.config.inputs.sources.map Source.label :=
          fun hin => by simpa [hlabel] using hstatus.mpr hin
        by_cases htarget : condition.key.targetClass = some condition.inputLabel
        · simp [htarget, hmem]
        · simp [hon, hrule, htarget]
    · rw [if_neg hon]
      simp only [true_iff]
      rintro ⟨_, henabled, hhas, _⟩
      exact hon ⟨henabled, hhas⟩
  · have hhas : input.config.hasInput (input.config.effective found).rule.input = false :=
      hasInput_of_lacks hlacks hreports hdisk hfound
    have hother : condition.key.rule ≠ SourceRule.hostDisk.id := by
      rw [hrule]
      cases source <;> first | exact absurd rfl hdisk | decide
    simp [hhas, hother]

/-- An open condition last reported by an input of a kind the configuration no longer names,
and reported by no other input, is resolved as no longer evaluated exactly when it is not
stranded. -/
theorem removed_kind_resolves_iff {prior : Config} {input : PassInput} {disk : Disk} {pass : Pass}
    {state : State} {id : Text} {condition : ConditionState} {kind : SourceKind}
    (hpass : input.evaluate disk = .ok pass) (hdisk : disk.state = some state)
    (hfiled : state.WellFiled) (hcondition : state.conditions[id]? = some condition)
    (hactive : condition.active = true) (hrule : condition.key.rule ≠ inputUnavailable)
    (hreported : LastReported prior kind condition) (hlacks : input.config.Lacks kind)
    (hunreported : input.Unreported condition) :
    (id, .resolve, .noLongerEvaluated) ∈ pass.decided ↔ ¬ Stranded input.config condition := by
  obtain ⟨loaded, hload, _, rfl⟩ := evaluate_eq_ok.mp hpass
  obtain rfl : loaded = state := by
    rcases (load_eq_ok _ _ _).mp hload with ⟨hnone, _⟩ | ⟨hsome, _⟩
    · simp [hdisk] at hnone
    · exact Option.some.inj (hsome.symm.trans hdisk)
  have hobserved : (input.readout loaded).observed[id]? = none :=
    observed_eq_none (hfiled id condition hcondition) hrule hunreported
  obtain ⟨source, hsource, hname⟩ := hreported.rule
  have hremoved : observationOf input.config (input.readout loaded).reports none condition =
      .removed ↔ ¬ Stranded input.config condition :=
    observationOf_removed_iff hsource hname hlacks
  rw [← hremoved, mem_decided]
  have hstart : startOf (input.readout loaded) loaded.conditions id = some condition := by
    simp [startOf, hcondition]
  have hmem : ∀ result, (id, result) ∈ input.reconciled loaded ↔
      result = reconcile input.config input.now (input.readout loaded).reports none condition := by
    intro result
    rw [PassInput.reconciled, mem_reconcileAll, hobserved, hstart]
    simp
  simp only [hmem, exists_eq_left, reconcile_unobserved hactive]
  split <;> simp_all

namespace Reference

/-- An open condition of a rule, last reported by the input with a label. -/
def openCondition (key : ConditionKey) (label : Text) : ConditionState :=
  { key, ruleVersion := 1, inputLabel := label
    firstSeen := some 1000, lastSeen := some 2000, clearSince := none, unknownSince := none
    active := true, transitionAt := some 1960
    lastIntent := .none, pendingTrigger := .none, pageDeferred := false }

/-- A state with one condition. -/
def stateOf (condition : ConditionState) : State :=
  { State.empty "lab" with
    updatedAt := 2000
    conditions := (∅ : ExtTreeMap Text ConditionState).insert condition.key.id condition }

theorem stateOf_wellFiled {condition : ConditionState} (h : condition.key.Plain) :
    (stateOf condition).WellFiled := by
  intro id found hfound
  simp only [stateOf, getElem?_insert_iff] at hfound
  split at hfound
  · rename_i hid
    cases hfound
    exact ⟨hid, h⟩
  · simp at hfound

/-- A filesystem watcher of the NQ status input reports capacity pressure. -/
def diskOpen : ConditionState :=
  openCondition
    { site := "lab", component := "host_posture", rule := "host-disk"
      targetClass := some "fs-data" } "nq"

/-- A systemd unit the NQ status input reports is not active. -/
def serviceOpen : ConditionState :=
  openCondition
    { site := "lab", component := "service", rule := "service-down"
      targetClass := some "demo.service" } "nq"

/-- The next pass, with the NQ status input removed and the host-posture input kept. -/
def withoutNq : PassInput :=
  { config := config hostOnly [], now := 2060
    readings := fun _ => current [⟨.hostDisk, some "root", .clear⟩], answers := accepting }

end Reference

open Reference

/-- An open `host-disk` condition of an NQ filesystem watcher is neither resolved nor
reported when the NQ status input is removed and a host-posture input stays. -/
theorem removed_kind_stays_open : (config both []).validate = .ok () ∧
      withoutNq.config.validate = .ok () ∧
      LastReported (config both []) .nqStatus diskOpen ∧
      withoutNq.config.Lacks .nqStatus ∧
      withoutNq.Unreported diskOpen ∧
      ∃ pass, withoutNq.evaluate ⟨some (stateOf diskOpen), ∅⟩ =
          .ok pass ∧ (diskOpen.key.id, Action.resolve, ResolveReason.noLongerEvaluated) ∉
          pass.decided ∧
        (pass.state.conditions[diskOpen.key.id]?).any ConditionState.active = true := by
  have hobserved : (readAll withoutNq.config
      withoutNq.readings).observed.all
        (fun item => decide (item.key ≠ diskOpen.key)) = true := by decide +kernel
  refine ⟨by decide +kernel, by decide +kernel, ⟨by decide, .hostDisk, rfl, rfl⟩, by decide,
    fun item hitem => of_decide_eq_true (List.all_eq_true.mp hobserved item hitem),
    withoutNq.pass (stateOf diskOpen) ∅, ?_, by decide +kernel,
    by decide +kernel⟩
  exact evaluate_eq_ok.mpr ⟨stateOf diskOpen, rfl, by decide, rfl⟩

/-- A `service-down` condition is resolved when the NQ status input is removed. -/
theorem removed_kind_resolves_service :
    ¬ Stranded withoutNq.config serviceOpen ∧
      (serviceOpen.key.id, Action.resolve, ResolveReason.noLongerEvaluated) ∈
        (withoutNq.pass (stateOf serviceOpen) ∅).decided := by
  have hobserved : (readAll withoutNq.config
      withoutNq.readings).observed.all
        (fun item => decide (item.key ≠ serviceOpen.key)) = true := by decide +kernel
  have hstranded : ¬ Stranded withoutNq.config serviceOpen :=
    fun h => absurd h.1 (by decide)
  have hpass : withoutNq.evaluate ⟨some (stateOf serviceOpen), ∅⟩ =
      .ok (withoutNq.pass (stateOf serviceOpen) ∅) :=
    evaluate_eq_ok.mpr ⟨stateOf serviceOpen, rfl, by decide, rfl⟩
  have hfiled : (stateOf serviceOpen).WellFiled :=
    stateOf_wellFiled ⟨by decide, by decide, by decide, by decide⟩
  have hfound : (stateOf serviceOpen).conditions[
      serviceOpen.key.id]? = some serviceOpen := by
    simp [stateOf]
  have hreported : LastReported (config both []) .nqStatus
      serviceOpen := ⟨by decide, .serviceDown, rfl, rfl⟩
  exact ⟨hstranded, (removed_kind_resolves_iff hpass rfl hfiled hfound rfl (by decide) hreported
    (by decide) fun item hitem =>
      of_decide_eq_true (List.all_eq_true.mp hobserved item hitem)).mpr hstranded⟩

end ConstellationMonitor.Attention
