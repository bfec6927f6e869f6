/-
  Attention/Faults.lean --- an input that stays faulty is reported.

  Every fault class of an input is a condition of its own with its own presence clock.  A
  class the input does not show while it is faulty is unknown, and unknown time moves the
  start of an open interval forward instead of closing it, so the clock keeps what it has
  counted.  Whatever classes an input shows from pass to pass, one of the seven clocks runs
  between any two passes; hence one of them passes the bound.
-/
import ConstellationMonitor.Attention.Turns
import ConstellationMonitor.Attention.Removal

namespace ConstellationMonitor.Attention

open Foundation
open Std (ExtTreeMap)

/-! ## Labels of a valid configuration -/

variable {label site : Text} {cause : FaultClass} {report : InputReport} {input : PassInput}
  {state : State} {condition : ConditionState} {counted now : Int} {shown : Bool}

theorem admitLabel_eq_ok {labels next : List Text} : admitLabel labels label = .ok next ↔
      IsToken label 34 ∧ label ∉ labels ∧ next = label :: labels := by
  unfold admitLabel
  rw [check_bind_eq_ok, check_bind_eq_ok, validateToken_eq_ok, refuseIf_eq_ok,
    decide_eq_false_iff_not]
  simp [pure, Except.pure, eq_comm]

/-- What a fold that admits the label of each input has admitted. -/
theorem admit_foldlM {α : Type} {accept : List Text → α → Except Text (List Text)}
    (label : α → Text) (haccept : ∀ labels value next, accept labels value = .ok next →
      admitLabel labels (label value) = .ok next)
    {values : List α} {start last : List Text} (h : values.foldlM accept start = .ok last) :
    last = (values.map label).reverse ++ start ∧
      (∀ value ∈ values, IsToken (label value) 34) ∧ (start.Nodup → last.Nodup) := by
  induction values generalizing start with
  | nil =>
    obtain rfl : start = last := by simpa [pure, Except.pure] using h
    simp
  | cons head rest ih =>
    rw [List.foldlM_cons, except_bind_eq_ok] at h
    obtain ⟨next, hhead, hrest⟩ := h
    obtain ⟨htoken, hnew, rfl⟩ := admitLabel_eq_ok.mp (haccept _ _ _ hhead)
    obtain ⟨rfl, htokens, hnodup⟩ := ih hrest
    refine ⟨by simp, ?_, fun hstart => hnodup (List.nodup_cons.mpr ⟨hnew, hstart⟩)⟩
    simpa using ⟨htoken, htokens⟩

/-- The labels of a valid configuration are distinct tokens, and its site is a token. -/
structure Config.Labelled (config : Config) : Prop where
  site : IsToken config.site 64
  labels : ∀ source ∈ config.inputs.sources, IsToken source.label 34
  nodup : (config.inputs.sources.map Source.label).Nodup

theorem validateHostPosture_admits (labels : List Text) (input : HostPostureInput)
    (next : List Text) (h : validateHostPosture labels input = .ok next) :
    admitLabel labels input.label = .ok next := by
  obtain ⟨admitted, hadmitted, hrest⟩ := (except_bind_eq_ok _ _ _).mp h
  simp_all [pure, Except.pure]

theorem validateNqStatus_admits (labels : List Text) (input : NqStatusInput) (next : List Text)
    (h : validateNqStatus labels input = .ok next) : admitLabel labels input.label = .ok next := by
  obtain ⟨admitted, hadmitted, hrest⟩ := (except_bind_eq_ok _ _ _).mp h
  simp_all [pure, Except.pure]

theorem validateNightshift_admits (labels : List Text) (input : NightshiftInput)
    (next : List Text) (h : validateNightshift labels input = .ok next) :
    admitLabel labels input.label = .ok next := by
  obtain ⟨admitted, hadmitted, hrest⟩ := (except_bind_eq_ok _ _ _).mp h
  simp_all [pure, Except.pure]

theorem validateSavedCheck_admits (labels : List Text) (input : SavedCheckInput)
    (next : List Text) (h : validateSavedCheck labels input = .ok next) :
    admitLabel labels input.reference = .ok next := by
  obtain ⟨admitted, hadmitted, hrest⟩ := (except_bind_eq_ok _ _ _).mp h
  simp_all [pure, Except.pure]

theorem validateInputs_labels {inputs : Inputs} {labels : List Text}
    (h : validateInputs inputs = .ok labels) :
    (∀ source ∈ inputs.sources, IsToken source.label 34) ∧
      (inputs.sources.map Source.label).Nodup := by
  obtain ⟨afterHosts, hhosts, h⟩ := (except_bind_eq_ok _ _ _).mp h
  obtain ⟨afterNq, hnq, h⟩ := (except_bind_eq_ok _ _ _).mp h
  obtain ⟨afterNightshift, hnightshift, hchecks⟩ := (except_bind_eq_ok _ _ _).mp h
  obtain ⟨hlabels1, htokens1, hnodup1⟩ := admit_foldlM _ validateHostPosture_admits hhosts
  obtain ⟨hlabels2, htokens2, hnodup2⟩ := admit_foldlM _ validateNqStatus_admits hnq
  obtain ⟨hlabels3, htokens3, hnodup3⟩ := admit_foldlM _ validateNightshift_admits hnightshift
  obtain ⟨hlabels4, htokens4, hnodup4⟩ := admit_foldlM _ validateSavedCheck_admits hchecks
  constructor
  · intro source hsource
    simp only [Inputs.sources, List.mem_append, List.mem_map] at hsource
    rcases hsource with ((⟨input, hinput, rfl⟩ | ⟨input, hinput, rfl⟩) | ⟨input, hinput, rfl⟩) |
      ⟨input, hinput, rfl⟩
    · exact htokens1 input hinput
    · exact htokens2 input hinput
    · exact htokens3 input hinput
    · exact htokens4 input hinput
  · have hall : labels.Nodup := hnodup4 (hnodup3 (hnodup2 (hnodup1 List.nodup_nil)))
    have hsources : labels = (inputs.sources.map Source.label).reverse := by
      rw [hlabels4, hlabels3, hlabels2, hlabels1]
      simp [Inputs.sources, Function.comp_def]
    exact List.nodup_reverse.mp (hsources ▸ hall)

theorem validate_labelled {config : Config} (h : config.validate = .ok ()) : config.Labelled := by
  unfold Config.validate at h
  simp only [check_bind_eq_ok, validateToken_eq_ok] at h
  obtain ⟨_, hsite, _, _, _, _, _, _, _, h⟩ := h
  obtain ⟨labels, hinputs, _⟩ := (except_bind_eq_ok _ _ _).mp h
  obtain ⟨htokens, hnodup⟩ := validateInputs_labels hinputs
  exact ⟨hsite, htokens, hnodup⟩

/-! ## The conditions of an input's fault classes -/

/-- The key of a fault class of an input. -/
def faultKeyOf (site : Text) (source : Source) (cause : FaultClass) : ConditionKey :=
  { site, component := source.kind.component, rule := inputUnavailable
    targetClass := some (source.label ++ "." ++ cause.text) }

theorem cause_isToken (cause : FaultClass) : IsToken cause.text 13 := by
  rw [← validateToken_eq_ok "target_class"]
  cases cause <;> decide +kernel

theorem component_isToken (kind : SourceKind) : IsToken kind.component 64 := by
  rw [← validateToken_eq_ok "component"]
  cases kind <;> decide +kernel

theorem inputUnavailable_isToken : IsToken inputUnavailable 64 := by
  rw [← validateToken_eq_ok "rule"]
  decide +kernel

/-- Every fault class of a configured input has a valid key. -/
theorem faultKey_eq_ok {config : Config} (h : config.Labelled) {report : InputReport}
    (hreport : report.source ∈ config.inputs.sources) (cause : FaultClass) :
    faultKey config.site report cause = .ok (faultKeyOf config.site report.source cause) := by
  refine (new_eq_ok _ _ _ _ _).mpr ⟨h.site, component_isToken _, inputUnavailable_isToken, ?_, rfl⟩
  intro target htarget
  obtain rfl := Option.some.inj htarget
  exact (h.labels _ hreport).append_dot (cause_isToken cause) (by decide)

/-- A class has no dot, so `{label}.{class}` determines both. -/
theorem label_dot_cause_inj {label' : Text} {cause' : FaultClass}
    (h : label ++ "." ++ cause.text = label' ++ "." ++ cause'.text) :
    label = label' ∧ cause = cause' := by
  have hdot : (Text.ofString ".").bytes = [0x2e] := by decide
  have hclass : ∀ cause : FaultClass, (0x2e : UInt8) ∉ cause.text.bytes.reverse := by
    intro cause
    cases cause <;> decide
  have hbytes := congrArg (fun text => text.bytes.reverse) h
  simp only [Text.bytes_append, hdot, List.reverse_append, List.reverse_singleton,
    List.singleton_append] at hbytes
  obtain ⟨hcause, hlabel⟩ := append_separator_inj (hclass cause) (hclass cause') hbytes
  refine ⟨congrArg Text.mk (List.reverse_injective hlabel), ?_⟩
  have htext : cause.text = cause'.text := congrArg Text.mk (List.reverse_injective hcause)
  revert htext
  cases cause <;> cases cause' <;> decide

theorem faultKeyOf_plain {config : Config} (h : config.Labelled) {source : Source}
    (hsource : source ∈ config.inputs.sources) (cause : FaultClass) :
    (faultKeyOf config.site source cause).Plain :=
  have hkey := @faultKey_eq_ok config h ⟨source.label, source.kind, .ok, none, []⟩ hsource cause
  (faultKey_rule hkey).2

/-! ## What a pass observes of a faulty input -/

/-- What some round of a fold establishes and no round undoes, the fold establishes. -/
theorem foldl_establishes {α β : Type} (holds : β → Prop) {f : β → α → β}
    (hkeep : ∀ state value, holds state → holds (f state value)) {values : List α} {value : α}
    (hmem : value ∈ values) (hhit : ∀ state, holds (f state value)) (state : β) :
    holds (values.foldl f state) := by
  induction values generalizing state with
  | nil => simp at hmem
  | cons head rest ih =>
    rcases List.mem_cons.mp hmem with rfl | hmem
    · exact List.foldlRecOn rest f (hhit state) fun state h value _ => hkeep state value h
    · exact ih hmem _

theorem observeFault_isSome {id : Text} {observed : ExtTreeMap Text Observed}
    (h : (observed[id]?).isSome = true) :
    ((observeFault site report observed cause)[id]?).isSome = true := by
  unfold observeFault
  split
  · exact h
  · split
    · exact h
    · rw [ExtTreeMap.getElem?_insertIfNew]
      split
      · rfl
      · exact h

theorem observeFault_isSome_self {key : ConditionKey} (hkind : report.kind ≠ .hostPosture)
    (hkey : faultKey site report cause = .ok key) (observed : ExtTreeMap Text Observed) :
    ((observeFault site report observed cause)[key.id]?).isSome = true := by
  unfold observeFault
  rw [if_neg fun h => hkind h.1, hkey]
  simp only [ExtTreeMap.getElem?_insertIfNew]
  split
  · rfl
  · rename_i hmem
    simp only [Std.ReflOrd.compare_self, true_and, not_not] at hmem
    exact ExtTreeMap.mem_iff_isSome_getElem?.mp hmem

/-- The final reports of a pass, by label. -/
theorem report_unique (h : input.config.Labelled) {left right : InputReport}
    (hleft : left ∈ (input.readout state).reports) (hright : right ∈ (input.readout state).reports)
    (hlabel : left.label = right.label) : left = right := by
  have hnodup : ((input.readout state).reports.map InputReport.label).Nodup := by
    have := h.nodup
    rw [← readout_sources input state, List.map_map] at this
    exact this
  exact List.inj_on_of_nodup_map hnodup hleft hright hlabel

theorem report_source_mem (h : report ∈ (input.readout state).reports) :
    report.source ∈ input.config.inputs.sources := by
  rw [← readout_sources input state]
  exact List.mem_map_of_mem h

/-- Each fault class of an input other than host posture is observed as its final report
says. -/
theorem readout_fault (h : input.config.Labelled)
    (henabled : (ruleFor input.config.effectiveRules inputUnavailable).any
      EffectiveRule.enabled = true) (hreport : report ∈ (input.readout state).reports)
    (hkind : report.kind ≠ .hostPosture) (cause : FaultClass) :
    ∃ item, (input.readout state).observed[
        (faultKeyOf input.config.site report.source cause).id]? = some item ∧
      item.key = faultKeyOf input.config.site report.source cause ∧
      item.observation = faultObservation report cause := by
  have hkey := faultKey_eq_ok h (report_source_mem hreport) cause
  have hplain := (faultKey_rule hkey).2
  have hcause : cause ∈ inputCauses := by cases cause <;> decide
  have hthere : ((input.readout state).observed[
      (faultKeyOf input.config.site report.source cause).id]?).isSome = true := by
    unfold PassInput.readout readout at hreport ⊢
    dsimp only at hreport ⊢
    rw [if_pos henabled]
    let holds := fun observed : ExtTreeMap Text Observed =>
      (observed[(faultKeyOf input.config.site report.source cause).id]?).isSome = true
    refine foldl_establishes holds ?_ hreport ?_ _
    · exact fun observed other hsome => List.foldlRecOn _ _ hsome
        fun _ hsome _ _ => observeFault_isSome hsome
    · intro observed
      exact @foldl_establishes _ _ holds (observeFault input.config.site report)
        (fun _ _ hsome => observeFault_isSome hsome) _ _ hcause
        (observeFault_isSome_self hkind hkey) observed
  obtain ⟨item, hitem⟩ := Option.isSome_iff_exists.mp hthere
  obtain ⟨hid, hitemPlain⟩ := readout_key hitem
  have hsame : item.key = faultKeyOf input.config.site report.source cause :=
    hitemPlain.id_inj hplain hid
  refine ⟨item, hitem, hsame, ?_⟩
  rcases readout_getElem? hitem with hinput | ⟨other, hother, cause', key, hkey', hid', rfl⟩
  · obtain ⟨origin, horigin, _, horiginKey, _⟩ := gather_key hinput
    obtain ⟨_, _, rule, _, _, hrule, _⟩ := mem_readAll_observed horigin
    have : rule.id = inputUnavailable := by rw [← hrule, ← horiginKey, hsame]; rfl
    exact absurd this (by cases rule <;> decide)
  · have hotherKey := faultKey_eq_ok h (report_source_mem hother) cause'
    rw [hotherKey] at hkey'
    obtain rfl := Except.ok.inj hkey'
    obtain ⟨hlabel, rfl⟩ := label_dot_cause_inj
      (Option.some.inj (congrArg ConditionKey.targetClass hsame))
    rw [report_unique h hother hreport hlabel]

/-! ## Every fault has a class -/

theorem readAll_explained (config : Config) (readings : Source → Reading) :
    ∀ report ∈ (readAll config readings).reports, report.Explained := by
  intro report hreport
  simp only [readAll, List.mem_map] at hreport
  obtain ⟨source, _, rfl⟩ := hreport
  exact completed_explained _

theorem faultFirst_explained {message : Text} {reports : List InputReport}
    (h : ∀ report ∈ reports, report.Explained) :
    ∀ report ∈ faultFirst label message reports, report.Explained := by
  induction reports with
  | nil => simp [faultFirst]
  | cons head rest ih =>
    obtain ⟨hhead, hrest⟩ := List.forall_mem_cons.mp h
    unfold faultFirst
    split
    · exact List.forall_mem_cons.mpr ⟨fault_explained _ _ _ _, hrest⟩
    · exact List.forall_mem_cons.mpr ⟨hhead, ih hrest⟩

/-- The final reports of a pass name a class for every fault. -/
theorem readout_explained (input : PassInput) (state : State) :
    ∀ report ∈ (input.readout state).reports, report.Explained := by
  let explained := fun reports : List InputReport => ∀ report ∈ reports, report.Explained
  refine List.foldlRecOn (motive := explained) _ _ (List.foldlRecOn (motive := explained) _ _
    (readAll_explained _ _) fun reports h collision _ report hreport => ?_)
    fun reports h entry _ => ?_
  · obtain ⟨before, hbefore, rfl⟩ := List.mem_map.mp hreport
    split
    · exact fault_explained _ _ _ _
    · exact h before hbefore
  · fun_cases faultUnreported <;> first | exact h | exact faultFirst_explained h

/-! ## The clock of one fault class -/

/-- What a class's presence interval says after a pass at `now`: at least `counted` seconds
of presence; `shown` tells whether that pass observed it present. -/
inductive Clock (condition : ConditionState) (now counted : Int) : Bool → Prop
  /-- nothing counted yet -/
  | idle (hcounted : counted = 0) (hfirst : ∀ first ∈ condition.firstSeen, first ≤ now) :
      Clock condition now counted false
  | running {first : Int} (hfirst : condition.firstSeen = some first)
      (hunknown : condition.unknownSince = none) (hcounted : counted ≤ now - first) :
      Clock condition now counted true
  /-- held since the unknown run began -/
  | held {first since : Int} (hfirst : condition.firstSeen = some first)
      (hunknown : condition.unknownSince = some since) (hsince : since ≤ now)
      (hcounted : counted ≤ since - first) : Clock condition now counted false

/-- A present observation that does not trigger leaves the clock running within the bound,
and none of what was counted is lost. -/
theorem Clock.present (h : Clock condition now counted shown) {later bound : Int}
    (hlater : now ≤ later) (hinactive : condition.active = false)
    (hquiet : (step condition .present bound later).1.active = false) :
    Clock (step condition .present bound later).1 later
        (counted + if shown then later - now else 0) true ∧
      counted + (if shown then later - now else 0) ≤ bound := by
  have hwithin : later - condition.presentSince later ≤ bound := by
    by_contra hpast
    simp [step, hinactive, not_le.mp hpast] at hquiet
  have hcounted : counted + (if shown then later - now else 0) ≤
      later - condition.presentSince later := by
    cases h with
    | idle hzero hfirst =>
      subst hzero
      simp only [Bool.false_eq_true, if_false, add_zero]
      unfold ConditionState.presentSince
      split
      · omega
      · cases hseen : condition.firstSeen with
        | none => simp
        | some first =>
          have := hfirst first hseen
          simp only [Option.getD_some]
          omega
    | running hfirst hunknown hcounted =>
      simp only [ConditionState.presentSince, ConditionState.unknownRun, hunknown,
        Option.map_none, Option.filter_none, hfirst, Option.getD_some, if_true]
      omega
    | held hfirst hunknown hsince hcounted =>
      rename_i first since
      simp only [ConditionState.presentSince, ConditionState.unknownRun, hunknown,
        Option.map_some, hinactive, hfirst, Bool.false_eq_true, if_false, add_zero]
      cases hrun : Option.filter (fun run => decide (run > unknownGapSeconds))
          (some (later - since)) with
      | none => simp only [Option.getD_some]; omega
      | some run =>
        obtain ⟨hsame, _⟩ := Option.filter_eq_some_iff.mp hrun
        obtain rfl := Option.some.inj hsame
        simp only
        omega
  refine ⟨?_, hcounted.trans hwithin⟩
  refine @Clock.running _ _ _ (condition.presentSince later) ?_ ?_ hcounted
  · dsimp only [step]
    split <;> rfl
  · dsimp only [step]
    split <;> rfl

/-- An unknown observation holds the clock. -/
theorem Clock.unknown (h : Clock condition now counted shown) {later bound : Int}
    (hlater : now ≤ later) (hinactive : condition.active = false) :
    Clock (step condition .unknown bound later).1 later
      (counted + if shown then later - now else 0) false := by
  have hstep : (step condition .unknown bound later).1 =
      if condition.firstSeen.isSome then
        { condition with unknownSince := some (condition.unknownSince.getD later) }
      else condition := by
    simp only [step, ConditionState.intervalOpen, hinactive, Bool.false_eq_true, if_false]
    split <;> rfl
  rw [hstep]
  cases h with
  | idle hzero hfirst =>
    refine .idle (by simp [hzero]) fun first hmem => ?_
    have hfirst' : first ∈ condition.firstSeen := by
      split at hmem <;> exact hmem
    exact (hfirst first hfirst').trans hlater
  | running hfirst hunknown hcounted =>
    rename_i first
    rw [if_pos (by simp [hfirst])]
    refine .held hfirst (by simp [hunknown]) le_rfl ?_
    simp only [if_true]
    omega
  | held hfirst hunknown hsince hcounted =>
    rename_i first since
    rw [if_pos (by simp [hfirst])]
    exact .held hfirst (by simp [hunknown]) (hsince.trans hlater) (by simpa using hcounted)

/-! ## The clocks through a pass -/

/-- Two conditions with the same key and the same presence interval. -/
structure SameClock (left right : ConditionState) : Prop where
  key : left.key = right.key
  active : left.active = right.active
  firstSeen : left.firstSeen = right.firstSeen
  unknownSince : left.unknownSince = right.unknownSince

theorem SameClock.clock {left right : ConditionState} (h : SameClock left right)
    (hclock : Clock right now counted shown) : Clock left now counted shown := by
  cases hclock with
  | idle hcounted hfirst => exact .idle hcounted (h.firstSeen ▸ hfirst)
  | running hfirst hunknown hcounted =>
    exact .running (h.firstSeen.trans hfirst) (h.unknownSince.trans hunknown) hcounted
  | held hfirst hunknown hsince hcounted =>
    exact .held (h.firstSeen.trans hfirst) (h.unknownSince.trans hunknown) hsince hcounted

/-- A pass finds an input faulty, with the rule for faulty inputs enabled at a bound. -/
structure PassInput.Faulty (input : PassInput) (state : State) (report : InputReport)
    (bound : Int) : Prop where
  labelled : input.config.Labelled
  enabled : ∃ rule, ruleFor input.config.effectiveRules inputUnavailable = some rule ∧
    rule.enabled = true ∧ rule.persistenceSeconds = bound
  kind : report.kind ≠ .hostPosture
  status : report.status ≠ .ok
  reported : report ∈ (input.readout state).reports

/-- The condition of a fault class of an input. -/
def PassInput.faultId (input : PassInput) (source : Source) (cause : FaultClass) : Text :=
  (faultKeyOf input.config.site source cause).id

section Pass

variable {input : PassInput} {state : State} {report : InputReport} {bound : Int}

/-- A fault class through a pass: from the condition on file, or a fresh one, by one step. -/
theorem PassInput.Faulty.step (h : input.Faulty state report bound)
    (files : ExtTreeMap Text Intent) (cause : FaultClass) : ∃ start condition : ConditionState,
      (∀ saved, state.conditions[input.faultId report.source cause]? = some saved →
        SameClock start saved) ∧ (state.conditions[input.faultId report.source cause]? = none →
        start.key.rule = inputUnavailable ∧ start.active = false ∧ start.firstSeen = none) ∧
      (start.key.rule = inputUnavailable → SameClock condition
        (Attention.step start (faultObservation report cause) bound input.now).1) ∧
      (input.final state files).conditions[input.faultId report.source cause]? =
        if condition.kept input.config then some condition else none := by
  obtain ⟨rule, hrule, henabled, hbound⟩ := h.enabled
  obtain ⟨item, hitem, hkey, hobservation⟩ :=
    readout_fault h.labelled (by simp [hrule, henabled]) h.reported h.kind cause
  obtain ⟨found, hfound⟩ : ∃ found, startOf (input.readout state) state.conditions
      (input.faultId report.source cause) = some found := by
    unfold startOf
    cases state.conditions[input.faultId report.source cause]? with
    | some saved => exact ⟨saved, rfl⟩
    | none => exact ⟨.fresh item, by simp [PassInput.faultId, hitem]⟩
  obtain ⟨condition, hlife, hfinal⟩ := final_getElem? input state files
    (mem_reconciled.mpr ⟨found, hfound, rfl⟩)
  obtain ⟨deferred, hreconciled⟩ := reconcile_condition input.config input.now
    (input.readout state).reports
    ((input.readout state).observed[input.faultId report.source cause]?) found
  refine ⟨found.relabelled (some item), condition, ?_, ?_, ?_, hfinal⟩
  · intro saved hsaved
    obtain rfl : saved = found := by simpa [startOf, hsaved] using hfound
    exact ⟨by simp, by simp, by simp, by simp⟩
  · intro hnone
    have hfresh : found = .fresh item := by
      unfold startOf at hfound
      rw [hnone] at hfound
      simpa [PassInput.faultId, hitem, eq_comm] using hfound
    subst hfresh
    refine ⟨?_, by simp [ConditionState.fresh], by simp [ConditionState.fresh]⟩
    simp [ConditionState.fresh, hkey, faultKeyOf]
  · intro hstart
    have hstep : passStep input.config input.now (input.readout state).reports
        ((input.readout state).observed[input.faultId report.source cause]?) found =
          Attention.step (found.relabelled (some item)) (faultObservation report cause) bound
            input.now := by
      unfold passStep
      have hpersistence : persistenceOf input.config (found.relabelled (some item)) = bound := by
        unfold persistenceOf
        rw [hstart, hrule]
        exact hbound
      rw [show (input.readout state).observed[input.faultId report.source cause]? = some item
        from hitem, hpersistence, ← hobservation]
      rfl
    rw [hreconciled, hstep] at hlife
    have hsame := sameLife_of_eq hlife
    exact ⟨hsame.key, hsame.active, hsame.firstSeen, hsame.unknownSince⟩

/-- The clock of a condition on file; one that is not on file has counted nothing. -/
def ClockOf (found : Option ConditionState) (now counted : Int) (shown : Bool) : Prop :=
  (found = none ∧ counted = 0 ∧ shown = false) ∨
    ∃ condition, found = some condition ∧ condition.key.rule = inputUnavailable ∧
      condition.active = false ∧ Clock condition now counted shown

theorem faultObservation_of_faulty (h : report.status ≠ .ok) (cause : FaultClass) :
    faultObservation report cause = if cause ∈ report.causes then .present else .unknown := by
  simp [faultObservation, h]

/-- A pass of a faulty input that triggers nothing carries the clock of each class on. -/
theorem PassInput.Faulty.clock (h : input.Faulty state report bound)
    (files : ExtTreeMap Text Intent) (cause : FaultClass) {now counted : Int} {shown : Bool}
    (hclock : ClockOf (state.conditions[input.faultId report.source cause]?) now counted shown)
    (hlater : now ≤ input.now) (hquiet : ∀ condition, (input.final state files).conditions[
      input.faultId report.source cause]? = some condition → condition.active = false) :
    ClockOf ((input.final state files).conditions[input.faultId report.source cause]?) input.now
        (counted + if shown then input.now - now else 0) (decide (cause ∈ report.causes)) ∧
      (cause ∈ report.causes → counted + (if shown then input.now - now else 0) ≤ bound) := by
  obtain ⟨start, condition, hsaved, hfresh, hstep, hfinal⟩ := h.step files cause
  have hstart : start.key.rule = inputUnavailable ∧ start.active = false ∧
      Clock start now counted shown := by
    rcases hclock with ⟨hnone, rfl, rfl⟩ | ⟨saved, hfound, hrule, hinactive, hclock⟩
    · obtain ⟨hrule, hinactive, hfirst⟩ := hfresh hnone
      exact ⟨hrule, hinactive, .idle rfl (by simp [hfirst])⟩
    · have hsame := hsaved saved hfound
      exact ⟨hsame.key ▸ hrule, hsame.active.trans hinactive, hsame.clock hclock⟩
  obtain ⟨hrule, hinactive, hclock⟩ := hstart
  have hsame := hstep hrule
  have hkey : condition.key.rule = inputUnavailable := by
    rw [hsame.key, (step_sameRecord _ _ _ _).key, hrule]
  rw [faultObservation_of_faulty h.status] at hsame
  by_cases hcause : cause ∈ report.causes
  · rw [if_pos hcause] at hsame
    have hkept : condition.kept input.config = true := by
      have hseen : condition.firstSeen.isSome = true := by
        rw [hsame.firstSeen]
        dsimp only [Attention.step]
        split <;> rfl
      simp [ConditionState.kept, hseen]
    rw [if_pos hkept] at hfinal
    have hactive := hquiet condition hfinal
    obtain ⟨hnext, hbound⟩ := hclock.present hlater hinactive (hsame.active.symm.trans hactive)
    rw [decide_eq_true hcause]
    exact ⟨.inr ⟨condition, hfinal, hkey, hactive, hsame.clock hnext⟩, fun _ => hbound⟩
  · rw [if_neg hcause] at hsame
    have hnext := hsame.clock (hclock.unknown hlater hinactive)
    have hactive : condition.active = false := by
      rw [hsame.active]
      dsimp only [Attention.step]
      split <;> exact hinactive
    rw [decide_eq_false hcause]
    refine ⟨?_, fun hin => absurd hin hcause⟩
    cases hkept : condition.kept input.config with
    | true =>
      rw [hkept, if_pos rfl] at hfinal
      exact .inr ⟨condition, hfinal, hkey, hactive, hnext⟩
    | false =>
      rw [hkept, if_neg (by simp)] at hfinal
      have hseen : condition.firstSeen = none := by
        simp only [ConditionState.kept, Bool.or_eq_false_iff] at hkept
        simpa using hkept.1.1.2
      refine .inl ⟨hfinal, ?_, rfl⟩
      cases hnext with
      | idle hcounted _ => exact hcounted
      | held hfirst _ _ _ => simp [hseen] at hfirst

/-- A fault class that has triggered stays active while the input is faulty. -/
theorem PassInput.Faulty.stays_active (h : input.Faulty state report bound)
    (files : ExtTreeMap Text Intent) (cause : FaultClass) {saved : ConditionState}
    (hfound : state.conditions[input.faultId report.source cause]? = some saved)
    (hrule : saved.key.rule = inputUnavailable) (hactive : saved.active = true) :
    ∃ condition, (input.final state files).conditions[input.faultId report.source cause]? =
      some condition ∧ condition.active = true := by
  obtain ⟨start, condition, hsaved, _, hstep, hfinal⟩ := h.step files cause
  have hstart := hsaved saved hfound
  have hsame := hstep (hstart.key ▸ hrule)
  have hstarted : start.active = true := hstart.active.trans hactive
  have hstays : condition.active = true := by
    rw [hsame.active, faultObservation_of_faulty h.status]
    split
    · simp [Attention.step, hstarted]
    · dsimp only [Attention.step]
      split <;> exact hstarted
  refine ⟨condition, ?_, hstays⟩
  rw [hfinal, if_pos (by simp [ConditionState.kept, hstays])]

end Pass

/-! ## The clocks through a run -/

/-- A completed pass in which an input's final report is not `ok`. -/
structure Turn.Faulty (turn : Turn) (source : Source) (bound : Int) : Prop where
  completed : turn.Completed
  valid : turn.input.config.validate = .ok ()
  enabled : ∃ rule, ruleFor turn.input.config.effectiveRules inputUnavailable = some rule ∧
    rule.enabled = true ∧ rule.persistenceSeconds = bound
  faulty : ∃ report ∈ turn.pass.reports, report.source = source ∧ report.status ≠ .ok

/-- After the pass a fault class of the input is active. -/
def Turn.Reported (turn : Turn) (source : Source) : Prop :=
  ∃ cause condition,
    turn.pass.state.conditions[turn.input.faultId source cause]? = some condition ∧
      condition.active = true

/-- The seven clocks of an input after some passes: together they have counted all the time
since the first. -/
structure ClocksAt (source : Source) (bound gap start now : Int) (disk : Disk)
    (counted : FaultClass → Int) (shown : FaultClass → Bool) : Prop where
  clocks : ∃ state, disk.state = some state ∧ ∀ cause,
    ClockOf (state.conditions[(faultKeyOf state.site source cause).id]?) now (counted cause)
      (shown cause)
  some : ∃ cause, shown cause = true
  within : ∀ cause, shown cause = true → counted cause ≤ bound
  bounded : ∀ cause, counted cause ≤ bound + gap
  elapsed : now - start ≤ (inputCauses.map counted).sum

theorem mem_inputCauses (cause : FaultClass) : cause ∈ inputCauses := by
  cases cause <;> decide

/-- A gap counted by one clock at least is counted by all together. -/
theorem sum_counted (counted : FaultClass → Int) (shown : FaultClass → Bool) {gap : Int}
    (hgap : 0 ≤ gap) (hshown : ∃ cause, shown cause = true) : (inputCauses.map counted).sum + gap ≤
      (inputCauses.map fun cause => counted cause + if shown cause then gap else 0).sum := by
  rw [List.sum_map_add]
  obtain ⟨cause, hcause⟩ := hshown
  have hgapMem : gap ∈ inputCauses.map fun cause => if shown cause then gap else 0 :=
    List.mem_map.mpr ⟨cause, mem_inputCauses cause, by simp [hcause]⟩
  have hsingle := List.single_le_sum (l := inputCauses.map fun cause =>
    if shown cause then gap else 0) (by
      intro value hvalue
      obtain ⟨other, _, rfl⟩ := List.mem_map.mp hvalue
      split <;> omega) gap hgapMem
  omega

/-- A state the evaluator can have written: conditions are filed under their own well-formed
keys, and no presence interval starts after the last pass. -/
structure State.Sound (state : State) : Prop where
  filed : state.WellFiled
  past : ∀ (id : Text) (condition : ConditionState), state.conditions[id]? = some condition →
    ∀ first ∈ condition.firstSeen, first ≤ state.updatedAt

/-- The state on disk, if there is one, is sound. -/
def Disk.Sound (disk : Disk) : Prop := ∀ state, disk.state = some state → state.Sound

/-- A state that was loaded is the empty one or the one on disk. -/
theorem load_sound {disk : Disk} (h : disk.Sound) (hload : State.load disk.state site = .ok state) :
    state.Sound := by
  rcases (load_eq_ok _ _ _).mp hload with ⟨_, rfl⟩ | ⟨hstate, _⟩
  · constructor <;> intro id condition hfound <;> simp [State.empty] at hfound
  · exact h state hstate

theorem load_site {disk : Disk} (hload : State.load disk.state site = .ok state) :
    state.site = site := by
  rcases (load_eq_ok _ _ _).mp hload with ⟨_, rfl⟩ | ⟨_, _, hsite⟩
  · rfl
  · exact hsite

theorem step_firstSeen_le {condition : ConditionState} {observation : Observation}
    {bound now : Int} (h : ∀ first ∈ condition.firstSeen, first ≤ now) :
    ∀ first ∈ (step condition observation bound now).1.firstSeen, first ≤ now := by
  have hsince : condition.presentSince now ≤ now := by
    fun_cases ConditionState.presentSince condition now
    · exact min_le_right _ _
    · cases hseen : condition.firstSeen with
      | none => exact le_rfl
      | some first => exact h first hseen
  fun_cases step condition observation bound now <;> simp_all +zetaDelta

/-- Reconciling keeps conditions under their keys and presence in the past. -/
theorem State.Sound.reconciled (h : state.Sound) (hclock : state.updatedAt ≤ input.now)
    {id : Text} {result : Reconciled} (hresult : (id, result) ∈ input.reconciled state) :
    (result.condition.key.id = id ∧ result.condition.key.Plain) ∧
      ∀ first ∈ result.condition.firstSeen, first ≤ input.now := by
  obtain ⟨start, hstart, rfl⟩ := mem_reconciled.mp hresult
  have hstarted : (start.key.id = id ∧ start.key.Plain) ∧
      ∀ first ∈ start.firstSeen, first ≤ input.now := by
    unfold startOf at hstart
    cases hfound : state.conditions[id]? with
    | some saved =>
      obtain rfl : saved = start := by simpa [hfound] using hstart
      exact ⟨h.filed id saved hfound, fun first hfirst =>
        (h.past id saved hfound first hfirst).trans hclock⟩
    | none =>
      obtain ⟨item, hitem, rfl⟩ : ∃ item, (input.readout state).observed[id]? = some item ∧
          .fresh item = start := by simpa [hfound] using hstart
      exact ⟨readout_key hitem, by simp [ConditionState.fresh]⟩
  obtain ⟨deferred, hcondition⟩ := reconcile_condition input.config input.now
    (input.readout state).reports ((input.readout state).observed[id]?) start
  rw [(reconcile_sameRecord _ _ _ _ _).key, hcondition]
  exact ⟨hstarted.1, step_firstSeen_le (by simpa using hstarted.2)⟩

/-- Every state a run of passes leaves on disk is sound, wherever a pass is cut off. -/
theorem Turns.sound {disk last : Disk} {turns : List Turn} (h : Turns disk turns last)
    (hsound : disk.Sound) : last.Sound := by
  induction h with
  | nil => exact hsound
  | @cons disk last turn rest hpass hperformed hrest ih =>
    refine ih fun other hother => ?_
    obtain ⟨state, hload, hclock, hsame⟩ := evaluate_eq_ok.mp hpass
    have hstate := load_sound hsound hload
    rcases @after_state disk turn.performed with hold | ⟨saved, hsaved, hafter⟩
    · exact hsound other (hold ▸ hother)
    · obtain rfl := Option.some.inj (hafter.symm.trans hother)
      obtain ⟨hupdated, hconditions⟩ := reconciled_of_saved (hsame ▸ hperformed.subset hsaved)
      constructor <;> intro id condition hfound <;>
        obtain ⟨result, hresult, hlife⟩ := hconditions id condition hfound
      · rw [(sameLife_of_eq hlife).key]
        exact (hstate.reconciled hclock hresult).1
      · rw [(sameLife_of_eq hlife).firstSeen, hupdated]
        exact (hstate.reconciled hclock hresult).2

section Run

variable {source : Source} {bound gap : Int} {disk : Disk} {turn : Turn}

/-- What a faulty turn that reports nothing has to say about its pass. -/
theorem Turn.Faulty.pass (h : turn.Faulty source bound) (hkind : source.kind ≠ .hostPosture)
    (hpass : turn.input.evaluate disk = .ok turn.pass) (hsilent : ¬ turn.Reported source) :
    ∃ state report, State.load disk.state turn.input.config.site = .ok state ∧
      state.updatedAt ≤ turn.input.now ∧ turn.input.Faulty state report bound ∧
      report.source = source ∧
      (disk.after turn.performed).state = some (turn.input.final state disk.intents) ∧
      ∀ cause condition, (turn.input.final state disk.intents).conditions[
        turn.input.faultId source cause]? = some condition → condition.active = false := by
  obtain ⟨state, hload, hclock, hpass⟩ := evaluate_eq_ok.mp hpass
  obtain ⟨report, hreport, rfl, hstatus⟩ := h.faulty
  refine ⟨state, report, hload, hclock, ?_, rfl, ?_, ?_⟩
  · rw [hpass] at hreport
    exact ⟨validate_labelled h.valid, h.enabled, hkind, hstatus, hreport⟩
  · rw [h.completed, hpass]
    exact after_pass_state turn.input state disk
  · intro cause condition hfound
    cases hactive : condition.active with
    | false => rfl
    | true =>
      refine absurd ⟨cause, condition, ?_, hactive⟩ hsilent
      rw [hpass]
      exact hfound

theorem PassInput.Faulty.some_cause {input : PassInput} {state : State} {report : InputReport}
    (h : input.Faulty state report bound) : ∃ cause, decide (cause ∈ report.causes) = true := by
  obtain ⟨cause, hcause⟩ := List.exists_mem_of_ne_nil _
    (readout_explained input state report h.reported h.status)
  exact ⟨cause, decide_eq_true hcause⟩

/-- After the first pass of a run that reports nothing, nothing is counted. -/
theorem Turn.Faulty.first (h : turn.Faulty source bound) (hkind : source.kind ≠ .hostPosture)
    (hgap : 0 ≤ gap) (hsound : disk.Sound) (hpass : turn.input.evaluate disk = .ok turn.pass)
    (hsilent : ¬ turn.Reported source) :
    ∃ counted shown, ClocksAt source bound gap turn.input.now turn.input.now
      (disk.after turn.performed) counted shown := by
  obtain ⟨state, report, hload, hupdated, hfaulty, rfl, hdisk, hquiet⟩ :=
    h.pass hkind hpass hsilent
  have hstate := load_sound hsound hload
  have hsource := report_source_mem hfaulty.reported
  have hstart : ∀ cause, ClockOf (state.conditions[turn.input.faultId report.source cause]?)
      turn.input.now 0 false := by
    intro cause
    cases hfound : state.conditions[turn.input.faultId report.source cause]? with
    | none => exact .inl ⟨rfl, rfl, rfl⟩
    | some saved =>
      obtain ⟨hid, hplain⟩ := hstate.filed _ saved hfound
      have hkey : saved.key = faultKeyOf turn.input.config.site report.source cause :=
        hplain.id_inj (faultKeyOf_plain hfaulty.labelled hsource cause) hid
      have hrule : saved.key.rule = inputUnavailable := by rw [hkey]; rfl
      refine .inr ⟨saved, rfl, hrule, ?_, .idle rfl fun first hfirst =>
        (hstate.past _ saved hfound first hfirst).trans hupdated⟩
      cases hactive : saved.active with
      | false => rfl
      | true =>
        obtain ⟨condition, hcondition, hstays⟩ :=
          hfaulty.stays_active disk.intents cause hfound hrule hactive
        rw [hquiet cause condition hcondition] at hstays
        cases hstays
  have hnext := fun cause => hfaulty.clock disk.intents cause (hstart cause) le_rfl (hquiet cause)
  simp only [Bool.false_eq_true, if_false, add_zero] at hnext
  obtain ⟨shownCause, hshown⟩ := hfaulty.some_cause
  have hbound : 0 ≤ bound := (hnext shownCause).2 (of_decide_eq_true hshown)
  refine ⟨fun _ => 0, fun cause => decide (cause ∈ report.causes), ⟨_, hdisk, fun cause => ?_⟩,
    ⟨shownCause, hshown⟩, fun _ _ => hbound, fun _ => by omega, by simp⟩
  rw [(final_fields _ _ _).2.1, load_site hload]
  exact (hnext cause).1

/-- One more pass that reports nothing: some clock counted the gap, and none is past the
bound by more than a gap. -/
theorem Turn.Faulty.next (h : turn.Faulty source bound) (hkind : source.kind ≠ .hostPosture)
    (hpass : turn.input.evaluate disk = .ok turn.pass) (hsilent : ¬ turn.Reported source)
    {start now : Int} {counted : FaultClass → Int} {shown : FaultClass → Bool}
    (hclocks : ClocksAt source bound gap start now disk counted shown)
    (hlater : now ≤ turn.input.now) (hgap : turn.input.now - now ≤ gap) :
    ∃ counted shown, ClocksAt source bound gap start turn.input.now
      (disk.after turn.performed) counted shown := by
  obtain ⟨state, report, hload, _, hfaulty, rfl, hdisk, hquiet⟩ := h.pass hkind hpass hsilent
  obtain ⟨saved, hsaved, hfiled⟩ := hclocks.clocks
  obtain ⟨rfl, hsite⟩ : saved = state ∧ state.site = turn.input.config.site := by
    rcases (load_eq_ok _ _ _).mp hload with ⟨hnone, _⟩ | ⟨hstate, _, hsite⟩
    · rw [hsaved] at hnone
      cases hnone
    · exact ⟨Option.some.inj (hsaved.symm.trans hstate), hsite⟩
  rw [hsite] at hfiled
  have hnext := fun cause => hfaulty.clock disk.intents cause (hfiled cause) hlater (hquiet cause)
  refine ⟨fun cause => counted cause + if shown cause then turn.input.now - now else 0,
    fun cause => decide (cause ∈ report.causes), ⟨_, hdisk, fun cause => ?_⟩, hfaulty.some_cause,
    fun cause hcause => (hnext cause).2 (of_decide_eq_true hcause), fun cause => ?_, ?_⟩
  · rw [(final_fields _ _ _).2.1, hsite]
    exact (hnext cause).1
  · -- a clock that ran before this pass was within the bound then
    cases hshown : shown cause with
    | true =>
      have := hclocks.within cause hshown
      simp only [if_true]
      omega
    | false => simpa using hclocks.bounded cause
  · have hsum := sum_counted counted shown (sub_nonneg.mpr hlater) hclocks.some
    have helapsed := hclocks.elapsed
    omega

/-- Passes that report nothing cannot go on for longer than seven bounds and gaps. -/
theorem elapsed_le_of_silent {last : Disk} {start now : Int} {turns : List Turn}
    (hturns : Turns disk turns last) (hkind : source.kind ≠ .hostPosture)
    (hfaulty : ∀ turn ∈ turns, turn.Faulty source bound)
    (hsilent : ∀ turn ∈ turns, ¬ turn.Reported source)
    (hchain : (now :: turns.map fun turn => turn.input.now).IsChain
      fun earlier later => earlier ≤ later ∧ later - earlier ≤ gap)
    {counted : FaultClass → Int} {shown : FaultClass → Bool}
    (hclocks : ClocksAt source bound gap start now disk counted shown) :
    ((turns.map fun turn => turn.input.now).getLast?).getD now - start ≤ 7 * (bound + gap) := by
  induction hturns generalizing now counted shown with
  | nil disk =>
    have hsum : (inputCauses.map counted).sum ≤ inputCauses.length • (bound + gap) := by
      rw [← List.length_map counted]
      refine List.sum_le_card_nsmul _ _ fun value hvalue => ?_
      obtain ⟨cause, _, rfl⟩ := List.mem_map.mp hvalue
      exact hclocks.bounded cause
    have helapsed := hclocks.elapsed
    have hlength : inputCauses.length = 7 := rfl
    rw [hlength, nsmul_eq_mul] at hsum
    simp only [List.map_nil, List.getLast?_nil, Option.getD_none]
    push_cast at hsum
    omega
  | cons hpass hperformed hrest ih =>
    rename_i disk last turn rest
    simp only [List.map_cons, List.isChain_cons_cons] at hchain
    obtain ⟨counted', shown', hnext⟩ := (hfaulty turn (by simp)).next hkind hpass
      (hsilent turn (by simp)) hclocks hchain.1.1 hchain.1.2
    have hlater := ih (fun other hother => hfaulty other (by simp [hother]))
      (fun other hother => hsilent other (by simp [hother])) hchain.2 hnext
    rw [List.map_cons, List.getLast?_cons]
    exact hlater

end Run

/-- An input of a kind other than host posture that is not `ok` in any pass of a run longer
than seven bounds and gaps is reported in one of them. -/
theorem persistent_fault_reported {disk last : Disk} {turns : List Turn} {source : Source}
    {bound : Int} {gap : Nat} {first final : Turn} (hsound : disk.Sound)
    (hturns : Turns disk turns last) (hkind : source.kind ≠ .hostPosture)
    (hfaulty : ∀ turn ∈ turns, turn.Faulty source bound)
    (hchain : turns.IsChain fun earlier later =>
      earlier.input.now ≤ later.input.now ∧ later.input.now - earlier.input.now ≤ (gap : Int))
    (hfirst : turns.head? = some first) (hfinal : turns.getLast? = some final)
    (hlong : 7 * (bound + gap) < final.input.now - first.input.now) :
    ∃ turn ∈ turns, turn.Reported source := by
  by_contra hnone
  have hsilent : ∀ turn ∈ turns, ¬ turn.Reported source := fun turn hturn hreported =>
    hnone ⟨turn, hturn, hreported⟩
  cases hturns with
  | nil => simp at hfirst
  | cons hpass hperformed hrest =>
    rename_i turn rest
    obtain rfl : turn = first := by simpa using hfirst
    obtain ⟨counted, shown, hclocks⟩ : ∃ counted shown, ClocksAt source bound (gap : Int)
        turn.input.now turn.input.now (disk.after turn.performed) counted shown :=
      (hfaulty turn (by simp)).first hkind (by omega) hsound hpass (hsilent turn (by simp))
    have hmapped : (turn.input.now :: rest.map fun turn => turn.input.now).IsChain
        fun earlier later => earlier ≤ later ∧ later - earlier ≤ (gap : Int) := by
      rw [← List.map_cons (f := fun turn : Turn => turn.input.now), List.isChain_map]
      exact hchain
    have helapsed := elapsed_le_of_silent hrest hkind
      (fun other hother => hfaulty other (by simp [hother]))
      (fun other hother => hsilent other (by simp [hother])) hmapped hclocks
    have hlast : ((rest.map fun turn => turn.input.now).getLast?).getD turn.input.now =
        final.input.now := by
      rw [List.getLast?_cons] at hfinal
      rw [List.getLast?_map, ← Option.some.inj hfinal]
      cases rest.getLast? <;> rfl
    rw [hlast] at helapsed
    omega

namespace Reference

/-- The NQ status input alone, with faulty inputs reported after one second. -/
def impatient : Config :=
  { config nqOnly [] with
    rules := (∅ : ExtTreeMap Text RuleOverride).insert inputUnavailable
      { enabled := none, thresholdSeconds := some 1, class' := none } }

/-- A pass that finds the NQ status stale. -/
def stalePass (now : Int) : PassInput :=
  { config := impatient, now
    readings := fun _ =>
      { status := .notCurrent, error := none, causes := [], pushes := [], roster := none }
    answers := accepting }

/-- Nine times ten seconds apart. -/
def staleTimes : List Int := [2000, 2010, 2020, 2030, 2040, 2050, 2060, 2070, 2080]

/-- A stale NQ status whose presence starts far in the future. -/
def futureFault : ConditionState :=
  { openCondition (faultKeyOf "lab" ⟨.nqStatus, "nq"⟩ .stale) "nq" with
    firstSeen := some 1000000, active := false }

/-- A condition of a service, filed under the name of the stale NQ status. -/
def misfiledFault : State :=
  { stateOf futureFault with
    conditions := (∅ : ExtTreeMap Text ConditionState).insert futureFault.key.id
      { serviceOpen with firstSeen := none, active := false } }

def nqSource : Source := ⟨.nqStatus, "nq"⟩

/-- Nine passes, completed, from a disk. -/
def staleTurns (disk : Disk) : List Turn :=
  turnsFrom disk (staleTimes.map fun now => (stalePass now, none))

def showsFault (turn : Turn) : Bool :=
  turn.pass.reports.any fun report =>
    decide (report.source = nqSource) && decide (report.status ≠ .ok)

theorem staleTurns_faulty {disk : Disk} (h : (staleTurns disk).all showsFault = true) :
    ∀ turn ∈ staleTurns disk, turn.Faulty nqSource 1 := by
  intro turn hturn
  obtain ⟨cut, hmem, hcompleted⟩ := mem_turnsFrom hturn
  obtain ⟨now, -, hsame⟩ := List.mem_map.mp hmem
  obtain ⟨hinput, rfl⟩ := Prod.mk.inj hsame
  have hconfig : turn.input.config = impatient := by rw [← hinput]; rfl
  obtain ⟨report, hreport, hshows⟩ := List.any_eq_true.mp (List.all_eq_true.mp h turn hturn)
  simp only [Bool.and_eq_true, decide_eq_true_eq] at hshows
  refine ⟨hcompleted rfl, ?_, ?_, report, hreport, hshows.1, hshows.2⟩
  · rw [hconfig]
    decide +kernel
  · rw [hconfig]
    exact ⟨(ruleFor impatient.effectiveRules inputUnavailable).get (by decide +kernel),
      by simp, by decide +kernel, by decide +kernel⟩

theorem staleTurns_chain {disk : Disk}
    (h : (staleTurns disk).map (fun turn => turn.input.now) = staleTimes) :
    ((staleTurns disk).IsChain fun earlier later => earlier.input.now ≤ later.input.now ∧
        later.input.now - earlier.input.now ≤ ((10 : Nat) : Int)) ∧
      ∃ first final, (staleTurns disk).head? = some first ∧
        (staleTurns disk).getLast? = some final ∧
        7 * (1 + ((10 : Nat) : Int)) < final.input.now - first.input.now := by
  constructor
  · have hchain : staleTimes.IsChain fun earlier later =>
        earlier ≤ later ∧ later - earlier ≤ ((10 : Nat) : Int) := by
      simp [staleTimes]
    rw [← h, List.isChain_map] at hchain
    exact hchain
  · have hhead := congrArg List.head? h
    have hlast := congrArg List.getLast? h
    rw [List.head?_map] at hhead
    rw [List.getLast?_map] at hlast
    obtain ⟨first, hfirst, hstart⟩ := Option.map_eq_some_iff.mp hhead
    obtain ⟨final, hfinal, hend⟩ := Option.map_eq_some_iff.mp hlast
    exact ⟨first, final, hfirst, hfinal, by rw [hstart, hend]; decide⟩

end Reference

open Reference

/-- With a presence interval that starts in the future, and with a condition filed under another's
name, nine passes over eighty seconds report nothing, although the bound is one second and the gap
ten. -/
theorem unsound_fault_unreported : (stateOf futureFault).WellFiled ∧
    (∀ (id : Text) (condition : ConditionState), misfiledFault.conditions[id]? = some condition →
      condition.firstSeen = none) ∧
    ∀ saved ∈ [stateOf futureFault, misfiledFault], ∃ (last : Disk) (turns : List Turn),
      Turns ⟨some saved, ∅⟩ turns last ∧ (∀ turn ∈ turns, turn.Faulty nqSource 1) ∧
      (turns.IsChain fun earlier later => earlier.input.now ≤ later.input.now ∧
        later.input.now - earlier.input.now ≤ ((10 : Nat) : Int)) ∧
      (∃ first final, turns.head? = some first ∧ turns.getLast? = some final ∧
        7 * (1 + ((10 : Nat) : Int)) < final.input.now - first.input.now) ∧
      ¬ ∃ turn ∈ turns, turn.Reported nqSource := by
  refine ⟨stateOf_wellFiled ⟨by decide, by decide, by decide, by decide⟩, ?_,
    fun saved hsaved => ?_⟩
  · intro id condition hfound
    simp only [misfiledFault, getElem?_insert_iff] at hfound
    split at hfound
    · cases hfound
      rfl
    · simp at hfound
  have hchecked : ∀ saved ∈ [stateOf futureFault, misfiledFault],
      ((staleTurns ⟨some saved, ∅⟩).all showsFault = true ∧
        (staleTurns ⟨some saved, ∅⟩).all (fun turn => inputCauses.all fun cause =>
          !((turn.pass.state.conditions[turn.input.faultId nqSource cause]?).any
            ConditionState.active)) = true) ∧
        (staleTurns ⟨some saved, ∅⟩).map (fun turn => turn.input.now) = staleTimes := by
    decide +kernel
  obtain ⟨⟨hshows, hquiet⟩, htimes⟩ := hchecked saved hsaved
  obtain ⟨last, hturns⟩ := turnsFrom_turns ⟨some saved, ∅⟩
    (staleTimes.map fun now => (stalePass now, none))
  refine ⟨last, staleTurns ⟨some saved, ∅⟩, hturns, staleTurns_faulty hshows,
    (staleTurns_chain htimes).1, (staleTurns_chain htimes).2, ?_⟩
  rintro ⟨turn, hturn, cause, condition, hfound, hactive⟩
  have hcause := List.all_eq_true.mp (List.all_eq_true.mp hquiet turn hturn) cause
    (mem_inputCauses cause)
  simp [hfound, hactive] at hcause

/-- Nine passes over a stale NQ status from a missing state file: one of them reports it. -/
theorem stale_status_reported :
    ∃ turn ∈ staleTurns ⟨none, ∅⟩, turn.Reported nqSource := by
  have hchecked : (staleTurns ⟨none, ∅⟩).all showsFault = true ∧
      (staleTurns ⟨none, ∅⟩).map (fun turn => turn.input.now) =
        staleTimes := by decide +kernel
  obtain ⟨hshows, htimes⟩ := hchecked
  obtain ⟨last, hturns⟩ := turnsFrom_turns ⟨none, ∅⟩
    (staleTimes.map fun now => (stalePass now, none))
  obtain ⟨hchain, first, final, hfirst, hfinal, hlong⟩ := staleTurns_chain htimes
  exact persistent_fault_reported (fun state hstate => by cases hstate) hturns (by decide)
    (staleTurns_faulty hshows) hchain hfirst hfinal hlong

end ConstellationMonitor.Attention
