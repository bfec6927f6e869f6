/-
  Attention/Paging.lean --- when a pass plans a page.

  A page is planned by a decision: a trigger of a page-class rule whose page is not held, or
  the release of a held page.  Follow-ups go on with a page already planned.  What the state
  remembers of a held page is one flag, so what a release means depends on the configuration
  of the pass that releases it.
-/
import ConstellationMonitor.Attention.Visits

namespace ConstellationMonitor.Attention

open Foundation
open Std (ExtTreeMap)

/-! ## Page records and page files -/

/-- Page files and notice files have different names. -/
theorem pageFile_ne_noticeFile (left right : Text) :
    intentFileName left .page ≠ intentFileName right .notice := by
  intro h
  have hbytes := congrArg (fun text => text.bytes.reverse[6]?) h
  have hpage : (intentFileName left .page).bytes.reverse =
      (Text.ofString ".json").bytes.reverse ++ ((Text.ofString "page").bytes.reverse ++
        ((Text.ofString ".").bytes.reverse ++ left.bytes.reverse)) := by
    simp [intentFileName, Role.text]
  have hnotice : (intentFileName right .notice).bytes.reverse =
      (Text.ofString ".json").bytes.reverse ++ ((Text.ofString "notice").bytes.reverse ++
        ((Text.ofString ".").bytes.reverse ++ right.bytes.reverse)) := by
    simp [intentFileName, Role.text]
  have hjson : (Text.ofString ".json").bytes.reverse = [0x6e, 0x6f, 0x73, 0x6a, 0x2e] := by decide
  have hrole : (Text.ofString "page").bytes.reverse = [0x65, 0x67, 0x61, 0x70] := by decide
  have hother : (Text.ofString "notice").bytes.reverse =
      [0x65, 0x63, 0x69, 0x74, 0x6f, 0x6e] := by decide
  -- the second letter from the end of the role tells them apart
  rw [hpage, hnotice, hjson, hrole, hother] at hbytes
  simp at hbytes

/-- The record of a page intent. -/
structure PageRecord (last : LastIntent) : Prop where
  schema : last.schema = .v2
  file : ∃ event, last.intentFile = intentFileName event .page

/-- Every page record of a state names a page file. -/
def State.PagesRecorded (state : State) : Prop :=
  ∀ (id : Text) (condition : ConditionState) (last : LastIntent),
    state.conditions[id]? = some condition → condition.lastIntent.get .page = some last →
      PageRecord last

/-- What the evaluator has left on disk of pages: every page file is of response class `page`,
and every page record names a page file. -/
structure Disk.PagesFiled (disk : Disk) : Prop where
  files : ∀ (event : Text) (intent : Intent),
    disk.intents[intentFileName event .page]? = some intent → intent.responseClass = some .page
  records : ∀ (state : State), disk.state = some state → state.PagesRecorded

theorem pagesFiled_empty : Disk.PagesFiled ⟨none, ∅⟩ := by
  constructor
  · intro event intent h
    simp at h
  · intro state h
    cases h

theorem Disk.PagesFiled.lost {before after : Disk} (hlost : before.LostFiles after)
    (h : before.PagesFiled) : after.PagesFiled := by
  constructor
  · intro event intent hfile
    exact h.files event intent (hlost.intents _ _ hfile)
  · intro state hstate
    exact h.records state (hlost.state ▸ hstate)

/-- The records of a state that was loaded. -/
theorem Disk.PagesFiled.loaded {disk : Disk} (h : disk.PagesFiled) {site : Text} {state : State}
    (hload : State.load disk.state site = .ok state) : state.PagesRecorded := by
  rcases (load_eq_ok _ _ _).mp hload with ⟨_, rfl⟩ | ⟨hsome, _⟩
  · intro id condition last hfound
    simp [State.empty] at hfound
  · exact h.records state hsome

theorem answeredAll_schema (last : LastIntent) (attempts : List (Submission × SubmitOutcome))
    (now : Int) : (last.answeredAll attempts now).schema = last.schema ∧
      (last.answeredAll attempts now).intentFile = last.intentFile := by
  unfold LastIntent.answeredAll
  induction attempts generalizing last with
  | nil => exact ⟨rfl, rfl⟩
  | cons attempt rest ih => exact ih _

theorem PageRecord.answeredAll {last : LastIntent} (h : PageRecord last)
    (attempts : List (Submission × SubmitOutcome)) (now : Int) :
    PageRecord (last.answeredAll attempts now) := by
  obtain ⟨hschema, hfile⟩ := answeredAll_schema last attempts now
  constructor
  · rw [hschema]
    exact h.schema
  · rw [hfile]
    exact h.file

section Filed

variable {input : PassInput} {state : State} (hrecords : state.PagesRecorded)

include hrecords

/-- The condition a pass starts from has the records on disk. -/
theorem start_pageRecord {id : Text} {result : Reconciled}
    (hmem : (id, result) ∈ input.reconciled state) {last : LastIntent}
    (hlast : result.condition.lastIntent.get .page = some last) : PageRecord last := by
  obtain ⟨start, hstart, rfl⟩ := mem_reconciled.mp hmem
  rw [(reconcile_sameRecord _ _ _ _ _).lastIntent] at hlast
  unfold startOf at hstart
  cases hfound : state.conditions[id]? with
  | some condition =>
    obtain rfl : condition = start := by simpa [hfound] using hstart
    exact hrecords id condition last hfound hlast
  | none =>
    obtain ⟨item, _, rfl⟩ : ∃ item, (input.readout state).observed[id]? = some item ∧
        ConditionState.fresh item = start := by simpa [hfound] using hstart
    simp [ConditionState.fresh] at hlast

variable {files : ExtTreeMap Text Intent}

/-- Every page file a pass writes is of response class `page`. -/
theorem written_page {item : Written} (hitem : item ∈ (input.planning state files).written)
    (hrole : item.role = .page) : item.intent.responseClass = some .page := by
  obtain ⟨id, result, share, hmem, hchange, hshare⟩ := mem_planning_written input state files hitem
  rw [hrole] at hchange
  cases hchange with
  | planned _ _ _ _ _ _ hwritten =>
    rw [(hwritten item).mp ⟨hshare, hrole⟩]
    rfl
  | followed _ _ hretained _ hnext _ _ _ hwritten =>
    obtain ⟨intent, hintent, rfl⟩ := (hwritten item).mp ⟨hshare, hrole⟩
    exact (followUpRole_followsUp hnext).written intent hintent
      (start_pageRecord hrecords hmem hretained).schema
  | kept _ _ _ _ _ hwritten => exact absurd hrole (hwritten item hshare)

/-- In the middle of a pass every page file is of response class `page`. -/
theorem page_of_writeAll (hfiles : ∀ (event : Text) (intent : Intent),
      files[intentFileName event .page]? = some intent → intent.responseClass = some .page)
    {before : List Written} (hbefore : ∀ item ∈ before, item ∈ (input.planning state files).written)
    {event : Text} {intent : Intent}
    (h : (writeAll files before)[intentFileName event .page]? = some intent) :
    intent.responseClass = some .page := by
  rcases writeAll_getElem? h with ⟨item, hitem, hname, rfl⟩ | hold
  · refine written_page hrecords (hbefore item hitem) ?_
    cases hrole : item.role with
    | page => rfl
    | notice =>
      rw [Written.file, hrole] at hname
      exact absurd hname.symm (pageFile_ne_noticeFile _ _)
  · exact hfiles event intent hold

/-- The planning keeps page records page records. -/
theorem RoleChange.pageRecord {written : List Written} {id : Text} {result : Reconciled}
    {share : Share} (hmem : (id, result) ∈ input.reconciled state)
    (h : RoleChange input.config input.now files written id result share .page) {last : LastIntent}
    (hlast : share.condition.lastIntent.get .page = some last) : PageRecord last := by
  cases h with
  | planned _ _ _ hplanned _ _ _ =>
    rw [hplanned] at hlast
    cases hlast
    exact ⟨rfl, _, rfl⟩
  | followed _ _ hretained _ hnext hfollowed _ _ _ =>
    rw [hfollowed] at hlast
    cases hlast
    have hbefore := start_pageRecord hrecords hmem hretained
    have hspec := followUpRole_followsUp hnext
    refine ⟨hspec.schema.trans hbefore.schema, ?_⟩
    rcases hspec.intentFile with hsame | hnew
    · rw [hsame]
      exact hbefore.file
    · exact hnew
  | kept _ _ hkept _ _ _ =>
    rw [hkept] at hlast
    exact start_pageRecord hrecords hmem hlast

end Filed

/-- A pass leaves pages filed. -/
theorem Visit.pagesFiled {visit : Visit} (h : visit.input.evaluate visit.disk = .ok visit.pass)
    (hfiled : visit.disk.PagesFiled) : visit.after.PagesFiled := by
  obtain ⟨state, hload, _, hpass⟩ := evaluate_eq_ok.mp h
  have hrecords := hfiled.loaded hload
  unfold Visit.after
  rw [hpass]
  constructor
  · intro event intent hfile
    rw [after_pass_intents_eq] at hfile
    exact page_of_writeAll hrecords hfiled.files (fun _ => id) (foldl_erase_getElem? hfile)
  · intro final hfinal id condition last hfound hlast
    obtain rfl := Option.some.inj ((after_pass_state _ _ _).symm.trans hfinal)
    obtain ⟨result, hmem, _⟩ := reconciled_of_final _ _ _ hfound
    obtain ⟨share, next, hslots⟩ := exists_slotPass visit.input state visit.disk.intents hmem
    have hslot := hslots .page
    have hsame := hslot.found
    rw [((final_getElem?_eq_some _ _ _).mp hfound).1] at hsame
    cases hsame
    rw [hslot.submitted.after] at hlast
    obtain ⟨planned, hplanned, rfl⟩ := Option.map_eq_some_iff.mp hlast
    exact (hslot.change.pageRecord hrecords hmem hplanned).answeredAll _ _

/-- In a run from an empty disk pages are filed before every pass. -/
theorem Passes.pagesFiled {visits : List Visit} (h : Passes ⟨none, ∅⟩ visits) :
    ∀ visit ∈ visits, visit.disk.PagesFiled :=
  h.invariant (fun _ _ hlost hfiled => hfiled.lost hlost) (fun _ hpass => Visit.pagesFiled hpass)
    pagesFiled_empty

/-! ## Planning an intent of a trigger -/

/-- A pass plans a new trigger intent of a condition for a role. -/
def Pass.PlansTrigger (pass : Pass) (id : Text) (role : Role) : Prop :=
  ∃ item ∈ pass.plan, item.conditionId = id ∧ item.role = role ∧ item.action = .trigger ∧
    item.operation = .submit

/-- A new page is planned exactly for a decision that goes to the page route. -/
theorem plansPage_iff {visit : Visit} {state : State} {id : Text}
    (hload : State.load visit.disk.state visit.input.config.site = .ok state)
    (hpass : visit.pass = visit.input.pass state visit.disk.intents)
    (hfiled : visit.disk.PagesFiled) : visit.pass.PlansTrigger id .page ↔
      ∃ result work rule route, (id, result) ∈ visit.input.reconciled state ∧
        IsWork id result work ∧ work.action = .trigger ∧
        ruleFor visit.input.config.effectiveRules result.condition.key.rule = some rule ∧
        (.page, route) ∈ workRoles visit.input.config rule result.condition work := by
  have hrecords := hfiled.loaded hload
  have hplan : visit.pass.plan = (visit.input.planning state visit.disk.intents).plan := by
    rw [hpass]
    simp only [PassInput.pass]
  unfold Pass.PlansTrigger
  rw [hplan]
  constructor
  · rintro ⟨item, hitem, hid, hrole, haction, hoperation⟩
    obtain ⟨result, hmem⟩ := reconciled_of_mem_plan _ _ _ hitem
    rw [hid] at hmem
    obtain ⟨share, next, hslots⟩ := exists_slotPass visit.input state visit.disk.intents hmem
    have hslot := hslots .page
    obtain ⟨hshare, _⟩ := (hslot.plan item).mp ⟨hitem, hid, hrole, by simp [hoperation]⟩
    cases hslot.change with
    | planned hwork hrule hroute _ _ hplanned _ =>
      rw [(hplanned item).mp ⟨hshare, hrole⟩] at haction
      exact ⟨result, _, _, _, hmem, hwork, haction, hrule, hroute⟩
    | followed _ _ hretained hbefore hnext _ _ hfollowed _ =>
      rw [(hfollowed item).mp ⟨hshare, hrole⟩] at hoperation
      have hrecord := start_pageRecord hrecords hmem hretained
      obtain ⟨prior, hprior, hclass⟩ :=
        (followUpRole_followsUp hnext).resubmitted hrecord.schema hoperation
      refine absurd ?_ hclass
      -- every page file is of response class `page`, so nothing is rendered again
      obtain ⟨event, hfile⟩ := hrecord.file
      rw [hfile] at hprior
      exact page_of_writeAll hrecords hfiled.files hbefore hprior
    | kept _ _ _ _ hnone _ => exact absurd hrole (hnone item hshare)
  · rintro ⟨result, work, rule, route, hmem, hwork, haction, hrule, hroute⟩
    obtain ⟨share, next, hslots⟩ := exists_slotPass visit.input state visit.disk.intents hmem
    exact (hslots .page).plans hwork haction hrule hroute

/-! ## Held pages through a pass -/

/-- An active condition that is not resolved keeps the start of its presence. -/
theorem step_firstSeen_of_active {condition : ConditionState} {observation : Observation}
    {bound now first : Int} (hactive : condition.active = true)
    (hfirst : condition.firstSeen = some first)
    (h : (step condition observation bound now).2 = none) :
    (step condition observation bound now).1.firstSeen = some first := by
  have hsince : condition.presentSince now = first := by
    unfold ConditionState.presentSince
    rw [hactive, hfirst]
    cases condition.unknownRun now <;> rfl
  revert h
  fun_cases step condition observation bound now <;> rintro ⟨⟩ <;> simp_all +zetaDelta

section Reconciling

variable (config : Config) (now : Int) (reports : List InputReport) (item : Option Observed)
  (condition : ConditionState)

/-- What a pass observes of a condition. -/
def passObservation : Observation :=
  observationOf config reports item (condition.relabelled item)

variable {config now reports item condition}

theorem reconcile_of_none (h : (passStep config now reports item condition).2 = none) :
    reconcile config now reports item condition =
      if (passStep config now reports item condition).1.active = true ∧
          (passStep config now reports item condition).1.pageDeferred = true ∧
          pageNow config now (passObservation config reports item condition)
            (passStep config now reports item condition).1 = .send then
        ⟨{ (passStep config now reports item condition).1 with pageDeferred := false }, none, true⟩
      else ⟨(passStep config now reports item condition).1, none, false⟩ := by
  unfold passStep at h
  unfold reconcile passStep passObservation
  simp only [h]

/-- The end of the remediation window a page waits for, if one is configured for a condition that
was seen. -/
def heldUntil (config : Config) (condition : ConditionState) : Option Int :=
  match config.responsePolicy condition.key.rule condition.key.targetClass with
  | (.autoRemediateThenPage, some window) => windowUntil condition.firstSeen window
  | _ => none

theorem heldUntil_congr {left right : ConditionState} (hkey : left.key = right.key)
    (hfirst : left.firstSeen = right.firstSeen) :
    heldUntil config left = heldUntil config right := by
  simp only [heldUntil, hkey, hfirst]

/-- A page goes out unless a window is configured, and then once it is over and the condition is
present or unknown. -/
theorem pageNow_eq_send_iff {observation : Observation} :
    pageNow config now observation condition = .send ↔
      ∀ until', heldUntil config condition = some until' →
        until' ≤ now ∧ (observation = .present ∨ observation = .unknown) := by
  unfold pageNow remediationUntil heldUntil
  obtain ⟨policy, window⟩ := config.responsePolicy condition.key.rule condition.key.targetClass
  cases policy <;> cases window <;> cases condition.firstSeen <;>
    simp [pageDecision, windowUntil, or_iff_not_imp_left]

end Reconciling

/-! ## What a visit sees and plans -/

section Visits

variable (visit : Visit) (id : Text)

/-- The state a pass loads. -/
def Visit.state : State :=
  match State.load visit.disk.state visit.input.config.site with
  | .ok state => state
  | .error _ => State.empty visit.input.config.site

/-- The condition a pass starts from. -/
def Visit.start : Option ConditionState :=
  startOf (visit.input.readout visit.state) visit.state.conditions id

/-- What a pass observes of a condition. -/
def Visit.observation : Option Observation :=
  (visit.start id).map (passObservation visit.input.config
    (visit.input.readout visit.state).reports ((visit.input.readout visit.state).observed[id]?))

/-- The effective rule of a condition in a pass. -/
def Visit.rule : Option EffectiveRule :=
  (visit.start id).bind fun condition =>
    ruleFor visit.input.config.effectiveRules condition.key.rule

/-- The step a pass takes for a condition. -/
def Visit.step (condition : ConditionState) : ConditionState × Option Action :=
  passStep visit.input.config visit.input.now (visit.input.readout visit.state).reports
    ((visit.input.readout visit.state).observed[id]?) condition

/-- What a pass comes to for a condition before planning. -/
def Visit.result (condition : ConditionState) : Reconciled :=
  reconcile visit.input.config visit.input.now (visit.input.readout visit.state).reports
    ((visit.input.readout visit.state).observed[id]?) condition

/-- Whether a page of a condition would go out in a pass. -/
def Visit.pageDecision (condition : ConditionState) : PageDecision :=
  pageNow visit.input.config visit.input.now
    (passObservation visit.input.config (visit.input.readout visit.state).reports
      ((visit.input.readout visit.state).observed[id]?) condition) (visit.step id condition).1

/-- A pass releases the held page of an active condition: nothing is decided for it and the
page decision says so. -/
structure Visit.ReleasesPage (condition : ConditionState) : Prop where
  active : condition.active = true
  held : condition.pageDeferred = true
  quiet : (visit.step id condition).2 = none
  send : visit.pageDecision id condition = .send

/-- A pass with a page route releases the held page of a condition on file. -/
def Visit.Releases : Prop :=
  ∃ condition, visit.state.conditions[id]? = some condition ∧
    visit.input.config.routes.pageRoute.isSome = true ∧ (visit.rule id).isSome = true ∧
    visit.ReleasesPage id condition

variable {visit id} {condition : ConditionState}

theorem Visit.pass_eq (h : visit.input.evaluate visit.disk = .ok visit.pass) :
    State.load visit.disk.state visit.input.config.site = .ok visit.state ∧
      visit.pass = visit.input.pass visit.state visit.disk.intents := by
  obtain ⟨state, hload, _, hpass⟩ := evaluate_eq_ok.mp h
  have hstate : visit.state = state := by simp [Visit.state, hload]
  rw [hstate]
  exact ⟨hload, hpass⟩

theorem Visit.start_of_found (h : visit.state.conditions[id]? = some condition) :
    visit.start id = some condition := by
  simp [Visit.start, startOf, h]

/-- An active condition is one on file. -/
theorem Visit.found_of_active (hstart : visit.start id = some condition)
    (hactive : condition.active = true) : visit.state.conditions[id]? = some condition := by
  unfold Visit.start startOf at hstart
  cases hfound : visit.state.conditions[id]? with
  | some saved => simpa [hfound] using hstart
  | none =>
    obtain ⟨item, _, rfl⟩ : ∃ item, (visit.input.readout visit.state).observed[id]? = some item ∧
        ConditionState.fresh item = condition := by simpa [hfound] using hstart
    cases hactive

theorem Visit.mem_reconciled {result : Reconciled} :
    (id, result) ∈ visit.input.reconciled visit.state ↔
      ∃ condition, visit.start id = some condition ∧ result = visit.result id condition :=
  Attention.mem_reconciled

/-- What a pass decides. -/
theorem Visit.mem_decided (hpass : visit.input.evaluate visit.disk = .ok visit.pass)
    {action : Action} {reason : ResolveReason} : (id, action, reason) ∈ visit.pass.decided ↔
      ∃ condition, visit.start id = some condition ∧
        (visit.result id condition).transition = some (action, reason) := by
  rw [(Visit.pass_eq hpass).2, Attention.mem_decided]
  constructor
  · rintro ⟨result, hmem, htransition⟩
    obtain ⟨condition, hstart, rfl⟩ := Visit.mem_reconciled.mp hmem
    exact ⟨condition, hstart, htransition⟩
  · rintro ⟨condition, hstart, htransition⟩
    exact ⟨_, Visit.mem_reconciled.mpr ⟨condition, hstart, rfl⟩, htransition⟩

theorem Visit.rule_eq (hstart : visit.start id = some condition) :
    visit.rule id = ruleFor visit.input.config.effectiveRules condition.key.rule := by
  rw [Visit.rule, hstart, Option.bind_some]

theorem Visit.result_key : (visit.result id condition).condition.key = condition.key :=
  (reconcile_sameRecord _ _ _ _ _).key

theorem Visit.result_transition (visit : Visit) (id : Text) (condition : ConditionState) :
    ∃ reason, (visit.result id condition).transition =
    (visit.step id condition).2.map fun action => (action, reason) :=
  ⟨_, reconcile_transition _ _ _ _ _⟩

theorem Visit.result_condition (visit : Visit) (id : Text) (condition : ConditionState) :
    ∃ deferred, (visit.result id condition).condition =
    { (visit.step id condition).1 with pageDeferred := deferred } :=
  reconcile_condition _ _ _ _ _

variable {reason : ResolveReason}

theorem Visit.step_of_transition {action : Action}
    (h : (visit.result id condition).transition = some (action, reason)) :
    (visit.step id condition).2 = some action := by
  obtain ⟨other, htransition⟩ := visit.result_transition id condition
  rw [htransition, Option.map_eq_some_iff] at h
  obtain ⟨_, hstep, hpair⟩ := h
  rw [(Prod.mk.inj hpair).1] at hstep
  exact hstep

theorem Visit.result_active_of_quiet (h : (visit.step id condition).2 = none) :
    (visit.result id condition).condition.active = condition.active := by
  obtain ⟨deferred, hcondition⟩ := visit.result_condition id condition
  rw [hcondition]
  exact (step_active_of_none h).1.trans (relabelled_active _ _)

theorem Visit.result_active_of_trigger (h : (visit.step id condition).2 = some .trigger) :
    (visit.result id condition).condition.active = true := by
  obtain ⟨deferred, hcondition⟩ := visit.result_condition id condition
  rw [hcondition]
  exact (step_transition h).2.1

/-- An active condition that is not resolved takes a step without transition. -/
theorem Visit.step_quiet (hpass : visit.input.evaluate visit.disk = .ok visit.pass)
    (hstart : visit.start id = some condition) (hactive : condition.active = true)
    (hopen : ∀ reason, (id, .resolve, reason) ∉ visit.pass.decided) :
    (visit.step id condition).2 = none := by
  obtain ⟨reason, htransition⟩ := visit.result_transition id condition
  cases hstep : (visit.step id condition).2 with
  | none => rfl
  | some action =>
    cases action with
    | trigger =>
      have hbefore := (step_transition hstep).1
      rw [relabelled_active, hactive] at hbefore
      cases hbefore
    | resolve =>
      rw [hstep, Option.map_some] at htransition
      exact absurd ((Visit.mem_decided hpass).mpr ⟨condition, hstart, htransition⟩) (hopen reason)

/-- Without a transition a held page is released or stays held. -/
theorem Visit.result_quiet (h : (visit.step id condition).2 = none) :
    ((visit.result id condition).pageDue = true ↔ visit.ReleasesPage id condition) ∧
    ((visit.result id condition).condition.pageDeferred = true ↔
      condition.pageDeferred = true ∧ ¬ visit.ReleasesPage id condition) := by
  have hactive : (visit.step id condition).1.active = condition.active :=
    (step_active_of_none h).1.trans (relabelled_active _ _)
  have hdeferred : (visit.step id condition).1.pageDeferred = condition.pageDeferred :=
    (step_pageDeferred _ _ _ _).trans (relabelled_pageDeferred _ _)
  have hreleases : visit.ReleasesPage id condition ↔ (visit.step id condition).1.active = true ∧
      (visit.step id condition).1.pageDeferred = true ∧
      visit.pageDecision id condition = .send := by
    rw [hactive, hdeferred]
    exact ⟨fun hall => ⟨hall.active, hall.held, hall.send⟩,
      fun hall => ⟨hall.1, hall.2.1, h, hall.2.2⟩⟩
  rw [hreleases]
  unfold Visit.result
  rw [reconcile_of_none h]
  split <;> rename_i hdue
  · exact ⟨iff_of_true rfl hdue, iff_of_false (by simp) fun hnot => hnot.2 hdue⟩
  · exact ⟨iff_of_false (by simp) hdue, fun hon => ⟨hdeferred.symm.trans hon, hdue⟩,
      fun hon => hdeferred.trans hon.1⟩

/-- At a trigger the page of a page-class rule is held unless it goes out now. -/
theorem Visit.result_trigger (hstart : visit.start id = some condition)
    (h : (visit.step id condition).2 = some .trigger) :
    (visit.result id condition).condition.pageDeferred = true ↔
      (visit.rule id).any (fun rule => rule.class' == .page) = true ∧
        visit.pageDecision id condition = .defer := by
  rw [Visit.rule_eq hstart]
  unfold Visit.step passStep at h
  unfold Visit.result reconcile Visit.pageDecision Visit.step passStep passObservation
  simp only [h, relabelled_key, Bool.and_eq_true, decide_eq_true_eq]

/-- When a trigger goes to the page route. -/
theorem mem_workRoles_page {config : Config} {rule : EffectiveRule} {pageOnly : Bool}
    {route : Text} :
    (.page, route) ∈ workRoles config rule condition ⟨id, .trigger, reason, pageOnly⟩ ↔
      config.routes.pageRoute = some route ∧
        (pageOnly = true ∨ rule.class' = .page ∧ condition.pageDeferred = false) := by
  cases pageOnly with
  | true => simp [workRoles]
  | false =>
    by_cases hpage : rule.class' = .page ∧ condition.pageDeferred = false
    · simp [workRoles, hpage]
    · simp [workRoles, hpage]

/-- A new page of a pass belongs to a page it releases or to a trigger it decided. -/
theorem plansPage_cases (hpass : visit.input.evaluate visit.disk = .ok visit.pass)
    (hfiled : visit.disk.PagesFiled) : visit.pass.PlansTrigger id .page ↔ visit.Releases id ∨
        (visit.input.config.routes.pageRoute.isSome = true ∧
          (visit.rule id).any (fun rule => rule.class' == .page) = true ∧
          ∃ condition, visit.start id = some condition ∧
            (visit.step id condition).2 = some .trigger ∧
            (visit.result id condition).condition.pageDeferred = false) := by
  obtain ⟨hload, hsame⟩ := Visit.pass_eq hpass
  rw [plansPage_iff hload hsame hfiled]
  constructor
  · rintro ⟨result, work, rule, route, hmem, hwork, haction, hrule, hroute⟩
    obtain ⟨condition, hstart, rfl⟩ := Visit.mem_reconciled.mp hmem
    rw [Visit.result_key, ← Visit.rule_eq hstart] at hrule
    cases hwork with
    | decided htransition =>
      cases haction
      obtain ⟨hpage, hheld | hclass⟩ := mem_workRoles_page.mp hroute
      · cases hheld
      · refine .inr ⟨by rw [hpage]; rfl, ?_, condition, hstart,
          Visit.step_of_transition htransition, hclass.2⟩
        rw [hrule]
        simpa using hclass.1
    | held htransition hdue =>
      obtain ⟨_, hquiet⟩ := visit.result_transition id condition
      rw [htransition, eq_comm, Option.map_eq_none_iff] at hquiet
      have hreleases := (Visit.result_quiet hquiet).1.mp hdue
      have hpage := (mem_workRoles_page.mp hroute).1
      exact .inl ⟨condition, Visit.found_of_active hstart hreleases.active, by rw [hpage]; rfl,
        by rw [hrule]; rfl, hreleases⟩
  · rintro (⟨condition, hfound, hpage, hrule, hreleases⟩ |
      ⟨hpage, hclass, condition, hstart, hstep, hdeferred⟩)
    · obtain ⟨route, hroute⟩ := Option.isSome_iff_exists.mp hpage
      obtain ⟨rule, hrule⟩ := Option.isSome_iff_exists.mp hrule
      have hstart := Visit.start_of_found hfound
      obtain ⟨_, htransition⟩ := visit.result_transition id condition
      rw [hreleases.quiet, Option.map_none] at htransition
      refine ⟨visit.result id condition, ⟨id, .trigger, .recovered, true⟩, rule, route,
        Visit.mem_reconciled.mpr ⟨condition, hstart, rfl⟩,
        .held htransition ((Visit.result_quiet hreleases.quiet).1.mpr hreleases), rfl, ?_,
        mem_workRoles_page.mpr ⟨hroute, .inl rfl⟩⟩
      rw [Visit.result_key, ← Visit.rule_eq hstart]
      exact hrule
    · obtain ⟨route, hroute⟩ := Option.isSome_iff_exists.mp hpage
      obtain ⟨rule, hrule, hpaged⟩ := (Option.any_eq_true _ _).mp hclass
      obtain ⟨_, htransition⟩ := visit.result_transition id condition
      rw [hstep, Option.map_some] at htransition
      refine ⟨visit.result id condition, _, rule, route,
        Visit.mem_reconciled.mpr ⟨condition, hstart, rfl⟩, .decided htransition, rfl, ?_,
        mem_workRoles_page.mpr ⟨hroute, .inr ⟨by simpa using hpaged, hdeferred⟩⟩⟩
      rw [Visit.result_key, ← Visit.rule_eq hstart]
      exact hrule

/-- At a trigger the notice is planned. -/
theorem plansNotice_of_trigger (hpass : visit.input.evaluate visit.disk = .ok visit.pass)
    (h : (id, .trigger, reason) ∈ visit.pass.decided) (hrule : (visit.rule id).isSome = true) :
    visit.pass.PlansTrigger id .notice := by
  obtain ⟨condition, hstart, htransition⟩ := (Visit.mem_decided hpass).mp h
  obtain ⟨rule, hfound⟩ := Option.isSome_iff_exists.mp hrule
  rw [Visit.rule_eq hstart, ← @Visit.result_key visit id condition] at hfound
  obtain ⟨share, next, hslots⟩ := exists_slotPass visit.input visit.state visit.disk.intents
    (Visit.mem_reconciled.mpr ⟨condition, hstart, rfl⟩)
  have hroute : (Role.notice, visit.input.config.routes.noticeRoute) ∈ workRoles visit.input.config
      rule (visit.result id condition).condition ⟨id, .trigger, reason, false⟩ := by
    simp [workRoles]
  have hplanned := (hslots .notice).plans (.decided htransition) rfl hfound hroute
  rw [(Visit.pass_eq hpass).2]
  unfold Pass.PlansTrigger
  simpa only [PassInput.pass] using hplanned

end Visits

end ConstellationMonitor.Attention
