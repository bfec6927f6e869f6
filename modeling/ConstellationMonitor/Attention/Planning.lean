/-
  Attention/Planning.lean --- the planning of a pass, condition by condition.

  The planning visits every condition at most once, so what it comes to for a condition
  depends on that condition alone, and on the intent files written before its turn.
-/
import ConstellationMonitor.Attention.Lifecycle
import ConstellationMonitor.Attention.Passes

namespace ConstellationMonitor.Attention

open Foundation
open Std (ExtTreeMap)

/-! ## Intent files -/

/-- Intent files after some more were written. -/
def writeAll (files : ExtTreeMap Text Intent) (written : List Written) : ExtTreeMap Text Intent :=
  written.foldl (fun files written => files.insert written.file written.intent) files

@[simp] theorem writeAll_nil (files : ExtTreeMap Text Intent) : writeAll files [] = files := rfl

theorem writeAll_append (files : ExtTreeMap Text Intent) (left right : List Written) :
    writeAll files (left ++ right) = writeAll (writeAll files left) right :=
  List.foldl_append

variable {files : ExtTreeMap Text Intent} {written : List Written} {id : Text}
  {reconciled : List (Text × Reconciled)}

/-- A file after some writes is one of those written or an old one that was not replaced. -/
theorem writeAll_getElem? {file : Text} {intent : Intent}
    (h : (writeAll files written)[file]? = some intent) :
    (∃ item ∈ written, item.file = file ∧ item.intent = intent) ∨ files[file]? = some intent := by
  induction written generalizing files with
  | nil => exact .inr h
  | cons item rest ih =>
    rcases ih h with ⟨other, hother, hsame⟩ | hold
    · exact .inl ⟨other, by simp [hother], hsame⟩
    · rw [getElem?_insert_iff] at hold
      split at hold
      · rename_i hfile
        exact .inl ⟨item, by simp, hfile, Option.some.inj hold⟩
      · exact .inr hold

/-! ## Each condition once -/

/-- One condition's turn in the planning. -/
structure PlanStep where
  conditionId : Text
  share : ExtTreeMap Text Intent → ConditionState → Option Share

def Planning.visit (planning : Planning) (step : PlanStep) : Planning :=
  match planning.conditions[step.conditionId]? with
  | none => planning
  | some condition =>
    match step.share planning.files condition with
    | none => planning
    | some share => planning.take step.conditionId share

/-- What a step plans, from the conditions at the start and the files at its turn. -/
def Planning.shareAt (start : Planning) (filesAt : Text → ExtTreeMap Text Intent)
    (step : PlanStep) : Option Share :=
  (start.conditions[step.conditionId]?).bind (step.share (filesAt step.conditionId))

/-- The planning after steps for distinct conditions. -/
structure Planning.Visited (start : Planning) (filesAt : Text → ExtTreeMap Text Intent)
    (steps : List PlanStep) (result : Planning) : Prop where
  visited : ∀ step ∈ steps, result.conditions[step.conditionId]? =
    (start.conditions[step.conditionId]?).map fun condition =>
      ((step.share (filesAt step.conditionId) condition).map Share.condition).getD condition
  untouched : ∀ id, (∀ step ∈ steps, step.conditionId ≠ id) →
    result.conditions[id]? = start.conditions[id]?
  written : result.written = start.written ++
    steps.flatMap fun step => ((start.shareAt filesAt step).map Share.written).getD []
  plan : result.plan = start.plan ++
    steps.flatMap fun step => ((start.shareAt filesAt step).map Share.plan).getD []
  files : ∃ later, result.written = start.written ++ later ∧
    result.files = writeAll start.files later
  earlier : ∀ step ∈ steps, ∃ before, (∀ item ∈ before, item ∈ result.written) ∧
    filesAt step.conditionId = writeAll start.files before

/-- One step of the planning. -/
theorem visit_spec (planning : Planning) (step : PlanStep) :
    (planning.visit step).conditions[step.conditionId]? =
        (planning.conditions[step.conditionId]?).map (fun condition =>
          ((step.share planning.files condition).map Share.condition).getD condition) ∧
      (∀ id, step.conditionId ≠ id →
        (planning.visit step).conditions[id]? = planning.conditions[id]?) ∧ ∃ share : Option Share,
        share = (planning.conditions[step.conditionId]?).bind (step.share planning.files) ∧
        (planning.visit step).written = planning.written ++ (share.map Share.written).getD [] ∧
        (planning.visit step).plan = planning.plan ++ (share.map Share.plan).getD [] ∧
        (planning.visit step).files =
          writeAll planning.files ((share.map Share.written).getD []) := by
  unfold Planning.visit
  cases hcondition : planning.conditions[step.conditionId]? with
  | none => simp [hcondition]
  | some condition =>
    cases hshare : step.share planning.files condition with
    | none => simp [hcondition, hshare]
    | some share =>
      simp only [hshare]
      refine ⟨by simp [Planning.take, hshare], fun id hid => ?_, some share, by simp [hshare],
        rfl, rfl, rfl⟩
      simp [Planning.take, getElem?_insert_iff, hid]

/-- Steps for distinct conditions do not see each other's conditions. -/
theorem visited_foldl (steps : List PlanStep) (start : Planning)
    (hnodup : (steps.map PlanStep.conditionId).Nodup) :
    ∃ filesAt, start.Visited filesAt steps (steps.foldl Planning.visit start) := by
  induction steps generalizing start with
  | nil => exact ⟨fun _ => start.files, by simp, by simp, by simp, by simp, ⟨[], by simp⟩, by simp⟩
  | cons step rest ih =>
    obtain ⟨hhead, hrest⟩ := List.nodup_cons.mp hnodup
    have hother : ∀ other ∈ rest, step.conditionId ≠ other.conditionId := fun other hmem hsame =>
      hhead (hsame ▸ List.mem_map_of_mem hmem)
    obtain ⟨filesAt, hvisited⟩ := ih (start.visit step) hrest
    obtain ⟨hself, hframe, share, hshare, hwritten, hplan, hfiles⟩ := visit_spec start step
    -- the files at a later turn are those after this one's
    let filesAll := fun id => if id = step.conditionId then start.files else filesAt id
    have hat : ∀ other ∈ rest, filesAll other.conditionId = filesAt other.conditionId :=
      fun other hmem => if_neg (Ne.symm (hother other hmem))
    have hshares : ∀ other ∈ rest, (start.visit step).shareAt filesAt other =
        start.shareAt filesAll other := by
      intro other hmem
      unfold Planning.shareAt
      rw [hframe _ (hother other hmem), hat other hmem]
    have hfirst : start.shareAt filesAll step = share := by
      rw [hshare]
      simp [Planning.shareAt, filesAll]
    obtain ⟨later, hlater, hlaterFiles⟩ := hvisited.files
    have hfiles' : (rest.foldl Planning.visit (start.visit step)).written =
        start.written ++ ((share.map Share.written).getD [] ++ later) := by
      rw [hlater, hwritten, List.append_assoc]
    refine ⟨filesAll, ?_, ?_, ?_, ?_, ⟨_, hfiles', ?_⟩, ?_⟩
    · intro other hmem
      rcases List.mem_cons.mp hmem with rfl | hmem
      · rw [List.foldl_cons, hvisited.untouched _ fun next hnext => (hother next hnext).symm, hself]
        simp [filesAll]
      · rw [List.foldl_cons, hvisited.visited other hmem, hframe _ (hother other hmem),
          hat other hmem]
    · intro id hid
      rw [List.foldl_cons, hvisited.untouched id fun other hmem => hid other (by simp [hmem]),
        hframe id (hid step (by simp))]
    · rw [List.foldl_cons, hvisited.written, hwritten, List.flatMap_cons, hfirst,
        List.append_assoc]
      congr 2
      exact List.flatMap_congr fun other hmem => by rw [hshares other hmem]
    · rw [List.foldl_cons, hvisited.plan, hplan, List.flatMap_cons, hfirst, List.append_assoc]
      congr 2
      exact List.flatMap_congr fun other hmem => by rw [hshares other hmem]
    · rw [List.foldl_cons, hlaterFiles, hfiles, writeAll_append]
    · intro other hmem
      rcases List.mem_cons.mp hmem with rfl | hmem
      · exact ⟨[], by simp, by simp [filesAll]⟩
      · obtain ⟨before, hbefore, hsame⟩ := hvisited.earlier other hmem
        refine ⟨(share.map Share.written).getD [] ++ before, fun item hitem => ?_, ?_⟩
        · rcases List.mem_append.mp hitem with hitem | hitem
          · rw [List.foldl_cons, hfiles']
            simp [hitem]
          · exact hbefore item hitem
        · rw [hat other hmem, hsame, hfiles, writeAll_append]

/-! ## The steps of a pass -/

/-- The intents of one decision. -/
def workStep (config : Config) (now : Int) (work : Work) : PlanStep :=
  { conditionId := work.conditionId
    share := fun _ condition => (ruleFor config.effectiveRules condition.key.rule).map
      fun rule => planWork config rule now work condition }

/-- The follow-ups of one condition. -/
def followUpStep (config : Config) (now : Int) (id : Text) : PlanStep :=
  { conditionId := id
    share := fun files condition => some (planFollowUps config now id files condition) }

theorem work_eq_visit (config : Config) (now : Int) (planning : Planning) (work : Work) :
    planning.work config now work = planning.visit (workStep config now work) := by
  unfold Planning.work Planning.visit workStep
  cases planning.conditions[work.conditionId]? with
  | none => rfl
  | some condition =>
    simp only
    cases ruleFor config.effectiveRules condition.key.rule <;> rfl

theorem followUps_eq_visit (config : Config) (now : Int) (transitioned : List Text)
    (planning : Planning) (id : Text) : planning.followUps config now transitioned id =
      if id ∉ transitioned then planning.visit (followUpStep config now id) else planning := by
  unfold Planning.followUps Planning.visit followUpStep
  by_cases hid : id ∈ transitioned
  · simp [hid]
  · cases planning.conditions[id]? <;> simp [hid]

/-- The steps of a pass: its decisions, then the conditions without one. -/
def planSteps (config : Config) (now : Int) (reconciled : List (Text × Reconciled))
    (ids : List Text) : List PlanStep :=
  (workOf reconciled).map (workStep config now) ++
    (ids.filter fun id => decide (id ∉ (workOf reconciled).map Work.conditionId)).map
      (followUpStep config now)

/-- The conditions the planning starts from. -/
def planStart (files : ExtTreeMap Text Intent) (reconciled : List (Text × Reconciled)) :
    Planning :=
  ⟨ExtTreeMap.ofList (reconciled.map fun entry => (entry.1, entry.2.condition)), files, [], []⟩

/-- The steps of a pass. -/
def passSteps (config : Config) (now : Int) (files : ExtTreeMap Text Intent)
    (reconciled : List (Text × Reconciled)) : List PlanStep :=
  planSteps config now reconciled ((workOf reconciled).foldl (Planning.work config now)
    (planStart files reconciled)).conditions.keys

/-- The planning before the pending triggers are added and the plan is sorted. -/
def planVisited (config : Config) (now : Int) (files : ExtTreeMap Text Intent)
    (reconciled : List (Text × Reconciled)) : Planning :=
  (passSteps config now files reconciled).foldl Planning.visit (planStart files reconciled)

theorem foldl_work (config : Config) (now : Int) (works : List Work) (start : Planning) :
    works.foldl (Planning.work config now) start =
      (works.map (workStep config now)).foldl Planning.visit start := by
  rw [List.foldl_map]
  congr 1
  funext planning work
  exact work_eq_visit config now planning work

theorem planAll_eq (config : Config) (now : Int) (files : ExtTreeMap Text Intent)
    (reconciled : List (Text × Reconciled)) : planAll config now files reconciled =
      { planVisited config now files reconciled with
        plan := ((planVisited config now files reconciled).plan ++
          pendingPlan (planVisited config now files reconciled).conditions).insertionSort
            planBefore } := by
  have hvisited : planVisited config now files reconciled =
      ((workOf reconciled).foldl (Planning.work config now)
        (planStart files reconciled)).conditions.keys.foldl
          (Planning.followUps config now ((workOf reconciled).map Work.conditionId))
          ((workOf reconciled).foldl (Planning.work config now) (planStart files reconciled)) := by
    unfold planVisited passSteps planSteps
    rw [List.foldl_append, ← foldl_work, List.foldl_map, List.foldl_filter]
    congr 1
    funext planning id
    rw [followUps_eq_visit]
    simp
  rw [hvisited]
  rfl

/-! ## Decisions -/

/-- Each condition has one result, and a held page is due only without a transition. -/
structure OneDecision (reconciled : List (Text × Reconciled)) : Prop where
  nodup : (reconciled.map Prod.fst).Nodup
  pageDue : ∀ entry ∈ reconciled, entry.2.pageDue = true → entry.2.transition = none

theorem reconciled_oneDecision (input : PassInput) (state : State) :
    OneDecision (input.reconciled state) := by
  refine ⟨nodup_reconcileAll _ _ _ _, fun entry hentry hdue => ?_⟩
  obtain ⟨condition, _, hresult⟩ := mem_reconcileAll.mp hentry
  rw [hresult] at hdue ⊢
  exact (reconcile_pageDue _ _ _ _ _ hdue).1

/-- The result of a condition is unique. -/
theorem OneDecision.unique (h : OneDecision reconciled) {left right : Reconciled}
    (hleft : (id, left) ∈ reconciled) (hright : (id, right) ∈ reconciled) : left = right := by
  have := List.inj_on_of_nodup_map h.nodup hleft hright rfl
  exact congrArg Prod.snd this

/-- What there is to plan for a condition. -/
theorem mem_workOf {work : Work} :
    work ∈ workOf reconciled ↔ ∃ result, (work.conditionId, result) ∈ reconciled ∧
      ((work.pageOnly = false ∧ result.transition = some (work.action, work.reason)) ∨
        (result.pageDue = true ∧ work = ⟨work.conditionId, .trigger, .recovered, true⟩)) := by
  obtain ⟨id, action, reason, pageOnly⟩ := work
  simp only [workOf, List.mem_append, List.mem_filterMap, Option.map_eq_some_iff, Work.mk.injEq,
    Option.ite_none_right_eq_some, Option.some.injEq, Prod.exists]
  constructor
  · rintro (⟨other, result, hmem, action', reason', htransition, rfl, rfl, rfl, rfl⟩ |
      ⟨other, result, hmem, hdue, rfl, rfl, rfl, rfl⟩)
    · exact ⟨result, hmem, .inl ⟨rfl, htransition⟩⟩
    · exact ⟨result, hmem, .inr ⟨hdue, trivial, rfl, rfl, rfl⟩⟩
  · rintro ⟨result, hmem, ⟨rfl, htransition⟩ | ⟨hdue, _, rfl, rfl, rfl⟩⟩
    · exact .inl ⟨id, result, hmem, action, reason, htransition, rfl, rfl, rfl, rfl⟩
    · exact .inr ⟨id, result, hmem, hdue, rfl, rfl, rfl, rfl⟩

/-- No condition has two decisions. -/
theorem OneDecision.nodup_work (h : OneDecision reconciled) :
    ((workOf reconciled).map Work.conditionId).Nodup := by
  unfold workOf
  rw [List.map_append, List.nodup_append]
  refine ⟨nodup_map_filterMap _ _ _ ?_ h.nodup, nodup_map_filterMap _ _ _ ?_ h.nodup, ?_⟩
  · intro entry work hwork
    obtain ⟨transition, _, rfl⟩ := Option.map_eq_some_iff.mp hwork
    rfl
  · intro entry work hwork
    simp only [Option.ite_none_right_eq_some, Option.some.injEq] at hwork
    rw [← hwork.2]
  · rintro left hleft right hright rfl
    simp only [List.mem_map, List.mem_filterMap, Option.map_eq_some_iff,
      Option.ite_none_right_eq_some, Option.some.injEq, Prod.exists] at hleft hright
    obtain ⟨_, ⟨id, result, hmem, action, reason, htransition, rfl⟩, rfl⟩ := hleft
    obtain ⟨_, ⟨other, result', hmem', hdue, rfl⟩, rfl⟩ := hright
    obtain rfl := h.unique hmem hmem'
    have hnone : result.transition = none := h.pageDue _ hmem' hdue
    simp [hnone] at htransition

/-! ## The planning of one condition -/

/-- What the planning of a pass can come to for one condition. -/
inductive PlansFor (config : Config) (now : Int) (files : ExtTreeMap Text Intent)
    (written : List Written) (id : Text) (result : Reconciled) : Share → Prop
  /-- a transition was decided -/
  | decided {action : Action} {reason : ResolveReason} {rule : EffectiveRule}
      (htransition : result.transition = some (action, reason))
      (hrule : ruleFor config.effectiveRules result.condition.key.rule = some rule) :
      PlansFor config now files written id result
        (planWork config rule now ⟨id, action, reason, false⟩ result.condition)
  /-- the held page is due -/
  | held {rule : EffectiveRule} (htransition : result.transition = none)
      (hdue : result.pageDue = true)
      (hrule : ruleFor config.effectiveRules result.condition.key.rule = some rule) :
      PlansFor config now files written id result
        (planWork config rule now ⟨id, .trigger, .recovered, true⟩ result.condition)
  /-- a decision for a rule the registry does not have -/
  | unruled (hwork : result.transition.isSome = true ∨ result.pageDue = true)
      (hrule : ruleFor config.effectiveRules result.condition.key.rule = none) :
      PlansFor config now files written id result ⟨result.condition, [], []⟩
  /-- no decision -/
  | followed {before : List Written} (htransition : result.transition = none)
      (hdue : result.pageDue = false) (hbefore : ∀ item ∈ before, item ∈ written) :
      PlansFor config now files written id result
        (planFollowUps config now id (writeAll files before) result.condition)

/-- The planning of a pass, as one share for each condition. -/
structure PlannedBy (config : Config) (now : Int) (files : ExtTreeMap Text Intent)
    (reconciled : List (Text × Reconciled)) (planning : Planning)
    (share : Text → Reconciled → Share) : Prop where
  shares : ∀ id result, (id, result) ∈ reconciled →
    PlansFor config now files planning.written id result (share id result)
  conditions : ∀ id condition, planning.conditions[id]? = some condition ↔
    ∃ result, (id, result) ∈ reconciled ∧ condition = (share id result).condition
  written : ∀ item, item ∈ planning.written ↔
    ∃ id result, (id, result) ∈ reconciled ∧ item ∈ (share id result).written
  plan : ∀ item, item ∈ planning.plan ↔
    (∃ id result, (id, result) ∈ reconciled ∧ item ∈ (share id result).plan) ∨
      item ∈ pendingPlan planning.conditions
  files : planning.files = writeAll files planning.written

theorem planStart_getElem? (h : OneDecision reconciled) {condition : ConditionState} :
    (planStart files reconciled).conditions[id]? = some condition ↔
      ∃ result, (id, result) ∈ reconciled ∧ condition = result.condition := by
  have hdistinct : (reconciled.map fun entry => (entry.1, entry.2.condition)).Pairwise
      fun left right => ¬ compare left.1 right.1 = .eq := by
    rw [List.pairwise_map]
    refine (List.pairwise_map.mp h.nodup).imp fun {left right} hne hsame => hne ?_
    exact Std.LawfulEqOrd.eq_of_compare hsame
  unfold planStart
  constructor
  · intro hfound
    by_cases hmem : ∃ result, (id, result) ∈ reconciled
    · obtain ⟨result, hresult⟩ := hmem
      have hheld := @ExtTreeMap.getElem?_ofList_of_mem _ _ _ _ _ id id Std.ReflOrd.compare_self
        result.condition hdistinct (List.mem_map.mpr ⟨(id, result), hresult, rfl⟩)
      rw [hheld] at hfound
      exact ⟨result, hresult, (Option.some.inj hfound).symm⟩
    · rw [ExtTreeMap.getElem?_ofList_of_contains_eq_false] at hfound
      · cases hfound
      · simpa using hmem
  · rintro ⟨result, hresult, rfl⟩
    exact @ExtTreeMap.getElem?_ofList_of_mem _ _ _ _ _ id id Std.ReflOrd.compare_self
      result.condition hdistinct (List.mem_map.mpr ⟨(id, result), hresult, rfl⟩)

/-- The conditions of a pass keep their names through the planning. -/
theorem planKeys {config : Config} {now : Int} (h : OneDecision reconciled) (id : Text) :
    id ∈ ((workOf reconciled).foldl (Planning.work config now)
        (planStart files reconciled)).conditions.keys ↔ ∃ result, (id, result) ∈ reconciled := by
  have hnodup :
      (((workOf reconciled).map (workStep config now)).map PlanStep.conditionId).Nodup := by
    rw [List.map_map]
    exact h.nodup_work
  obtain ⟨filesAt, hvisited⟩ := visited_foldl _ (planStart files reconciled) hnodup
  rw [foldl_work, ExtTreeMap.mem_keys, ExtTreeMap.mem_iff_isSome_getElem?]
  have hsame : ((((workOf reconciled).map (workStep config now)).foldl Planning.visit
      (planStart files reconciled)).conditions[id]?).isSome =
      ((planStart files reconciled).conditions[id]?).isSome := by
    by_cases hstep : ∃ step ∈ (workOf reconciled).map (workStep config now), step.conditionId = id
    · obtain ⟨step, hstep, rfl⟩ := hstep
      rw [hvisited.visited step hstep, Option.isSome_map]
    · rw [hvisited.untouched id fun step hmem hid => hstep ⟨step, hmem, hid⟩]
  rw [hsame, Option.isSome_iff_exists]
  simp only [planStart_getElem? h]
  constructor
  · rintro ⟨_, result, hresult, _⟩
    exact ⟨result, hresult⟩
  · rintro ⟨result, hresult⟩
    exact ⟨_, result, hresult, rfl⟩

/-- The step of a condition, and what it plans. -/
theorem plansFor_of_step {config : Config} {now : Int} {before : ExtTreeMap Text Intent}
    (h : OneDecision reconciled) {ids : List Text} {earlier : List Written} {result : Reconciled}
    {step : PlanStep} (hstep : step ∈ planSteps config now reconciled ids)
    (hid : step.conditionId = id) (hresult : (id, result) ∈ reconciled)
    (hearlier : ∀ item ∈ earlier, item ∈ written) (hbefore : before = writeAll files earlier) :
    PlansFor config now files written id result
      ((step.share before result.condition).getD ⟨result.condition, [], []⟩) := by
  subst hid
  unfold planSteps at hstep
  rcases List.mem_append.mp hstep with hwork | hfollow
  · obtain ⟨work, hmem, rfl⟩ := List.mem_map.mp hwork
    obtain ⟨other, hother, hdecision⟩ := mem_workOf.mp hmem
    obtain rfl : result = other := h.unique hresult hother
    simp only [workStep]
    cases hrule : ruleFor config.effectiveRules result.condition.key.rule with
    | none =>
      refine .unruled ?_ hrule
      rcases hdecision with ⟨_, htransition⟩ | ⟨hdue, _⟩
      · exact .inl (by simp [htransition])
      · exact .inr hdue
    | some rule =>
      obtain ⟨name, action, reason, pageOnly⟩ := work
      rcases hdecision with ⟨hpage, htransition⟩ | ⟨hdue, hsame⟩
      · obtain rfl : pageOnly = false := hpage
        exact .decided htransition hrule
      · obtain ⟨rfl, rfl, rfl⟩ : action = .trigger ∧ reason = .recovered ∧ pageOnly = true := by
          simpa using hsame
        exact .held (h.pageDue _ hresult hdue) hdue hrule
  · obtain ⟨name, hname, rfl⟩ := List.mem_map.mp hfollow
    obtain ⟨_, hquiet⟩ := List.mem_filter.mp hname
    have hnot : ∀ work ∈ workOf reconciled, work.conditionId ≠ name := fun work hwork hsame =>
      (of_decide_eq_true hquiet) (hsame ▸ List.mem_map_of_mem hwork)
    have htransition : result.transition = none := by
      cases htransition : result.transition with
      | none => rfl
      | some transition =>
        exact absurd rfl (hnot ⟨name, transition.1, transition.2, false⟩
          (mem_workOf.mpr ⟨result, hresult, .inl ⟨rfl, htransition⟩⟩))
    have hdue : result.pageDue = false := by
      cases hdue : result.pageDue with
      | false => rfl
      | true =>
        exact absurd rfl (hnot ⟨name, .trigger, .recovered, true⟩
          (mem_workOf.mpr ⟨result, hresult, .inr ⟨hdue, rfl⟩⟩))
    subst hbefore
    exact .followed htransition hdue hearlier

/-! ## The shares of a pass -/

section Shares

variable {config : Config} {now : Int} {filesAt : Text → ExtTreeMap Text Intent}

theorem nodup_passSteps (h : OneDecision reconciled) :
    ((passSteps config now files reconciled).map PlanStep.conditionId).Nodup := by
  rw [passSteps, planSteps, List.map_append, List.map_map, List.map_map, List.nodup_append]
  refine ⟨h.nodup_work, ?_, ?_⟩
  · exact (List.map_id _).symm ▸ (ExtTreeMap.nodup_keys.filter _)
  · rintro left hleft right hright rfl
    obtain ⟨work, hwork, hname⟩ := List.mem_map.mp hleft
    obtain ⟨id, hid, rfl⟩ := List.mem_map.mp hright
    exact of_decide_eq_true (List.mem_filter.mp hid).2 (List.mem_map.mpr ⟨work, hwork, hname⟩)

/-- Every condition has a step. -/
theorem exists_passStep (config : Config) (now : Int) (files : ExtTreeMap Text Intent)
    (h : OneDecision reconciled) {result : Reconciled} (hmem : (id, result) ∈ reconciled) :
    ∃ step ∈ passSteps config now files reconciled, step.conditionId = id := by
  by_cases hwork : id ∈ (workOf reconciled).map Work.conditionId
  · obtain ⟨work, hwork, hname⟩ := List.mem_map.mp hwork
    exact ⟨workStep config now work, List.mem_append_left _ (List.mem_map_of_mem hwork), hname⟩
  · exact ⟨followUpStep config now id, List.mem_append_right _ (List.mem_map_of_mem
      (List.mem_filter.mpr ⟨(planKeys h id).mpr ⟨result, hmem⟩, by simpa using hwork⟩)), rfl⟩

/-- The share of a condition: what its step makes of it. -/
def shareOf (steps : List PlanStep) (filesAt : Text → ExtTreeMap Text Intent) (id : Text)
    (result : Reconciled) : Share :=
  ((steps.find? fun step => step.conditionId = id).bind fun step =>
    step.share (filesAt id) result.condition).getD ⟨result.condition, [], []⟩

theorem shareOf_step {steps : List PlanStep} (hnodup : (steps.map PlanStep.conditionId).Nodup)
    {step : PlanStep} (hstep : step ∈ steps) (result : Reconciled) :
    shareOf steps filesAt step.conditionId result =
      (step.share (filesAt step.conditionId) result.condition).getD ⟨result.condition, [], []⟩ := by
  have hfind : steps.find? (fun other => other.conditionId = step.conditionId) = some step := by
    cases hfind : steps.find? (fun other => other.conditionId = step.conditionId) with
    | none => simpa using List.find?_eq_none.mp hfind step hstep
    | some other =>
      have hname : other.conditionId = step.conditionId := by simpa using List.find?_some hfind
      rw [List.inj_on_of_nodup_map hnodup (List.mem_of_find?_eq_some hfind) hstep hname]
  rw [shareOf, hfind, Option.bind_some]

theorem shareAt_of_mem (files : ExtTreeMap Text Intent) (h : OneDecision reconciled)
    {step : PlanStep} {result : Reconciled} (hmem : (step.conditionId, result) ∈ reconciled) :
    (planStart files reconciled).shareAt filesAt step =
      step.share (filesAt step.conditionId) result.condition := by
  rw [Planning.shareAt, (planStart_getElem? h).mpr ⟨result, hmem, rfl⟩, Option.bind_some]

/-- What the steps of a pass hand out is what the shares of its conditions hold. -/
theorem mem_shares (h : OneDecision reconciled) {γ : Type} (part : Share → List γ)
    (hempty : ∀ condition, part ⟨condition, [], []⟩ = []) (item : γ) :
    (item ∈ (passSteps config now files reconciled).flatMap fun step =>
      (((planStart files reconciled).shareAt filesAt step).map part).getD []) ↔
      ∃ id result, (id, result) ∈ reconciled ∧
        item ∈ part (shareOf (passSteps config now files reconciled) filesAt id result) := by
  rw [List.mem_flatMap]
  constructor
  · rintro ⟨step, hstep, hitem⟩
    cases hfound : (planStart files reconciled).shareAt filesAt step with
    | none => simp [hfound] at hitem
    | some planned =>
      obtain ⟨condition, hcondition, _⟩ := Option.bind_eq_some_iff.mp hfound
      obtain ⟨result, hmem, rfl⟩ := (planStart_getElem? h).mp hcondition
      refine ⟨step.conditionId, result, hmem, ?_⟩
      rw [shareOf_step (nodup_passSteps h) hstep, ← shareAt_of_mem files h hmem, hfound]
      simpa [hfound] using hitem
  · rintro ⟨id, result, hmem, hitem⟩
    obtain ⟨step, hstep, rfl⟩ := exists_passStep config now files h hmem
    refine ⟨step, hstep, ?_⟩
    rw [shareOf_step (nodup_passSteps h) hstep, ← shareAt_of_mem files h hmem] at hitem
    cases hfound : (planStart files reconciled).shareAt filesAt step with
    | none => simp [hfound, hempty] at hitem
    | some planned => simpa [hfound] using hitem

/-- The conditions after the steps are those of the shares. -/
theorem planVisited_getElem? (h : OneDecision reconciled)
    (hvisited : (planStart files reconciled).Visited filesAt (passSteps config now files reconciled)
      (planVisited config now files reconciled)) (condition : ConditionState) :
    (planVisited config now files reconciled).conditions[id]? = some condition ↔
      ∃ result, (id, result) ∈ reconciled ∧ condition =
        (shareOf (passSteps config now files reconciled) filesAt id result).condition := by
  constructor
  · intro hfound
    by_cases hstep : ∃ step ∈ passSteps config now files reconciled, step.conditionId = id
    · obtain ⟨step, hstep, rfl⟩ := hstep
      rw [hvisited.visited step hstep] at hfound
      obtain ⟨start, hcondition, rfl⟩ := Option.map_eq_some_iff.mp hfound
      obtain ⟨result, hmem, rfl⟩ := (planStart_getElem? h).mp hcondition
      refine ⟨result, hmem, ?_⟩
      rw [shareOf_step (nodup_passSteps h) hstep]
      cases step.share (filesAt step.conditionId) result.condition <;> rfl
    · rw [hvisited.untouched id fun step hmem hid => hstep ⟨step, hmem, hid⟩] at hfound
      obtain ⟨result, hmem, rfl⟩ := (planStart_getElem? h).mp hfound
      exact absurd (exists_passStep config now files h hmem) hstep
  · rintro ⟨result, hmem, rfl⟩
    obtain ⟨step, hstep, rfl⟩ := exists_passStep config now files h hmem
    rw [hvisited.visited step hstep, (planStart_getElem? h).mpr ⟨result, hmem, rfl⟩,
      shareOf_step (nodup_passSteps h) hstep, Option.map_some]
    cases step.share (filesAt step.conditionId) result.condition <;> rfl

/-- Every condition of a pass gets its share of the planning. -/
theorem planAll_plannedBy (config : Config) (now : Int) (files : ExtTreeMap Text Intent)
    (h : OneDecision reconciled) :
    ∃ share, PlannedBy config now files reconciled (planAll config now files reconciled) share := by
  obtain ⟨filesAt, hvisited⟩ := visited_foldl (passSteps config now files reconciled)
    (planStart files reconciled) (nodup_passSteps h)
  change (planStart files reconciled).Visited _ _ (planVisited config now files reconciled)
    at hvisited
  obtain ⟨later, hlater, hfiles⟩ := hvisited.files
  refine ⟨shareOf (passSteps config now files reconciled) filesAt, ?_⟩
  rw [planAll_eq]
  refine ⟨fun id result hmem => ?_, fun id => planVisited_getElem? h hvisited, fun item => ?_,
    fun item => ?_, ?_⟩
  · obtain ⟨step, hstep, rfl⟩ := exists_passStep config now files h hmem
    obtain ⟨before, hbefore, hsame⟩ := hvisited.earlier step hstep
    rw [shareOf_step (nodup_passSteps h) hstep]
    exact plansFor_of_step h hstep rfl hmem hbefore hsame
  · rw [← mem_shares h Share.written (fun _ => rfl), hvisited.written]
    simp [planStart]
  · rw [List.mem_insertionSort, List.mem_append, ← mem_shares h Share.plan (fun _ => rfl),
      hvisited.plan]
    simp [planStart]
  · rw [hfiles, show (planVisited config now files reconciled).written = later by
      simpa [planStart] using hlater]
    rfl

end Shares

end ConstellationMonitor.Attention
