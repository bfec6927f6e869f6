/-
  Attention/HeldPages.lean --- pages held for a remediation window.

  Under one configuration a held page goes out at the first pass of its episode that is past
  the window and does not observe the condition clear, and at no other.  When the
  configuration changes between the pass that holds a page and the pass that releases it, the
  release does not look at the rule's class again, and without the target it does not look at
  the observation.
-/
import ConstellationMonitor.Attention.Paging
import ConstellationMonitor.Foundation.Stopwatch

namespace ConstellationMonitor.Attention

open Foundation
open Std (ExtTreeMap)

/-! ## From one pass to the next -/

variable {visit : Visit} {condition : ConditionState} {id : Text}

theorem Visit.pass_state (h : visit.input.evaluate visit.disk = .ok visit.pass) :
    visit.after.state = some visit.pass.state := by
  obtain ⟨_, hsame⟩ := Visit.pass_eq h
  unfold Visit.after
  rw [hsame, after_pass_state]
  simp only [PassInput.pass]

/-- A pass loads the state on disk. -/
theorem Visit.state_eq (h : visit.input.evaluate visit.disk = .ok visit.pass) {saved : State}
    (hsaved : visit.disk.state = some saved) : visit.state = saved := by
  obtain ⟨hload, _⟩ := Visit.pass_eq h
  rcases (load_eq_ok _ _ _).mp hload with ⟨hnone, _⟩ | ⟨hsome, _⟩
  · rw [hsaved] at hnone
    cases hnone
  · rw [hsaved] at hsome
    exact (Option.some.inj hsome).symm

/-- The condition a pass leaves on file is the one it reconciled, up to its records. -/
theorem Visit.left_of_start (h : visit.input.evaluate visit.disk = .ok visit.pass)
    {next : ConditionState} (hstart : visit.start id = some condition)
    (hnext : visit.pass.state.conditions[id]? = some next) :
    next.life = (visit.result id condition).condition.life := by
  obtain ⟨_, hsame⟩ := Visit.pass_eq h
  rw [hsame] at hnext
  simp only [PassInput.pass] at hnext
  obtain ⟨result, hmem, hlife⟩ := reconciled_of_final _ _ _ hnext
  have hother := Visit.mem_reconciled.mpr ⟨condition, hstart, rfl⟩
  rw [hlife, (reconciled_oneDecision visit.input visit.state).unique hmem hother]

/-- An active condition stays on file. -/
theorem Visit.left_of_active (h : visit.input.evaluate visit.disk = .ok visit.pass)
    (hstart : visit.start id = some condition)
    (hactive : (visit.result id condition).condition.active = true) :
    ∃ next, visit.pass.state.conditions[id]? = some next := by
  obtain ⟨_, hsame⟩ := Visit.pass_eq h
  obtain ⟨next, hlife, hfound⟩ := final_getElem? visit.input visit.state visit.disk.intents
    (Visit.mem_reconciled.mpr ⟨condition, hstart, rfl⟩)
  have hkept : next.kept visit.input.config = true := by
    have hon : next.active = true := (sameLife_of_eq hlife).active.trans hactive
    simp [ConditionState.kept, hon]
  rw [if_pos hkept] at hfound
  refine ⟨next, ?_⟩
  rw [hsame]
  simpa only [PassInput.pass] using hfound

/-! ## One configuration -/

/-- A pass is past the end of a window and observes the condition present or unknown. -/
def Visit.PageDue (visit : Visit) (id : Text) (until' : Int) : Prop :=
  until' ≤ visit.input.now ∧
    (visit.observation id = some .present ∨ visit.observation id = some .unknown)

/-- A page-class condition with a remediation target and a page route. -/
structure Remediated (config : Config) (key : ConditionKey) (window : Int) : Prop where
  paged : (ruleFor config.effectiveRules key.rule).any (fun rule => rule.class' == .page) = true
  target : ∃ target, config.remediationTarget key.rule key.targetClass = some target ∧
    target.policy = .autoRemediateThenPage ∧ target.windowSeconds = window
  route : config.routes.pageRoute.isSome = true

theorem Visit.step_key (visit : Visit) (id : Text) (condition : ConditionState) :
    (visit.step id condition).1.key = condition.key :=
  (step_sameRecord _ _ _ _).key.trans (relabelled_key _ _)

section Episode

variable {visit : Visit} {id : Text} {condition next : ConditionState} {window first : Int}

theorem Remediated.heldUntil {config : Config} (h : Remediated config condition.key window)
    (hfirst : condition.firstSeen = some first) :
    heldUntil config condition = some (min (first + window) i64Max) := by
  obtain ⟨target, htarget, hpolicy, rfl⟩ := h.target
  simp [Attention.heldUntil, Config.responsePolicy, htarget, hpolicy, hfirst, windowUntil]

/-- The page decision of a pass about a condition with a target. -/
theorem Visit.send_iff (hstart : visit.start id = some condition)
    (hremediated : Remediated visit.input.config condition.key window)
    (hfirst : (visit.step id condition).1.firstSeen = some first)
    (hclock : visit.input.now < i64Max) :
    visit.pageDecision id condition = .send ↔ visit.PageDue id (first + window) := by
  rw [← Visit.step_key visit id condition] at hremediated
  rw [Visit.pageDecision, pageNow_eq_send_iff, hremediated.heldUntil hfirst]
  simp only [Option.some.injEq, forall_eq', Visit.PageDue, Visit.observation, hstart,
    Option.map_some]
  exact and_congr_left fun _ => by omega

/-- The triggering pass: its page is planned when it is already due, and held otherwise. -/
theorem Visit.trigger_page (hpass : visit.input.evaluate visit.disk = .ok visit.pass)
    (hfiled : visit.disk.PagesFiled) {reason : ResolveReason}
    (htrigger : (id, .trigger, reason) ∈ visit.pass.decided)
    (hnext : visit.pass.state.conditions[id]? = some next)
    (hremediated : Remediated visit.input.config next.key window)
    (hfirst : next.firstSeen = some first) (hclock : visit.input.now < i64Max) :
    next.active = true ∧ visit.pass.PlansTrigger id .notice ∧
      (visit.pass.PlansTrigger id .page ↔ visit.PageDue id (first + window)) ∧
      (next.pageDeferred = true ↔ ¬ visit.PageDue id (first + window)) := by
  obtain ⟨condition, hstart, htransition⟩ := (Visit.mem_decided hpass).mp htrigger
  have hstep := Visit.step_of_transition htransition
  have hlife := sameLife_of_eq (Visit.left_of_start hpass hstart hnext)
  obtain ⟨deferred, hcondition⟩ := visit.result_condition id condition
  have hkey : next.key = condition.key := hlife.key.trans Visit.result_key
  have hstepped : (visit.step id condition).1.firstSeen = some first := by
    rw [← hfirst, hlife.firstSeen, hcondition]
  have hactive := hlife.active.trans (Visit.result_active_of_trigger hstep)
  rw [hkey] at hremediated
  have hsend := Visit.send_iff hstart hremediated hstepped hclock
  have hpaged : (visit.rule id).any (fun rule => rule.class' == .page) = true := by
    rw [Visit.rule_eq hstart]
    exact hremediated.paged
  have hrule := Option.isSome_of_any hpaged
  have hheld : next.pageDeferred = true ↔ ¬ visit.PageDue id (first + window) := by
    rw [hlife.pageDeferred, Visit.result_trigger hstart hstep, ← hsend]
    cases visit.pageDecision id condition <;> simp [hpaged]
  refine ⟨hactive, plansNotice_of_trigger hpass htrigger hrule, ?_, hheld⟩
  rw [plansPage_cases hpass hfiled]
  have hdeferred : (visit.result id condition).condition.pageDeferred = false ↔
      visit.PageDue id (first + window) := by
    rw [← hlife.pageDeferred, ← Bool.not_eq_true, hheld, not_not]
  constructor
  · rintro (⟨other, hfound, _, _, hreleases⟩ | ⟨_, _, other, hother, _, hnot⟩)
    · obtain rfl := Option.some.inj (hstart.symm.trans (Visit.start_of_found hfound))
      have hquiet := hreleases.quiet
      rw [hstep] at hquiet
      cases hquiet
    · obtain rfl := Option.some.inj (hstart.symm.trans hother)
      exact hdeferred.mp hnot
  · intro hdue
    exact .inr ⟨hremediated.route, hpaged, condition, hstart, hstep, hdeferred.mpr hdue⟩

/-- A later pass of the episode: a held page is planned when it is due, and stays held
otherwise. -/
theorem Visit.hold_page (hpass : visit.input.evaluate visit.disk = .ok visit.pass)
    (hfiled : visit.disk.PagesFiled) (hfound : visit.state.conditions[id]? = some condition)
    (hactive : condition.active = true)
    (hremediated : Remediated visit.input.config condition.key window)
    (hfirst : condition.firstSeen = some first) (hclock : visit.input.now < i64Max)
    (hopen : ∀ reason, (id, .resolve, reason) ∉ visit.pass.decided) :
    (visit.pass.PlansTrigger id .page ↔
      condition.pageDeferred = true ∧ visit.PageDue id (first + window)) ∧
    ∃ next, visit.pass.state.conditions[id]? = some next ∧ next.active = true ∧
      next.key = condition.key ∧ next.firstSeen = some first ∧ (next.pageDeferred = true ↔
        condition.pageDeferred = true ∧ ¬ visit.PageDue id (first + window)) := by
  have hstart := Visit.start_of_found hfound
  have hquiet := Visit.step_quiet hpass hstart hactive hopen
  have hstepFirst : (visit.step id condition).1.firstSeen = some first :=
    step_firstSeen_of_active ((relabelled_active _ _).trans hactive)
      ((relabelled_firstSeen _ _).trans hfirst) hquiet
  have hresultActive := (Visit.result_active_of_quiet hquiet).trans hactive
  have hsend := Visit.send_iff hstart hremediated hstepFirst hclock
  have hreleases : visit.ReleasesPage id condition ↔
      condition.pageDeferred = true ∧ visit.PageDue id (first + window) := by
    rw [← hsend]
    exact ⟨fun h => ⟨h.held, h.send⟩, fun h => ⟨hactive, h.1, hquiet, h.2⟩⟩
  have hrule : (visit.rule id).isSome = true := by
    rw [Visit.rule_eq hstart]
    exact Option.isSome_of_any hremediated.paged
  constructor
  · rw [plansPage_cases hpass hfiled, ← hreleases]
    constructor
    · rintro (⟨other, hother, _, _, hrelease⟩ | ⟨_, _, other, hother, htrigger, _⟩)
      · obtain rfl := Option.some.inj (hfound.symm.trans hother)
        exact hrelease
      · obtain rfl := Option.some.inj (hstart.symm.trans hother)
        rw [hquiet] at htrigger
        cases htrigger
    · intro hrelease
      exact .inl ⟨condition, hfound, hremediated.route, hrule, hrelease⟩
  · obtain ⟨next, hnext⟩ := Visit.left_of_active hpass hstart hresultActive
    have hlife := sameLife_of_eq (Visit.left_of_start hpass hstart hnext)
    refine ⟨next, hnext, hlife.active.trans hresultActive, hlife.key.trans Visit.result_key, ?_, ?_⟩
    · obtain ⟨deferred, hcondition⟩ := visit.result_condition id condition
      rw [hlife.firstSeen, hcondition]
      exact hstepFirst
    · rw [hlife.pageDeferred, (Visit.result_quiet hquiet).2, hreleases]
      tauto

end Episode

/-- What an episode asks of each of its passes: the configuration, that the condition is not
resolved, and a clock in range (the source's seconds are those of a 64-bit count of
milliseconds). -/
structure Visit.Holds (visit : Visit) (id : Text) (config : Config) : Prop where
  config : visit.input.config = config
  clock : visit.input.now < i64Max
  unresolved : ∀ reason, (id, .resolve, reason) ∉ visit.pass.decided

/-- The page of an active condition is planned as a latch fires: armed while the page is held, and
tripped by the first pass that finds it due. -/
theorem held_page_latched {config : Config} {key : ConditionKey} {window first : Int}
    (hremediated : Remediated config key window) {visits : List Visit} {disk : Disk}
    (hpasses : Passes disk visits) (hfiled : ∀ visit ∈ visits, visit.disk.PagesFiled)
    (hholds : ∀ visit ∈ visits, visit.Holds id config) {saved : State}
    (hsaved : disk.state = some saved) (hfound : saved.conditions[id]? = some condition)
    (hactive : condition.active = true) (hkey : condition.key = key)
    (hfirst : condition.firstSeen = some first) :
    Latched (fun visit : Visit => visit.PageDue id (first + window))
      (fun visit => visit.pass.PlansTrigger id .page) (condition.pageDeferred = true) visits := by
  induction visits generalizing disk saved condition with
  | nil => exact .nil
  | cons head rest ih =>
    cases hpasses with
    | cons hlost hpass hrest =>
      have hhead := hholds head (by simp)
      have hstate : head.state = saved := Visit.state_eq hpass (hlost.state.trans hsaved)
      have hhere : Remediated head.input.config condition.key window := by
        rw [hhead.config, hkey]
        exact hremediated
      rw [← hstate] at hfound
      obtain ⟨hplans, next, hnext, hnextActive, hnextKey, hnextFirst, hnextDeferred⟩ :=
        Visit.hold_page hpass (hfiled head (by simp)) hfound hactive hhere hfirst hhead.clock
          hhead.unresolved
      exact .cons hplans hnextDeferred (ih hrest (fun visit hmem => hfiled visit (by simp [hmem]))
        (fun visit hmem => hholds visit (by simp [hmem])) (Visit.pass_state hpass) hnext
        hnextActive (hnextKey.trans hkey) hnextFirst)

/-- Under one configuration in which a page-class condition has a remediation window and a page
route exists (only `service-down` targets can have a window): in the episode of a trigger the
notice is planned by the triggering pass; a page is planned by exactly the first pass of the
episode that is past the window and observes the condition present or unknown, so at most once,
and at all if and only if there is such a pass. -/
theorem held_page_exact {config : Config} {earlier during later : List Visit} {triggered : Visit}
    {id : Text} {condition : ConditionState} {reason : ResolveReason} {window first : Int}
    (hpasses : Passes ⟨none, ∅⟩ (earlier ++ triggered :: (during ++ later)))
    (htrigger : (id, .trigger, reason) ∈ triggered.pass.decided)
    (hcondition : triggered.pass.state.conditions[id]? = some condition)
    (hremediated : Remediated config condition.key window)
    (hfirst : condition.firstSeen = some first)
    (hconfig : triggered.input.config = config) (hclock : triggered.input.now < i64Max)
    (hduring : ∀ visit ∈ during, visit.Holds id config) : triggered.pass.PlansTrigger id .notice ∧
      (∀ (k : ℕ) (visit : Visit), (triggered :: during)[k]? = some visit →
        (visit.pass.PlansTrigger id .page ↔ visit.PageDue id (first + window) ∧
          ∀ (j : ℕ) (other : Visit), j < k → (triggered :: during)[j]? = some other →
            ¬ other.PageDue id (first + window))) ∧
      (∀ (j k : ℕ) (left right : Visit), (triggered :: during)[j]? = some left →
        (triggered :: during)[k]? = some right → left.pass.PlansTrigger id .page →
        right.pass.PlansTrigger id .page → j = k) ∧
      ((∃ visit ∈ triggered :: during, visit.pass.PlansTrigger id .page) ↔
        ∃ visit ∈ triggered :: during, visit.PageDue id (first + window)) := by
  have hfiled : ∀ visit ∈ triggered :: during, visit.disk.PagesFiled := by
    intro visit hmem
    refine hpasses.pagesFiled visit ?_
    rcases List.mem_cons.mp hmem with rfl | hmem
    · simp
    · simp [hmem]
  obtain ⟨hpass, hrest⟩ := hpasses.tail
  obtain ⟨hactive, hnotice, hplans, hdeferred⟩ := Visit.trigger_page hpass
    (hfiled triggered (by simp)) htrigger hcondition (by rw [hconfig]; exact hremediated) hfirst
    hclock
  have hlater := held_page_latched hremediated hrest.start
    (fun visit hmem => hfiled visit (by simp [hmem])) hduring (Visit.pass_state hpass) hcondition
    hactive rfl hfirst
  -- the trigger arms the latch, and the triggering pass may trip it already
  have hlatched : Latched (fun visit : Visit => visit.PageDue id (first + window))
      (fun visit => visit.pass.PlansTrigger id .page) True (triggered :: during) :=
    .cons (by simpa using hplans) (by simpa using hdeferred) hlater
  refine ⟨hnotice, ?_, hlatched.unique, ?_⟩
  · simpa using hlatched.first
  · simpa using hlatched.exists_fires_iff

namespace Reference

/-- The unit `demo.service` is remediated for four minutes before its page goes out. -/
def demoTarget : RemediationTarget :=
  { rule := "service-down", targetClass := "demo.service", policy := .autoRemediateThenPage
    windowSeconds := 240 }

def remediating : Config := config nqOnly [demoTarget]

/-- A pass whose NQ status shows the unit so. -/
def unitPass (config : Config) (now : Int) (observation : Observation) : PassInput :=
  { config, now, readings := fun _ => current [⟨.serviceDown, some "demo.service", observation⟩]
    answers := accepting }

def unitKey : ConditionKey :=
  { site := "lab", component := "service", rule := "service-down"
    targetClass := some "demo.service" }

/-- Three passes over a unit that stays down. -/
def downPasses : List PassInput :=
  [unitPass remediating 1000 .present, unitPass remediating 1190 .present,
    unitPass remediating 1250 .present]

def downVisits : List Visit := visitsFrom ⟨none, ∅⟩ downPasses

/-- A pass triggers the unit's condition, whose presence began at `first`. -/
def triggersUnit (visit : Visit) (first : Int) : Bool :=
  decide ((unitKey.id, Action.trigger, ResolveReason.recovered) ∈ visit.pass.decided) &&
    (visit.pass.state.conditions[unitKey.id]?).any fun condition =>
      decide (condition.key = unitKey) && decide (condition.firstSeen = some first)

end Reference

open Reference

/-- A unit that stays down: triggered 190 s after it was first seen, its page goes out with the
first pass after the 240 s of the window. -/
theorem held_page_exact_down : ∃ first second third, downVisits = [first, second, third] ∧
      second.pass.PlansTrigger unitKey.id .notice ∧
      ¬ second.pass.PlansTrigger unitKey.id .page ∧
      third.pass.PlansTrigger unitKey.id .page := by
  obtain ⟨first, second, third, hvisits⟩ :=
    List.length_eq_three.mp (by decide +kernel : downVisits.length = 3)
  have hpasses : Passes ⟨none, ∅⟩ downVisits := visitsFrom_passes _ _
  have hinputs : ∀ visit ∈ downVisits, visit.input ∈ downPasses :=
    fun visit hmem => input_of_mem_visitsFrom hmem
  rw [hvisits] at hpasses hinputs
  have hconfig : ∀ visit ∈ [first, second, third], visit.input.config = remediating ∧
      visit.input.now < i64Max := by
    intro visit hmem
    have hinput := hinputs visit hmem
    simp only [downPasses, List.mem_cons, List.not_mem_nil, or_false] at hinput
    rcases hinput with h | h | h <;> rw [h] <;> exact ⟨rfl, by decide⟩
  have hsecond : (downVisits[1]?).any (fun visit =>
      triggersUnit visit 1000 && decide (visit.input.now < 1240)) = true := by
    decide +kernel
  have hthird : (downVisits[2]?).any (fun visit =>
      visit.pass.decided.isEmpty && decide (1240 ≤ visit.input.now) &&
        decide (visit.observation unitKey.id = some .present)) = true := by
    decide +kernel
  rw [hvisits] at hsecond hthird
  simp only [List.getElem?_cons_succ, List.getElem?_cons_zero, Option.any_some,
    triggersUnit, Bool.and_eq_true, decide_eq_true_eq, List.isEmpty_iff,
    Option.any_eq_true] at hsecond hthird
  obtain ⟨⟨htrigger, condition, hcondition, hkey, hfirst⟩, hearly⟩ := hsecond
  obtain ⟨⟨hquiet, hlate⟩, hpresent⟩ := hthird
  have hremediated : Remediated remediating condition.key 240 := by
    rw [hkey]
    exact ⟨by decide, ⟨demoTarget, rfl, rfl, rfl⟩, rfl⟩
  have hholds : ∀ visit ∈ [third], visit.Holds unitKey.id remediating := by
    intro visit hmem
    obtain rfl := List.mem_singleton.mp hmem
    refine ⟨(hconfig visit (by simp)).1, (hconfig visit (by simp)).2, fun reason hmem => ?_⟩
    rw [hquiet] at hmem
    cases hmem
  obtain ⟨hnotice, hexact, _, _⟩ := @held_page_exact _ [first] [third] [] _ _ _ _ _ _
    hpasses htrigger hcondition hremediated hfirst (hconfig second (by simp)).1
    (hconfig second (by simp)).2 hholds
  have hnotDue : ¬ second.PageDue unitKey.id (1000 + 240) := fun h => by
    have := h.1
    omega
  refine ⟨first, second, third, hvisits, hnotice, fun hplans => ?_, ?_⟩
  · exact hnotDue ((hexact 0 second rfl).mp hplans).1
  · refine (hexact 1 third rfl).mpr ⟨⟨hlate, .inl hpresent⟩, fun j other hj hother => ?_⟩
    obtain rfl : j = 0 := by omega
    obtain rfl : second = other := by simpa using hother
    exact hnotDue

/-! ## Configurations that change -/

/-- A page of a condition fits a pass: the rule is of class page in the pass's effective rules,
and the pass does not observe the condition clear. -/
def Visit.PageFits (visit : Visit) (id : Text) : Prop :=
  (visit.rule id).any (fun rule => rule.class' == .page) = true ∧
    visit.observation id ≠ some .clear

/-- A page planned with a trigger fits. -/
theorem Visit.pageFits_of_trigger
    (hclass : (visit.rule id).any (fun rule => rule.class' == .page) = true)
    (hstart : visit.start id = some condition)
    (hstep : (visit.step id condition).2 = some .trigger) : visit.PageFits id := by
  refine ⟨hclass, ?_⟩
  have hpresent := ((step_transition hstep).2.2.2.1 rfl).1
  rw [Visit.observation, hstart, Option.map_some, passObservation, hpresent]
  simp

/-! An active condition has been seen, so a window that is configured has an end. -/

/-- Every active condition on file has the start of its presence. -/
def Disk.ActiveSeen (disk : Disk) : Prop :=
  ∀ state, disk.state = some state → ∀ (id : Text) (condition : ConditionState),
    state.conditions[id]? = some condition → condition.active = true →
    condition.firstSeen.isSome = true

theorem Disk.ActiveSeen.loaded (h : visit.disk.ActiveSeen)
    (hpass : visit.input.evaluate visit.disk = .ok visit.pass)
    (hfound : visit.state.conditions[id]? = some condition) (hactive : condition.active = true) :
    condition.firstSeen.isSome = true := by
  obtain ⟨hload, -⟩ := Visit.pass_eq hpass
  rcases (load_eq_ok _ _ _).mp hload with ⟨-, hempty⟩ | ⟨hsome, -⟩
  · rw [hempty] at hfound
    simp [State.empty] at hfound
  · exact h _ hsome id condition hfound hactive

theorem step_seen {observation : Observation} {bound now : Int}
    (hseen : condition.active = true → condition.firstSeen.isSome = true)
    (hactive : (step condition observation bound now).1.active = true) :
    (step condition observation bound now).1.firstSeen.isSome = true := by
  cases hstep : (step condition observation bound now).2 with
  | none =>
    have hon := (step_active_of_none hstep).1.symm.trans hactive
    obtain ⟨first, hfirst⟩ := Option.isSome_iff_exists.mp (hseen hon)
    rw [step_firstSeen_of_active hon hfirst hstep]
    rfl
  | some action =>
    obtain ⟨-, hafter, -, htrigger, -⟩ := step_transition hstep
    cases action with
    | trigger =>
      rw [(htrigger rfl).1]
      dsimp only [step]
      split <;> rfl
    | resolve => simp [hactive] at hafter

theorem Visit.activeSeen (hpass : visit.input.evaluate visit.disk = .ok visit.pass)
    (h : visit.disk.ActiveSeen) : visit.after.ActiveSeen := by
  intro state hstate id next hnext hactive
  rw [Visit.pass_state hpass] at hstate
  cases hstate
  obtain ⟨_, hsame⟩ := Visit.pass_eq hpass
  have hfinal := hnext
  rw [hsame] at hfinal
  simp only [PassInput.pass] at hfinal
  obtain ⟨result, hmem, -⟩ := reconciled_of_final _ _ _ hfinal
  obtain ⟨condition, hstart, rfl⟩ := Visit.mem_reconciled.mp hmem
  have hlife := sameLife_of_eq (Visit.left_of_start hpass hstart hnext)
  obtain ⟨deferred, hcondition⟩ := visit.result_condition id condition
  rw [hlife.active, hcondition] at hactive
  rw [hlife.firstSeen, hcondition]
  refine step_seen (fun hon => ?_) hactive
  rw [relabelled_active] at hon
  rw [relabelled_firstSeen]
  exact h.loaded hpass (Visit.found_of_active hstart hon) hon

/-- When the held page of an active condition goes out: the observation is an unconfirmed clear
and no window is configured, or it is present or unknown and the window, if any, is over. -/
theorem Visit.releasesPage_iff (hstart : visit.start id = some condition)
    (hactive : condition.active = true) (hseen : condition.firstSeen.isSome = true) :
    visit.ReleasesPage id condition ↔ condition.pageDeferred = true ∧
      (visit.observation id = some .clear ∧
          visit.input.now - condition.clearedSince visit.input.now < resolveConfirmSeconds ∧
          heldUntil visit.input.config condition = none ∨
        (visit.observation id = some .present ∨ visit.observation id = some .unknown) ∧
          ∀ until', heldUntil visit.input.config condition = some until' →
            until' ≤ visit.input.now) := by
  obtain ⟨first, hfirst⟩ := Option.isSome_iff_exists.mp hseen
  have hbefore : (condition.relabelled ((visit.input.readout visit.state).observed[id]?)).active =
      true := (relabelled_active _ _).trans hactive
  have hquiet : (visit.step id condition).2 = none ↔ _ := step_quiet_iff hbefore
  have hsend : (visit.step id condition).2 = none →
      (visit.pageDecision id condition = .send ↔ _) := fun hnone => by
    rw [Visit.pageDecision, pageNow_eq_send_iff, heldUntil_congr (visit.step_key id condition)
      ((step_firstSeen_of_active hbefore ((relabelled_firstSeen _ _).trans hfirst) hnone).trans
        hfirst.symm)]
  have hreleases : visit.ReleasesPage id condition ↔ condition.pageDeferred = true ∧
      (visit.step id condition).2 = none ∧ visit.pageDecision id condition = .send :=
    ⟨fun h => ⟨h.held, h.quiet, h.send⟩, fun h => ⟨hactive, h.1, h.2.1, h.2.2⟩⟩
  rw [hreleases, and_congr_right hsend, hquiet, relabelled_clearedSince, Visit.observation, hstart,
    Option.map_some]
  refine and_congr_right fun _ => ?_
  unfold passObservation
  generalize observationOf _ _ _ _ = observation
  cases observation <;> simp [Option.eq_none_iff_forall_ne_some]

/-- A held page on file can only go out as a page: if it is due its rule is of class page, and an
unconfirmed clear finds a window configured. -/
structure Visit.HeldPageFits (visit : Visit) (id : Text) (condition : ConditionState) : Prop where
  due : visit.observation id = some .present ∨ visit.observation id = some .unknown →
    (∀ until', heldUntil visit.input.config condition = some until' → until' ≤ visit.input.now) →
    (visit.rule id).any (fun rule => rule.class' == .page) = true
  clear : visit.observation id = some .clear →
    visit.input.now - condition.clearedSince visit.input.now < resolveConfirmSeconds →
    (heldUntil visit.input.config condition).isSome = true

/-- Whatever the configurations of a run, every page it plans fits its pass exactly when each
condition that a pass with a page route finds on file, active and with a held page, has its rule
still of class page if the page is due, and its window still configured if the condition is
observed clear. -/
theorem planned_pages_fit_iff {visits : List Visit} (h : Passes ⟨none, ∅⟩ visits) :
    (∀ visit ∈ visits, ∀ id, visit.pass.PlansTrigger id .page → visit.PageFits id) ↔
      ∀ visit ∈ visits, ∀ id condition, visit.state.conditions[id]? = some condition →
        condition.active = true → condition.pageDeferred = true →
        visit.input.config.routes.pageRoute.isSome = true → (visit.rule id).isSome = true →
        visit.HeldPageFits id condition := by
  have hseen := h.invariant
    (fun before after hlost hinv state hstate => hinv state (hlost.state ▸ hstate))
    (fun visit => Visit.activeSeen) fun state hnone => nomatch hnone
  have hcases := fun visit hmem id =>
    @plansPage_cases visit id (h.evaluated visit hmem) (h.pagesFiled visit hmem)
  have hreleases : ∀ visit ∈ visits, ∀ id condition, visit.state.conditions[id]? = some condition →
      condition.active = true → (visit.ReleasesPage id condition ↔ _) :=
    fun visit hmem id condition hfound hactive => Visit.releasesPage_iff
      (Visit.start_of_found hfound) hactive
      ((hseen visit hmem).loaded (h.evaluated visit hmem) hfound hactive)
  constructor
  · intro hfit visit hmem id condition hfound hactive hheld hroute hrule
    have hfits := fun hgo => hfit visit hmem id ((hcases visit hmem id).mpr (.inl ⟨condition,
      hfound, hroute, hrule, (hreleases visit hmem id condition hfound hactive).mpr ⟨hheld, hgo⟩⟩))
    refine ⟨fun hobservation hdue => (hfits (.inr ⟨hobservation, hdue⟩)).1, fun hclear hshort => ?_⟩
    by_contra hnone
    exact (hfits (.inl ⟨hclear, hshort, by simpa using hnone⟩)).2 hclear
  · intro hfit visit hmem id hplanned
    rcases (hcases visit hmem id).mp hplanned with
      ⟨condition, hfound, hroute, hrule, hpage⟩ | ⟨_, hclass, condition, hstart, hstep, _⟩
    · have hheld := hfit visit hmem id condition hfound hpage.active hpage.held hroute hrule
      obtain ⟨-, ⟨hclear, hshort, hnone⟩ | ⟨hobservation, hdue⟩⟩ :=
        (hreleases visit hmem id condition hfound hpage.active).mp hpage
      · simpa [hnone] using hheld.clear hclear hshort
      · refine ⟨hheld.due hobservation hdue, ?_⟩
        rcases hobservation with hsome | hsome <;> simp [hsome]
    · exact Visit.pageFits_of_trigger hclass hstart hstep

namespace Reference

/-- The next configuration: `service-down` only notifies, and the target is gone. -/
def loosened : Config :=
  { config nqOnly [] with
    rules := (∅ : ExtTreeMap Text RuleOverride).insert "service-down"
      { enabled := none, thresholdSeconds := none, class' := some .notice } }

/-- The unit goes down and its page is held; the configuration changes, and the unit is seen
active again. -/
def changedVisits : List Visit :=
  visitsFrom ⟨none, ∅⟩ [unitPass remediating 1000 .present, unitPass remediating 1190 .present,
    unitPass loosened 1200 .clear]

/-- A pass plans a page for the unit. -/
def plansPage (visit : Visit) : Bool :=
  visit.pass.plan.any fun item => decide (item.conditionId = unitKey.id) &&
    decide (item.role = .page) && decide (item.action = .trigger) &&
    decide (item.operation = .submit)

theorem plansTrigger_of_plansPage {visit : Visit} (h : plansPage visit = true) :
    visit.pass.PlansTrigger unitKey.id .page := by
  simp only [plansPage, List.any_eq_true, Bool.and_eq_true, decide_eq_true_eq] at h
  obtain ⟨item, hitem, ⟨⟨hid, hrole⟩, haction⟩, hoperation⟩ := h
  exact ⟨item, hitem, hid, hrole, haction, hoperation⟩

/-- A pass plans a page for the unit although the rule only notifies and the unit is seen
active. -/
def pagesWrongly (visit : Visit) : Bool :=
  plansPage visit && !(visit.rule unitKey.id).any (fun rule => rule.class' == .page) &&
    decide (visit.observation unitKey.id = some .clear)

end Reference

/-- A page held under a page-class configuration with a target is released, while the unit is
seen active, by a pass whose configuration has neither. -/
theorem changed_configuration_pages :
    remediating.validate = .ok () ∧ loosened.validate = .ok () ∧
      Passes ⟨none, ∅⟩ changedVisits ∧
      ∃ visit ∈ changedVisits, visit.pass.PlansTrigger unitKey.id .page ∧
        (visit.rule unitKey.id).any (fun rule => rule.class' == .page) = false ∧
        visit.observation unitKey.id = some .clear := by
  refine ⟨by decide +kernel, by decide +kernel, visitsFrom_passes _ _, ?_⟩
  have hpages : changedVisits.any pagesWrongly = true := by decide +kernel
  obtain ⟨visit, hmem, hpaged⟩ := List.any_eq_true.mp hpages
  simp only [pagesWrongly, Bool.and_eq_true, decide_eq_true_eq, Bool.not_eq_true']
    at hpaged
  obtain ⟨⟨hplans, hclass⟩, hclear⟩ := hpaged
  exact ⟨visit, hmem, plansTrigger_of_plansPage hplans, hclass, hclear⟩

/-- In the run of a unit that stays down under one configuration every planned page fits: its
one held page is released under the configuration that held it. -/
theorem planned_pages_fit_down :
    downVisits.length = 3 ∧ (∃ visit ∈ downVisits,
        ∃ condition, visit.state.conditions[unitKey.id]? = some condition ∧
          condition.pageDeferred = true) ∧
      ∀ visit ∈ downVisits, ∀ id,
        visit.pass.PlansTrigger id .page → visit.PageFits id := by
  have hheld : downVisits.any (fun visit =>
      (visit.state.conditions[unitKey.id]?).any ConditionState.pageDeferred) = true := by
    decide +kernel
  obtain ⟨held, hmem, hpage⟩ := List.any_eq_true.mp hheld
  refine ⟨by decide +kernel, ⟨held, hmem, (Option.any_eq_true _ _).mp hpage⟩,
    (planned_pages_fit_iff (visitsFrom_passes _ _)).mpr ?_⟩
  have hfits : downVisits.all (fun visit => visit.state.conditions.toList.all fun entry =>
      !entry.2.pageDeferred || ((visit.rule entry.1).any (fun rule => rule.class' == .page) &&
        decide (visit.observation entry.1 ≠ some .clear))) = true := by decide +kernel
  intro visit hmem id condition hfound _ hdeferred _ _
  have hentry := List.all_eq_true.mp (List.all_eq_true.mp hfits visit hmem) (id, condition)
    (ExtTreeMap.mem_toList_iff_getElem?_eq_some.mpr hfound)
  simp only [hdeferred, Bool.not_true, Bool.false_or, Bool.and_eq_true, decide_eq_true_eq]
    at hentry
  exact ⟨fun _ _ => hentry.1, fun hclear => absurd hclear hentry.2⟩

end ConstellationMonitor.Attention
