/-
  Attention/Lifecycle.lean --- what one observation does to one condition.

  What `step` and `reconcile` decide, and what they leave alone.
-/
import ConstellationMonitor.Attention.Engine

namespace ConstellationMonitor.Attention

open Foundation

/-! ## What is left alone -/

/-- The parts of a condition its lifecycle does not touch. -/
structure SameRecord (left right : ConditionState) : Prop where
  key : left.key = right.key
  lastIntent : left.lastIntent = right.lastIntent
  pendingTrigger : left.pendingTrigger = right.pendingTrigger

section Step

variable {condition : ConditionState} {observation : Observation} {bound now : Int}

theorem step_sameRecord (condition : ConditionState) (observation : Observation)
    (bound now : Int) : SameRecord (step condition observation bound now).1 condition := by
  fun_cases step condition observation bound now <;> exact ⟨rfl, rfl, rfl⟩

theorem step_pageDeferred (condition : ConditionState) (observation : Observation)
    (bound now : Int) :
    (step condition observation bound now).1.pageDeferred = condition.pageDeferred := by
  fun_cases step condition observation bound now <;> rfl

/-! ## What is decided -/

theorem step_trigger_iff (hactive : condition.active = false) :
    (step condition observation bound now).2 = some .trigger ↔
      observation = .present ∧ now - condition.presentSince now > bound := by
  fun_cases step condition observation bound now <;> simp_all +zetaDelta

theorem step_resolve_iff (hactive : condition.active = true) :
    (step condition observation bound now).2 = some .resolve ↔ observation = .removed ∨
      observation = .clear ∧ now - condition.clearedSince now ≥ resolveConfirmSeconds := by
  fun_cases step condition observation bound now <;> simp_all +zetaDelta

theorem step_quiet_iff (hactive : condition.active = true) :
    (step condition observation bound now).2 = none ↔ observation ≠ .removed ∧
      (observation = .clear → now - condition.clearedSince now < resolveConfirmSeconds) := by
  fun_cases step condition observation bound now <;> simp_all +zetaDelta

/-- A trigger is decided for an inactive condition observed present, a resolve for an active
one that is clear or removed. -/
theorem step_transition {action : Action}
    (h : (step condition observation bound now).2 = some action) :
    condition.active = decide (action = .resolve) ∧
      (step condition observation bound now).1.active = decide (action = .trigger) ∧
      (step condition observation bound now).1.transitionAt = some now ∧
      (action = .trigger → observation = .present ∧ now - condition.presentSince now > bound) ∧
      (action = .resolve → (step condition observation bound now).1.firstSeen = none) := by
  revert h
  fun_cases step condition observation bound now <;> rintro ⟨⟩ <;> simp_all +zetaDelta

/-- Without a transition a condition stays active or inactive. -/
theorem step_active_of_none (h : (step condition observation bound now).2 = none) :
    (step condition observation bound now).1.active = condition.active ∧
      (step condition observation bound now).1.transitionAt = condition.transitionAt := by
  revert h
  fun_cases step condition observation bound now <;> rintro ⟨⟩ <;> simp_all +zetaDelta

end Step

/-! ## Reconciling one condition -/

section Reconcile

variable (config : Config) (now : Int) (reports : List InputReport) (item : Option Observed)
  (condition : ConditionState)

/-- The step a pass takes for one condition. -/
def passStep : ConditionState × Option Action :=
  step (condition.relabelled item)
    (observationOf config reports item (condition.relabelled item))
    (persistenceOf config (condition.relabelled item)) now

@[simp] theorem relabelled_key : (condition.relabelled item).key = condition.key := by
  cases item <;> rfl

@[simp] theorem relabelled_active : (condition.relabelled item).active = condition.active := by
  cases item <;> rfl

@[simp] theorem relabelled_firstSeen :
    (condition.relabelled item).firstSeen = condition.firstSeen := by
  cases item <;> rfl

@[simp] theorem relabelled_unknownSince :
    (condition.relabelled item).unknownSince = condition.unknownSince := by
  cases item <;> rfl

theorem relabelled_clearedSince :
    (condition.relabelled item).clearedSince = condition.clearedSince := by
  cases item <;> rfl

@[simp] theorem relabelled_transitionAt :
    (condition.relabelled item).transitionAt = condition.transitionAt := by
  cases item <;> rfl

@[simp] theorem relabelled_lastIntent :
    (condition.relabelled item).lastIntent = condition.lastIntent := by
  cases item <;> rfl

@[simp] theorem relabelled_pendingTrigger :
    (condition.relabelled item).pendingTrigger = condition.pendingTrigger := by
  cases item <;> rfl

@[simp] theorem relabelled_pageDeferred :
    (condition.relabelled item).pageDeferred = condition.pageDeferred := by
  cases item <;> rfl

/-- The transition of a pass is that of its step. -/
theorem reconcile_transition : (reconcile config now reports item condition).transition =
      (passStep config now reports item condition).2.map fun action =>
        (action, resolveReason config now
          (observationOf config reports item (condition.relabelled item))
          (condition.relabelled item)) := by
  unfold reconcile passStep
  dsimp only
  split
  · rename_i action haction
    rw [haction]
    rfl
  · rename_i hnone
    rw [hnone]
    split <;> rfl

/-- Up to the held page, the condition after a pass is that of its step. -/
theorem reconcile_condition : ∃ deferred, (reconcile config now reports item condition).condition =
      { (passStep config now reports item condition).1 with pageDeferred := deferred } := by
  unfold reconcile
  dsimp only
  split
  · exact ⟨_, rfl⟩
  · split
    · exact ⟨false, rfl⟩
    · exact ⟨_, rfl⟩

theorem reconcile_sameRecord :
    SameRecord (reconcile config now reports item condition).condition condition := by
  obtain ⟨deferred, hcondition⟩ := reconcile_condition config now reports item condition
  have hstep := step_sameRecord (condition.relabelled item)
    (observationOf config reports item (condition.relabelled item))
    (persistenceOf config (condition.relabelled item)) now
  rw [hcondition]
  exact ⟨hstep.key.trans (relabelled_key item condition),
    hstep.lastIntent.trans (relabelled_lastIntent item condition),
    hstep.pendingTrigger.trans (relabelled_pendingTrigger item condition)⟩

/-- A held page is due only without a transition, for an active condition. -/
theorem reconcile_pageDue (h : (reconcile config now reports item condition).pageDue = true) :
    (reconcile config now reports item condition).transition = none ∧
      (reconcile config now reports item condition).condition.active = true ∧
      condition.active = true ∧
      (reconcile config now reports item condition).condition.transitionAt =
        condition.transitionAt := by
  unfold reconcile at h ⊢
  dsimp only at h ⊢
  split at h
  · cases h
  · rename_i hnone
    split at h
    · rename_i hdue
      have hsame := step_active_of_none hnone
      rw [relabelled_active, relabelled_transitionAt] at hsame
      rw [if_pos hdue]
      exact ⟨rfl, hdue.1, hsame.1 ▸ hdue.1, hsame.2⟩
    · cases h

end Reconcile

end ConstellationMonitor.Attention
