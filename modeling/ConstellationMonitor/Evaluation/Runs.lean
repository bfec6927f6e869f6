/-
  Runs of one evaluator: every public operation of `pulse-evaluator/src/evaluator.rs` that
  changes it, in any order.

  An operation that fails leaves the evaluator as it was, with one exception:
  `import_contradictions` keeps the records it took before the one it refused.  It is
  therefore taken apart here into its rounds, one record each.
-/
import ConstellationMonitor.Evaluation.Preserve

namespace ConstellationMonitor.Evaluation

open Foundation ConstellationMonitor.Types

open Evaluator

/-- The operations of an evaluator, with their arguments. -/
inductive EvaluatorOperation where
  /-- an operation the runtime invokes -/
  | call (invoked : EvaluatorCall) (atMs : Nat)
  /-- `set_monitor_capability` -/
  | capability (state : MonitorCapabilityV1) (atMs : Nat)
  /-- `resolve_contradiction` -/
  | resolve (contradictionId : ContradictionId) (resolution : ContradictionResolutionV1)
      (atMs : Nat)
  /-- one round of `import_contradictions` -/
  | reinstate (record : ContradictionRecordV1)
  /-- `set_normal_trace` -/
  | normalTrace (normal : Bool)
  /-- `mark_failure_start` -/
  | failureStart (atMs : Nat)

namespace EvaluatorOperation

/-- Perform an operation; those that evaluate return the evaluation. -/
def run (platform : Platform) (operation : EvaluatorOperation) (evaluator : Evaluator) :
    Except EvaluatorError (Option EvaluationOutput × Evaluator) :=
  match operation with
  | .call invoked atMs => do
    let (output, next) ← evaluator.perform platform invoked atMs
    return (some output, next)
  | .capability state atMs =>
    let (output, next) := evaluator.setMonitorCapability platform state atMs
    .ok (some output, next)
  | .resolve contradictionId resolution atMs => do
    let (output, next) ← evaluator.resolveContradiction platform contradictionId resolution atMs
    return (some output, next)
  | .reinstate record => do
    let next ← evaluator.importContradiction record
    return (none, next)
  | .normalTrace normal => .ok (none, { evaluator with normalTrace := normal })
  | .failureStart atMs => .ok (none, { evaluator with faultStartedAtMs := some atMs })

/-- The state an operation evaluates, or leaves behind when it does not evaluate. -/
def prepare (platform : Platform) (operation : EvaluatorOperation) (evaluator : Evaluator) :
    Evaluator :=
  match operation with
  | .call invoked atMs => evaluator.prepare platform invoked atMs
  | .capability state atMs =>
    (({ evaluator with monitorCapability := state } : Evaluator).monitorEvent atMs
      (capabilityText state).1 (capabilityText state).2).2
  | .resolve contradictionId resolution atMs =>
    match evaluator.contradictions[contradictionId]? with
    | none => evaluator
    | some record =>
      let changed := resolveRecord resolution atMs record
      (({ evaluator with
        contradictions := evaluator.contradictions.insert contradictionId changed } :
        Evaluator).sparseEvent atMs (.contradictionLifecycleChanged changed)).2
  | .reinstate record =>
    { evaluator with
      contradictions := evaluator.contradictions.insert record.contradictionId record }
  | .normalTrace normal => { evaluator with normalTrace := normal }
  | .failureStart atMs => { evaluator with faultStartedAtMs := some atMs }

/-- The time an operation evaluates at. -/
def time : EvaluatorOperation → Nat
  | .call _ atMs => atMs
  | .capability _ atMs => atMs
  | .resolve _ _ atMs => atMs
  | _ => 0

end EvaluatorOperation

/-! ## What an operation does

Every operation prepares a state.  Those that return an evaluation then evaluate it. -/

section Steps

variable {platform : Platform} {operation : EvaluatorOperation} {before after : Evaluator}

/-- A resolution that is performed closes an active record. -/
theorem run_resolve {contradictionId : ContradictionId}
    {resolution : ContradictionResolutionV1} {atMs : Nat}
    {output : Option EvaluationOutput}
    (ran : (EvaluatorOperation.resolve contradictionId resolution atMs).run platform before =
      .ok (output, after)) :
    ∃ found evaluation, before.contradictions[contradictionId]? = some found ∧
      found.status = .active ∧ output = some evaluation ∧
      evaluateAfter platform atMs (({ before with
        contradictions := before.contradictions.insert contradictionId
          (resolveRecord resolution atMs found) } : Evaluator).sparseEvent atMs
            (.contradictionLifecycleChanged (resolveRecord resolution atMs found))) =
        (evaluation, after) := by
  simp only [EvaluatorOperation.run, except_bind_eq_ok] at ran
  obtain ⟨⟨evaluation, next⟩, hresolved, hreturned⟩ := ran
  cases hreturned
  simp only [resolveContradiction, check_bind_eq_ok] at hresolved
  obtain ⟨-, hresolved⟩ := hresolved
  split at hresolved
  · cases hresolved
  · rename_i found hfound
    simp only [check_bind_eq_ok, refuseIf_eq_ok, Bool.not_eq_false'] at hresolved
    exact ⟨found, evaluation, hfound, by simpa [ContradictionRecordV1.isActive] using hresolved.1,
      rfl, Except.ok.inj hresolved.2⟩

/-- A record is reinstated without an evaluation, and only where no other has its identity. -/
theorem run_reinstate {record : ContradictionRecordV1} {output : Option EvaluationOutput}
    (ran : (EvaluatorOperation.reinstate record).run platform before = .ok (output, after)) :
    output = none ∧ after = (EvaluatorOperation.reinstate record).prepare platform before ∧
      ∀ (id : ContradictionId) (other : ContradictionRecordV1),
        before.contradictions[id]? = some other → after.contradictions[id]? = some other := by
  simp only [EvaluatorOperation.run, except_bind_eq_ok] at ran
  obtain ⟨next, himported, hreturned⟩ := ran
  cases hreturned
  simp only [importContradiction, check_bind_eq_ok, refuseIf_eq_ok] at himported
  obtain ⟨-, hbound, himported⟩ := himported
  obtain rfl := (Except.ok.inj himported).symm
  refine ⟨rfl, rfl, fun id other hfound => (getElem?_insert_iff _ _ _ _).trans ?_⟩
  split
  · rename_i hid
    subst hid
    rw [hfound] at hbound
    have hsame : other = record := by simpa using hbound
    rw [hsame]
  · exact hfound

/-- An operation that returns an evaluation evaluates the state it prepared. -/
theorem evaluates_run {output : EvaluationOutput}
    (ran : operation.run platform before = .ok (some output, after)) :
    Evaluates platform operation.time (operation.prepare platform before) output
      after := by
  cases operation with
  | call call atMs =>
    simp only [EvaluatorOperation.run, except_bind_eq_ok] at ran
    obtain ⟨⟨given, next⟩, hperformed, hreturned⟩ := ran
    cases hreturned
    exact evaluates_perform hperformed
  | capability state atMs =>
    cases ran
    exact ⟨rfl, rfl, rfl, rfl⟩
  | resolve contradictionId resolution atMs =>
    obtain ⟨found, evaluation, hfound, -, heq, hevaluated⟩ := run_resolve ran
    cases heq
    simp only [EvaluatorOperation.prepare, hfound]
    exact .of_ok (congrArg _ hevaluated) ⟨rfl, rfl, rfl, rfl⟩
  | reinstate record => exact absurd (run_reinstate ran).1 (by simp)
  | normalTrace normal => cases ran
  | failureStart atMs => cases ran

/-- An operation that returns no evaluation leaves the state it prepared. -/
theorem run_none (ran : operation.run platform before = .ok (none, after)) :
    after = operation.prepare platform before := by
  cases operation with
  | call call atMs =>
    simp only [EvaluatorOperation.run, except_bind_eq_ok] at ran
    obtain ⟨_, -, hreturned⟩ := ran
    cases hreturned
  | capability state atMs => cases ran
  | resolve contradictionId resolution atMs =>
    obtain ⟨_, _, -, -, heq, -⟩ := run_resolve ran
    cases heq
  | reinstate record => exact (run_reinstate ran).2.1
  | normalTrace normal =>
    cases ran
    rfl
  | failureStart atMs =>
    cases ran
    rfl

variable {output : Option EvaluationOutput}

/-- Past its preparation, an operation changes no policy, lineage, evidence or
contradiction. -/
theorem retains_run (ran : operation.run platform before = .ok (output, after)) :
    Retains (operation.prepare platform before) after := by
  cases output with
  | none =>
    rw [run_none ran]
    exact .refl _
  | some evaluation =>
    rw [(evaluates_run ran).state]
    exact retains_evaluate platform _ _

/-- An operation that is performed found its arguments acceptable. -/
theorem run_call {call : EvaluatorCall} {atMs : Nat}
    (ran : (EvaluatorOperation.call call atMs).run platform before = .ok (output, after)) :
    ∃ evaluation, output = some evaluation ∧
      before.perform platform call atMs = .ok (evaluation, after) := by
  simp only [EvaluatorOperation.run, except_bind_eq_ok] at ran
  obtain ⟨⟨evaluation, next⟩, hperformed, hreturned⟩ := ran
  cases hreturned
  exact ⟨evaluation, rfl, hperformed⟩

/-- The last judgment and the escalations it left are as before. -/
structure Evaluator.Awaits (before after : Evaluator) : Prop where
  lastJudgment : after.lastJudgment = before.lastJudgment
  lastEvaluationMs : after.lastEvaluationMs = before.lastEvaluationMs
  activeEscalations : after.activeEscalations = before.activeEscalations

/-- Operations that touch no evidence, no record and no policy before they evaluate. -/
def EvaluatorOperation.plain : EvaluatorOperation → Bool
  | .call (.ingest _) _ | .call (.replacePolicy _ _) _ | .call (.replaceSubject _) _ => false
  | .resolve .. | .reinstate _ => false
  | _ => true

/-- The operations that are not plain, one by one. -/
@[elab_as_elim]
theorem EvaluatorOperation.plainCases {motive : EvaluatorOperation → Prop}
    (operation : EvaluatorOperation)
    (plain : ∀ operation, operation.plain = true → motive operation)
    (ingest : ∀ received atMs, motive (.call (.ingest received) atMs))
    (replacePolicy : ∀ policy barrier atMs, motive (.call (.replacePolicy policy barrier) atMs))
    (replaceSubject : ∀ replacement atMs, motive (.call (.replaceSubject replacement) atMs))
    (resolve : ∀ contradictionId resolution atMs,
      motive (.resolve contradictionId resolution atMs))
    (reinstate : ∀ record, motive (.reinstate record)) : motive operation := by
  cases operation with
  | call call atMs =>
    cases call with
    | ingest received => exact ingest received atMs
    | replacePolicy policy barrier => exact replacePolicy policy barrier atMs
    | replaceSubject replacement => exact replaceSubject replacement atMs
    | _ => exact plain _ rfl
  | resolve contradictionId resolution atMs => exact resolve contradictionId resolution atMs
  | reinstate record => exact reinstate record
  | _ => exact plain _ rfl

theorem idles_prepare (platform : Platform) (before : Evaluator) (h : operation.plain = true) :
    before.Retains (operation.prepare platform before) ∧
      before.Awaits (operation.prepare platform before) := by
  cases operation with
  | call call atMs =>
    cases call <;> first | exact absurd h Bool.false_ne_true | repeat' constructor
  | _ => first | exact absurd h Bool.false_ne_true | repeat' constructor

/-- What an operation does before its evaluation leaves the last one alone. -/
theorem awaits_prepare (platform : Platform) (operation : EvaluatorOperation)
    (before : Evaluator) : before.Awaits (operation.prepare platform before) := by
  cases operation using EvaluatorOperation.plainCases with
  | plain operation h => exact (idles_prepare platform before h).2
  | ingest received atMs =>
    have hdocket := before.sameDocket_ingestState platform received atMs
    exact ⟨hdocket.lastJudgment, hdocket.lastEvaluationMs, hdocket.activeEscalations⟩
  | replacePolicy policy barrier atMs =>
    show before.Awaits ((before.adoptPolicy policy).raiseBarrier barrier)
    unfold adoptPolicy
    split <;> exact ⟨rfl, rfl, rfl⟩
  | replaceSubject replacement atMs =>
    have hdocket := before.retireRecords_sameDocket atMs replacement
    exact ⟨hdocket.lastJudgment, hdocket.lastEvaluationMs, hdocket.activeEscalations⟩
  | resolve contradictionId resolution atMs =>
    simp only [EvaluatorOperation.prepare]
    split <;> exact ⟨rfl, rfl, rfl⟩
  | reinstate record => exact ⟨rfl, rfl, rfl⟩

end Steps

/-! ## Reachable evaluators -/

/-- The evaluators that operations lead to from a new one. -/
inductive Reached (platform : Platform) : Evaluator → Prop
  | new {policy : ReliancePolicyV1} {receiver : ReceiverId} {receiverIncarnation : IncarnationId}
      {clockId : ClockId} {subject : IncarnationId} {evaluator : Evaluator}
      (made : Evaluator.new policy receiver receiverIncarnation clockId subject = .ok evaluator) :
      Reached platform evaluator
  | step {operation : EvaluatorOperation} {before after : Evaluator}
      {output : Option EvaluationOutput} (reached : Reached platform before)
      (ran : operation.run platform before = .ok (output, after)) : Reached platform after

variable {evaluator : Evaluator} {policy : ReliancePolicyV1}

/-- A new evaluator's policy is valid. -/
theorem new_policy {receiver : ReceiverId} {receiverIncarnation : IncarnationId} {clockId : ClockId}
    {subject : IncarnationId}
    (made : Evaluator.new policy receiver receiverIncarnation clockId subject = .ok evaluator) :
    evaluator.policy.validate = .ok () := by
  rw [new_eq_ok made]
  simp only [new, check_bind_eq_ok, mapError_eq_ok] at made
  exact made.1

/-- What an operation does to the policy: it takes a valid one in its place, or keeps it. -/
theorem run_policy {platform : Platform} {operation : EvaluatorOperation}
    {before after : Evaluator} {output : Option EvaluationOutput}
    (ran : operation.run platform before = .ok (output, after)) :
    after.policy = before.policy ∨ after.policy.validate = .ok () := by
  have hretains := (retains_run ran).policy
  cases operation using EvaluatorOperation.plainCases with
  | plain operation h => exact .inl (hretains.trans (idles_prepare platform before h).1.policy)
  | replacePolicy policy barrier atMs =>
    obtain ⟨evaluation, -, hperformed⟩ := run_call ran
    simp only [perform, replacePolicy, check_bind_eq_ok,
      mapError_eq_ok] at hperformed
    refine .inr ?_
    rw [hretains]
    have hadopted : ((before.adoptPolicy policy).raiseBarrier barrier).policy = policy := by
      unfold adoptPolicy
      split <;> rfl
    show ((before.adoptPolicy policy).raiseBarrier barrier).policy.validate = .ok ()
    rw [hadopted]
    exact hperformed.1
  | ingest received atMs =>
    exact .inl (hretains.trans (before.sameDocket_ingestState platform received atMs).policy)
  | replaceSubject replacement atMs =>
    exact .inl (hretains.trans (before.retireRecords_sameDocket atMs replacement).policy)
  | resolve contradictionId resolution atMs =>
    refine .inl (hretains.trans ?_)
    simp only [EvaluatorOperation.prepare]
    split <;> rfl
  | reinstate record => exact .inl hretains

/-- A reachable evaluator holds a valid policy. -/
theorem Reached.policy_valid {platform : Platform} (reached : Reached platform evaluator) :
    evaluator.policy.validate = .ok () := by
  induction reached with
  | new made => exact new_policy made
  | step _ ran ih =>
    rcases run_policy ran with hkept | hvalid
    · rw [hkept]
      exact ih
    · exact hvalid

/-- What the deadline and the category rest on in a valid policy. -/
theorem validate_support (valid : policy.validate = .ok ()) :
    0 < policy.minimumObservers ∧ policy.requiredCoverage ≠ [] := by
  simp only [ReliancePolicyV1.validate, check_bind_eq_ok, refuseIf_eq_ok, decide_eq_false_iff_not,
    List.isEmpty_eq_false_iff] at valid
  obtain ⟨-, -, -, -, -, -, -, hobservers, -, hcoverage, -⟩ := valid
  exact ⟨Nat.pos_of_ne_zero hobservers, hcoverage⟩

end ConstellationMonitor.Evaluation
