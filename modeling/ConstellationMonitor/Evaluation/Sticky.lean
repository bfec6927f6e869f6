/-
  Contradictions are sticky: over any run of an evaluator a record that is there stays there
  with all its fields but the status, the status changes at most once, and while any record is
  active no evaluation says anything but CONTRADICTED, or UNKNOWN behind a barrier.
-/
import ConstellationMonitor.Evaluation.Coherence
import ConstellationMonitor.Evaluation.Traces

namespace ConstellationMonitor.Evaluation

open Foundation ConstellationMonitor.Types
open Std (ExtTreeMap)

namespace Evaluator

/-! ## Records under one operation -/

theorem foldl_sparseEvent_contradictions (records : List ContradictionRecordV1) (atMs : Nat)
    (evaluator : Evaluator) : (records.foldl (fun state record =>
      (state.sparseEvent atMs (.contradictionLifecycleChanged record)).2)
        evaluator).contradictions = evaluator.contradictions := by
  induction records generalizing evaluator with
  | nil => rfl
  | cons record rest ih => exact ih _

/-- A subject replacement retires the active records of the incarnation it replaces. -/
theorem getElem?_retireRecords (replacement : IncarnationId) (atMs : Nat) (evaluator : Evaluator)
    (id : ContradictionId) : (evaluator.retireRecords replacement atMs).contradictions[id]? =
      evaluator.contradictions[id]?.map fun record =>
        if retiredByReplacement evaluator.currentSubjectIncarnation record then
          retireRecord evaluator.currentSubjectIncarnation replacement atMs record else record := by
  unfold retireRecords
  dsimp only
  rw [foldl_sparseEvent_contradictions]
  simp [ExtTreeMap.getElem?_map]

/-- Taking in a pulse adds to the records there are. -/
theorem adds_ingestState (platform : Platform) (received : ReceivedPulseV1) (atMs : Nat)
    (evaluator : Evaluator) : Adds evaluator (evaluator.ingestState platform received atMs) := by
  have hadds := adds_of_writes platform atMs (evaluator.writes_ingestState platform received atMs)
  exact ⟨hadds.keeps, hadds.added⟩

/-- Every record lies under its own identity. -/
def Keyed (evaluator : Evaluator) : Prop :=
  ∀ (id : ContradictionId) (record : ContradictionRecordV1),
    evaluator.contradictions[id]? = some record → record.contradictionId = id

variable {evaluator : Evaluator}

theorem keyed_insert {after : Evaluator} {id : ContradictionId} {record : ContradictionRecordV1}
    (h : evaluator.Keyed) (hid : record.contradictionId = id)
    (hafter : after.contradictions = evaluator.contradictions.insert id record) : after.Keyed := by
  intro other found hfound
  rw [hafter, getElem?_insert_iff] at hfound
  split at hfound
  · rename_i hsame
    rw [← Option.some.inj hfound, hid, hsame]
  · exact h other found hfound

theorem keyed_retireRecords (replacement : IncarnationId) (atMs : Nat) (h : evaluator.Keyed) :
    (evaluator.retireRecords replacement atMs).Keyed := by
  intro id record hfound
  rw [getElem?_retireRecords] at hfound
  obtain ⟨found, hbefore, rfl⟩ := Option.map_eq_some_iff.mp hfound
  split <;> exact h id found hbefore

end Evaluator

open Evaluator

/-- The step closes the record: it resolves it by its identity, or replaces the subject
incarnation the record is about. -/
def EvaluatorStep.Closes (id : ContradictionId) (record : ContradictionRecordV1)
    (step : EvaluatorStep) : Prop :=
  (∃ resolution atMs, step.operation = .resolve id resolution atMs) ∨
    ∃ replacement atMs, step.operation = .call (.replaceSubject replacement) atMs ∧
      record.subjectScope.subjectIncarnation = step.before.currentSubjectIncarnation

section Steps

variable {platform : Platform} {step : EvaluatorStep} {id : ContradictionId}
  {record : ContradictionRecordV1}

variable {after before : Evaluator} {output : Option EvaluationOutput}
  {operation : EvaluatorOperation}

/-- What a step does to a record that is there: nothing, or it closes it. -/
theorem record_step (ran : step.Ran platform) (h : step.before.contradictions[id]? = some record) :
    step.after.contradictions[id]? = some record ∨ ∃ status, status ≠ .active ∧
        step.after.contradictions[id]? = some { record with status := status } ∧
        record.status = .active ∧ step.Closes id record := by
  obtain ⟨before, operation, output, after⟩ := step
  have hretains := (retains_run ran).contradictions
  simp only at h hretains ⊢
  cases operation using EvaluatorOperation.plainCases with
  | plain operation hplain =>
    exact .inl (by rw [hretains, (idles_prepare platform before hplain).1.contradictions, h])
  | ingest received atMs =>
    refine .inl ?_
    rw [hretains]
    exact (before.adds_ingestState platform received atMs).keeps id record h
  | replacePolicy policy barrier atMs =>
    refine .inl ?_
    rw [hretains]
    show ((before.adoptPolicy policy).raiseBarrier barrier).contradictions[id]? = _
    unfold adoptPolicy
    split <;> exact h
  | replaceSubject replacement atMs =>
    rw [hretains]
    have hretired := before.getElem?_retireRecords replacement atMs id
    rw [h, Option.map_some] at hretired
    show (before.retireRecords replacement atMs).contradictions[id]? = _ ∨ _
    split at hretired
    · rename_i hcloses
      simp only [retiredByReplacement, ContradictionRecordV1.isActive,
        Bool.and_eq_true, decide_eq_true_eq] at hcloses
      exact .inr ⟨_, by simp, hretired, hcloses.1, .inr ⟨_, _, rfl, hcloses.2⟩⟩
    · exact .inl hretired
  | resolve contradictionId resolution atMs =>
    obtain ⟨found, -, hfound, hactive, -, -⟩ := run_resolve ran
    simp only [EvaluatorOperation.prepare, hfound] at hretains
    replace hretains : after.contradictions = before.contradictions.insert contradictionId
        (resolveRecord resolution atMs found) := hretains
    rw [hretains, getElem?_insert_iff]
    by_cases hid : contradictionId = id
    · subst hid
      obtain rfl : record = found := Option.some.inj (h.symm.trans hfound)
      exact .inr ⟨_, by simp, if_pos rfl, hactive, .inl ⟨_, _, rfl⟩⟩
    · exact .inl (by rw [if_neg hid]; exact h)
  | reinstate other => exact .inl ((run_reinstate ran).2.2 id record h)

theorem keyed_run (ran : operation.run platform before = .ok (output, after)) (h : before.Keyed) :
    after.Keyed := by
  have hretains := (retains_run ran).contradictions
  suffices hprepared : (operation.prepare platform before).Keyed by
    intro id record hfound
    exact hprepared id record (hretains ▸ hfound)
  cases operation using EvaluatorOperation.plainCases with
  | plain operation hplain =>
    intro id record hfound
    exact h id record ((idles_prepare platform before hplain).1.contradictions ▸ hfound)
  | ingest received atMs =>
    intro id record hfound
    exact ((before.adds_ingestState platform received atMs).added id record hfound).elim
      (h id record) fun hid => hid
  | replacePolicy policy barrier atMs =>
    show ((before.adoptPolicy policy).raiseBarrier barrier).Keyed
    unfold adoptPolicy
    split <;> exact h
  | replaceSubject replacement atMs => exact keyed_retireRecords replacement atMs h
  | resolve contradictionId resolution atMs =>
    simp only [EvaluatorOperation.prepare]
    split
    · exact h
    · rename_i found hfound
      exact keyed_insert h
        (show (resolveRecord resolution atMs found).contradictionId = contradictionId
          from h contradictionId found hfound) rfl
  | reinstate record => exact keyed_insert h rfl rfl

/-- While a record is active an evaluation is CONTRADICTED, or UNKNOWN behind a barrier. -/
theorem category_of_active {output : EvaluationOutput}
    (ran : operation.run platform before = .ok (some output, after))
    (h : after.contradictions[id]? = some record) (active : record.isActive = true) :
    output.judgment.category =
      if (operation.prepare platform before).reevaluationBarrier.isSome then .unknown
      else .contradicted := by
  have hevaluates := evaluates_run ran
  rw [(retains_run ran).contradictions,
    ← ((operation.prepare platform before).retains_hotState operation.time).contradictions] at h
  have hsome : ¬((operation.prepare platform before).hotState
      operation.time).activeContradictionIds = [] := by
    rw [activeContradictionIds_eq_nil]
    intro hnone
    rw [hnone id record h] at active
    cases active
  rw [hevaluates.judgment, evaluate_category]
  unfold derivation deriveBarred
  dsimp only
  rw [hotState_reevaluationBarrier]
  split
  · rfl
  · simp [derive, categoryOf, hsome]

end Steps

/-! ## Records over whole traces -/

/-- The step changes the status of the record under an identity. -/
def EvaluatorStep.statusChanges (id : ContradictionId) (step : EvaluatorStep) : Bool :=
  decide (step.after.contradictions[id]?.map ContradictionRecordV1.status ≠
    step.before.contradictions[id]?.map ContradictionRecordV1.status)

/-- A record under its one status change: still as it was, or closed for good. -/
theorem record_trace {platform : Platform} {first last : Evaluator} {steps : List EvaluatorStep}
    (trace : Trace platform first steps last) {id : ContradictionId}
    {record : ContradictionRecordV1} (h : first.contradictions[id]? = some record) :
    (∃ status, last.contradictions[id]? = some { record with status := status } ∧
      (steps.countP (EvaluatorStep.statusChanges id) = 0 ∨
        steps.countP (EvaluatorStep.statusChanges id) = 1 ∧ status ≠ .active)) ∧
    ∀ step ∈ steps, step.statusChanges id = true →
      ∃ current, step.before.contradictions[id]? = some current ∧ current.status = .active ∧
        step.Closes id current := by
  induction trace with
  | nil => exact ⟨⟨record.status, h, .inl rfl⟩, by simp⟩
  | @step steps last after operation output trace ran ih =>
    obtain ⟨⟨status, hlast, hcount⟩, hclosed⟩ := ih
    simp only [List.countP_append, List.countP_singleton, List.mem_append,
      List.mem_singleton]
    rcases record_step (show EvaluatorStep.Ran platform ⟨last, operation, output, after⟩ from ran)
      hlast with hsame | ⟨closed, hinactive, hafter, hactive, hcloses⟩
    · have hunchanged :
          EvaluatorStep.statusChanges id ⟨last, operation, output, after⟩ = false := by
        simp only at hsame
        simp [EvaluatorStep.statusChanges, hsame, hlast]
      rw [hunchanged]
      refine ⟨⟨status, hsame, by simpa using hcount⟩, fun step hmem hchanges => ?_⟩
      rcases hmem with hmem | rfl
      · exact hclosed step hmem hchanges
      · rw [hunchanged] at hchanges
        cases hchanges
    · -- the record was active, so nothing changed it before
      have hnone := hcount.resolve_right fun hone => hone.2 hactive
      simp only at hafter hactive
      have hchanged :
          EvaluatorStep.statusChanges id ⟨last, operation, output, after⟩ = true := by
        simp [EvaluatorStep.statusChanges, hafter, hlast, hactive, hinactive]
      rw [hchanged, hnone]
      refine ⟨⟨closed, hafter, .inr ⟨rfl, hinactive⟩⟩, fun step hmem hchanges => ?_⟩
      rcases hmem with hmem | rfl
      · exact hclosed step hmem hchanges
      · exact ⟨_, hlast, hactive, hcloses⟩

theorem keyed_reached {platform : Platform} {evaluator : Evaluator}
    (reached : Reached platform evaluator) : evaluator.Keyed := by
  induction reached with
  | new made =>
    intro id record hfound
    rw [new_eq_ok made] at hfound
    simp [initial] at hfound
  | step _ ran ih => exact keyed_run ran ih

/-- Contradictions are sticky.  Over any operations that follow, a record stays under its
identity with every field but its status; the status changes at most once, from ACTIVE, by its
resolution or by the replacement of the subject incarnation it is about; and an evaluation that
leaves an active record is CONTRADICTED, or UNKNOWN if it was behind a barrier. -/
theorem contradictions_sticky {platform : Platform} {first last : Evaluator}
    {steps : List EvaluatorStep} (reached : Reached platform first)
    (trace : Trace platform first steps last) :
    (∀ (id : ContradictionId) (record : ContradictionRecordV1),
      first.contradictions[id]? = some record → record.contradictionId = id ∧
        (∃ status, last.contradictions[id]? = some { record with status := status }) ∧
        steps.countP (EvaluatorStep.statusChanges id) ≤ 1 ∧
        ∀ step ∈ steps, step.statusChanges id = true →
          ∃ current, step.before.contradictions[id]? = some current ∧
            current.status = .active ∧ step.Closes id current) ∧
    ∀ step ∈ steps, ∀ output, step.output = some output →
      ∀ (id : ContradictionId) (record : ContradictionRecordV1),
        step.after.contradictions[id]? = some record → record.status = .active →
          output.judgment.category = .contradicted ∨
            output.judgment.category = .unknown ∧
              (step.operation.prepare platform step.before).reevaluationBarrier.isSome := by
  refine ⟨fun id record hfound => ?_, fun step hmem output houtput id record hfound hactive => ?_⟩
  · obtain ⟨⟨status, hlast, hcount⟩, hclosed⟩ := record_trace trace hfound
    exact ⟨keyed_reached reached id record hfound, ⟨status, hlast⟩, by omega, hclosed⟩
  · have hran : step.operation.run platform step.before = .ok (some output, step.after) := by
      rw [← houtput]
      exact trace.ran_of_mem step hmem
    have hcategory := category_of_active hran hfound
      (by rw [ContradictionRecordV1.isActive, hactive]; rfl)
    split at hcategory
    · rename_i hbarrier
      exact .inr ⟨hcategory, hbarrier⟩
    · exact .inl hcategory

namespace Reference

/-- Operations after a conflict: an evaluation, then a replacement of the subject. -/
def afterConflict : List EvaluatorOperation :=
  [.call .tick 20, .call (.replaceSubject "i2") 30]

/-- Whether the evaluator holds an active record and those operations succeed on it. -/
def conflicted (evaluator : Evaluator) : Bool :=
  !evaluator.activeContradictionIds.isEmpty &&
    (stepsFrom platform afterConflict evaluator).any fun found => decide (found.1.length = 2)

/-- Two observers report 0.2 and 0.9 under a tolerance of 0.1. -/
def conflict : List EvaluatorOperation :=
  [ arrival "a" 1 ⟨0x3fc999999999999a⟩ 0 .first,
    arrival "b" 1 ⟨0x3feccccccccccccd⟩ 0 .first ]

theorem conflict_isSome :
    (runsTo (policy "p1" ((∅ : ExtTreeMap Text Float64).insert "load" ⟨0x3fb999999999999a⟩))
      conflict conflicted).isSome = true := by
  decide +kernel

theorem contradictions_sticky_conflict :
    ∃ first steps last, Reached platform first ∧ Trace platform first steps last ∧
      steps.length = 2 ∧ ∃ (id : ContradictionId) (record : ContradictionRecordV1),
        first.contradictions[id]? = some record ∧ record.isActive = true ∧
        record.contradictionId = id ∧
        (∃ status, last.contradictions[id]? = some { record with status := status }) ∧
        steps.countP (EvaluatorStep.statusChanges id) ≤ 1 := by
  obtain ⟨hreached, htest⟩ := runsTo_get conflict_isSome
  rw [conflicted, Bool.and_eq_true] at htest
  obtain ⟨hactive, hsteps⟩ := htest
  obtain ⟨⟨steps, last⟩, hsteps, hlength⟩ := (Option.any_eq_true _ _).mp hsteps
  have htrace := trace_of_stepsFrom hsteps
  obtain ⟨id, record, hfound, hrecord⟩ : ∃ (id : ContradictionId) (record : ContradictionRecordV1),
      ((runsTo _ conflict conflicted).get conflict_isSome).contradictions[id]? = some record ∧
        record.isActive = true := by
    by_contra hnone
    push Not at hnone
    have hempty := (activeContradictionIds_eq_nil _).mpr fun id record hfound =>
      Bool.eq_false_iff.mpr (hnone id record hfound)
    rw [hempty] at hactive
    cases hactive
  obtain ⟨hkeyed, hkept, honce, -⟩ := (contradictions_sticky hreached htrace).1 id record hfound
  exact ⟨_, steps, last, hreached, htrace, of_decide_eq_true hlength, id, record, hfound, hrecord,
    hkeyed, hkept, honce⟩

end Reference

end ConstellationMonitor.Evaluation
