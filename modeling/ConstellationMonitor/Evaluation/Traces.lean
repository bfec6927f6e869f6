/-
  Traces of one evaluator: the successful operations of a run in order, each with the states
  around it and what it returned.

  The first results over whole traces are about time and sight: the times of judgments never
  decrease, and a monitor that a regression or a mismatched annotation blinded stays blind until
  it is told otherwise.
-/
import ConstellationMonitor.Evaluation.Reference

namespace ConstellationMonitor.Evaluation

open Foundation ConstellationMonitor.Types

open Evaluator

/-- One successful operation. -/
structure EvaluatorStep where
  before : Evaluator
  operation : EvaluatorOperation
  output : Option EvaluationOutput
  after : Evaluator

/-- The operation of a step was performed, with the result the step names. -/
def EvaluatorStep.Ran (platform : Platform) (step : EvaluatorStep) : Prop :=
  step.operation.run platform step.before = .ok (step.output, step.after)

/-- The operations that lead from one evaluator to another. -/
inductive Trace (platform : Platform) (first : Evaluator) :
    List EvaluatorStep → Evaluator → Prop
  | nil : Trace platform first [] first
  | step {steps : List EvaluatorStep} {last after : Evaluator} {operation : EvaluatorOperation}
      {output : Option EvaluationOutput} (trace : Trace platform first steps last)
      (ran : operation.run platform last = .ok (output, after)) :
      Trace platform first (steps ++ [⟨last, operation, output, after⟩]) after

namespace Trace

variable {platform : Platform} {first last : Evaluator} {steps : List EvaluatorStep}

/-- What the steps of a trace allow: a property of the state is kept by the steps that meet a
condition, and holds before each of them. -/
theorem keeps_of_mem {property : Evaluator → Prop} {condition : EvaluatorStep → Prop}
    (hstep : ∀ step : EvaluatorStep, step.Ran platform → condition step → property step.before →
      property step.after)
    (trace : Trace platform first steps last) (hsteps : ∀ step ∈ steps, condition step)
    (h : property first) :
    property last ∧ ∀ step ∈ steps, step.Ran platform ∧ property step.before := by
  induction trace with
  | nil => exact ⟨h, by simp⟩
  | step trace ran ih =>
    obtain ⟨hlast, hbefore⟩ := ih fun step hmem => hsteps step (by simp [hmem])
    refine ⟨hstep ⟨_, _, _, _⟩ ran (hsteps _ (by simp)) hlast, ?_⟩
    exact List.forall_mem_append.mpr ⟨hbefore, List.forall_mem_singleton.mpr ⟨ran, hlast⟩⟩

/-- Every step of a trace was performed. -/
theorem ran_of_mem (trace : Trace platform first steps last) :
    ∀ step ∈ steps, step.Ran platform := by
  induction trace with
  | nil => simp
  | step _ ran ih => exact List.forall_mem_append.mpr ⟨ih, List.forall_mem_singleton.mpr ran⟩

/-- A step in front of a trace. -/
theorem cons {next : Evaluator} {operation : EvaluatorOperation}
    {output : Option EvaluationOutput} (ran : operation.run platform first = .ok (output, next))
    (trace : Trace platform next steps last) :
    Trace platform first (⟨first, operation, output, next⟩ :: steps) last := by
  induction trace with
  | nil => exact .step .nil ran
  | step _ ran' ih => exact .step ih ran'

end Trace

/-! ## What an operation does to the time and to sight -/

section Steps

variable {platform : Platform} {operation : EvaluatorOperation} {before after : Evaluator}
  {output : EvaluationOutput}

/-- A judgment is formed at the time its evaluation remembers, no earlier than the last one. -/
theorem run_time (ran : operation.run platform before = .ok (some output, after)) :
    after.lastEvaluationMs = some output.judgment.evaluatedAtMonotonicMs ∧
      ∀ prior, before.lastEvaluationMs = some prior →
        prior ≤ output.judgment.evaluatedAtMonotonicMs := by
  have hevaluates := evaluates_run ran
  have htime : output.judgment.evaluatedAtMonotonicMs =
      (operation.prepare platform before).evaluationTime operation.time := by
    rw [hevaluates.judgment]
    rfl
  rw [htime, hevaluates.state]
  refine ⟨evaluate_lastEvaluationMs platform _ _, fun prior hprior => ?_⟩
  refine (le_evaluationTime _ _).2 prior ?_
  rw [(awaits_prepare platform operation before).lastEvaluationMs, hprior]

/-- An operation that returns no judgment keeps the time of the last one. -/
theorem run_none_time (ran : operation.run platform before = .ok (none, after)) :
    after.lastEvaluationMs = before.lastEvaluationMs := by
  rw [run_none ran, (awaits_prepare platform operation before).lastEvaluationMs]

theorem evaluate_transport (platform : Platform) (requestedNow : Nat) (evaluator : Evaluator) :
    (evaluator.evaluate platform requestedNow).1.judgment.dimensions.transport =
      transportDimension (evaluator.hotState requestedNow).monitorCapability := by
  show (evaluator.derivation requestedNow).dimensions.transport = _
  unfold derivation deriveBarred
  dsimp only
  split <;> rfl

/-- A judgment that a blind monitor stands behind. -/
def Unsighted (output : EvaluationOutput) : Prop :=
  output.judgment.category ≠ .current ∧ output.judgment.dimensions.transport = .blind

/-- Evaluating with a monitor that is blind by then says so, and leaves it blind. -/
theorem unsighted_of_hotState (ran : operation.run platform before = .ok (some output, after))
    (h : ((operation.prepare platform before).hotState operation.time).Blind) :
    Unsighted output ∧ after.Blind := by
  have hevaluates := evaluates_run ran
  have hcategory := deriveBarred_category_of_blind
    ((operation.prepare platform before).hotState operation.time)
    ((operation.prepare platform before).evaluationTime operation.time) h
  obtain ⟨detail, hdetail⟩ := h
  refine ⟨⟨?_, ?_⟩, detail, ?_⟩
  · rw [hevaluates.judgment]
    exact hcategory
  · rw [hevaluates.judgment, evaluate_transport, hdetail]
    rfl
  · rw [hevaluates.state, evaluate_monitorCapability, hdetail]

/-- The operations that say what the monitor can see. -/
def EvaluatorOperation.SetsCapability : EvaluatorOperation → Prop
  | .capability _ _ => True
  | .call (.restore _) _ => True
  | _ => False

/-- No other operation makes a blind monitor see. -/
theorem blind_prepare_operation (hkept : ¬operation.SetsCapability) (h : before.Blind) :
    (operation.prepare platform before).Blind := by
  cases operation with
  | call call atMs =>
    refine blind_prepare platform atMs before (fun detail hrestore => hkept ?_) h
    subst hrestore
    trivial
  | resolve contradictionId resolution atMs =>
    simp only [EvaluatorOperation.prepare]
    split <;> exact h
  | capability state atMs => exact absurd trivial hkept
  | reinstate record => exact h
  | normalTrace normal => exact h
  | failureStart atMs => exact h

end Steps

namespace EvaluatorStep

/-- The evaluation was asked for at a time before the last one. -/
def TimeRegressed (step : EvaluatorStep) : Prop :=
  step.output.isSome ∧
    ∃ prior, step.before.lastEvaluationMs = some prior ∧ step.operation.time < prior

/-- The pulse arrived before one that had arrived already. -/
def ArrivalRegressed (step : EvaluatorStep) : Prop :=
  ∃ received atMs, step.operation = .call (.ingest received) atMs ∧
    step.before.arrivalRegressed received = true

/-- The receiver annotated the pulse differently from the evaluator. -/
def AnnotationMismatched (step : EvaluatorStep) : Prop :=
  ∃ received atMs, step.operation = .call (.ingest received) atMs ∧
    step.before.classifyArrival received.frame received.receiver ≠
      (received.receiver.disposition, received.receiver.sequenceGap)

/-- One of the three events that blind the monitor. -/
def Disturbed (step : EvaluatorStep) : Prop :=
  step.TimeRegressed ∨ step.ArrivalRegressed ∨ step.AnnotationMismatched

variable {platform : Platform} {step : EvaluatorStep}

theorem hotState_blind_of_timeRegressed (h : step.TimeRegressed) :
    ((step.operation.prepare platform step.before).hotState step.operation.time).Blind := by
  obtain ⟨-, prior, hprior, hearlier⟩ := h
  have hlast := (awaits_prepare platform step.operation step.before).lastEvaluationMs
  unfold hotState guardClock
  rw [hlast, hprior]
  dsimp only
  rw [if_pos hearlier]
  exact ⟨_, rfl⟩

/-- Taking in a pulse that regressed or is annotated differently blinds the monitor. -/
theorem ingestState_blind {received : ReceivedPulseV1} (atMs : Nat) (evaluator : Evaluator)
    (h : evaluator.arrivalRegressed received = true ∨
      evaluator.classifyArrival received.frame received.receiver ≠
        (received.receiver.disposition, received.receiver.sequenceGap)) :
    (evaluator.ingestState platform received atMs).Blind := by
  unfold ingestState
  dsimp only
  split
  · exact blind_blindWith _ _ _
  · rename_i hordered
    have hmismatch := h.resolve_left hordered
    unfold ingestClassified
    dsimp only
    rw [if_pos ?_]
    · exact blind_blindWith _ _ _
    · by_contra hsame
      push Not at hsame
      exact hmismatch (Prod.ext hsame.1 hsame.2)

theorem exists_output_of_ingest {received : ReceivedPulseV1} {atMs : Nat} (ran : step.Ran platform)
    (h : step.operation = .call (.ingest received) atMs) : ∃ output, step.output = some output := by
  obtain ⟨before, operation, output, after⟩ := step
  obtain rfl : operation = _ := h
  obtain ⟨evaluation, hevaluation, -⟩ := run_call ran
  exact ⟨evaluation, hevaluation⟩

/-- A disturbance blinds the monitor before the judgment it returns. -/
theorem unsighted_of_disturbed (ran : step.Ran platform) (h : step.Disturbed) :
    ∃ output, step.output = some output ∧ Unsighted output ∧ step.after.Blind := by
  have hexists : ∃ output, step.output = some output := by
    rcases h with ⟨hsome, -⟩ | ⟨received, atMs, hingest, -⟩ | ⟨received, atMs, hingest, -⟩
    · exact Option.isSome_iff_exists.mp hsome
    · exact exists_output_of_ingest ran hingest
    · exact exists_output_of_ingest ran hingest
  obtain ⟨output, houtput⟩ := hexists
  have hran : step.operation.run platform step.before = .ok (some output, step.after) := by
    rw [← houtput]
    exact ran
  refine ⟨output, houtput, unsighted_of_hotState hran ?_⟩
  rcases h with htime | ⟨received, atMs, hingest, hregressed⟩ | ⟨received, atMs, hingest, hmismatch⟩
  · exact hotState_blind_of_timeRegressed htime
  · rw [hingest]
    exact blind_hotState _ _ (ingestState_blind atMs _ (.inl hregressed))
  · rw [hingest]
    exact blind_hotState _ _ (ingestState_blind atMs _ (.inr hmismatch))

/-- A step that does not say what the monitor sees keeps it blind. -/
theorem blind_step (ran : step.Ran platform) (hkept : ¬step.operation.SetsCapability)
    (h : step.before.Blind) :
    step.after.Blind ∧ ∀ output, step.output = some output → Unsighted output := by
  have hprepared : (step.operation.prepare platform step.before).Blind :=
    blind_prepare_operation hkept h
  cases houtput : step.output with
  | none =>
    have hran : step.operation.run platform step.before = .ok (none, step.after) := by
      rw [← houtput]
      exact ran
    refine ⟨?_, by simp⟩
    rw [run_none hran]
    exact hprepared
  | some output =>
    have hran : step.operation.run platform step.before = .ok (some output, step.after) := by
      rw [← houtput]
      exact ran
    obtain ⟨hunsighted, hblind⟩ :=
      unsighted_of_hotState hran (blind_hotState _ _ hprepared)
    exact ⟨hblind, fun other hother => Option.some.inj hother ▸ hunsighted⟩

end EvaluatorStep

/-! ## Whole traces -/

/-- The judgments of a trace, in order. -/
def outputs (steps : List EvaluatorStep) : List EvaluationOutput :=
  steps.filterMap EvaluatorStep.output

/-- Every judgment of a trace was formed no later than the time its end remembers. -/
theorem outputs_time {platform : Platform} {first last : Evaluator} {steps : List EvaluatorStep}
    (trace : Trace platform first steps last) : (outputs steps).Pairwise (fun earlier later =>
        earlier.judgment.evaluatedAtMonotonicMs ≤ later.judgment.evaluatedAtMonotonicMs) ∧
      ∀ output ∈ outputs steps, ∃ time, last.lastEvaluationMs = some time ∧
        output.judgment.evaluatedAtMonotonicMs ≤ time := by
  induction trace with
  | nil => simp [outputs]
  | @step steps last after operation output trace ran ih =>
    obtain ⟨hsorted, hlast⟩ := ih
    cases output with
    | none =>
      rw [run_none_time ran]
      simpa [outputs] using And.intro hsorted hlast
    | some output =>
      obtain ⟨htime, hprior⟩ := run_time ran
      have hbefore : ∀ earlier ∈ outputs steps,
          earlier.judgment.evaluatedAtMonotonicMs ≤ output.judgment.evaluatedAtMonotonicMs := by
        intro earlier hearlier
        obtain ⟨time, hremembered, hle⟩ := hlast earlier hearlier
        exact hle.trans (hprior time hremembered)
      have houtputs : outputs (steps ++ [⟨last, operation, some output, after⟩]) =
          outputs steps ++ [output] := by simp [outputs]
      rw [houtputs]
      refine ⟨List.pairwise_append.mpr ⟨hsorted, by simp, fun earlier hearlier later hlater => ?_⟩,
        fun other hother => ⟨_, htime, ?_⟩⟩
      · obtain rfl := List.mem_singleton.mp hlater
        exact hbefore earlier hearlier
      · rcases List.mem_append.mp hother with hother | hother
        · exact hbefore other hother
        · rw [List.mem_singleton.mp hother]

/-- Time is monotone and blindness latches.  The times of the judgments of a trace never
decrease.  A step with a regression or a mismatched annotation returns a judgment without
sight, and so does every later step until one says what the monitor sees; a restoration, too,
is not judged CURRENT. -/
theorem time_monotone_blindness_latches {platform : Platform} {first last : Evaluator}
    {steps : List EvaluatorStep} (trace : Trace platform first steps last) :
    (outputs steps).Pairwise (fun earlier later =>
      earlier.judgment.evaluatedAtMonotonicMs ≤ later.judgment.evaluatedAtMonotonicMs) ∧
    (∀ step ∈ steps, step.Disturbed → (∀ output, step.output = some output → Unsighted output) ∧
      ∀ {further : List EvaluatorStep} {final : Evaluator},
        Trace platform step.after further final →
        (∀ later ∈ further, ¬later.operation.SetsCapability) →
        ∀ output ∈ outputs further, Unsighted output) ∧
    ∀ step ∈ steps, ∀ detail atMs, step.operation = .call (.restore detail) atMs →
      ∀ output, step.output = some output → output.judgment.category ≠ .current := by
  refine ⟨(outputs_time trace).1, fun step hmem hdisturbed => ?_,
    fun step hmem detail atMs hrestore output houtput => ?_⟩
  · obtain ⟨given, hgiven, hunsighted, hblind⟩ :=
      EvaluatorStep.unsighted_of_disturbed (trace.ran_of_mem step hmem) hdisturbed
    refine ⟨fun output houtput => ?_, fun htrace hfurther output houtput => ?_⟩
    · rw [hgiven] at houtput
      exact Option.some.inj houtput ▸ hunsighted
    · obtain ⟨later, hlater, houtput⟩ := List.mem_filterMap.mp houtput
      obtain ⟨-, hbefore⟩ := htrace.keeps_of_mem
        (fun step ran hkept h => (EvaluatorStep.blind_step ran hkept h).1) hfurther hblind
      obtain ⟨hran, hsight⟩ := hbefore later hlater
      exact (EvaluatorStep.blind_step hran (hfurther later hlater) hsight).2 output houtput
  · have hran := trace.ran_of_mem step hmem
    obtain ⟨before, operation, found, after⟩ := step
    obtain rfl : operation = _ := hrestore
    obtain rfl : found = some output := houtput
    obtain ⟨evaluation, hevaluation, hperformed⟩ := run_call hran
    obtain rfl := Option.some.inj hevaluation
    rw [perform_barred hperformed rfl]
    simp

/-! ## A trace that can be evaluated -/

/-- The trace of a list of operations, if all of them succeed. -/
def stepsFrom (platform : Platform) :
    List EvaluatorOperation → Evaluator → Option (List EvaluatorStep × Evaluator)
  | [], evaluator => some ([], evaluator)
  | operation :: rest, evaluator =>
    match operation.run platform evaluator with
    | .error _ => none
    | .ok (output, next) =>
      (stepsFrom platform rest next).map fun (steps, last) =>
        (⟨evaluator, operation, output, next⟩ :: steps, last)

theorem trace_of_stepsFrom {platform : Platform} {operations : List EvaluatorOperation}
    {first last : Evaluator} {steps : List EvaluatorStep}
    (h : stepsFrom platform operations first = some (steps, last)) :
    Trace platform first steps last := by
  induction operations generalizing first steps with
  | nil =>
    obtain ⟨rfl, rfl⟩ := Prod.mk.inj (Option.some.inj h)
    exact .nil
  | cons operation rest ih =>
    simp only [stepsFrom] at h
    split at h
    · cases h
    · rename_i output next hran
      obtain ⟨⟨steps, final⟩, hrest, hpair⟩ := Option.map_eq_some_iff.mp h
      obtain ⟨rfl, rfl⟩ := Prod.mk.inj hpair
      exact .cons hran (ih hrest)

namespace Reference

/-- The trace of operations on a fresh evaluator, if it passes a test. -/
def traceTo (operations : List EvaluatorOperation)
    (test : List EvaluatorStep → Evaluator → Bool) : Option (List EvaluatorStep × Evaluator) :=
  (stepsFrom platform operations fresh).filter fun found => test found.1 found.2

theorem exists_of_traceTo {operations : List EvaluatorOperation}
    {test : List EvaluatorStep → Evaluator → Bool} (h : (traceTo operations test).isSome = true) :
    ∃ steps last, Trace platform fresh steps last ∧ test steps last = true := by
  obtain ⟨⟨steps, last⟩, hfound⟩ := Option.isSome_iff_exists.mp h
  obtain ⟨hsteps, htest⟩ := Option.filter_eq_some_iff.mp hfound
  exact ⟨steps, last, trace_of_stepsFrom hsteps, htest⟩

/-- Whether a step was asked for before the last evaluation. -/
def timeRegressed (step : EvaluatorStep) : Bool :=
  step.output.isSome && step.before.lastEvaluationMs.any fun prior =>
    decide (step.operation.time < prior)

theorem timeRegressed_iff (step : EvaluatorStep) :
    timeRegressed step = true ↔ step.TimeRegressed := by
  simp [timeRegressed, EvaluatorStep.TimeRegressed, Option.any_eq_true]

/-- An arrival, an evaluation in its past and a later one: the last two are without sight. -/
theorem time_monotone_blindness_latches_regressed : ∃ steps last, Trace platform fresh steps last ∧
      ∃ step ∈ steps, step.TimeRegressed ∧
        ∀ output, step.output = some output → Unsighted output := by
  obtain ⟨steps, last, htrace, htest⟩ := exists_of_traceTo
    (show (traceTo [arrival "observer" 1 ⟨0x3fd0000000000000⟩ 10 .first, .call .tick 5,
      .call .tick 20] fun steps _ => steps.any timeRegressed).isSome = true by decide +kernel)
  obtain ⟨step, hmem, hregressed⟩ := List.any_eq_true.mp htest
  have hregressed := (timeRegressed_iff step).mp hregressed
  exact ⟨steps, last, htrace, step, hmem, hregressed,
    ((time_monotone_blindness_latches htrace).2.1 step hmem (.inl hregressed)).1⟩

end Reference

end ConstellationMonitor.Evaluation
