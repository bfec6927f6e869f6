/-
  Status/Projector.lean --- the components of a status artifact
  (`constellation-status-projection`, `model.rs` and `projector.rs`).

  A component's state comes from the facts its policy requires, each with live support, and from
  its dependencies.  What the artifact then says in words is the policy's: the identity and the
  name of every shown component, and one reason text for each state, whichever component is in it.
-/
import ConstellationMonitor.Foundation.Fallible

namespace ConstellationMonitor.Status

open Foundation

/-! ## The policy -/

/-- A refusal, with its code. -/
structure ProjectionError where
  code : Text
  detail : Text
  deriving DecidableEq

/-- Whom an artifact is for. -/
inductive AudienceClassV1 where
  | «public»
  | operator
  deriving DecidableEq

/-- What may be shown of a component. -/
inductive ComponentOutputFieldV1 where
  | displayName
  | state
  | mode
  | reason
  | detail
  deriving DecidableEq

/-- The states of an artifact. -/
inductive ProjectedStateV1 where
  | healthy
  | degraded
  | partialOutage
  | majorOutage
  | unknown
  deriving DecidableEq

/-- How a fact came about. -/
inductive SourceFactClassV1 where
  | observed
  | derivedAdmitted
  | asserted
  | historical
  | qualificationLifecycle
  deriving DecidableEq

/-- How strongly a component depends. -/
inductive DependencyKindV1 where
  | hard
  | soft
  | informational
  deriving DecidableEq

/-- What a dependency does to its parent. -/
inductive DependencyEffectV1 where
  | ignore
  | degrade
  | partialOutage
  | majorOutage
  | unknown
  deriving DecidableEq

/-- An effect for each trouble of a dependency. -/
structure DependencyBehaviorV1 where
  onUnavailable : DependencyEffectV1
  onDegraded : DependencyEffectV1
  onPartial : DependencyEffectV1
  onUnknown : DependencyEffectV1
  deriving DecidableEq

/-- `parent` depends on `dependency`. -/
structure DependencyEdgeV1 where
  parent : Text
  dependency : Text
  kind : DependencyKindV1
  behavior : DependencyBehaviorV1

/-- `LiveSupportSelectorV1`; `rest` is its other fields, which are only compared. -/
structure LiveSupportSelectorV1 where
  subject : Text
  subjectIncarnation : Text
  scope : Text
  rest : List Text := []
  deriving DecidableEq

/-- A fact a component needs, and its live support. -/
structure FactRequirementV1 where
  factId : Text
  owner : Text
  nativeSchema : Text
  factClass : SourceFactClassV1
  liveSupport : LiveSupportSelectorV1

/-- Under which name a component is shown. -/
structure OutputComponentV1 where
  id : Text
  displayName : Text

/-- A component; without `output` it is not shown. -/
structure ComponentPolicyV1 where
  key : Text
  requiredFacts : List FactRequirementV1
  maintenanceAssertionIds : List Text := []
  output : Option OutputComponentV1

/-- The text for a state. -/
structure SafeReasonV1 where
  state : ProjectedStateV1
  text : Text
  deriving DecidableEq

/-- What the audience may see. -/
structure DisclosurePolicyV1 where
  audience : AudienceClassV1
  componentFields : List ComponentOutputFieldV1
  safeReasons : List SafeReasonV1

/-- What a projection evaluates and shows. -/
structure ProjectionPolicyV1 where
  projectionId : Text
  generation : Text
  rootComponent : Text
  components : List ComponentPolicyV1
  dependencies : List DependencyEdgeV1
  disclosure : DisclosurePolicyV1

/-- `validate_token`. -/
def validateToken (name value : Text) : Except ProjectionError Unit :=
  refuseIf (value.isEmpty || value.length > 256 || value.hasControl ||
    value.bytes.any fun byte => decide (0x80 ≤ byte)) ⟨"invalid_token", name ++ " is invalid"⟩

/-- `validate_public_id`. -/
def validatePublicId (name value : Text) : Except ProjectionError Unit :=
  refuseIf (value.isEmpty || value.length > 128 || !value.bytes.all fun byte =>
      (0x61 ≤ byte && byte ≤ 0x7a) || (0x30 ≤ byte && byte ≤ 0x39) || byte ∈ [0x2e, 0x5f, 0x2d])
    ⟨"invalid_public_id", name ++ " is invalid"⟩

/-- `validate_safe_text`. -/
def validateSafeText (name value : Text) : Except ProjectionError Unit :=
  refuseIf (value.isEmpty || value.length > 256 || value.hasControl)
    ⟨"invalid_text", name ++ " is invalid"⟩

/-- The checks of an output in the loop of `ProjectionPolicyV1::validate`, with the ids of the
outputs before it. -/
def admitOutput (ids : List Text) (output : OutputComponentV1) :
    Except ProjectionError (List Text) := do
  validatePublicId "output id" output.id
  validateSafeText "display name" output.displayName
  refuseIf (output.id ∈ ids) ⟨"duplicate_output", output.id⟩
  return output.id :: ids

/-- `ProjectionPolicyV1::validate`: the checks of the texts an artifact shows and of the
informational edges, then the `others`. -/
def ProjectionPolicyV1.validate (others : ProjectionPolicyV1 → Except ProjectionError Unit)
    (policy : ProjectionPolicyV1) : Except ProjectionError Unit := do
  validatePublicId "projection_id" policy.projectionId
  validateToken "generation" policy.generation
  let _ ← (policy.components.filterMap ComponentPolicyV1.output).foldlM admitOutput []
  policy.disclosure.safeReasons.forM fun reason => validateSafeText "safe reason" reason.text
  refuseIf (policy.dependencies.any fun edge => edge.kind = .informational &&
      edge.behavior ≠ ⟨.ignore, .ignore, .ignore, .ignore⟩)
    ⟨"invalid_informational_dependency",
      "informational dependencies cannot alter state or freshness"⟩
  others policy

/-! ## Facts and their evaluation -/

/-- The first axis of a fact. -/
inductive AvailabilityV1 where
  | available
  | impaired
  | unavailable
  | indeterminate
  deriving DecidableEq

/-- The second axis; `partly` is `Partial`. -/
inductive ImpactV1 where
  | none
  | partly
  | total
  | indeterminate
  deriving DecidableEq

/-- Whether maintenance is asserted. -/
inductive ModeV1 where
  | normal
  | maintenance
  deriving DecidableEq

/-- A fact about the component `subjectKey`. -/
structure SourceFactV1 where
  factId : Text
  subjectKey : Text
  owner : Text
  nativeSchema : Text
  factClass : SourceFactClassV1
  evidenceId : Text
  availability : AvailabilityV1
  impact : ImpactV1
  deriving DecidableEq

/-- An admitted live exchange, and what is left of it at the moment of the projection. -/
structure LiveSupportObservationV1 where
  evidenceId : Text
  selector : LiveSupportSelectorV1
  usableRemainingMs : Option Nat

/-- An assertion about a component. -/
structure MaintenanceAssertionV1 where
  assertionId : Text
  componentKey : Text
  active : Bool

/-- What `project` is given besides the policy. -/
structure Inputs where
  facts : List SourceFactV1
  support : List LiveSupportObservationV1
  maintenance : List MaintenanceAssertionV1 := []

/-- A component before and after its dependencies. -/
structure ComponentEvaluation where
  directState : ProjectedStateV1
  state : ProjectedStateV1
  mode : ModeV1
  remainingMs : Option Nat

/-- `map_state` of a fresh fact. -/
def mapState : AvailabilityV1 → ImpactV1 → ProjectedStateV1
  | .available, .none => .healthy
  | .impaired, .none => .degraded
  | .impaired, .partly | .unavailable, .partly => .partialOutage
  | .unavailable, .total => .majorOutage
  | _, _ => .unknown

/-- The fact for a requirement and the live support it has, if both are there and fit. -/
def supported (key : Text) (inputs : Inputs) (requirement : FactRequirementV1) :
    Option (SourceFactV1 × Nat) := do
  let fact ← inputs.facts.find? fun fact => fact.factId = requirement.factId
  guard (fact.subjectKey = key ∧ fact.owner = requirement.owner ∧
    fact.nativeSchema = requirement.nativeSchema ∧ fact.factClass = requirement.factClass ∧
    (fact.factClass = .observed ∨ fact.factClass = .derivedAdmitted))
  let live ← inputs.support.find? fun live => live.evidenceId = fact.evidenceId
  guard (live.selector = requirement.liveSupport)
  let remaining ← live.usableRemainingMs
  return (fact, remaining)

/-- One requirement in the loop of `evaluate_direct`, nothing where the loop gives up: the axes
the facts agree on and the shortest window so far. -/
def meet (key : Text) (inputs : Inputs) (met : Option ((AvailabilityV1 × ImpactV1) × Nat))
    (requirement : FactRequirementV1) : Option (Option ((AvailabilityV1 × ImpactV1) × Nat)) := do
  let (fact, remaining) ← supported key inputs requirement
  match met with
  | none => some (some ((fact.availability, fact.impact), remaining))
  | some (axes, shortest) =>
    if axes = (fact.availability, fact.impact) then some (some (axes, min shortest remaining))
    else none

/-- `evaluate_direct`. -/
def evaluateDirect (inputs : Inputs) (component : ComponentPolicyV1) : ComponentEvaluation :=
  let active := component.maintenanceAssertionIds.any fun id =>
    (inputs.maintenance.find? fun assertion => assertion.assertionId = id).any fun assertion =>
      assertion.active && assertion.componentKey = component.key
  let mode := if active then .maintenance else .normal
  match component.requiredFacts.foldlM (meet component.key inputs) none with
  | some (some ((availability, impact), remaining)) =>
    ⟨mapState availability impact, mapState availability impact, mode, some remaining⟩
  | _ => ⟨.unknown, .unknown, mode, none⟩

/-- `DependencyEffectV1::projected_state`. -/
def DependencyEffectV1.projectedState : DependencyEffectV1 → Option ProjectedStateV1
  | .ignore => none
  | .degrade => some .degraded
  | .partialOutage => some .partialOutage
  | .majorOutage => some .majorOutage
  | .unknown => some .unknown

/-- The effect of a dependency's state on a component with the given state of its own. -/
def DependencyEdgeV1.effect (edge : DependencyEdgeV1) (direct dependency : ProjectedStateV1) :
    Option ProjectedStateV1 :=
  if edge.kind = .hard ∧ direct = .healthy ∧ dependency = .majorOutage then some .unknown
  else match dependency with
  | .healthy => none
  | .degraded => edge.behavior.onDegraded.projectedState
  | .partialOutage => edge.behavior.onPartial.projectedState
  | .majorOutage => edge.behavior.onUnavailable.projectedState
  | .unknown => edge.behavior.onUnknown.projectedState

/-- The state of a component from its own and the effects on it. -/
def settle (direct : ProjectedStateV1) (effects : List ProjectedStateV1) : ProjectedStateV1 :=
  if direct = .unknown then .unknown
  else match effects.dedup with
  | [] => direct
  | [effect] => if direct = .healthy ∨ direct = effect then effect else .unknown
  | _ => .unknown

/-- The evaluations by component key. -/
abbrev Evaluations := Text → Option ComponentEvaluation

/-- The window left beside a dependency; no window bounds nothing. -/
def shorter : Option Nat → Option Nat → Option Nat
  | some left, some right => some (min left right)
  | _, _ => none

/-- The edges with the evaluations of what they lead to. -/
def lookUp (evaluations : Evaluations) :
    List DependencyEdgeV1 → Except ProjectionError (List (DependencyEdgeV1 × ComponentEvaluation))
  | [] => .ok []
  | edge :: rest =>
    match evaluations edge.dependency with
    | none => .error ⟨"missing_dependency", edge.dependency⟩
    | some dependency => do
      let others ← lookUp evaluations rest
      pure ((edge, dependency) :: others)

/-- `apply_dependencies`. -/
def applyDependencies (policy : ProjectionPolicyV1) (evaluations : Evaluations) (key : Text) :
    Except ProjectionError Evaluations :=
  match evaluations key with
  | none => .error ⟨"missing_component", key⟩
  | some direct => do
    let found ← lookUp evaluations (policy.dependencies.filter fun edge => edge.parent = key)
    let windows := (found.filter fun entry => entry.1.kind ≠ .informational).map fun entry =>
      entry.2.remainingMs
    return Function.update evaluations key (some { direct with
      state := settle direct.directState
        (found.filterMap fun entry => entry.1.effect direct.directState entry.2.state)
      remainingMs := windows.foldl shorter direct.remainingMs })

/-! ## The artifact -/

/-- A component as it is shown. -/
structure ProjectedComponentV1 where
  id : Text
  displayName : Option Text
  state : ProjectedStateV1
  mode : ModeV1
  reason : Option Text
  deriving DecidableEq

/-- `StatusArtifactV1`, without its times, its digests and its fixed texts. -/
structure StatusArtifactV1 where
  projectionId : Text
  projectionGeneration : Text
  aggregateState : ProjectedStateV1
  components : List ProjectedComponentV1
  deriving DecidableEq

/-- The parts of a projection without words: the other checks of the policy and of the inputs,
`dependency_order`, whether the evaluations leave the artifact a window to be shown in, and
`StatusArtifactV1::validate`. -/
structure Surroundings where
  policyChecks : ProjectionPolicyV1 → Except ProjectionError Unit
  inputChecks : Inputs → Except ProjectionError Unit
  order : ProjectionPolicyV1 → Except ProjectionError (List Text)
  fresh : ProjectionPolicyV1 → Evaluations → Bool
  artifactChecks : StatusArtifactV1 → Except ProjectionError Unit

/-- `DisclosurePolicyV1::reason_for`, if reasons are disclosed. -/
def DisclosurePolicyV1.reasonFor (disclosure : DisclosurePolicyV1) (state : ProjectedStateV1) :
    Option Text :=
  if .reason ∈ disclosure.componentFields then
    (disclosure.safeReasons.find? fun reason => reason.state = state).map SafeReasonV1.text
  else none

/-- A shown component. -/
def ProjectionPolicyV1.present (policy : ProjectionPolicyV1) (evaluations : Evaluations)
    (fresh : Bool) (component : ComponentPolicyV1) : Option ProjectedComponentV1 := do
  let output ← component.output
  let evaluation ← evaluations component.key
  let state := if fresh then evaluation.state else .unknown
  return ⟨output.id, if .displayName ∈ policy.disclosure.componentFields then
    some output.displayName else none, state, evaluation.mode, policy.disclosure.reasonFor state⟩

/-- The evaluations of `evaluate_direct`. -/
def ProjectionPolicyV1.direct (policy : ProjectionPolicyV1) (inputs : Inputs) : Evaluations :=
  fun key => (policy.components.find? fun component => component.key = key).map
    (evaluateDirect inputs)

/-- `project`, up to its `Surroundings`. -/
def project (host : Surroundings) (policy : ProjectionPolicyV1) (inputs : Inputs) :
    Except ProjectionError StatusArtifactV1 := do
  policy.validate host.policyChecks
  host.inputChecks inputs
  let order ← host.order policy
  let evaluations ← order.foldlM (applyDependencies policy) (policy.direct inputs)
  match evaluations policy.rootComponent with
  | none => .error ⟨"missing_root", "root evaluation is absent"⟩
  | some root => do
    let fresh := host.fresh policy evaluations
    let artifact : StatusArtifactV1 := {
      projectionId := policy.projectionId
      projectionGeneration := policy.generation
      aggregateState := if fresh then root.state else .unknown
      components := (policy.components.filterMap (policy.present evaluations fresh)).insertionSort
        fun left right => (compare left.id right.id).isLE }
    host.artifactChecks artifact
    return artifact

/-! ## What an artifact shows -/

section Shown

variable {host : Surroundings} {policy : ProjectionPolicyV1} {inputs : Inputs}
  {artifact : StatusArtifactV1}

/-- Every part of an artifact in words is a part of the policy. -/
theorem project_eq_ok (h : project host policy inputs = .ok artifact) :
    policy.validate host.policyChecks = .ok () ∧ host.inputChecks inputs = .ok () ∧
      ∃ (order : List Text) (evaluations : Evaluations), order.foldlM (applyDependencies policy)
        (policy.direct inputs) = .ok evaluations ∧ artifact.projectionId = policy.projectionId ∧
      artifact.projectionGeneration = policy.generation ∧
      ∀ shown, shown ∈ artifact.components ↔ ∃ component ∈ policy.components,
        policy.present evaluations (host.fresh policy evaluations) component = some shown := by
  unfold project at h
  rw [check_bind_eq_ok, check_bind_eq_ok] at h
  simp only [except_bind_eq_ok] at h
  obtain ⟨hvalid, hinputs, order, -, evaluations, hfold, h⟩ := h
  split at h
  · cases h
  rw [check_bind_eq_ok] at h
  obtain ⟨-, hpure⟩ := h
  cases hpure
  refine ⟨hvalid, hinputs, order, evaluations, hfold, rfl, rfl, fun shown => ?_⟩
  simp only [List.mem_insertionSort, List.mem_filterMap]

variable {component : ComponentPolicyV1} {evaluations : Evaluations}

/-- A shown component is called what the policy calls it. -/
theorem present_eq_some {fresh : Bool} {shown : ProjectedComponentV1}
    (h : policy.present evaluations fresh component = some shown) :
    ∃ output evaluation, component.output = some output ∧
      evaluations component.key = some evaluation ∧ shown.id = output.id ∧
      shown.displayName = (if .displayName ∈ policy.disclosure.componentFields then
        some output.displayName else none) ∧
      shown.state = (if fresh then evaluation.state else .unknown) ∧
      shown.reason = policy.disclosure.reasonFor shown.state := by
  simp only [ProjectionPolicyV1.present, Option.bind_eq_bind, Option.bind_eq_some_iff] at h
  obtain ⟨output, houtput, evaluation, hevaluation, hpure⟩ := h
  cases hpure
  exact ⟨output, evaluation, houtput, hevaluation, rfl, rfl, rfl, rfl⟩

theorem reasonFor_eq_some {disclosure : DisclosurePolicyV1} {state : ProjectedStateV1} {text : Text}
    (h : disclosure.reasonFor state = some text) : ⟨state, text⟩ ∈ disclosure.safeReasons := by
  unfold DisclosurePolicyV1.reasonFor at h
  split at h
  · obtain ⟨reason, hfound, rfl⟩ := Option.map_eq_some_iff.mp h
    obtain rfl : reason.state = state := by simpa using List.find?_some hfound
    exact List.mem_of_find?_eq_some hfound
  · cases h

theorem mem_of_lookUp {edges : List DependencyEdgeV1}
    {found : List (DependencyEdgeV1 × ComponentEvaluation)}
    (h : lookUp evaluations edges = .ok found) : ∀ entry ∈ found, entry.1 ∈ edges := by
  induction edges generalizing found with
  | nil =>
    cases h
    simp
  | cons edge rest ih =>
    rw [lookUp] at h
    split at h
    · cases h
    obtain ⟨others, hothers, hpure⟩ := (except_bind_eq_ok _ _ _).mp h
    cases hpure
    exact List.forall_mem_cons.mpr
      ⟨List.mem_cons_self, fun entry hrest => List.mem_cons_of_mem _ (ih hothers entry hrest)⟩

/-- What a round of the dependencies leaves for a component. -/
theorem applyDependencies_eq_ok {next : Evaluations} {key : Text}
    (h : applyDependencies policy evaluations key = .ok next) :
    ∃ (direct after : ComponentEvaluation) (found : List (DependencyEdgeV1 × ComponentEvaluation)),
      evaluations key = some direct ∧ next = Function.update evaluations key (some after) ∧
      (∀ entry ∈ found, entry.1 ∈ policy.dependencies ∧ entry.1.parent = key) ∧
      after.directState = direct.directState ∧
      after.state = settle direct.directState (found.filterMap fun entry =>
        entry.1.effect direct.directState entry.2.state) := by
  unfold applyDependencies at h
  split at h
  · cases h
  rename_i direct hdirect
  obtain ⟨found, hfound, hpure⟩ := (except_bind_eq_ok _ _ _).mp h
  cases hpure
  refine ⟨direct, _, found, hdirect, rfl, fun entry hentry => ?_, rfl, rfl⟩
  simpa using mem_of_lookUp hfound entry hentry

/-- Every shown component of the policy is in the artifact. -/
theorem present_isSome {order : List Text}
    (h : order.foldlM (applyDependencies policy) (policy.direct inputs) = .ok evaluations)
    (hmem : component ∈ policy.components) (fresh : Bool) {output : OutputComponentV1}
    (houtput : component.output = some output) :
    ∃ shown, policy.present evaluations fresh component = some shown := by
  have hdefined : (evaluations component.key).isSome = true := by
    refine foldlM_keeps_ok (fun evaluations => (evaluations component.key).isSome = true) ?_ h ?_
    · intro before key after hround hbefore
      obtain ⟨_, next, _, _, rfl, -⟩ := applyDependencies_eq_ok hround
      by_cases heq : component.key = key
      · simp [heq]
      · rwa [Function.update_of_ne heq]
    · simpa [ProjectionPolicyV1.direct] using ⟨component, hmem, rfl⟩
  obtain ⟨evaluation, hevaluation⟩ := Option.isSome_iff_exists.mp hdefined
  simp [ProjectionPolicyV1.present, houtput, hevaluation]

end Shown

end ConstellationMonitor.Status
