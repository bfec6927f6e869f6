/-
  Status/FilesystemCapacity.lean --- the filesystem capacity-pressure condition in a status
  (`constellation-status-nq-filesystem-capacity/src/lib.rs`).

  The adapter guards one component of a policy: its facts, its edges, its label and the reason
  table.  The projector shows the words of every component, and takes a reason by state alone.
-/
import ConstellationMonitor.Status.Projector

namespace ConstellationMonitor.Status

open Foundation

/-! ## The adapter -/

/-- What NQ's detector found. -/
inductive NqDetectorStateV1 where
  | present
  | explicitlyAbsent
  | cannotEvaluate
  | notEvaluated
  deriving DecidableEq

/-- `VerifiedCorrespondenceV1`; `capacity` says whether it is for the question of this adapter. -/
structure VerifiedCorrespondenceV1 where
  capacity : Bool
  subject : Text
  subjectIncarnation : Text
  nqDetectorState : NqDetectorStateV1
  evidenceRef : Text

/-- `CONSEQUENCE_SCHEMA_V1`. -/
def consequenceSchemaV1 : Text :=
  "constellation.status_consequence.nq_host_filesystem_capacity_pressure.v1"

/-- The owner of the adapter's facts. -/
def factOwner : Text := "constellation-status-nq-filesystem-capacity"

/-- The only label the component may have. -/
def publicComponentLabel : Text := "Filesystem capacity pressure"

/-- `consequence_row`: the axes of a detector state. -/
def consequenceRow : NqDetectorStateV1 → AvailabilityV1 × ImpactV1
  | .present => (.impaired, .none)
  | .explicitlyAbsent => (.available, .none)
  | .cannotEvaluate => (.indeterminate, .indeterminate)
  | .notEvaluated => (.indeterminate, .indeterminate)

/-- The condition is absent. -/
def healthyText : Text :=
  "Qualified filesystem capacity-pressure condition absent in the current NQ observation. This is not a storage health or integrity claim."

/-- The condition is present. -/
def degradedText : Text :=
  "Qualified filesystem capacity-pressure condition present in the current NQ observation. No outage or cause is claimed."

/-- Neither is known. -/
def unknownText : Text :=
  "The filesystem capacity-pressure condition is currently unknown. This is not an outage."

/-- `recommended_safe_reasons`. -/
def recommendedSafeReasons : List SafeReasonV1 :=
  [⟨.healthy, healthyText⟩, ⟨.degraded, degradedText⟩, ⟨.unknown, unknownText⟩]

/-- `mountpoint_is_normalized`; no UTF-8 text splits a character at an ASCII byte. -/
def mountpointIsNormalized (mountpoint : Text) : Bool :=
  mountpoint = "/" || match Text.stripStart "/" mountpoint with
  | none => false
  | some rest => mountpoint.length ≤ 64 && !mountpoint.hasControl &&
      !(mountpoint.bytes.any fun byte => byte = 0x20 || byte = 0x28 || byte = 0x29) &&
      (rest.split 0x2f).all fun segment => !segment.isEmpty && segment ≠ "." && segment ≠ ".."

/-- `label_is_qualified`. -/
def labelIsQualified (label : Text) (isPublic : Bool) : Bool :=
  label = publicComponentLabel || !isPublic &&
    match Text.stripStart (publicComponentLabel ++ " (") label with
    | none => false
    | some rest => rest.bytes.getLast? = some 0x29 && mountpointIsNormalized ⟨rest.bytes.dropLast⟩

/-- `enforce_condition_contract`. -/
def enforceConditionContract (output : Option OutputComponentV1) (policy : ProjectionPolicyV1) :
    Except ProjectionError Unit := do
  refuseIf (output.all fun output => !labelIsQualified output.displayName
      (policy.disclosure.audience = .«public»))
    ⟨"condition_contract_mismatch",
      "filesystem capacity component label is not the qualified condition label"⟩
  refuseIf (.reason ∉ policy.disclosure.componentFields ||
      policy.disclosure.safeReasons ≠ recommendedSafeReasons)
    ⟨"condition_contract_mismatch",
      "filesystem capacity policy must retain the qualified reason and non-claim text"⟩

/-- `condition_requirement`, with the component it found. -/
def conditionRequirement (host : Surroundings) (policy : ProjectionPolicyV1) (key : Text) :
    Except ProjectionError (ComponentPolicyV1 × FactRequirementV1) := do
  policy.validate host.policyChecks
  match policy.components.find? fun component => component.key = key with
  | none => .error ⟨"unknown_component", key⟩
  | some component =>
    match component.requiredFacts with
    | [requirement] => do
      refuseIf (requirement.owner ≠ factOwner || requirement.nativeSchema ≠ consequenceSchemaV1 ||
          requirement.factClass ≠ .derivedAdmitted)
        ⟨"requirement_mismatch",
          "component requirement does not name this adapter, schema, and derived_admitted class"⟩
      refuseIf (policy.dependencies.any fun edge => edge.kind ≠ .informational &&
          (edge.parent = key || edge.dependency = key))
        ⟨"dependency_guard",
          "the filesystem capacity-pressure condition component cannot carry or receive state through a hard or soft dependency edge"⟩
      enforceConditionContract component.output policy
      return (component, requirement)
    | _ => .error ⟨"one_fact_guard",
        "the filesystem capacity-pressure condition component must require exactly one fact"⟩

/-- `subject_segments`: the machine id, the filesystem UUID and both together. -/
def subjectSegments (subject : Text) : List Text :=
  let identity := (Text.stripStart "host-filesystem:" subject).getD subject
  (identity :: identity.split 0x2f).filter fun segment => !segment.isEmpty

/-- `carries_subject`. -/
def carriesSubject (subject text : Text) : Bool :=
  (subjectSegments subject).any fun segment => text.contains segment

/-- `check_subject`. -/
def checkSubject (policy : ProjectionPolicyV1) (component : ComponentPolicyV1)
    (requirement : FactRequirementV1) (verified : VerifiedCorrespondenceV1) :
    Except ProjectionError Unit := do
  refuseIf (!verified.capacity) ⟨"question_mismatch",
    "verified correspondence is for a question this adapter does not map"⟩
  refuseIf (requirement.liveSupport.scope ≠ "nq.host_filesystem_capacity.pressure/v1")
    ⟨"selector_mismatch",
      "policy live-support selector names a scope other than the filesystem capacity-pressure question"⟩
  refuseIf (requirement.liveSupport.subject ≠ verified.subject ||
      requirement.liveSupport.subjectIncarnation ≠ verified.subjectIncarnation)
    ⟨"selector_mismatch", "policy live-support selector names a different subject or incarnation"⟩
  let displayName := (component.output.map OutputComponentV1.displayName).getD ""
  if policy.disclosure.audience = .«public» then
    refuseIf (([component.key, policy.projectionId, requirement.factId, displayName] ++
        policy.disclosure.safeReasons.map SafeReasonV1.text).any (carriesSubject verified.subject))
      ⟨"public_identity_leak",
        "a public policy identifier or text carries the machine id or filesystem UUID"⟩
  else
    refuseIf (carriesSubject verified.subject displayName)
      ⟨"condition_contract_mismatch", "operator label carries the machine id or filesystem UUID"⟩

/-- `fact_for`; `factChecks` is `SourceFactV1::validate`. -/
def factFor (host : Surroundings) (factChecks : SourceFactV1 → Except ProjectionError Unit)
    (verified : VerifiedCorrespondenceV1) (policy : ProjectionPolicyV1) (key : Text) :
    Except ProjectionError SourceFactV1 := do
  let (component, requirement) ← conditionRequirement host policy key
  checkSubject policy component requirement verified
  let row := consequenceRow verified.nqDetectorState
  let fact := ⟨requirement.factId, key, factOwner, consequenceSchemaV1, .derivedAdmitted,
    verified.evidenceRef, row.1, row.2⟩
  factChecks fact
  return fact

/-! ## What the guard established -/

section Guard

variable {host : Surroundings} {factChecks : SourceFactV1 → Except ProjectionError Unit}
  {verified : VerifiedCorrespondenceV1} {policy : ProjectionPolicyV1} {key : Text}
  {fact : SourceFactV1} {inputs : Inputs} {artifact : StatusArtifactV1}

/-- The component a policy has for the condition. -/
structure Qualified (policy : ProjectionPolicyV1) (component : ComponentPolicyV1)
    (requirement : FactRequirementV1) : Prop where
  found : policy.components.find? (fun other => other.key = component.key) = some component
  facts : component.requiredFacts = [requirement]
  owner : requirement.owner = factOwner
  schema : requirement.nativeSchema = consequenceSchemaV1
  factClass : requirement.factClass = .derivedAdmitted
  edges : ∀ edge ∈ policy.dependencies, edge.parent = component.key → edge.kind = .informational
  reason : .reason ∈ policy.disclosure.componentFields
  reasons : policy.disclosure.safeReasons = recommendedSafeReasons

variable {component : ComponentPolicyV1} {requirement : FactRequirementV1}

theorem factFor_eq_ok (h : factFor host factChecks verified policy key = .ok fact) :
    ∃ component requirement, conditionRequirement host policy key = .ok (component, requirement) ∧
      checkSubject policy component requirement verified = .ok () ∧
      (fact.availability, fact.impact) = consequenceRow verified.nqDetectorState := by
  obtain ⟨⟨component, requirement⟩, hrequirement, h⟩ := (except_bind_eq_ok _ _ _).mp h
  simp only [check_bind_eq_ok] at h
  obtain ⟨hsubject, -, hpure⟩ := h
  cases hpure
  exact ⟨component, requirement, hrequirement, hsubject, rfl⟩

/-! ## Naming the machine -/

/-- The identifiers and texts of an artifact. -/
def StatusArtifactV1.words (artifact : StatusArtifactV1) : List Text :=
  artifact.projectionId :: artifact.projectionGeneration :: artifact.components.flatMap fun shown =>
    shown.id :: (shown.displayName.toList ++ shown.reason.toList)

/-- The words of a policy that the guard does not look at: the generation, and what every shown
component is called. -/
def ProjectionPolicyV1.Names (policy : ProjectionPolicyV1) (subject : Text) : Prop :=
  carriesSubject subject policy.generation = true ∨
    ∃ component ∈ policy.components, ∃ output, component.output = some output ∧
      (carriesSubject subject output.id = true ∨ .displayName ∈ policy.disclosure.componentFields ∧
        carriesSubject subject output.displayName = true)

theorem checkSubject_public (h : checkSubject policy component requirement verified = .ok ())
    (haudience : policy.disclosure.audience = .«public») :
    carriesSubject verified.subject policy.projectionId = false ∧
      ∀ reason ∈ policy.disclosure.safeReasons,
        carriesSubject verified.subject reason.text = false := by
  simp only [checkSubject, check_bind_eq_ok, if_pos haudience, refuseIf_eq_ok] at h
  obtain ⟨-, -, -, hleaks⟩ := h
  rw [List.any_eq_false] at hleaks
  refine ⟨by simpa using hleaks policy.projectionId (by simp), fun reason hreason => ?_⟩
  simpa using hleaks reason.text (List.mem_append_right _ (List.mem_map_of_mem hreason))

/-- A public artifact for a guarded condition names the machine exactly if the policy does in
its generation or in what it calls a shown component. -/
theorem public_artifact_names_iff (hfact : factFor host factChecks verified policy key = .ok fact)
    (haudience : policy.disclosure.audience = .«public»)
    (hproject : project host policy inputs = .ok artifact) :
    (∃ word ∈ artifact.words, carriesSubject verified.subject word = true) ↔
      policy.Names verified.subject := by
  obtain ⟨component, requirement, -, hsubject, -⟩ := factFor_eq_ok hfact
  obtain ⟨hid, hreasons⟩ := checkSubject_public hsubject haudience
  obtain ⟨-, -, order, evaluations, hfold, hprojection, hgeneration, hshown⟩ :=
    project_eq_ok hproject
  constructor
  · rintro ⟨word, hword, hcarries⟩
    simp only [StatusArtifactV1.words, List.mem_cons, List.mem_flatMap, List.mem_append,
      Option.mem_toList, hprojection, hgeneration] at hword
    rcases hword with rfl | rfl | ⟨shown, hmem, hword⟩
    · simp [hid] at hcarries
    · exact .inl hcarries
    · obtain ⟨component, hcomponent, hpresent⟩ := (hshown shown).mp hmem
      obtain ⟨output, _, houtput, -, hshownId, hname, -, hreason⟩ := present_eq_some hpresent
      rcases hword with rfl | hword | hword
      · exact .inr ⟨component, hcomponent, output, houtput, .inl (hshownId ▸ hcarries)⟩
      · rw [hname] at hword
        split at hword
        · rename_i hfield
          cases hword
          exact .inr ⟨component, hcomponent, output, houtput, .inr ⟨hfield, hcarries⟩⟩
        · cases hword
      · have hlisted := hreasons _ (reasonFor_eq_some (hreason.symm.trans hword))
        simp [hlisted] at hcarries
  · rintro (hcarries | ⟨component, hcomponent, output, houtput, hcarries⟩)
    · exact ⟨policy.generation, by simp [StatusArtifactV1.words, hgeneration], hcarries⟩
    · obtain ⟨shown, hshow⟩ :=
        present_isSome hfold hcomponent (host.fresh policy evaluations) houtput
      obtain ⟨output', _, houtput', -, hshownId, hname, -⟩ := present_eq_some hshow
      obtain rfl : output = output' := Option.some.inj (houtput.symm.trans houtput')
      have hmem := (hshown shown).mpr ⟨component, hcomponent, hshow⟩
      rcases hcarries with hcarries | ⟨hfield, hcarries⟩
      · refine ⟨shown.id, ?_, hshownId ▸ hcarries⟩
        simp only [StatusArtifactV1.words, List.mem_cons, List.mem_flatMap]
        exact .inr (.inr ⟨shown, hmem, .inl rfl⟩)
      · refine ⟨output.displayName, ?_, hcarries⟩
        simp only [StatusArtifactV1.words, List.mem_cons, List.mem_flatMap, List.mem_append,
          Option.mem_toList]
        exact .inr (.inr ⟨shown, hmem, .inr (.inl (by rw [hname, if_pos hfield]))⟩)

/-! ## The wording of the condition -/

end Guard

namespace Reference

/-- No other check fails, and all is fresh. -/
def host : Surroundings where
  policyChecks _ := .ok ()
  inputChecks _ := .ok ()
  order policy := .ok (policy.components.map ComponentPolicyV1.key)
  fresh _ _ := true
  artifactChecks _ := .ok ()

/-- The condition is absent on the filesystem `5e55e18a` of the machine `9f86d081`. -/
def verified : VerifiedCorrespondenceV1 :=
  ⟨true, "host-filesystem:9f86d081/5e55e18a", "boot-1", .explicitlyAbsent, "evidence-1"⟩

/-- The question of the adapter about `verified`. -/
def selector : LiveSupportSelectorV1 :=
  ⟨verified.subject, verified.subjectIncarnation, "nq.host_filesystem_capacity.pressure/v1", []⟩

/-- The adapter's component. -/
def capacity : ComponentPolicyV1 where
  key := "capacity"
  requiredFacts := [⟨"fact-1", factOwner, consequenceSchemaV1, .derivedAdmitted, selector⟩]
  output := some ⟨"capacity", publicComponentLabel⟩

/-- A component of another owner, called after the machine. -/
def web : ComponentPolicyV1 where
  key := "web"
  requiredFacts := [⟨"fact-2", "web-owner", "web.v1", .observed, ⟨"web", "1", "web", []⟩⟩]
  output := some ⟨"web", "Web on 9f86d081"⟩

/-- A public policy that shows `components`. -/
def policy (components : List ComponentPolicyV1) : ProjectionPolicyV1 where
  projectionId := "status"
  generation := "1"
  rootComponent := "capacity"
  components := components
  dependencies := []
  disclosure := ⟨.«public», [.displayName, .state, .mode, .reason], recommendedSafeReasons⟩

/-- The fact of `verified`. -/
def fact : SourceFactV1 :=
  ⟨"fact-1", "capacity", factOwner, consequenceSchemaV1, .derivedAdmitted, "evidence-1",
    .available, .none⟩

/-- Both components are available. -/
def inputs : Inputs where
  facts := [fact,
    ⟨"fact-2", "web", "web-owner", "web.v1", .observed, "evidence-2", .available, .none⟩]
  support := [⟨"evidence-1", selector, some 60000⟩,
    ⟨"evidence-2", ⟨"web", "1", "web", []⟩, some 60000⟩]

/-- `capacity` as the artifact shows it. -/
def shownCapacity : ProjectedComponentV1 :=
  ⟨"capacity", some publicComponentLabel, .healthy, .normal, some healthyText⟩

/-- `web` keeps its label, which names the machine. -/
def shownWeb : ProjectedComponentV1 :=
  ⟨"web", some "Web on 9f86d081", .healthy, .normal, some healthyText⟩

theorem factFor_policy :
    factFor host (fun _ => .ok ()) verified (policy [capacity, web]) "capacity" = .ok fact := by
  decide +kernel

theorem project_policy : project host (policy [capacity, web]) inputs =
    .ok ⟨"status", "1", .healthy, [shownCapacity, shownWeb]⟩ := by
  decide +kernel

theorem public_artifact_names_iff_web :
    (∃ word ∈ StatusArtifactV1.words ⟨"status", "1", .healthy, [shownCapacity, shownWeb]⟩,
      carriesSubject verified.subject word = true) ↔
        (policy [capacity, web]).Names verified.subject :=
  public_artifact_names_iff factFor_policy rfl project_policy

/-- The adapter admits the policy, and the public artifact names the machine. -/
theorem public_artifact_names_machine :
    factFor host (fun _ => .ok ()) verified (policy [capacity, web]) "capacity" = .ok fact ∧
      project host (policy [capacity, web]) inputs =
        .ok ⟨"status", "1", .healthy, [shownCapacity, shownWeb]⟩ ∧
      (Text.ofString "Web on 9f86d081").contains "9f86d081" = true := by
  refine ⟨factFor_policy, project_policy, ?_⟩
  decide +kernel

/-- A shown component without facts is never anything but unknown. -/
def idle : ComponentPolicyV1 where
  key := "idle"
  requiredFacts := []
  output := some ⟨"idle", "Idle"⟩

end Reference

end ConstellationMonitor.Status
