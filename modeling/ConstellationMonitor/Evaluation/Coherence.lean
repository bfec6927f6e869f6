/-
  Evaluation/Coherence.lean --- when CURRENT stands over pulses that contradict each other.

  Incompatible signals are looked for once, when the later of two pulses arrives, under the
  policy in force then.  What is found goes on record.  A judgment is derived later, from the
  pulses still live and the records still active, so it is right as long as every clash of
  two live pulses is on record; `replace_policy` can change what a clash is.
-/
import ConstellationMonitor.Evaluation.Deadline

namespace ConstellationMonitor.Evaluation

open Foundation ConstellationMonitor.Types
open Std (ExtTreeMap ExtTreeSet)

/-! ## Clashes -/

/-- Two pulses carry a signal of one name with incompatible values. -/
def Clashes (tolerances : ExtTreeMap Text Float64) (left right : ObserverEvidence) : Prop :=
  ∃ signal ∈ left.received.frame.signals, ∃ other ∈ right.received.frame.signals,
    signal.name = other.name ∧ signalsAreIncompatible signal other tolerances[signal.name]? = true

theorem signalsAreIncompatible_comm (left right : BoundedSignalValueV1)
    (tolerance : Option Float64) :
    signalsAreIncompatible left right tolerance = signalsAreIncompatible right left tolerance := by
  unfold signalsAreIncompatible
  simp only [Float64.absDifferenceExceeds_comm left.value, Bool.and_comm, Bool.or_comm]

theorem Clashes.symm {tolerances : ExtTreeMap Text Float64} {left right : ObserverEvidence}
    (h : Clashes tolerances left right) : Clashes tolerances right left := by
  obtain ⟨signal, hsignal, other, hother, hname, hincompatible⟩ := h
  refine ⟨other, hother, signal, hsignal, hname.symm, ?_⟩
  rw [← hname, signalsAreIncompatible_comm]
  exact hincompatible

/-- No two signals of a frame have one name. -/
def DistinctSignals (frame : PulseFrameV1) : Prop :=
  ∀ signal ∈ frame.signals, ∀ other ∈ frame.signals, signal.name = other.name → signal = other

theorem validateSignalsFrom_pairwise {previous : Option Text} {signals : List BoundedSignalValueV1}
    (h : PulseFrameV1.validateSignalsFrom previous signals = .ok ()) :
    (∀ name, previous = some name → ∀ signal ∈ signals, compare name signal.name = .lt) ∧
      signals.Pairwise fun earlier later => compare earlier.name later.name = .lt := by
  induction signals generalizing previous with
  | nil => simp
  | cons signal rest ih =>
    simp only [PulseFrameV1.validateSignalsFrom, check_bind_eq_ok, refuseIf_eq_ok] at h
    obtain ⟨-, hprevious, hrest⟩ := h
    obtain ⟨hlater, hpairwise⟩ := ih hrest
    have hafter := hlater signal.name rfl
    refine ⟨fun name hname other hother => ?_, List.pairwise_cons.mpr ⟨hafter, hpairwise⟩⟩
    subst hname
    have hlt : compare name signal.name = .lt := by
      cases hcompare : compare name signal.name <;> simp [hcompare] at hprevious ⊢
    rcases List.mem_cons.mp hother with rfl | hother
    · exact hlt
    · exact Std.TransCmp.lt_trans hlt (hafter other hother)

theorem distinctSignals_of_validate {sha256 : Sha256} {frame : PulseFrameV1}
    (h : frame.validate sha256 = .ok ()) : DistinctSignals frame := by
  replace h := PulseFrameV1.unsealed_of_validate h
  simp only [PulseFrameV1.validateUnsealed, check_bind_eq_ok] at h
  obtain ⟨-, -, -, -, -, -, -, -, -, -, hsignals, -⟩ := h
  obtain ⟨-, hpairwise⟩ := validateSignalsFrom_pairwise hsignals
  have hnodup : (frame.signals.map BoundedSignalValueV1.name).Nodup :=
    List.pairwise_map.mpr (hpairwise.imp fun {earlier later} hlt hname => by
      simp [hname] at hlt)
  exact fun signal hsignal other hother hname =>
    List.inj_on_of_nodup_map hnodup hsignal hother hname

namespace Evaluator

/-! ## Records -/

/-- The identity `create_contradiction` gives a record. -/
def contradictionIdOf (platform : Platform) (signal : Text) (references : List Text)
    (evaluator : Evaluator) : ContradictionId :=
  digestIdentity "contradiction:" <| digestParts platform.sha256 "contradiction.record.v1" <|
    [ evaluator.policy.subject.text.bytes,
      evaluator.currentSubjectIncarnation.text.bytes,
      evaluator.policy.generation.text.bytes,
      signal.bytes ] ++ (sortDedup references).map Text.bytes

/-- Whether a record stands: it is active, or was resolved. -/
def Stands (record : ContradictionRecordV1) : Prop :=
  record.isActive = true ∨
    ∃ resolver atMs rule explanation, record.status = .resolved resolver atMs rule explanation

/-- A standing record names exactly these references. -/
def OnRecord (evaluator : Evaluator) (references : List Text) : Prop :=
  ∃ (id : ContradictionId) (record : ContradictionRecordV1),
    evaluator.contradictions[id]? = some record ∧
      record.evidenceRefs = sortDedup references ∧ Stands record

/-- The references of two pulses. -/
def referencesOf (left right : ObserverEvidence) : List Text :=
  [evidenceRef left.received.frame, evidenceRef right.received.frame]

variable {evaluator after before : Evaluator}

theorem OnRecord.symm {left right : ObserverEvidence}
    (h : evaluator.OnRecord (referencesOf left right)) :
    evaluator.OnRecord (referencesOf right left) := by
  obtain ⟨id, record, hfound, hrefs, hstands⟩ := h
  refine ⟨id, record, hfound, hrefs.trans (sortDedup_congr fun value => ?_), hstands⟩
  simp [referencesOf, or_comm]

/-- Every clash of two pulses that are live at a time is on record. -/
def Accounted (evaluator : Evaluator) (now : Nat) : Prop :=
  ∀ left ∈ evaluator.eligibleFresh now, ∀ right ∈ evaluator.eligibleFresh now,
    left.received.frame.observer ≠ right.received.frame.observer →
      Clashes evaluator.policy.coherenceTolerances left right →
        evaluator.OnRecord (referencesOf left right)

/-- The time of the last evaluation. -/
def horizon (evaluator : Evaluator) : Nat := evaluator.lastEvaluationMs.getD 0

/-- Records only come to stand, and stand on. -/
def Recalls (before after : Evaluator) : Prop :=
  ∀ references, before.OnRecord references → after.OnRecord references

theorem recalls_of_kept (h : ∀ (id : ContradictionId) (record : ContradictionRecordV1),
      before.contradictions[id]? = some record → after.contradictions[id]? = some record) :
    Recalls before after := by
  rintro references ⟨id, record, hfound, hrest⟩
  exact ⟨id, record, h id record hfound, hrest⟩

theorem recalls_of_eq (h : after.contradictions = before.contradictions) : Recalls before after :=
  recalls_of_kept fun _ _ hfound => h ▸ hfound

theorem Recalls.trans {first second third : Evaluator} (left : Recalls first second)
    (right : Recalls second third) : Recalls first third :=
  fun references h => right references (left references h)

theorem eligibleFresh_of_same (same : SameEvidence before after) (now : Nat) :
    after.eligibleFresh now = before.eligibleFresh now := by
  simp only [eligibleFresh, relevantEvidence_of_same same, provenanceIsEligible,
    receivedProvenanceIsEligible, same.policy]

theorem mem_eligibleFresh {now : Nat} {evidence : ObserverEvidence} :
    evidence ∈ evaluator.eligibleFresh now ↔
      (∃ observer : ObserverId, evaluator.observers[observer]? = some evidence) ∧
        evidence.received.frame.subjectIncarnation = evaluator.currentSubjectIncarnation ∧
        now < evidence.expiresAtMs ∧
        evaluator.receivedProvenanceIsEligible evidence.received = true := by
  simp only [eligibleFresh, relevantEvidence, List.mem_filter, mem_values, provenanceIsEligible,
    Bool.and_eq_true, decide_eq_true_eq, and_assoc]

/-- What is live later is live now. -/
theorem eligibleFresh_of_le {now later : Nat} (hle : now ≤ later) {evidence : ObserverEvidence}
    (h : evidence ∈ evaluator.eligibleFresh later) : evidence ∈ evaluator.eligibleFresh now := by
  rw [mem_eligibleFresh] at h ⊢
  exact ⟨h.1, h.2.1, hle.trans_lt h.2.2.1, h.2.2.2⟩

theorem Accounted.of_same {now later : Nat} (h : before.Accounted now)
    (same : SameEvidence before after) (recalls : Recalls before after) (hle : now ≤ later) :
    after.Accounted later := by
  intro left hleft right hright hne hclash
  rw [eligibleFresh_of_same same] at hleft hright
  rw [same.policy] at hclash
  exact recalls _ (h left (eligibleFresh_of_le hle hleft) right (eligibleFresh_of_le hle hright) hne
    hclash)

/-! ## Detection -/

section Detection

variable (platform : Platform) (received : ReceivedPulseV1) (atMs : Nat) (evaluator : Evaluator)

theorem createContradiction_eq (signal : Text) (references statements : List Text) :
    (evaluator.createContradiction platform signal references statements atMs).contradictions =
      if evaluator.contradictions.contains
          (evaluator.contradictionIdOf platform signal references) then evaluator.contradictions
      else evaluator.contradictions.insert (evaluator.contradictionIdOf platform signal references)
        { schemaVersion := schemaVersionV1
          contradictionId := evaluator.contradictionIdOf platform signal references
          subjectScope := evaluator.subjectScope
          policyGeneration := evaluator.policy.generation
          signal := signal
          firstObservedAtMonotonicMs := atMs
          evidenceRefs := sortDedup references
          incompatibleStatements := sortDedup statements
          status := .active } := by
  unfold createContradiction
  dsimp only
  split
  · rename_i hcontains
    exact (if_pos hcontains).symm
  · rename_i hcontains
    exact (if_neg hcontains).symm

/-- Records stay as they are, and new ones lie under their own identity. -/
structure Adds (before after : Evaluator) : Prop where
  keeps : ∀ (id : ContradictionId) (record : ContradictionRecordV1),
    before.contradictions[id]? = some record → after.contradictions[id]? = some record
  added : ∀ (id : ContradictionId) (record : ContradictionRecordV1),
    after.contradictions[id]? = some record →
      before.contradictions[id]? = some record ∨ record.contradictionId = id

namespace Adds

variable {first second third : Evaluator}

theorem of_eq (h : second.contradictions = first.contradictions) : Adds first second :=
  ⟨fun _ _ hfound => h ▸ hfound, fun _ _ hfound => .inl (h ▸ hfound)⟩

theorem trans (left : Adds first second) (right : Adds second third) : Adds first third :=
  ⟨fun id record h => right.keeps id record (left.keeps id record h),
    fun id record h => (right.added id record h).elim (left.added id record) .inr⟩

end Adds

theorem adds_createContradiction (signal : Text) (references statements : List Text) :
    Adds evaluator (evaluator.createContradiction platform signal references statements atMs) := by
  have hcreated := evaluator.createContradiction_eq platform atMs signal references statements
  split at hcreated
  · exact .of_eq hcreated
  · rename_i hcontains
    rw [ExtTreeMap.contains_iff_mem, ExtTreeMap.mem_iff_isSome_getElem?] at hcontains
    constructor <;> intro id record h <;> rw [hcreated, getElem?_insert_iff] at *
    · rwa [if_neg]
      rintro rfl
      exact hcontains (by rw [h]; rfl)
    · split at h
      · rename_i hid
        exact .inr (by rw [← Option.some.inj h, hid])
      · exact .inl h

theorem Writes.adds {before after : Evaluator} (h : Writes platform atMs before after) :
    Adds before after := by
  cases h with
  | aside _ _ records => exact .of_eq records
  | contradicts => exact adds_createContradiction platform atMs _ _ _ _
  | _ => exact .of_eq rfl

theorem adds_of_writes {before after : Evaluator}
    (h : Relation.ReflTransGen (Writes platform atMs) before after) : Adds before after :=
  h.trans_induction_on (fun _ => .of_eq rfl) (Writes.adds platform atMs) fun _ _ => .trans

/-- The identity of a conflict depends on policy and subject alone. -/
theorem contradictionIdOf_of_same {before after : Evaluator} (same : SameEvidence before after)
    (signal : Text) (references : List Text) : after.contradictionIdOf platform signal references =
      before.contradictionIdOf platform signal references := by
  simp only [contradictionIdOf, same.policy, same.currentSubjectIncarnation]

/-- The identity of the record of a conflict. -/
def conflictId (conflict : SignalConflict) : ContradictionId :=
  evaluator.contradictionIdOf platform conflict.signal conflict.references

/-- The record of a conflict, before or among those found with it. -/
theorem exists_record_of_conflict {conflicts : List SignalConflict} {conflict : SignalConflict}
    (h : conflict ∈ conflicts) : ∃ record,
      (conflicts.foldl (recordConflict platform atMs) evaluator).contradictions[
        evaluator.conflictId platform conflict]? = some record := by
  obtain ⟨front, rest, rfl⟩ := List.append_of_mem h
  rw [List.foldl_append, List.foldl_cons]
  obtain ⟨record, hrecord⟩ : ∃ record, ((front.foldl (recordConflict platform atMs)
      evaluator).recordConflict platform atMs conflict).contradictions[
        evaluator.conflictId platform conflict]? = some record := by
    have hfront : SameEvidence evaluator (front.foldl (recordConflict platform atMs) evaluator) :=
      foldl_climbs .refl .trans (fun state _ =>
        sameEvidence_createContradiction platform atMs state _ _ _) front evaluator
    rw [recordConflict, createContradiction_eq, conflictId, contradictionIdOf_of_same _ hfront]
    split
    · rename_i hcontains
      rwa [ExtTreeMap.contains_iff_mem, ExtTreeMap.mem_iff_isSome_getElem?,
        Option.isSome_iff_exists] at hcontains
    · exact ⟨_, by rw [getElem?_insert_iff, if_pos rfl]⟩
  exact ⟨record, (foldl_climbs (fun _ => Adds.of_eq rfl) .trans (fun state _ =>
    adds_createContradiction platform atMs state _ _ _) rest _).keeps _ _ hrecord⟩

/-- A record after some conflicts was there before, or is the active record of one of them. -/
theorem conflict_of_record {conflicts : List SignalConflict} {id : ContradictionId}
    {record : ContradictionRecordV1}
    (h : (conflicts.foldl (recordConflict platform atMs) evaluator).contradictions[id]? =
      some record) :
    evaluator.contradictions[id]? = some record ∨ ∃ other ∈ conflicts,
      evaluator.conflictId platform other = id ∧
        record.evidenceRefs = sortDedup other.references ∧ record.isActive = true := by
  refine (List.foldlRecOn (motive := fun state => SameEvidence evaluator state ∧
    (state.contradictions[id]? = some record → _)) conflicts _ ⟨.refl _, .inl⟩ ?_).2 h
  rintro state ⟨hsame, hbefore⟩ conflict hmem
  refine ⟨hsame.trans (sameEvidence_createContradiction platform atMs _ _ _ _), fun hfound => ?_⟩
  rw [recordConflict, createContradiction_eq] at hfound
  split at hfound
  · exact hbefore hfound
  · rw [getElem?_insert_iff] at hfound
    split at hfound
    · rename_i hid
      obtain rfl := Option.some.inj hfound
      exact .inr ⟨conflict, hmem, (contradictionIdOf_of_same platform hsame _ _).symm.trans hid,
        rfl, rfl⟩
    · exact hbefore hfound

/-- The conflicts of a pulse are told apart by their identities: a record that bears one stands
and names its conflict's references, and conflicts that share one have the same references. -/
def Identified : Prop :=
  ∀ conflict ∈ evaluator.conflictsOf platform received atMs,
    (∀ record, evaluator.contradictions[evaluator.conflictId platform conflict]? = some record →
      record.evidenceRefs = sortDedup conflict.references ∧ Stands record) ∧
    ∀ other ∈ evaluator.conflictsOf platform received atMs,
      evaluator.conflictId platform other = evaluator.conflictId platform conflict →
        sortDedup other.references = sortDedup conflict.references

/-- Detection puts every conflict on record. -/
theorem detectSignalContradictions_onRecord
    (eligible : evaluator.receivedProvenanceIsEligible received = true)
    (identified : evaluator.Identified platform received atMs) {conflict : SignalConflict}
    (found : conflict ∈ evaluator.conflictsOf platform received atMs) :
    (evaluator.detectSignalContradictions platform received atMs).OnRecord conflict.references := by
  unfold detectSignalContradictions
  rw [if_pos eligible]
  obtain ⟨record, hrecord⟩ := evaluator.exists_record_of_conflict platform atMs found
  refine ⟨_, record, hrecord, ?_⟩
  rcases evaluator.conflict_of_record platform atMs hrecord with
    hbefore | ⟨other, hother, hsame, hrefs, hactive⟩
  · exact (identified conflict found).1 record hbefore
  · exact ⟨hrefs.trans ((identified conflict found).2 other hother hsame), .inl hactive⟩

/-- A pulse that clashes with comparable evidence is in conflict with it. -/
theorem exists_conflict {evidence : ObserverEvidence} {observer : ObserverId}
    (stored : evaluator.observers[observer]? = some evidence)
    (comparable : evaluator.comparable received atMs evidence = true)
    (distinct : DistinctSignals evidence.received.frame) {arriving : ObserverEvidence}
    (arrives : arriving.received = received)
    (clash : Clashes evaluator.policy.coherenceTolerances arriving evidence) :
    ∃ conflict ∈ evaluator.conflictsOf platform received atMs,
      conflict.references = referencesOf arriving evidence := by
  subst arrives
  obtain ⟨signal, hsignal, other, hother, hname, hincompatible⟩ := clash
  have hfind : (evidence.received.frame.signals.find? fun candidate =>
      decide (candidate.name = signal.name)) = some other := by
    obtain ⟨found, hfound⟩ := Option.isSome_iff_exists.mp (List.find?_isSome.mpr
      ⟨other, hother, by simpa using hname.symm⟩ :
        (evidence.received.frame.signals.find? fun candidate =>
          decide (candidate.name = signal.name)).isSome = true)
    have hfoundName : found.name = signal.name := by simpa using List.find?_some hfound
    rw [hfound, distinct found (List.mem_of_find?_eq_some hfound) other hother
      (hfoundName.trans hname)]
  refine ⟨⟨signal.name, referencesOf arriving evidence,
    [ signalStatement platform arriving.received.frame.observer signal,
      signalStatement platform evidence.received.frame.observer other ]⟩, ?_, rfl⟩
  refine List.mem_flatMap.mpr ⟨evidence, List.mem_filter.mpr
    ⟨(mem_values _ _).mpr ⟨observer, stored⟩, comparable⟩, ?_⟩
  refine List.mem_filterMap.mpr ⟨signal, hsignal, ?_⟩
  simp only [hfind, hincompatible, ↓reduceIte]
  rfl

variable {platform received atMs evaluator} in
/-- Identification looks at policy, subject, evidence and records alone. -/
theorem Identified.transfer {after : Evaluator} (h : evaluator.Identified platform received atMs)
    (policy : after.policy = evaluator.policy)
    (subject : after.currentSubjectIncarnation = evaluator.currentSubjectIncarnation)
    (observers : after.observers = evaluator.observers)
    (contradictions : after.contradictions = evaluator.contradictions) :
    after.Identified platform received atMs := by
  have hcomparable : after.comparable received atMs = evaluator.comparable received atMs := by
    funext evidence
    simp only [comparable, provenanceIsEligible, receivedProvenanceIsEligible, policy]
  have hconflicts : after.conflictsOf platform received atMs =
      evaluator.conflictsOf platform received atMs := by
    simp only [conflictsOf, hcomparable, observers, policy]
  unfold Identified
  simp only [hconflicts, contradictions, conflictId, contradictionIdOf, policy, subject]
  exact h

variable {platform received atMs evaluator} in
/-- Admission of a pulse about the current subject puts its clashes on record. -/
theorem admitEvidence_onRecord
    (current : received.frame.subjectIncarnation = evaluator.currentSubjectIncarnation)
    (eligible : evaluator.receivedProvenanceIsEligible received = true)
    (identified : evaluator.Identified platform received atMs) {conflict : SignalConflict}
    (found : conflict ∈ evaluator.conflictsOf platform received atMs) :
    (evaluator.admitEvidence platform received atMs).OnRecord conflict.references := by
  have hfollowed : evaluator.followSubject platform received atMs = evaluator := by
    unfold followSubject
    rw [if_neg (by simpa using current)]
  have hdetected := detectSignalContradictions_onRecord platform received atMs
    (evaluator.updateLineage received.frame received.receiver.disposition) eligible
    (identified.transfer rfl rfl rfl rfl) found
  obtain ⟨id, record, hrecord, hrest⟩ := hdetected
  refine ⟨id, record, ?_, hrest⟩
  unfold admitEvidence
  dsimp only
  rw [hfollowed]
  exact (adds_of_writes platform atMs (writes_recordAdverseSupersession platform received atMs
    _)).keeps id record hrecord

end Detection

/-! ## What the records keep up with -/

/-- The state in which every clash of live pulses is on record. -/
structure Coherent (evaluator : Evaluator) : Prop where
  filed : Filed evaluator
  /-- evidence is about the current subject incarnation or a retired one -/
  subjects : ∀ (observer : ObserverId) (evidence : ObserverEvidence),
    evaluator.observers[observer]? = some evidence →
      evidence.received.frame.subjectIncarnation = evaluator.currentSubjectIncarnation ∨
        evidence.received.frame.subjectIncarnation ∈ evaluator.retiredSubjectIncarnations
  distinct : ∀ (observer : ObserverId) (evidence : ObserverEvidence),
    evaluator.observers[observer]? = some evidence → DistinctSignals evidence.received.frame
  accounted : evaluator.Accounted evaluator.horizon

theorem Coherent.of_same (h : Coherent before) (same : SameEvidence before after)
    (recalls : Recalls before after) (hle : before.horizon ≤ after.horizon) : Coherent after where
  filed := h.filed.of_same same
  subjects observer evidence hfound := by
    rw [same.currentSubjectIncarnation, same.retiredSubjectIncarnations]
    exact h.subjects observer evidence (same.observers ▸ hfound)
  distinct observer evidence hfound := h.distinct observer evidence (same.observers ▸ hfound)
  accounted := h.accounted.of_same same recalls hle

/-- Without evidence there is nothing to account for. -/
theorem coherent_of_empty (observers : evaluator.observers = ∅)
    (retired : evaluator.retiredObserverIncarnations = ∅) : Coherent evaluator where
  filed := filed_of_empty observers retired
  subjects observer evidence h := by simp [observers] at h
  distinct observer evidence h := by simp [observers] at h
  accounted left hleft := by
    obtain ⟨⟨observer, hfound⟩, -⟩ := mem_eligibleFresh.mp hleft
    simp [observers] at hfound

end Evaluator

/-! ## Steps -/

open Evaluator

section Steps

variable {platform : Platform} {operation : EvaluatorOperation} {before after : Evaluator}
  {output : Option EvaluationOutput}

/-- Preparing an operation does not move the last evaluation. -/
theorem prepare_horizon (platform : Platform) (operation : EvaluatorOperation)
    (evaluator : Evaluator) :
    (operation.prepare platform evaluator).horizon = evaluator.horizon := by
  rw [horizon, (awaits_prepare platform operation evaluator).lastEvaluationMs]
  rfl

/-- An operation that evaluates leaves the time it evaluated at. -/
theorem run_horizon_eq {evaluation : EvaluationOutput}
    (ran : operation.run platform before = .ok (some evaluation, after)) : after.horizon =
      (operation.prepare platform before).evaluationTime operation.time := by
  rw [(evaluates_run ran).state]
  unfold horizon
  rw [evaluate_lastEvaluationMs]
  rfl

/-- The last evaluation moves forward, and past the time of an operation that evaluates. -/
theorem run_horizon (ran : operation.run platform before = .ok (output, after)) :
    before.horizon ≤ after.horizon ∧ (output.isSome → operation.time ≤ after.horizon) := by
  rw [← prepare_horizon platform operation before]
  cases output with
  | none =>
    rw [run_none ran]
    exact ⟨le_rfl, by simp⟩
  | some evaluation =>
    obtain ⟨htime, hprior⟩ := (operation.prepare platform before).le_evaluationTime operation.time
    rw [run_horizon_eq ran]
    refine ⟨?_, fun _ => htime⟩
    unfold horizon
    cases hlast : (operation.prepare platform before).lastEvaluationMs with
    | none => simp
    | some prior => exact hprior prior hlast

theorem recalls_run (h : Recalls before (operation.prepare platform before))
    (ran : operation.run platform before = .ok (output, after)) : Recalls before after :=
  h.trans (recalls_of_eq (retains_run ran).contradictions)

/-- Resolving a record leaves it standing. -/
theorem recalls_resolve {contradictionId : ContradictionId}
    {resolution : ContradictionResolutionV1} {atMs : Nat} (evaluator : Evaluator) :
    Recalls evaluator ((EvaluatorOperation.resolve contradictionId resolution atMs).prepare platform
        evaluator) := by
  simp only [EvaluatorOperation.prepare]
  split
  · exact fun _ h => h
  · rename_i record hrecord
    rintro references ⟨id, other, hfound, hrefs, hstands⟩
    by_cases hid : contradictionId = id
    · subst hid
      rw [hrecord, Option.some.injEq] at hfound
      subst hfound
      refine ⟨contradictionId, resolveRecord resolution atMs record, ?_, hrefs,
        .inr ⟨_, _, _, _, rfl⟩⟩
      exact (getElem?_insert_iff _ _ _ _).trans (if_pos rfl)
    · refine ⟨id, other, ?_, hrefs, hstands⟩
      exact ((getElem?_insert_iff _ _ _ _).trans (if_neg hid)).trans hfound

/-- Operations that touch no evidence keep what is on record. -/
theorem Evaluator.Coherent.still (h : Coherent before)
    (ran : operation.run platform before = .ok (output, after))
    (kept : operation.keepsBinding = true)
    (other : ∀ received atMs, operation ≠ .call (.ingest received) atMs) : Coherent after := by
  refine h.of_same ((sameEvidence_prepare before kept other).trans
    (retains_run ran).toSameEvidence) ?_ (run_horizon ran).1
  refine recalls_run ?_ ran
  cases operation using EvaluatorOperation.plainCases with
  | plain operation hplain =>
    exact recalls_of_eq (idles_prepare platform before hplain).1.contradictions
  | ingest received atMs => exact absurd rfl (other received atMs)
  | replacePolicy policy barrier atMs => cases kept
  | replaceSubject replacement atMs => cases kept
  | resolve contradictionId resolution atMs => exact recalls_resolve before
  | reinstate record =>
    exact (run_reinstate ran).2.1 ▸ recalls_of_kept (run_reinstate ran).2.2

/-! ## Arriving pulses -/

variable {received : ReceivedPulseV1} {atMs : Nat}

/-- A pulse that only advances a lineage. -/
theorem Evaluator.Coherent.advance (h : Coherent before) (advances : before.Advances received) :
    Coherent (before.updateLineage received.frame received.receiver.disposition) where
  filed := (Moves.passed advances (.refl _)).filed h.filed
  subjects := h.subjects
  distinct := h.distinct
  accounted := h.accounted

theorem eligible_of_policy {left right : Evaluator} (policy : left.policy = right.policy)
    (received : ReceivedPulseV1) :
    left.receivedProvenanceIsEligible received = right.receivedProvenanceIsEligible received := by
  simp only [receivedProvenanceIsEligible, policy]

variable {evidence : ObserverEvidence}

/-- The evidence map after a pulse was written holds the pulse and older evidence. -/
theorem found_of_written (same : SameEvidence (before.admitted received) after)
    {observer : ObserverId} (found : after.observers[observer]? = some evidence) :
    evidence = before.evidenceOf received ∨
      (received.frame.observer ≠ observer ∧ before.observers[observer]? = some evidence) := by
  rw [same.observers] at found
  have hinserted := (getElem?_insert_iff before.observers received.frame.observer observer
    (before.evidenceOf received)).symm.trans found
  split at hinserted
  · exact .inl (Option.some.inj hinserted).symm
  · rename_i hother
    exact .inr ⟨hother, hinserted⟩

/-- Live evidence after a pulse was written: the pulse itself, or live evidence of another
observer about the subject incarnation that stayed current. -/
theorem Evaluator.Coherent.live_cases (h : Coherent before) (advances : before.Advances received)
    (same : SameEvidence (before.admitted received) after) {now : Nat}
    (live : evidence ∈ after.eligibleFresh now) : (evidence = before.evidenceOf received ∧
        before.receivedProvenanceIsEligible received = true) ∨
      (received.frame.subjectIncarnation = before.currentSubjectIncarnation ∧
        evidence.received.frame.observer ≠ received.frame.observer ∧
        evidence ∈ before.eligibleFresh now) := by
  obtain ⟨⟨observer, hfound⟩, hsubject, hfresh, heligible⟩ :=
    mem_eligibleFresh.mp live
  rw [same.currentSubjectIncarnation] at hsubject
  have hsubject : evidence.received.frame.subjectIncarnation =
      received.frame.subjectIncarnation := hsubject
  have heligible : before.receivedProvenanceIsEligible evidence.received = true :=
    (eligible_of_policy same.policy evidence.received).symm.trans heligible
  rcases found_of_written same hfound with rfl | ⟨hmine, hbefore⟩
  · exact .inl ⟨rfl, heligible⟩
  · -- older evidence about a retired incarnation is not about the pulse's incarnation
    have hcurrent : received.frame.subjectIncarnation = before.currentSubjectIncarnation := by
      rcases h.subjects observer evidence hbefore with hcurrent | hretired
      · rw [← hsubject, hcurrent]
      · rw [hsubject] at hretired
        exact absurd hretired advances.position.1
    refine .inr ⟨hcurrent, ?_, mem_eligibleFresh.mpr
      ⟨⟨observer, hbefore⟩, hsubject.trans hcurrent, hfresh, heligible⟩⟩
    rw [h.filed.named observer evidence hbefore]
    exact Ne.symm hmine

/-- The clash of an arriving pulse with live evidence is put on record. -/
theorem Evaluator.Coherent.arriving_onRecord (h : Coherent before)
    (identified : before.Identified platform received atMs)
    (current : received.frame.subjectIncarnation = before.currentSubjectIncarnation)
    (eligible : before.receivedProvenanceIsEligible received = true) {now : Nat} (hnow : atMs ≤ now)
    (live : evidence ∈ before.eligibleFresh now)
    (other : evidence.received.frame.observer ≠ received.frame.observer)
    (clash : Clashes before.policy.coherenceTolerances (before.evidenceOf received) evidence) :
    (before.admitEvidence platform received atMs).OnRecord
      (referencesOf (before.evidenceOf received) evidence) := by
  obtain ⟨⟨observer, hfound⟩, hsubject, hfresh, hevidence⟩ := mem_eligibleFresh.mp live
  have hcomparable : before.comparable received atMs evidence = true := by
    simp only [comparable, provenanceIsEligible, hevidence, Bool.and_true,
      Bool.and_eq_true, decide_eq_true_eq]
    exact ⟨⟨other, hsubject.trans current.symm⟩, by omega⟩
  obtain ⟨conflict, hconflict, hrefs⟩ := before.exists_conflict platform received atMs hfound
    hcomparable (h.distinct observer evidence hfound) rfl clash
  rw [← hrefs]
  exact admitEvidence_onRecord current eligible identified hconflict

/-- A written pulse: its clashes with live evidence were found on arrival. -/
theorem Evaluator.Coherent.written (h : Coherent before)
    (identified : before.Identified platform received atMs) (advances : before.Advances received)
    (distinct : DistinctSignals received.frame)
    (retains : Retains (before.admitEvidence platform received atMs) after)
    (filed : Filed after) (hle : before.horizon ≤ after.horizon)
    (htime : atMs ≤ after.horizon) : Coherent after := by
  have hsame : SameEvidence (before.admitted received) after :=
    (sameEvidence_admitEvidence platform received atMs before).trans
      retains.toSameEvidence
  have harriving : Recalls (before.admitEvidence platform received atMs) after :=
    recalls_of_eq retains.contradictions
  have hrecalls : Recalls before after := (recalls_of_kept (adds_of_writes platform atMs
    (before.writes_admitEvidence platform received atMs)).keeps).trans harriving
  refine ⟨filed, fun observer evidence hfound => ?_, fun observer evidence hfound => ?_, ?_⟩
  · rw [hsame.currentSubjectIncarnation, hsame.retiredSubjectIncarnations]
    rcases found_of_written hsame hfound with rfl | ⟨-, hbefore⟩
    · exact .inl rfl
    · show _ = received.frame.subjectIncarnation ∨
        _ ∈ (before.subjectFollowed received).retiredSubjectIncarnations
      simp only [subjectFollowed]
      by_cases hsubject : received.frame.subjectIncarnation = before.currentSubjectIncarnation
      · simpa [hsubject] using h.subjects observer evidence hbefore
      · rw [if_pos hsubject]
        refine .inr (ExtTreeSet.mem_insert.mpr ?_)
        rcases h.subjects observer evidence hbefore with hcurrent | hretired
        · exact .inl (by simp [hcurrent])
        · exact .inr hretired
  · rcases found_of_written hsame hfound with rfl | ⟨-, hbefore⟩
    · exact distinct
    · exact h.distinct observer evidence hbefore
  · intro left hleft right hright hne hclash
    rw [hsame.policy] at hclash
    have hclash : Clashes before.policy.coherenceTolerances left right := hclash
    rcases h.live_cases advances hsame hleft with ⟨rfl, heligible⟩ | ⟨hcurrent, hother, hlive⟩
    · rcases h.live_cases advances hsame hright with ⟨rfl, -⟩ | ⟨hcurrent, hother, hlive⟩
      · exact absurd rfl hne
      · exact harriving _
          (h.arriving_onRecord identified hcurrent heligible htime hlive hother hclash)
    · rcases h.live_cases advances hsame hright with ⟨rfl, heligible⟩ | ⟨-, -, hliveRight⟩
      · exact (harriving _ (h.arriving_onRecord identified hcurrent heligible htime hlive hother
          hclash.symm)).symm
      · exact hrecalls _ (h.accounted left (eligibleFresh_of_le hle hlive) right
          (eligibleFresh_of_le hle hliveRight) hne hclash)

theorem Evaluator.Advances.of_same (h : before.Advances received)
    (same : SameEvidence before after) : after.Advances received where
  classified := by
    rw [← h.classified]
    simp only [classifyArrival, same.retiredSubjectIncarnations, same.observerLineages,
      same.retiredObserverIncarnations]
  notDuplicate := h.notDuplicate
  notReplay := h.notReplay
  notStale := h.notStale

/-- Taking in a pulse whose conflicts are identified. -/
theorem Evaluator.Coherent.ingest (h : Coherent before)
    (identified : before.Identified platform received atMs)
    (ran : (EvaluatorOperation.call (.ingest received) atMs).run platform before =
      .ok (output, after)) : Coherent after := by
  obtain ⟨evaluation, rfl, hperformed⟩ := run_call ran
  have hdistinct : DistinctSignals received.frame := by
    simp only [perform, ingest, check_bind_eq_ok, mapError_eq_ok,
      ReceivedPulseV1.validate] at hperformed
    exact distinctSignals_of_validate hperformed.1.1
  have hretains := retains_run ran
  obtain ⟨hle, htime⟩ := run_horizon ran
  have hnoted : SameEvidence before (noteArrival received before) := {}
  have hingested : Ingested platform received atMs before
      (before.ingestState platform received atMs) := ingestState_ingested
  cases hingested with
  | ignored refused same =>
    exact h.of_same (hnoted.trans (same.toSameEvidence.trans hretains.toSameEvidence))
      (recalls_of_eq (hretains.contradictions.trans same.contradictions)) hle
  | passed refused advances same =>
    exact (h.advance advances).of_same ((sameEvidence_updateLineage hnoted _ _).trans
      (same.toSameEvidence.trans hretains.toSameEvidence))
      (recalls_of_eq (hretains.contradictions.trans same.contradictions)) hle
  | written state admits same eq =>
    have hstate := hnoted.trans same.toSameEvidence
    have hadmitted : Retains (state.admitEvidence platform received atMs) after :=
      eq ▸ hretains
    have hhorizon : state.horizon = before.horizon := by
      have haccept := (state.sameDocket_admitEvidence platform received atMs).lastEvaluationMs
      have hingest := (before.sameDocket_ingestState platform received atMs).lastEvaluationMs
      rw [eq] at hingest
      exact congrArg (Option.getD · 0) (haccept.symm.trans hingest)
    have hcoherent : Coherent state := h.of_same hstate
      (recalls_of_eq same.contradictions) hhorizon.ge
    exact hcoherent.written (identified.transfer hstate.policy hstate.currentSubjectIncarnation
      hstate.observers same.contradictions) (admits.toAdvances.of_same hstate) hdistinct hadmitted
      (h.filed.step ran) (hhorizon.le.trans hle) (htime rfl)

/-! ## Guarded runs -/

/-- What an operation must meet for its effect to stay on record: the conflicts of an
arriving pulse are identified, and a new policy finds every clash among the pulses it keeps that
are live at the call already on record. -/
def EvaluatorOperation.Guarded (platform : Platform) (operation : EvaluatorOperation)
    (evaluator : Evaluator) : Prop :=
  match operation with
  | .call (.ingest received) atMs => evaluator.Identified platform received atMs
  | .call (.replacePolicy policy barrier) atMs =>
    let prepared := (evaluator.adoptPolicy policy).raiseBarrier barrier
    prepared.Accounted (prepared.evaluationTime atMs)
  | _ => True

/-- A replaced policy that finds the clashes among the live evidence it keeps on record. -/
theorem Evaluator.Coherent.replacePolicy (h : Coherent before) {policy : ReliancePolicyV1}
    {barrier : ReevaluationBarrierV1}
    (guard : (EvaluatorOperation.call (.replacePolicy policy barrier) atMs).Guarded platform before)
    (ran : (EvaluatorOperation.call (.replacePolicy policy barrier) atMs).run platform before =
      .ok (output, after)) : Coherent after := by
  obtain ⟨evaluation, rfl, -⟩ := run_call ran
  have hadopted : Retains ((before.adoptPolicy policy).raiseBarrier barrier) after :=
    retains_run ran
  have hfiled := h.filed.step ran
  have hsubject : (before.adoptPolicy policy).currentSubjectIncarnation =
      before.currentSubjectIncarnation ∧
      (before.adoptPolicy policy).retiredSubjectIncarnations =
        before.retiredSubjectIncarnations := by
    unfold adoptPolicy
    split <;> exact ⟨rfl, rfl⟩
  have hkept : ∀ (observer : ObserverId) (evidence : ObserverEvidence),
      after.observers[observer]? = some evidence →
        before.observers[observer]? = some evidence := by
    rw [hadopted.observers]
    show ∀ _ _, (before.adoptPolicy policy).observers[_]? = _ → _
    unfold adoptPolicy
    split <;> simp
  exact
    { filed := hfiled
      subjects := fun observer evidence hfound => by
        rw [hadopted.currentSubjectIncarnation.trans hsubject.1,
          hadopted.retiredSubjectIncarnations.trans hsubject.2]
        exact h.subjects observer evidence (hkept observer evidence hfound)
      distinct := fun observer evidence hfound =>
        h.distinct observer evidence (hkept observer evidence hfound)
      accounted := Accounted.of_same guard hadopted.toSameEvidence
        (recalls_of_eq hadopted.contradictions)
        (run_horizon_eq ran).ge }

/-- One guarded operation keeps every clash of live pulses on record. -/
theorem Evaluator.Coherent.step (h : Coherent before) (guard : operation.Guarded platform before)
    (ran : operation.run platform before = .ok (output, after)) : Coherent after := by
  by_cases hpulse : ∃ received atMs, operation = .call (.ingest received) atMs
  · obtain ⟨received, atMs, rfl⟩ := hpulse
    exact h.ingest guard ran
  · push Not at hpulse
    cases hkept : operation.keepsBinding with
    | true => exact h.still ran hkept hpulse
    | false =>
      cases operation with
      | call invoked atMs =>
        cases invoked with
        | replacePolicy policy barrier => exact h.replacePolicy guard ran
        | replaceSubject replacement =>
          exact coherent_of_empty (retains_run ran).observers
            (retains_run ran).retiredObserverIncarnations
        | _ => cases hkept
      | _ => cases hkept

end Steps

/-- The evaluators that guarded operations lead to from a new one. -/
inductive GuardedReached (platform : Platform) : Evaluator → Prop
  | new {policy : ReliancePolicyV1} {receiver : ReceiverId} {receiverIncarnation : IncarnationId}
      {clockId : ClockId} {subject : IncarnationId} {evaluator : Evaluator}
      (made : Evaluator.new policy receiver receiverIncarnation clockId subject = .ok evaluator) :
      GuardedReached platform evaluator
  | step {operation : EvaluatorOperation} {before after : Evaluator}
      {output : Option EvaluationOutput} (reached : GuardedReached platform before)
      (guard : operation.Guarded platform before)
      (ran : operation.run platform before = .ok (output, after)) :
      GuardedReached platform after

theorem GuardedReached.coherent {platform : Platform} {evaluator : Evaluator}
    (reached : GuardedReached platform evaluator) : evaluator.Coherent := by
  induction reached with
  | new made =>
    rw [new_eq_ok made]
    exact coherent_of_empty rfl rfl
  | step _ guard ran ih => exact ih.step guard ran

theorem Evaluator.activeContradictionIds_eq_nil (evaluator : Evaluator) :
    evaluator.activeContradictionIds = [] ↔
      ∀ (id : ContradictionId) (record : ContradictionRecordV1),
        evaluator.contradictions[id]? = some record → record.isActive = false := by
  rw [activeContradictionIds, List.map_eq_nil_iff, List.filter_eq_nil_iff]
  constructor
  · intro h id record hfound
    simpa using h record ((mem_values _ _).mpr ⟨id, hfound⟩)
  · intro h record hmem
    obtain ⟨id, hfound⟩ := (mem_values _ _).mp hmem
    simp [h id record hfound]

/-- A CURRENT evaluation leaves no active contradiction. -/
theorem evaluate_uncontradicted {platform : Platform} {operation : EvaluatorOperation}
    {before after : Evaluator} {output : EvaluationOutput}
    (ran : operation.run platform before = .ok (some output, after))
    (current : output.judgment.category = .current) :
    ∀ (id : ContradictionId) (record : ContradictionRecordV1),
      after.contradictions[id]? = some record → record.isActive = false := by
  have hevaluates := evaluates_run ran
  rw [hevaluates.judgment, evaluate_category] at current
  simp only [derivation, deriveBarred] at current
  split at current
  · cases current
  · have hnone := ((derive_current_iff _ _).mp current).uncontradicted
    rw [(retains_run ran).contradictions,
      ← ((operation.prepare platform before).retains_hotState operation.time).contradictions]
    exact (activeContradictionIds_eq_nil _).mp hnone

/-- No CURRENT over incompatible live evidence, in runs whose operations are all guarded: two
live pulses of different observers that clash under the policy in force are named by a
contradiction record that was resolved. -/
theorem current_coherent {platform : Platform} {operation : EvaluatorOperation}
    {before after : Evaluator} {output : EvaluationOutput}
    (reached : GuardedReached platform before) (guard : operation.Guarded platform before)
    (ran : operation.run platform before = .ok (some output, after))
    (current : output.judgment.category = .current) :
    ∀ left ∈ after.eligibleFresh output.judgment.evaluatedAtMonotonicMs,
      ∀ right ∈ after.eligibleFresh output.judgment.evaluatedAtMonotonicMs,
        left.received.frame.observer ≠ right.received.frame.observer →
        Clashes after.policy.coherenceTolerances left right →
          ∃ (id : ContradictionId) (record : ContradictionRecordV1),
            after.contradictions[id]? = some record ∧
              record.evidenceRefs = sortDedup (referencesOf left right) ∧
              ∃ resolver atMs rule explanation,
                record.status = .resolved resolver atMs rule explanation := by
  intro left hleft right hright hne hclash
  have hcoherent := reached.coherent.step guard ran
  have htime : output.judgment.evaluatedAtMonotonicMs = after.horizon := by
    rw [run_horizon_eq ran, (evaluates_run ran).judgment]
    rfl
  rw [htime] at hleft hright
  obtain ⟨id, record, hfound, hrefs, hactive | hresolved⟩ :=
    hcoherent.accounted left hleft right hright hne hclash
  · rw [evaluate_uncontradicted ran current id record hfound] at hactive
    cases hactive
  · exact ⟨id, record, hfound, hrefs, hresolved⟩

/-! ## A tightened tolerance -/

instance (tolerances : ExtTreeMap Text Float64) (left right : ObserverEvidence) :
    Decidable (Clashes tolerances left right) :=
  inferInstanceAs (Decidable (∃ signal ∈ left.received.frame.signals,
    ∃ other ∈ right.received.frame.signals, _ ∧ _))

namespace Reference

/-- Two pulses of different observers clash in this evaluator at this time. -/
def liveClash (evaluator : Evaluator) (now : Nat) : Bool :=
  (evaluator.eligibleFresh now).any fun left => (evaluator.eligibleFresh now).any fun right =>
    decide (left.received.frame.observer ≠ right.received.frame.observer) &&
      decide (Clashes evaluator.policy.coherenceTolerances left right)

/-- Whether a tick at 20 ms is CURRENT over a live clash, and leaves a state that passes a test. -/
def currentOverClash (test : Evaluator → Bool) (evaluator : Evaluator) : Bool :=
  match (EvaluatorOperation.call .tick 20).run platform evaluator with
  | .ok (some output, after) =>
    decide (output.judgment.category = .current) && test after &&
      liveClash after output.judgment.evaluatedAtMonotonicMs
  | _ => false

theorem exists_of_currentOverClash {test : Evaluator → Bool} {before : Evaluator}
    (h : currentOverClash test before = true) :
    ∃ (after : Evaluator) (output : EvaluationOutput) (left right : ObserverEvidence),
      (EvaluatorOperation.call .tick 20).run platform before = .ok (some output, after) ∧
      output.judgment.category = .current ∧ test after = true ∧
      left ∈ after.eligibleFresh output.judgment.evaluatedAtMonotonicMs ∧
      right ∈ after.eligibleFresh output.judgment.evaluatedAtMonotonicMs ∧
      left.received.frame.observer ≠ right.received.frame.observer ∧
      Clashes after.policy.coherenceTolerances left right := by
  unfold currentOverClash at h
  split at h
  · rename_i output after hrun
    simp only [Bool.and_eq_true, decide_eq_true_eq] at h
    obtain ⟨⟨hcurrent, htest⟩, hclash⟩ := h
    obtain ⟨left, hleft, hclash⟩ := List.any_eq_true.mp hclash
    obtain ⟨right, hright, hclash⟩ := List.any_eq_true.mp hclash
    simp only [Bool.and_eq_true, decide_eq_true_eq] at hclash
    exact ⟨after, output, left, right, hrun, hcurrent, htest, hleft, hright, hclash⟩
  · cases h

/-- A tolerance of 0.1 for load. -/
def tight : ExtTreeMap Text Float64 :=
  (∅ : ExtTreeMap Text Float64).insert "load" ⟨0x3fb999999999999a⟩

/-- Two observers report 0.2 and 0.9 where no tolerance is declared; then a policy of the same
observation profile and generation declares a tolerance of 0.1. -/
def tightening : List EvaluatorOperation :=
  [ arrival "a" 1 ⟨0x3fc999999999999a⟩ 0 .first,
    arrival "b" 1 ⟨0x3feccccccccccccd⟩ 0 .first,
    .call (.replacePolicy (policy "p2" tight) (.generationTransition "p1 to p2")) 10 ]

theorem tightening_isSome : (runsTo (policy "p1" ∅) tightening
    (currentOverClash (·.contradictions.isEmpty))).isSome = true := by
  decide +kernel

end Reference

open Reference in
/-- After its tolerance was tightened, an evaluator is CURRENT over two live pulses that clash,
with no contradiction on record. -/
theorem current_over_clash :
    ∃ (before after : Evaluator) (output : EvaluationOutput) (left right : ObserverEvidence),
      Reached platform before ∧
      (EvaluatorOperation.call .tick 20).run platform before = .ok (some output, after) ∧
      output.judgment.category = .current ∧
      left ∈ after.eligibleFresh output.judgment.evaluatedAtMonotonicMs ∧
      right ∈ after.eligibleFresh output.judgment.evaluatedAtMonotonicMs ∧
      left.received.frame.observer ≠ right.received.frame.observer ∧
      Clashes after.policy.coherenceTolerances left right ∧
      ∀ id : ContradictionId, after.contradictions[id]? = none := by
  obtain ⟨hreached, htest⟩ := runsTo_get tightening_isSome
  obtain ⟨after, output, left, right, hrun, hcurrent, hempty, hleft, hright, hne, hclash⟩ :=
    exists_of_currentOverClash htest
  refine ⟨_, after, output, left, right, hreached, hrun, hcurrent, hleft, hright, hne, hclash,
    fun id => ?_⟩
  rw [ExtTreeMap.isEmpty_iff] at hempty
  simp [hempty]

/-! ## A resolved clash -/

namespace Evaluator

instance (record : ContradictionRecordV1) : Decidable (Stands record) :=
  decidable_of_iff ((match record.status with
    | .active | .resolved .. => true
    | _ => false) = true) (by
      unfold Stands ContradictionRecordV1.isActive
      cases record.status <;> simp)

instance (evaluator : Evaluator) (references : List Text) :
    Decidable (evaluator.OnRecord references) :=
  decidable_of_iff (∃ record ∈ evaluator.contradictions.values,
    record.evidenceRefs = sortDedup references ∧ Stands record) (by
      simp only [mem_values, OnRecord]
      exact ⟨fun ⟨record, ⟨id, hfound⟩, h⟩ => ⟨id, record, hfound, h⟩,
        fun ⟨id, record, hfound, h⟩ => ⟨record, ⟨id, hfound⟩, h⟩⟩)

instance (evaluator : Evaluator) (now : Nat) : Decidable (evaluator.Accounted now) :=
  inferInstanceAs (Decidable (∀ left ∈ evaluator.eligibleFresh now,
    ∀ right ∈ evaluator.eligibleFresh now, _ → _ → _))

instance (platform : Platform) (received : ReceivedPulseV1) (atMs : Nat) (evaluator : Evaluator) :
    Decidable (evaluator.Identified platform received atMs) :=
  inferInstanceAs (Decidable (∀ conflict ∈ evaluator.conflictsOf platform received atMs,
    (∀ record ∈ evaluator.contradictions[evaluator.conflictId platform conflict]?, _) ∧
      ∀ other ∈ evaluator.conflictsOf platform received atMs, _ → _))

end Evaluator

instance (platform : Platform) (operation : EvaluatorOperation) (evaluator : Evaluator) :
    Decidable (operation.Guarded platform evaluator) := by
  unfold EvaluatorOperation.Guarded
  split <;> infer_instance

/-- The evaluator after a list of guarded operations, if each of them was performed. -/
def afterGuarded (platform : Platform) (operations : List EvaluatorOperation)
    (evaluator : Evaluator) : Option Evaluator :=
  operations.foldlM (fun evaluator operation => if operation.Guarded platform evaluator then
    (operation.run platform evaluator).toOption.map Prod.snd else none) evaluator

theorem guardedReached_of_afterGuarded {platform : Platform} {operations : List EvaluatorOperation}
    {first last : Evaluator} (h : afterGuarded platform operations first = some last)
    (reached : GuardedReached platform first) : GuardedReached platform last := by
  refine foldlM_keeps_some _ (fun start operation next hround hstart => ?_) h reached
  obtain ⟨guard, hround⟩ := Option.ite_none_right_eq_some.mp hround
  obtain ⟨⟨output, _⟩, hrun, rfl⟩ := Option.map_eq_some_iff.mp hround
  exact .step hstart guard (toOption_eq_some.mp hrun)

namespace Reference

/-- A new evaluator under the tight policy. -/
def watchful : Evaluator := .initial (policy "p1" tight) "receiver" "r1" "clock" "i1"

/-- Two observers report 0.2 and 0.9 under a tolerance of 0.1; the contradiction is resolved, and
a policy with the same tolerance takes over. -/
def settling : List EvaluatorOperation :=
  let first := pulse "a" 1 ⟨0x3fc999999999999a⟩ 0 .first
  let second := pulse "b" 1 ⟨0x3feccccccccccccd⟩ 0 .first
  [ .call (.ingest first) 0,
    .call (.ingest second) 0,
    .resolve (watchful.contradictionIdOf platform "load"
      [evidenceRef first.frame, evidenceRef second.frame])
      ⟨"operator", "rule", "a was mounted elsewhere"⟩ 5,
    .call (.replacePolicy (policy "p2" tight) (.generationTransition "p1 to p2")) 10 ]

theorem new_watchful :
    Evaluator.new (policy "p1" tight) "receiver" "r1" "clock" "i1" = .ok watchful := by
  have hvalid : (policy "p1" tight).validate = .ok () := by decide +kernel
  simp only [new, check_bind_eq_ok, mapError_eq_ok]
  exact ⟨hvalid, by decide +kernel, by decide +kernel, by decide +kernel, by decide +kernel, rfl⟩

theorem settling_isSome : ((afterGuarded platform settling watchful).filter
    (currentOverClash fun _ => true)).isSome = true := by
  decide +kernel

end Reference

open Reference in
/-- Two live pulses clash in a CURRENT state that guarded operations lead to: the record that names
them was resolved. -/
theorem current_coherent_resolved : ∃ (before after : Evaluator) (output : EvaluationOutput)
      (left right : ObserverEvidence), GuardedReached platform before ∧
      (EvaluatorOperation.call .tick 20).run platform before = .ok (some output, after) ∧
      output.judgment.category = .current ∧
      left ∈ after.eligibleFresh output.judgment.evaluatedAtMonotonicMs ∧
      right ∈ after.eligibleFresh output.judgment.evaluatedAtMonotonicMs ∧
      left.received.frame.observer ≠ right.received.frame.observer ∧
      Clashes after.policy.coherenceTolerances left right ∧
      ∃ (id : ContradictionId) (record : ContradictionRecordV1),
        after.contradictions[id]? = some record ∧
          record.evidenceRefs = sortDedup (referencesOf left right) ∧
          ∃ resolver atMs rule explanation,
            record.status = .resolved resolver atMs rule explanation := by
  obtain ⟨hafter, htest⟩ := Option.filter_eq_some_iff.mp (Option.some_get settling_isSome).symm
  have hreached := guardedReached_of_afterGuarded hafter (.new new_watchful)
  obtain ⟨after, output, left, right, hrun, hcurrent, -, hleft, hright, hne, hclash⟩ :=
    exists_of_currentOverClash htest
  have hguard : (EvaluatorOperation.call .tick 20).Guarded platform
      ((Option.filter _ _).get settling_isSome) := trivial
  exact ⟨_, after, output, left, right, hreached, hrun, hcurrent, hleft, hright, hne, hclash,
    current_coherent hreached hguard hrun hcurrent left hleft right hright hne hclash⟩

end ConstellationMonitor.Evaluation
