/-
  Evaluation/Admission.lean --- which pulses become evidence, and in which order.

  A pulse reaches the evidence map only when the evaluator's own classification makes it
  the first of its observer, a later one of the same incarnation, or the first of an
  incarnation that was never retired.  The lineage advances with every such pulse, also
  with one that comes too late to be evidence, so it lies at or ahead of everything
  written.
-/
import ConstellationMonitor.Evaluation.Reference

namespace ConstellationMonitor.Evaluation

open Foundation ConstellationMonitor.Types
open Std (ExtTreeMap ExtTreeSet)

namespace Evaluator

/-! ## One pulse -/

/-- A pulse that moves its observer's lineage: the evaluator classifies it as it is
annotated, and not as a duplicate, a replay or stale. -/
structure Advances (evaluator : Evaluator) (received : ReceivedPulseV1) : Prop where
  classified : evaluator.classifyArrival received.frame received.receiver =
    (received.receiver.disposition, received.receiver.sequenceGap)
  notDuplicate : received.receiver.disposition ≠ .duplicate
  notReplay : received.receiver.disposition ≠ .replay
  notStale : received.receiver.disposition ≠ .stale

/-- The delay the receiver observed. -/
def observedDelay (received : ReceivedPulseV1) : Nat :=
  received.receiver.transportObservedDelayMs.getD 0

/-- A pulse that is written into the evidence map. -/
structure Admits (evaluator : Evaluator) (received : ReceivedPulseV1) : Prop
    extends evaluator.Advances received where
  ordered : evaluator.arrivalRegressed received = false
  timely : observedDelay received < evaluator.effectiveValidity received.frame

instance (evaluator : Evaluator) (received : ReceivedPulseV1) :
    Decidable (evaluator.Advances received) :=
  decidable_of_iff
    (evaluator.classifyArrival received.frame received.receiver =
        (received.receiver.disposition, received.receiver.sequenceGap) ∧
      received.receiver.disposition ≠ .duplicate ∧ received.receiver.disposition ≠ .replay ∧
      received.receiver.disposition ≠ .stale)
    ⟨fun ⟨h, hduplicate, hreplay, hstale⟩ => ⟨h, hduplicate, hreplay, hstale⟩,
      fun h => ⟨h.classified, h.notDuplicate, h.notReplay, h.notStale⟩⟩

instance (evaluator : Evaluator) (received : ReceivedPulseV1) :
    Decidable (evaluator.Admits received) :=
  decidable_of_iff
    (evaluator.Advances received ∧ evaluator.arrivalRegressed received = false ∧
      observedDelay received < evaluator.effectiveValidity received.frame)
    ⟨fun ⟨h, hordered, htimely⟩ => ⟨h, hordered, htimely⟩,
      fun h => ⟨h.toAdvances, h.ordered, h.timely⟩⟩

/-- The evidence a pulse becomes. -/
def evidenceOf (received : ReceivedPulseV1) (evaluator : Evaluator) : ObserverEvidence where
  received := received
  expiresAtMs := satAdd received.receiver.arrivalMonotonicMs
    (evaluator.effectiveValidity received.frame - observedDelay received)
  continuity := continuityOf received.receiver.disposition

/-- Where a pulse that moves its lineage stands to it. -/
inductive Position (evaluator : Evaluator) (frame : PulseFrameV1) : ArrivalDispositionV1 → Prop
  | first (unknown : evaluator.observerLineages[frame.observer]? = none) :
      Position evaluator frame .first
  | newer {disposition : ArrivalDispositionV1} {lineage : Lineage}
      (known : evaluator.observerLineages[frame.observer]? = some lineage)
      (same : lineage.incarnation = frame.observerIncarnation)
      (later : lineage.sequence < frame.sequence) (kept : disposition ≠ .restarted) :
      Position evaluator frame disposition
  | restarted {lineage : Lineage}
      (known : evaluator.observerLineages[frame.observer]? = some lineage)
      (other : lineage.incarnation ≠ frame.observerIncarnation)
      (unretired : (frame.observer, frame.observerIncarnation) ∉
        evaluator.retiredObserverIncarnations) :
      Position evaluator frame .restarted

theorem Advances.position {evaluator : Evaluator} {received : ReceivedPulseV1}
    (h : evaluator.Advances received) :
    received.frame.subjectIncarnation ∉ evaluator.retiredSubjectIncarnations ∧
      evaluator.Position received.frame received.receiver.disposition := by
  obtain ⟨hclassified, hduplicate, hreplay, hstale⟩ := h
  have hdisposition := congrArg Prod.fst hclassified
  generalize received.receiver.disposition = disposition at *
  clear hclassified
  revert hdisposition
  fun_cases classifyArrival evaluator received.frame received.receiver
  case case3 hsubject lineage hknown hsame =>
    fun_cases Lineage.classifySequence lineage received.frame.sequence <;> rintro rfl
    any_goals contradiction
    all_goals exact ⟨by simpa using hsubject, .newer hknown hsame (by omega) (by simp)⟩
  all_goals rintro rfl
  any_goals contradiction
  case case5 hsubject lineage hknown hother hunretired =>
    exact ⟨by simpa using hsubject, .restarted hknown hother (by simpa using hunretired)⟩
  case case6 hsubject hunknown => exact ⟨by simpa using hsubject, .first hunknown⟩

/-! ## What taking in a pulse changes -/

section Pulse

variable (platform : Platform) (received : ReceivedPulseV1) (atMs : Nat) (evaluator : Evaluator)

theorem sameEvidence_createContradiction (signal : Text) (references statements : List Text) :
    SameEvidence evaluator
      (evaluator.createContradiction platform signal references statements atMs) := by
  unfold createContradiction
  dsimp only
  split
  · exact .refl _
  · exact {}

theorem sameEvidence_detectSignalContradictions :
    SameEvidence evaluator (evaluator.detectSignalContradictions platform received atMs) := by
  unfold detectSignalContradictions
  split
  · apply foldl_climbs .refl .trans
    intro state conflict
    exact sameEvidence_createContradiction platform atMs state _ _ _
  · exact .refl _

theorem sameEvidence_recordAdverseSupersession :
    SameEvidence evaluator (evaluator.recordAdverseSupersession received atMs) := by
  unfold recordAdverseSupersession
  split
  · exact .refl _
  · dsimp only
    split
    · exact .refl _
    · exact ((evaluator.records_sparseEvent atMs _).toRetains).toSameEvidence

/-- The subject a pulse is followed to; its own incarnation is current from then on. -/
def subjectFollowed : Evaluator :=
  { evaluator with
    retiredSubjectIncarnations :=
      if received.frame.subjectIncarnation ≠ evaluator.currentSubjectIncarnation then
        evaluator.retiredSubjectIncarnations.insert evaluator.currentSubjectIncarnation
      else evaluator.retiredSubjectIncarnations
    currentSubjectIncarnation := received.frame.subjectIncarnation }

theorem sameEvidence_followSubject : SameEvidence (evaluator.subjectFollowed received)
      (evaluator.followSubject platform received atMs) := by
  unfold followSubject subjectFollowed
  by_cases h : received.frame.subjectIncarnation ≠ evaluator.currentSubjectIncarnation
  · rw [if_pos h, if_pos h]
    exact sameEvidence_createContradiction platform atMs _ _ _ _
  · rw [if_neg h, if_neg h]
    rw [not_not] at h
    constructor <;> first | rfl | exact h.symm

/-- The lineage update of a pulse depends on the lineage alone. -/
theorem sameEvidence_updateLineage {left right : Evaluator} (h : SameEvidence left right)
    (frame : PulseFrameV1) (disposition : ArrivalDispositionV1) :
    SameEvidence (left.updateLineage frame disposition)
      (right.updateLineage frame disposition) := by
  obtain ⟨_, _, _, _, _, _⟩ := h
  constructor <;> simp only [updateLineage, *]

/-- The state a written pulse leads to. -/
def admitted : Evaluator :=
  let next := (evaluator.subjectFollowed received).updateLineage received.frame
    received.receiver.disposition
  { next with
    observers := next.observers.insert received.frame.observer (evaluator.evidenceOf received) }

/-- The written state depends on evidence, lineage, policy and subject alone. -/
theorem sameEvidence_admitted {left right : Evaluator} (h : SameEvidence left right) :
    SameEvidence (left.admitted received) (right.admitted received) := by
  obtain ⟨_, _, _, _, _, _⟩ := h
  constructor <;>
    simp only [admitted, updateLineage, subjectFollowed, evidenceOf, effectiveValidity, *]

theorem sameEvidence_admitEvidence : SameEvidence (evaluator.admitted received)
    (evaluator.admitEvidence platform received atMs) := by
  have hnext := (sameEvidence_updateLineage (evaluator.sameEvidence_followSubject platform
    received atMs) received.frame received.receiver.disposition).trans
      ((sameEvidence_detectSignalContradictions platform received atMs _).trans
        (sameEvidence_recordAdverseSupersession received atMs _))
  exact { hnext with
    observers := by
      exact congrArg (fun observers : ExtTreeMap ObserverId ObserverEvidence =>
        observers.insert received.frame.observer (evaluator.evidenceOf received)) hnext.observers }

/-- What taking in a pulse does: nothing to evidence and lineage, an advance of the lineage
alone, or a new piece of evidence. -/
inductive Ingested (after : Evaluator) : Prop
  | ignored (refused : ¬ evaluator.Admits received)
      (retains : Retains (noteArrival received evaluator) after)
  | passed (refused : ¬ evaluator.Admits received) (advances : evaluator.Advances received)
      (retains : Retains ((noteArrival received evaluator).updateLineage received.frame
        received.receiver.disposition) after)
  | written (state : Evaluator) (admits : evaluator.Admits received)
      (same : Retains (noteArrival received evaluator) state)
      (eq : after = state.admitEvidence platform received atMs)

end Pulse

variable {platform : Platform} {received : ReceivedPulseV1} {atMs : Nat} {evaluator : Evaluator}

theorem ingestFresh_ingested {state : Evaluator}
    (same : Retains (noteArrival received evaluator) state)
    (ordered : evaluator.arrivalRegressed received = false)
    (advances : evaluator.Advances received) :
    Ingested platform received atMs evaluator (state.ingestFresh platform received atMs) := by
  have hvalidity : state.effectiveValidity received.frame =
      evaluator.effectiveValidity received.frame := by
    unfold effectiveValidity
    rw [same.policy]
    rfl
  unfold ingestFresh
  rw [hvalidity]
  split
  · rename_i hlate
    refine .passed (fun h => absurd h.timely (not_lt.mpr hlate)) advances ?_
    have hupdated := sameEvidence_updateLineage same.toSameEvidence received.frame
      received.receiver.disposition
    exact ⟨hupdated.trans {}, same.clockId, same.contradictions,
      same.lastReceiverArrivalMs⟩
  · rename_i htimely
    rw [if_neg]
    · exact .written state ⟨advances, ordered, not_le.mp htimely⟩ same rfl
    · -- a pulse of a retired subject incarnation is classified as a replay
      rintro ⟨-, hretired⟩
      refine advances.position.1 ?_
      rw [same.retiredSubjectIncarnations] at hretired
      simpa [noteArrival] using hretired

theorem ingestState_ingested :
    Ingested platform received atMs evaluator (evaluator.ingestState platform received atMs) := by
  unfold ingestState
  dsimp only
  split
  · rename_i hregressed
    refine .ignored (fun h => by simp [h.ordered] at hregressed) ?_
    rw [noteArrival_of_regressed received evaluator hregressed]
    exact {}
  · rename_i hordered
    have hordered : evaluator.arrivalRegressed received = false := by simpa using hordered
    -- the state with the arrival noted, as `ingest` forms it
    have hnoted : ∀ state : Evaluator, Retains
        ({ evaluator.recordLatency received atMs with
          lastReceiverArrivalMs := some (evaluator.lastReceiverArrivalMs.elim
            received.receiver.arrivalMonotonicMs fun prior =>
              max prior received.receiver.arrivalMonotonicMs) } : Evaluator) state →
        Retains (noteArrival received evaluator) state := by
      intro state h
      refine Retains.trans ?_ h
      exact { lastReceiverArrivalMs := (latestArrival_eq received _).symm }
    unfold ingestClassified
    dsimp only
    split
    · rename_i hmismatch
      refine .ignored (fun h => ?_) (hnoted _ {})
      have hclassified := h.classified
      rcases hmismatch with hmismatch | hmismatch
      · exact hmismatch (congrArg Prod.fst hclassified)
      · exact hmismatch (congrArg Prod.snd hclassified)
    · rename_i hmatch
      simp only [not_or, not_not] at hmatch
      have hclassified : evaluator.classifyArrival received.frame received.receiver =
          (received.receiver.disposition, received.receiver.sequenceGap) :=
        Prod.ext hmatch.1 hmatch.2
      split
      · rename_i hduplicate
        exact .ignored (fun h => h.notDuplicate hduplicate) (hnoted _ {})
      · rename_i hreplay
        exact .ignored (fun h => h.notReplay hreplay) (hnoted _ {})
      · rename_i hstale
        exact .ignored (fun h => h.notStale hstale) (hnoted _ {})
      · rename_i hduplicate hreplay hstale
        refine ingestFresh_ingested (hnoted _ ?_) hordered
          ⟨hclassified, hduplicate, hreplay, hstale⟩
        unfold countGap
        split
        · exact {}
        · exact .refl _

end Evaluator

/-! ## What an operation writes -/

namespace EvaluatorOperation

/-- The evidence an operation writes into the map. -/
def written (operation : EvaluatorOperation) (evaluator : Evaluator) : List ObserverEvidence :=
  match operation with
  | .call (.ingest received) _ =>
    if evaluator.Admits received then [evaluator.evidenceOf received] else []
  | _ => []

/-- Whether an operation leaves policy and configured subject alone. -/
def keepsBinding : EvaluatorOperation → Bool
  | .call (.replacePolicy _ _) _ => false
  | .call (.replaceSubject _) _ => false
  | _ => true

end EvaluatorOperation

open Evaluator

variable {operation : EvaluatorOperation} {after before evaluator start : Evaluator}
  {output : Option EvaluationOutput} {writes : List ObserverEvidence}
  {operations : List EvaluatorOperation}

/-- An operation other than a pulse and a replacement touches no evidence and no lineage. -/
theorem sameEvidence_prepare {platform : Platform} (evaluator : Evaluator)
    (kept : operation.keepsBinding = true)
    (other : ∀ received atMs, operation ≠ .call (.ingest received) atMs) :
    SameEvidence evaluator (operation.prepare platform evaluator) := by
  cases operation using EvaluatorOperation.plainCases with
  | plain operation h => exact (idles_prepare platform evaluator h).1.toSameEvidence
  | ingest received atMs => exact absurd rfl (other received atMs)
  | replacePolicy policy barrier atMs => cases kept
  | replaceSubject replacement atMs => cases kept
  | resolve contradictionId resolution atMs =>
    simp only [EvaluatorOperation.prepare]
    split
    · exact .refl _
    · exact {}
  | reinstate record => exact {}

/-- What an operation that keeps policy and subject does to lineage and evidence. -/
inductive Moves (before after : Evaluator) : List ObserverEvidence → Prop
  | still (same : SameEvidence before after) : Moves before after []
  | passed {received : ReceivedPulseV1} (advances : before.Advances received)
      (same : SameEvidence (before.updateLineage received.frame received.receiver.disposition)
        after) : Moves before after []
  | written {received : ReceivedPulseV1} (admits : before.Admits received)
      (same : SameEvidence (before.admitted received) after) :
      Moves before after [before.evidenceOf received]

theorem run_moves {platform : Platform} (ran : operation.run platform before = .ok (output, after))
    (kept : operation.keepsBinding = true) : Moves before after (operation.written before) := by
  have hretains := (retains_run ran).toSameEvidence
  by_cases hpulse : ∃ received atMs, operation = .call (.ingest received) atMs
  · obtain ⟨received, atMs, rfl⟩ := hpulse
    have hnoted : SameEvidence before (noteArrival received before) := {}
    have hingested : Ingested platform received atMs before
        (before.ingestState platform received atMs) := ingestState_ingested
    simp only [EvaluatorOperation.written]
    cases hingested with
    | ignored refused same =>
      rw [if_neg refused]
      exact .still (hnoted.trans (same.toSameEvidence.trans hretains))
    | passed refused advances same =>
      rw [if_neg refused]
      exact .passed advances ((sameEvidence_updateLineage hnoted _ _).trans
        (same.toSameEvidence.trans hretains))
    | written state admits same eq =>
      rw [if_pos admits]
      refine .written admits ?_
      have hstate := sameEvidence_admitted received
        (hnoted.trans same.toSameEvidence)
      have hnext := sameEvidence_admitEvidence platform received atMs state
      rw [← eq] at hnext
      exact hstate.trans (hnext.trans hretains)
  · push Not at hpulse
    have hnone : operation.written before = [] := by
      unfold EvaluatorOperation.written
      split
      · exact absurd rfl (hpulse _ _)
      · rfl
    rw [hnone]
    exact .still ((sameEvidence_prepare before kept hpulse).trans hretains)

/-! ## The order of an observer's evidence -/

/-- Frames in consecutive blocks of one observer incarnation each: sequence numbers increase
inside a block, and no incarnation has two blocks. -/
def InBlocks (frames : List PulseFrameV1) : Prop :=
  ∃ blocks : List (IncarnationId × List PulseFrameV1),
    frames = blocks.flatMap Prod.snd ∧ (blocks.map Prod.fst).Nodup ∧
      ∀ block ∈ blocks, block.2 ≠ [] ∧
        (∀ frame ∈ block.2, frame.observerIncarnation = block.1) ∧
        block.2.Pairwise fun earlier later => earlier.sequence < later.sequence

theorem inBlocks_nil : InBlocks [] := ⟨[], by simp⟩

/-- A block of a new incarnation goes to the end. -/
theorem InBlocks.append {earlier block : List PulseFrameV1} (h : InBlocks earlier)
    {incarnation : IncarnationId} (new : ∀ frame ∈ earlier, frame.observerIncarnation ≠ incarnation)
    (same : ∀ frame ∈ block, frame.observerIncarnation = incarnation)
    (increasing : block.Pairwise fun first second => first.sequence < second.sequence) :
    InBlocks (earlier ++ block) := by
  cases block with
  | nil => simpa using h
  | cons head rest =>
    obtain ⟨blocks, rfl, hnodup, hblocks⟩ := h
    refine ⟨blocks ++ [(incarnation, head :: rest)], by simp, ?_, ?_⟩
    · rw [List.map_append, List.nodup_append]
      refine ⟨hnodup, by simp, ?_⟩
      rintro _ hother other hlast rfl
      obtain ⟨block, hblock, rfl⟩ := List.mem_map.mp hother
      obtain ⟨hnonempty, hincarnation, -⟩ := hblocks block hblock
      obtain ⟨frame, hframe⟩ := List.exists_mem_of_ne_nil _ hnonempty
      have hlast : block.1 = incarnation := by simpa using hlast
      exact new frame (List.mem_flatMap.mpr ⟨block, hblock, hframe⟩)
        ((hincarnation frame hframe).trans hlast)
    · exact List.forall_mem_append.mpr
        ⟨hblocks, List.forall_mem_singleton.mpr ⟨by simp, same, increasing⟩⟩

/-- The lineage of an observer is never one of its retired incarnations, and an observer
without a lineage has none. -/
def LineageLive (evaluator : Evaluator) (observer : ObserverId) : Prop :=
  ∀ incarnation, (observer, incarnation) ∈ evaluator.retiredObserverIncarnations →
    ∃ lineage, evaluator.observerLineages[observer]? = some lineage ∧
      lineage.incarnation ≠ incarnation

/-- Frames of an observer that its lineage has left behind: those of retired incarnations,
in blocks, and then those of the lineage's incarnation up to its sequence number. -/
def Behind (evaluator : Evaluator) (observer : ObserverId) (frames : List PulseFrameV1) : Prop :=
  ∃ past present : List PulseFrameV1, frames = past ++ present ∧ InBlocks past ∧
    (∀ frame ∈ past,
      (observer, frame.observerIncarnation) ∈ evaluator.retiredObserverIncarnations) ∧
    (∀ frame ∈ present, ∃ lineage, evaluator.observerLineages[observer]? = some lineage ∧
      frame.observerIncarnation = lineage.incarnation ∧ frame.sequence ≤ lineage.sequence) ∧
    present.Pairwise fun earlier later => earlier.sequence < later.sequence

theorem behind_nil (evaluator : Evaluator) (observer : ObserverId) :
    Behind evaluator observer [] := ⟨[], [], by simp [inBlocks_nil]⟩

theorem Behind.inBlocks {observer : ObserverId} {frames : List PulseFrameV1}
    (h : Behind evaluator observer frames) (live : LineageLive evaluator observer) :
    InBlocks frames := by
  obtain ⟨past, present, rfl, hpast, hretired, hpresent, hincreasing⟩ := h
  cases present with
  | nil => simpa using hpast
  | cons head rest =>
    obtain ⟨lineage, hlineage, -, -⟩ := hpresent head (by simp)
    have hsame : ∀ frame ∈ head :: rest, frame.observerIncarnation = lineage.incarnation := by
      intro frame hframe
      obtain ⟨other, hother, hincarnation, -⟩ := hpresent frame hframe
      rw [hlineage, Option.some.injEq] at hother
      rw [hincarnation, hother]
    refine hpast.append (fun frame hframe heq => ?_) hsame hincreasing
    obtain ⟨other, hother, hne⟩ := live _ (hretired frame hframe)
    rw [hlineage, Option.some.injEq] at hother
    exact hne (hother ▸ heq.symm)

section Lineage

variable {before after : Evaluator} {observer : ObserverId}

/-- The lineages and what was retired from them are the same. -/
@[mk_iff] structure SameLineage (before after : Evaluator) : Prop where
  lineages : after.observerLineages = before.observerLineages
  retired : after.retiredObserverIncarnations = before.retiredObserverIncarnations

theorem LineageLive.of_same (h : LineageLive before observer) (same : SameLineage before after) :
    LineageLive after observer := by
  rwa [LineageLive, same.lineages, same.retired]

variable {frames : List PulseFrameV1}

theorem Behind.of_same (h : Behind before observer frames) (same : SameLineage before after) :
    Behind after observer frames := by
  rwa [Behind, same.lineages, same.retired]

theorem Evaluator.SameEvidence.sameLineage (same : SameEvidence before after) :
    SameLineage before after :=
  ⟨same.observerLineages, same.retiredObserverIncarnations⟩

variable {received : ReceivedPulseV1}

variable (before observer) in
theorem updateLineage_lineages (frame : PulseFrameV1) (disposition : ArrivalDispositionV1) :
    (before.updateLineage frame disposition).observerLineages[observer]? =
      if frame.observer = observer then some ⟨frame.observerIncarnation, frame.sequence⟩
      else before.observerLineages[observer]? :=
  getElem?_insert_iff _ _ _ _

variable (observer) in
/-- An advancing pulse retires the lineage it leaves and nothing else. -/
theorem Evaluator.Advances.mem_retired (advances : before.Advances received)
    (incarnation : IncarnationId) : (observer, incarnation) ∈ (before.updateLineage received.frame
        received.receiver.disposition).retiredObserverIncarnations ↔
      (observer, incarnation) ∈ before.retiredObserverIncarnations ∨
        (received.frame.observer = observer ∧ received.receiver.disposition = .restarted ∧
          ∃ lineage, before.observerLineages[observer]? = some lineage ∧
            lineage.incarnation = incarnation) := by
  have hposition := advances.position.2
  unfold updateLineage
  generalize received.receiver.disposition = disposition at hposition
  cases hposition with
  | first hunknown => simp
  | newer hknown hsame hlater hkept =>
    simp [hkept]
  | restarted hknown hother hunretired =>
    simp only [hknown]
    rw [ExtTreeSet.mem_insert]
    simp only [Std.LawfulEqCmp.compare_eq_iff_eq, Prod.mk.injEq]
    constructor
    · rintro (⟨rfl, rfl⟩ | h)
      · exact .inr ⟨rfl, trivial, _, hknown, rfl⟩
      · exact .inl h
    · rintro (h | ⟨rfl, -, lineage, hlineage, rfl⟩)
      · exact .inr h
      · rw [hknown, Option.some.injEq] at hlineage
        exact .inl ⟨rfl, by rw [hlineage]⟩

/-- An advancing pulse leaves its observer with a lineage that is not retired. -/
theorem LineageLive.advance (h : LineageLive before observer)
    (advances : before.Advances received) :
    LineageLive (before.updateLineage received.frame received.receiver.disposition) observer := by
  intro incarnation hretired
  rw [updateLineage_lineages]
  rw [advances.mem_retired] at hretired
  by_cases hobserver : received.frame.observer = observer
  · rw [if_pos hobserver]
    refine ⟨_, rfl, ?_⟩
    subst hobserver
    rintro rfl
    have hposition := advances.position.2
    generalize received.receiver.disposition = disposition at hposition hretired
    rcases hretired with hretired | ⟨-, hrestarted, lineage, hlineage, hsame⟩
    · obtain ⟨lineage, hlineage, hne⟩ := h _ hretired
      cases hposition with
      | first hunknown => simp [hunknown] at hlineage
      | newer hknown hsame _ _ =>
        rw [hknown, Option.some.injEq] at hlineage
        exact hne (hlineage ▸ hsame)
      | restarted _ _ hunretired => exact hunretired hretired
    · cases hposition with
      | first hunknown => simp [hunknown] at hlineage
      | newer _ _ _ hkept => exact hkept hrestarted
      | restarted hknown hother _ =>
        rw [hknown, Option.some.injEq] at hlineage
        exact hother (hlineage ▸ hsame)
  · rw [if_neg hobserver]
    rcases hretired with hretired | ⟨heq, -⟩
    · exact h _ hretired
    · exact absurd heq hobserver

/-- What was behind a lineage stays behind it, and the pulse that advanced it may follow. -/
theorem Behind.advance (h : Behind before observer frames) (live : LineageLive before observer)
    (advances : before.Advances received) (mine : received.frame.observer = observer) :
    Behind (before.updateLineage received.frame received.receiver.disposition) observer frames ∧
      Behind (before.updateLineage received.frame received.receiver.disposition) observer
        (frames ++ [received.frame]) := by
  subst mine
  have hblocks := h.inBlocks live
  have hposition := advances.position.2
  have hretired := advances.mem_retired received.frame.observer
  have hlineage := updateLineage_lineages before received.frame.observer received.frame
    received.receiver.disposition
  rw [if_pos rfl] at hlineage
  obtain ⟨past, present, rfl, hpast, hpastRetired, hpresent, hincreasing⟩ := h
  generalize received.receiver.disposition = disposition at hposition hretired hlineage
  cases hposition with
  | first hunknown =>
    -- without a lineage nothing is behind it
    obtain rfl : past = [] := List.eq_nil_iff_forall_not_mem.mpr fun frame hframe => by
      simpa [hunknown] using live _ (hpastRetired frame hframe)
    obtain rfl : present = [] := List.eq_nil_iff_forall_not_mem.mpr fun frame hframe => by
      simpa [hunknown] using hpresent frame hframe
    exact ⟨behind_nil _ _, [], [received.frame], by simp [inBlocks_nil, hlineage]⟩
  | newer hknown hsame hlater hkept =>
    rename_i lineage
    have hold : ∀ frame ∈ past, (received.frame.observer, frame.observerIncarnation) ∈
        (before.updateLineage received.frame disposition).retiredObserverIncarnations :=
      fun frame hframe => (hretired _).mpr (.inl (hpastRetired frame hframe))
    have hbehind : ∀ frame ∈ present,
        frame.observerIncarnation = received.frame.observerIncarnation ∧
          frame.sequence < received.frame.sequence := by
      intro frame hframe
      obtain ⟨other, hother, hincarnation, hsequence⟩ := hpresent frame hframe
      rw [hknown, Option.some.injEq] at hother
      subst hother
      exact ⟨hincarnation.trans hsame, hsequence.trans_lt hlater⟩
    have hkept : ∀ frame ∈ present, ∃ lineage : Lineage, _ = some lineage ∧
        frame.observerIncarnation = lineage.incarnation ∧ frame.sequence ≤ lineage.sequence :=
      fun frame hframe => ⟨_, hlineage, (hbehind frame hframe).1, (hbehind frame hframe).2.le⟩
    refine ⟨⟨past, present, rfl, hpast, hold, hkept, hincreasing⟩, past,
      present ++ [received.frame], by simp, hpast, hold,
      List.forall_mem_append.mpr ⟨hkept, by simp [hlineage]⟩, ?_⟩
    refine List.pairwise_append.mpr ⟨hincreasing, by simp, fun frame hframe other hother => ?_⟩
    obtain rfl : other = received.frame := by simpa using hother
    exact (hbehind frame hframe).2
  | restarted hknown hother hunretired =>
    -- the incarnation just left is retired, and everything before with it
    have hold : ∀ frame ∈ past ++ present, (received.frame.observer, frame.observerIncarnation) ∈
        (before.updateLineage received.frame .restarted).retiredObserverIncarnations := by
      intro frame hframe
      rcases List.mem_append.mp hframe with hframe | hframe
      · exact (hretired _).mpr (.inl (hpastRetired frame hframe))
      · obtain ⟨lineage, hfound, hincarnation, -⟩ := hpresent frame hframe
        exact (hretired _).mpr (.inr ⟨rfl, rfl, lineage, hfound, hincarnation.symm⟩)
    exact ⟨⟨past ++ present, [], by simp, hblocks, hold, by simp, by simp⟩,
      past ++ present, [received.frame], rfl, hblocks, hold, by simp [hlineage], by simp⟩

/-- A pulse of another observer does not concern this one. -/
theorem Behind.other (h : Behind before observer frames) (advances : before.Advances received)
    (other : received.frame.observer ≠ observer) :
    Behind (before.updateLineage received.frame received.receiver.disposition) observer frames := by
  obtain ⟨past, present, rfl, hpast, hpastRetired, hpresent, hincreasing⟩ := h
  refine ⟨past, present, rfl, hpast, fun frame hframe => ?_, fun frame hframe => ?_, hincreasing⟩
  · exact (advances.mem_retired observer _).mpr (.inl (hpastRetired frame hframe))
  · rw [updateLineage_lineages, if_neg other]
    exact hpresent frame hframe

/-- The frames an operation writes for an observer. -/
def framesOf (observer : ObserverId) (writes : List ObserverEvidence) : List PulseFrameV1 :=
  (writes.filter fun evidence => decide (evidence.received.frame.observer = observer)).map
    fun evidence => evidence.received.frame

/-- One operation: the lineage stays live, and what it has written is behind it. -/
theorem Moves.behind {writes : List ObserverEvidence} (moves : Moves before after writes)
    (live : LineageLive before observer) : LineageLive after observer ∧
      ∀ frames, Behind before observer frames →
        Behind after observer (frames ++ framesOf observer writes) := by
  cases moves with
  | still same =>
    refine ⟨live.of_same same.sameLineage, fun frames h => ?_⟩
    simpa [framesOf] using h.of_same same.sameLineage
  | passed advances same =>
    refine ⟨(live.advance advances).of_same same.sameLineage, fun frames h => ?_⟩
    rename_i received
    simp only [framesOf, List.filter_nil, List.map_nil, List.append_nil]
    by_cases hmine : received.frame.observer = observer
    · exact (h.advance live advances hmine).1.of_same same.sameLineage
    · exact (h.other advances hmine).of_same same.sameLineage
  | written admits same =>
    rename_i received
    -- evidence and subject are no part of the lineage
    have hsame : SameLineage (before.updateLineage received.frame
        received.receiver.disposition) after := ⟨same.observerLineages, same.sameLineage.retired⟩
    refine ⟨(live.advance admits.toAdvances).of_same hsame, fun frames h => ?_⟩
    by_cases hmine : received.frame.observer = observer
    · have hframes : framesOf observer [before.evidenceOf received] = [received.frame] := by
        simp [framesOf, evidenceOf, hmine]
      rw [hframes]
      exact (h.advance live admits.toAdvances hmine).2.of_same hsame
    · have hframes : framesOf observer [before.evidenceOf received] = [] := by
        simp [framesOf, evidenceOf, hmine]
      rw [hframes, List.append_nil]
      exact (h.other admits.toAdvances hmine).of_same hsame

end Lineage

/-! ## Reachable evaluators -/

/-- What holds of the evidence of every reachable evaluator: it is filed under its observer,
behind that observer's lineage, and expires within the clock. -/
structure Filed (evaluator : Evaluator) : Prop where
  live : ∀ observer, LineageLive evaluator observer
  named : ∀ (observer : ObserverId) (evidence : ObserverEvidence),
    evaluator.observers[observer]? = some evidence → evidence.received.frame.observer = observer
  behind : ∀ (observer : ObserverId) (evidence : ObserverEvidence),
    evaluator.observers[observer]? = some evidence →
      Behind evaluator observer [evidence.received.frame]
  timed : ∀ (observer : ObserverId) (evidence : ObserverEvidence),
    evaluator.observers[observer]? = some evidence → evidence.expiresAtMs ≤ u64Max

/-- An evaluator without evidence and lineage. -/
theorem filed_of_empty (observers : evaluator.observers = ∅)
    (retired : evaluator.retiredObserverIncarnations = ∅) : Filed evaluator where
  live observer incarnation h := by simp [retired] at h
  named observer evidence h := by simp [observers] at h
  behind observer evidence h := by simp [observers] at h
  timed observer evidence h := by simp [observers] at h

theorem Filed.of_kept (h : Filed before) (observers : after.observers = before.observers)
    (same : SameLineage before after) : Filed after where
  live observer := (h.live observer).of_same same
  named observer evidence hfound := h.named observer evidence (observers ▸ hfound)
  behind observer evidence hfound :=
    (h.behind observer evidence (observers ▸ hfound)).of_same same
  timed observer evidence hfound := h.timed observer evidence (observers ▸ hfound)

theorem Filed.of_same (h : Filed before) (same : SameEvidence before after) : Filed after :=
  h.of_kept same.observers same.sameLineage

/-- What the evidence map holds after an operation. -/
theorem Moves.observers (moves : Moves before after writes) (observer : ObserverId) :
    after.observers[observer]? = ((writes.filter fun evidence =>
        decide (evidence.received.frame.observer = observer)).getLast?).or
          before.observers[observer]? := by
  cases moves with
  | still same => simp [same.observers]
  | passed advances same =>
    have hobservers : after.observers = before.observers := same.observers
    simp [hobservers]
  | written admits same =>
    rename_i received
    rw [same.observers]
    show (before.observers.insert received.frame.observer _)[observer]? = _
    rw [getElem?_insert_iff]
    by_cases hmine : received.frame.observer = observer
    · simp [hmine, evidenceOf]
    · simp [hmine, evidenceOf]

theorem Moves.filed (moves : Moves before after writes) (h : Filed before) : Filed after := by
  -- a found piece of evidence was there before, or is the one just written
  have hfound : ∀ (observer : ObserverId) (evidence : ObserverEvidence),
      after.observers[observer]? = some evidence →
        (writes = [evidence] ∧ evidence.received.frame.observer = observer ∧
          evidence.expiresAtMs ≤ u64Max) ∨
        (before.observers[observer]? = some evidence ∧ framesOf observer writes = []) := by
    intro observer evidence hafter
    rw [moves.observers] at hafter
    cases moves with
    | still same => exact .inr ⟨by simpa using hafter, rfl⟩
    | passed advances same => exact .inr ⟨by simpa using hafter, rfl⟩
    | written admits same =>
      rename_i received
      by_cases hmine : received.frame.observer = observer
      · obtain rfl : before.evidenceOf received = evidence := by
          simpa [hmine, evidenceOf] using hafter
        exact .inl ⟨rfl, hmine, satAdd_le _ _⟩
      · exact .inr ⟨by simpa [hmine, evidenceOf] using hafter,
          by simp [framesOf, hmine, evidenceOf]⟩
  exact
    { live := fun observer => (moves.behind (h.live observer)).1
      named := fun observer evidence hafter => by
        rcases hfound observer evidence hafter with ⟨-, hnamed, -⟩ | ⟨hbefore, -⟩
        · exact hnamed
        · exact h.named observer evidence hbefore
      behind := fun observer evidence hafter => by
        have hmoved := (moves.behind (h.live observer)).2
        rcases hfound observer evidence hafter with ⟨rfl, hnamed, -⟩ | ⟨hbefore, hnone⟩
        · simpa [framesOf, hnamed] using hmoved [] (behind_nil _ _)
        · simpa [hnone] using hmoved _ (h.behind observer evidence hbefore)
      timed := fun observer evidence hafter => by
        rcases hfound observer evidence hafter with ⟨-, -, htimed⟩ | ⟨hbefore, -⟩
        · exact htimed
        · exact h.timed observer evidence hbefore }

/-- A replaced policy or subject leaves the evidence and the lineages, or clears both. -/
theorem run_replaces {platform : Platform}
    (ran : operation.run platform before = .ok (output, after))
    (replaces : operation.keepsBinding = false) :
    (after.observers = ∅ ∧ after.retiredObserverIncarnations = ∅) ∨
      (after.observers = before.observers ∧ SameLineage before after) := by
  have hretains := retains_run ran
  rw [sameLineage_iff, hretains.observers, hretains.observerLineages,
    hretains.retiredObserverIncarnations]
  cases operation with
  | call invoked atMs =>
    cases invoked with
    | replacePolicy policy barrier =>
      show (((before.adoptPolicy policy).raiseBarrier barrier).observers = ∅ ∧ _) ∨ _
      simp only [EvaluatorOperation.prepare, prepare]
      unfold adoptPolicy
      split
      · exact .inl ⟨rfl, rfl⟩
      · exact .inr ⟨rfl, rfl, rfl⟩
    | replaceSubject replacement => exact .inl ⟨rfl, rfl⟩
    | _ => cases replaces
  | _ => cases replaces

theorem Filed.step {platform : Platform} {operation : EvaluatorOperation}
    {before after : Evaluator} {output : Option EvaluationOutput} (h : Filed before)
    (ran : operation.run platform before = .ok (output, after)) : Filed after := by
  cases hkept : operation.keepsBinding with
  | true => exact (run_moves ran hkept).filed h
  | false =>
    rcases run_replaces ran hkept with ⟨hobservers, hretired⟩ | ⟨hobservers, hsame⟩
    · exact filed_of_empty hobservers hretired
    · exact h.of_kept hobservers hsame

theorem Reached.filed {platform : Platform} (reached : Reached platform evaluator) :
    Filed evaluator := by
  induction reached with
  | new made =>
    rw [new_eq_ok made]
    exact filed_of_empty rfl rfl
  | step _ ran ih => exact ih.step ran

/-! ## Runs between two replacements -/

/-- A run without a replacement of policy or subject, and the evidence it wrote. -/
inductive Segment (platform : Platform) (start : Evaluator) :
    List ObserverEvidence → Evaluator → Prop
  | nil : Segment platform start [] start
  | step {writes : List ObserverEvidence} {operation : EvaluatorOperation}
      {before after : Evaluator} {output : Option EvaluationOutput}
      (segment : Segment platform start writes before) (kept : operation.keepsBinding = true)
      (ran : operation.run platform before = .ok (output, after)) :
      Segment platform start (writes ++ operation.written before) after

theorem framesOf_append (observer : ObserverId) (left right : List ObserverEvidence) :
    framesOf observer (left ++ right) = framesOf observer left ++ framesOf observer right := by
  simp [framesOf]

section Segments

variable {platform : Platform} {start last : Evaluator} {writes : List ObserverEvidence}

theorem Moves.policy {before after : Evaluator} (moves : Moves before after writes) :
    after.policy = before.policy := by
  cases moves with
  | still same => exact same.policy
  | passed _ same => exact same.policy
  | written _ same => exact same.policy

theorem Segment.policy (segment : Segment platform start writes last) :
    last.policy = start.policy := by
  induction segment with
  | nil => rfl
  | step _ kept ran ih => exact (run_moves ran kept).policy.trans ih

theorem Segment.behind (segment : Segment platform start writes last) {observer : ObserverId}
    (live : LineageLive start observer) : LineageLive last observer ∧
      ∀ frames, Behind start observer frames →
        Behind last observer (frames ++ framesOf observer writes) := by
  induction segment with
  | nil => exact ⟨live, fun frames h => by simpa [framesOf] using h⟩
  | step _ kept ran ih =>
    obtain ⟨hlive, hbehind⟩ := ih
    obtain ⟨hnext, hmoved⟩ := (run_moves ran kept).behind hlive
    refine ⟨hnext, fun frames h => ?_⟩
    rw [framesOf_append, ← List.append_assoc]
    exact hmoved _ (hbehind frames h)

theorem Segment.observers (segment : Segment platform start writes last) (observer : ObserverId) :
    last.observers[observer]? = ((writes.filter fun evidence =>
        decide (evidence.received.frame.observer = observer)).getLast?).or
          start.observers[observer]? := by
  induction segment with
  | nil => simp
  | step _ kept ran ih =>
    rw [(run_moves ran kept).observers, ih, List.filter_append, List.getLast?_append]
    simp [Option.or_assoc]

/-- Every piece of evidence written expires its own arrival plus the validity granted minus
the delay observed. -/
theorem Segment.expiry (segment : Segment platform start writes last) :
    ∀ evidence ∈ writes, evidence.expiresAtMs = satAdd evidence.received.receiver.arrivalMonotonicMs
        (min evidence.received.frame.validityMs start.policy.maximumValidityMs -
          evidence.received.receiver.transportObservedDelayMs.getD 0) := by
  induction segment with
  | nil => simp
  | step earlier kept ran ih =>
    intro evidence hevidence
    rcases List.mem_append.mp hevidence with hevidence | hevidence
    · exact ih evidence hevidence
    · have hmoves := run_moves ran kept
      generalize EvaluatorOperation.written _ _ = written at hmoves hevidence
      cases hmoves with
      | still => simp at hevidence
      | passed => simp at hevidence
      | written =>
        obtain rfl := List.mem_singleton.mp hevidence
        rw [← earlier.policy]
        rfl

end Segments

/-- Evidence admission never repeats or regresses.  Between two replacements, the frames
written for an observer, also counted from the one that stood at the start, are in blocks of
one incarnation each with increasing sequence numbers; each expires with its own arrival;
and the map holds the last one written. -/
theorem admission_in_blocks {platform : Platform} {start last : Evaluator}
    {writes : List ObserverEvidence} (reached : Reached platform start)
    (segment : Segment platform start writes last) (observer : ObserverId) :
    InBlocks (framesOf observer writes) ∧ (∀ standing, start.observers[observer]? = some standing →
        InBlocks (standing.received.frame :: framesOf observer writes)) ∧
      (∀ evidence ∈ writes, evidence.expiresAtMs =
        satAdd evidence.received.receiver.arrivalMonotonicMs
          (min evidence.received.frame.validityMs start.policy.maximumValidityMs -
            evidence.received.receiver.transportObservedDelayMs.getD 0)) ∧
      last.observers[observer]? = ((writes.filter fun evidence =>
          decide (evidence.received.frame.observer = observer)).getLast?).or
            start.observers[observer]? := by
  obtain ⟨hlive, hbehind⟩ := segment.behind (reached.filed.live observer)
  refine ⟨?_, fun standing hstanding => ?_, segment.expiry, segment.observers observer⟩
  · simpa using (hbehind [] (behind_nil _ _)).inBlocks hlive
  · simpa using (hbehind _ (reached.filed.behind observer standing hstanding)).inBlocks hlive

/-- A run given as a list of operations, none of them a replacement. -/
def segmentOf (platform : Platform) :
    List EvaluatorOperation → Evaluator → Option (List ObserverEvidence × Evaluator)
  | [], evaluator => some ([], evaluator)
  | operation :: rest, evaluator =>
    match operation.run platform evaluator with
    | .ok (_, next) =>
      if operation.keepsBinding then
        (segmentOf platform rest next).map fun (writes, last) =>
          (operation.written evaluator ++ writes, last)
      else none
    | .error _ => none

theorem Segment.append {platform : Platform} {middle last : Evaluator}
    {earlier later : List ObserverEvidence} (first : Segment platform start earlier middle)
    (second : Segment platform middle later last) :
    Segment platform start (earlier ++ later) last := by
  induction second with
  | nil => simpa using first
  | step _ kept ran ih =>
    rw [← List.append_assoc]
    exact .step ih kept ran

theorem segment_of_segmentOf {platform : Platform} {last : Evaluator}
    (h : segmentOf platform operations start = some (writes, last)) :
    Segment platform start writes last := by
  induction operations generalizing start writes with
  | nil =>
    obtain ⟨rfl, rfl⟩ : [] = writes ∧ start = last := by simpa [segmentOf] using h
    exact .nil
  | cons operation rest ih =>
    unfold segmentOf at h
    split at h
    · rename_i output next hrun
      split at h
      · rename_i hkept
        obtain ⟨⟨later, end'⟩, hrest, heq⟩ := Option.map_eq_some_iff.mp h
        obtain ⟨rfl, rfl⟩ : operation.written start ++ later = writes ∧ end' = last := by
          simpa using heq
        exact (Segment.step .nil hkept hrun).append (ih hrest)
      · cases h
    · cases h

theorem segmentOf_get {platform : Platform}
    (h : (segmentOf platform operations start).isSome = true) :
    Segment platform start ((segmentOf platform operations start).get h).1
      ((segmentOf platform operations start).get h).2 :=
  segment_of_segmentOf (Option.some_get h).symm

namespace Reference

/-- A pulse, its redelivery, and the next pulse of the observer. -/
def redelivery : List EvaluatorOperation :=
  [ arrival "a" 1 ⟨0x3fc999999999999a⟩ 0 .first,
    arrival "a" 1 ⟨0x3fc999999999999a⟩ 20 .duplicate,
    arrival "a" 2 ⟨0x3fc999999999999a⟩ 30 .continuous ]

theorem redelivery_isSome : (segmentOf platform redelivery fresh).isSome = true := by
  decide +kernel

end Reference

open Reference in
theorem admission_in_blocks_redelivery :
    (((segmentOf platform redelivery fresh).get redelivery_isSome).1.map
      ObserverEvidence.expiresAtMs = [100, 130]) ∧
    InBlocks (framesOf "a" ((segmentOf platform redelivery fresh).get redelivery_isSome).1) := by
  refine ⟨by decide +kernel, ?_⟩
  exact (admission_in_blocks (.new new_fresh) (segmentOf_get redelivery_isSome) "a").1

end ConstellationMonitor.Evaluation
