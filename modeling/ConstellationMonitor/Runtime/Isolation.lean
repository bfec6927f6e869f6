/-
  Consumers are isolated from each other: work for one leaves the others as they were.

  The handlers that work for one consumer follow the relation `Apart` of that consumer's
  key, on every path through them, refusals and early exits included.
-/
import ConstellationMonitor.Runtime.Reference

namespace ConstellationMonitor.Runtime

open Foundation Foundation.Program ConstellationMonitor.Types Evaluation

/-- A consumer's state (evaluator, context, activations seen and certificate), binding slot
and deadlines are as they were. -/
structure Untouched (key : ConsumerKey) (before after : RuntimeCore) : Prop where
  consumer : after.consumers[key]? = before.consumers[key]?
  slot : after.qualifiedBindings[key]? = before.qualifiedBindings[key]?
  schedules : ∀ schedule : ScheduleKey, schedule.owner = key →
    (schedule ∈ after.schedules ↔ schedule ∈ before.schedules)

namespace Untouched

variable {key : ConsumerKey} {first second third : RuntimeCore}

theorem refl (core : RuntimeCore) : Untouched key core core := ⟨rfl, rfl, fun _ _ => Iff.rfl⟩

theorem trans (left : Untouched key first second) (right : Untouched key second third) :
    Untouched key first third where
  consumer := right.consumer.trans left.consumer
  slot := right.slot.trans left.slot
  schedules schedule h := (right.schedules schedule h).trans (left.schedules schedule h)

end Untouched

/-- At most one consumer was worked for. -/
structure Apart (key : ConsumerKey) (before after : Board) : Prop where
  others : ∀ other, other ≠ key → Untouched other before.toRuntimeCore after.toRuntimeCore
  clock : after.currentMonotonicMs = before.currentMonotonicMs

section Apart

variable {host : Host} {key : ConsumerKey} {before after : Board}

theorem apart_of_aside (aside : Aside key before after) : Apart key before after where
  others other hother :=
    { consumer := by rw [aside.consumers]
      slot := aside.qualifiedBindings other hother
      schedules := fun schedule howner => aside.schedules schedule (howner ▸ hother) }
  clock := aside.currentMonotonicMs

theorem Visited.apart {visit : Visit} (visited : Visited host visit before after) :
    Apart visit.key before after where
  others _ hother :=
    { consumer := visited.others_start hother
      slot := visited.qualifiedBindings_start hother
      schedules := fun _ howner => visited.schedules_start (howner ▸ hother) }
  clock := visited.frame_start.currentMonotonicMs

theorem Loss.apart {visit : Visit} (lost : Loss host visit before after) :
    Apart visit.key before after where
  others other hother := by
    have hlead := (apart_of_aside lost.lead).others other hother
    have hrest := (apart_of_aside lost.rest).others other hother
    have hout : Untouched other lost.before.toRuntimeCore
        (lost.before.takenOut visit).toRuntimeCore := by
      refine ⟨?_, rfl, fun _ _ => Iff.rfl⟩
      simp [Board.takenOut, getElem?_erase_iff, Ne.symm hother]
    exact (hlead.trans hout).trans hrest
  clock := lost.rest.currentMonotonicMs.trans lost.lead.currentMonotonicMs

theorem serves_apart (host : Host) (key : ConsumerKey) :
    Serves host key (Apart key) (Apart key) where
  noted _ _ noted := apart_of_aside (.of_noted noted)
  beside _ _ _ aside := apart_of_aside aside
  visits _ _ _ hkey visited := hkey ▸ visited.apart
  loses _ _ _ hkey lost := hkey ▸ lost.apart
  clock _ _ apart := apart.clock

theorem turn_untouched {other : ConsumerKey} (distinct : other ≠ key)
    (turn : Turn (Apart key) before after) :
    Untouched other before.toRuntimeCore after.toRuntimeCore := by
  cases turn with
  | step stepped => exact stepped.others other distinct
  | queued pending input timely next => exact ⟨rfl, rfl, fun _ _ => Iff.rfl⟩
  | taken pending input found due first => exact ⟨rfl, rfl, fun _ _ => Iff.rfl⟩
  | ticked now later => exact ⟨rfl, rfl, fun _ _ => Iff.rfl⟩
  | advanced now later => exact ⟨rfl, rfl, fun _ _ => Iff.rfl⟩

/-- A program that works for one consumer leaves the others as they were, however it
ends. -/
theorem untouched_of_follows {α : Type} {x : RuntimeM α} {cycle : Cycle} {other : ConsumerKey}
    (distinct : other ≠ key) (follows : Follows (turns (Apart key) (Apart key)) x cycle) :
    Untouched other cycle.toRuntimeCore (final (x cycle)).toRuntimeCore := by
  let keeps : Board → Prop := fun board =>
    Untouched other cycle.toRuntimeCore board.toRuntimeCore
  have hkept : keeps (final (x cycle)).board := by
    refine follows.keeps_final (fun before after turn hbefore => ?_)
      (fun before after lost hbefore => ?_) (Untouched.refl cycle.toRuntimeCore)
    · exact Untouched.trans hbefore (turn_untouched distinct turn)
    · exact Untouched.trans hbefore (lost.others other distinct)
  exact hkept

end Apart

/-- The inputs that are for one consumer. -/
def RuntimeInputV1.IsFor (key : ConsumerKey) : RuntimeInputV1 → Prop
  | .activateConsumer activation => policyKey activation.policy = key
  | .reevaluate subject consumer => ⟨subject, consumer⟩ = key
  | .revalidateTransportActivation subject consumer _ => ⟨subject, consumer⟩ = key
  | _ => False

/-- Processing an input for one consumer works for that consumer only. -/
theorem follows_isFor (host : Host) {key : ConsumerKey} {input : RuntimeInputV1}
    (isFor : input.IsFor key) {cycle : Cycle} (logicalAt ordinal : Nat) {evaluatedAt : Nat}
    (timely : cycle.currentMonotonicMs ≤ evaluatedAt) : Follows (discipline (Apart key) (Apart key))
      (processInput host logicalAt ordinal input evaluatedAt) cycle := by
  cases input with
  | activateConsumer activation =>
    obtain rfl : policyKey activation.policy = key := isFor
    exact follows_activateConsumer (serves_apart host _) logicalAt timely
  | reevaluate subject consumer =>
    obtain rfl : (⟨subject, consumer⟩ : ConsumerKey) = key := isFor
    exact follows_processReevaluation (serves_apart host _) timely
  | revalidateTransportActivation subject consumer expectedPolicy =>
    obtain rfl : (⟨subject, consumer⟩ : ConsumerKey) = key := isFor
    exact follows_processRevalidation (serves_apart host _) expectedPolicy timely
  | replaceSubjectIncarnation subject replacement activations => exact isFor.elim
  | pulse ingress => exact isFor.elim
  | remotePulse verified => exact isFor.elim
  | escalationDisposition disposition => exact isFor.elim
  | diagnosticReceipt receipt => exact isFor.elim
  | receiverBoundaryCondition subject finding digest detail withdraw => exact isFor.elim
  | restoreMonitorCapability subject detail => exact isFor.elim

/-- Processing an activation, a reevaluation or a transport revalidation for one consumer,
and a binding activation or a lifecycle fact for it at a time that has not regressed, leaves
every other consumer as it was. -/
theorem other_consumers_untouched (host : Host) (cycle : Cycle) (key other : ConsumerKey)
    (distinct : other ≠ key) :
    (∀ (input : RuntimeInputV1) (logicalAt ordinal evaluatedAt : Nat), input.IsFor key →
      cycle.currentMonotonicMs ≤ evaluatedAt → Untouched other cycle.toRuntimeCore
        (final (processInput host logicalAt ordinal input evaluatedAt cycle)).toRuntimeCore) ∧
    (∀ (registration : ConsumerRegistrationV1) (package : PackageBytes)
        (acceptance : LocalActivationAcceptanceV1) (atMs : Nat),
      policyKey registration.policy = key → cycle.currentMonotonicMs ≤ atMs →
      Untouched other cycle.toRuntimeCore (final (activateQualifiedBinding host registration
        package acceptance atMs cycle)).toRuntimeCore) ∧
    ∀ (fact : GenerationLifecycleFactV1) (atMs : Nat), cycle.currentMonotonicMs ≤ atMs →
      Untouched other cycle.toRuntimeCore
        (final (applyGenerationLifecycleFact host key fact atMs cycle)).toRuntimeCore := by
  refine ⟨fun input logicalAt ordinal evaluatedAt isFor timely => ?_,
    fun registration package acceptance atMs hkey timely => ?_, fun fact atMs timely => ?_⟩
  · exact untouched_of_follows distinct
      (follows_turns (follows_isFor host isFor logicalAt ordinal timely))
  · subst hkey
    exact untouched_of_follows distinct (follows_activateQualifiedBinding (serves_apart host _)
      (fun hregressed => absurd timely (not_le.mpr hregressed)) package acceptance)
  · exact untouched_of_follows distinct (follows_applyGenerationLifecycleFact
      (serves_apart host key) (fun hregressed => absurd timely (not_le.mpr hregressed)) fact)

open Reference

theorem other_consumers_untouched_reference : ∃ cycle, Reachable host cycle ∧
      cycle.holdsCurrent display = true ∧ cycle.consumers.contains ⟨"subject", "audit"⟩ = true ∧
      Untouched display cycle.toRuntimeCore (final (processInput host 0 1
        (.reevaluate "subject" "audit") cycle.currentMonotonicMs cycle)).toRuntimeCore := by
  obtain ⟨cycle, hreachable, htest⟩ := exists_reachable host config (enlist "audit" ++ opening)
    (fun cycle => cycle.holdsCurrent display && cycle.consumers.contains ⟨"subject", "audit"⟩)
    (by decide +kernel)
  rw [Bool.and_eq_true] at htest
  exact ⟨cycle, hreachable, htest.1, htest.2, (other_consumers_untouched host cycle
    ⟨"subject", "audit"⟩ display (by decide +kernel)).1 (.reevaluate "subject" "audit") 0 1
      cycle.currentMonotonicMs rfl le_rfl⟩

/-- A binding activation for another consumer at a regressed time withdraws a CURRENT
certificate, though the sparse history has room. -/
theorem regressed_activation_touches_others : ∃ cycle, Reachable host cycle ∧
      policyKey (registration "audit" "a:audit").policy ≠ display ∧
      (final (activateQualifiedBinding host (registration "audit" "a:audit")
        ⟨none, none, none⟩ acceptance 10 cycle)).historyExhausted = false ∧
      (final (activateQualifiedBinding host (registration "audit" "a:audit")
        ⟨none, none, none⟩ acceptance 10 cycle)).consumers[display]? ≠
          cycle.consumers[display]? := by
  obtain ⟨cycle, hreachable, htest⟩ := exists_reachable host config
    (opening ++ [.runUntil 50])
    (fun cycle =>
      let last := final (activateQualifiedBinding host
        (registration "audit" "a:audit") ⟨none, none, none⟩ acceptance 10 cycle)
      cycle.holdsCurrent display && !last.holdsCurrent display &&
        !last.historyExhausted) (by decide +kernel)
  simp only [Bool.and_eq_true, Bool.not_eq_true'] at htest
  refine ⟨cycle, hreachable, by decide +kernel, htest.2, fun hsame => ?_⟩
  have hheld := htest.1.1
  have hlost := htest.1.2
  unfold RuntimeCore.holdsCurrent at hheld hlost
  rw [hsame, hheld] at hlost
  cases hlost

end ConstellationMonitor.Runtime
