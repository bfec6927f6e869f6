/-
  Every positive rests on a qualified binding.

  Slots change while their consumer's state is out, so the change and the certificate
  issued after it belong to one visit: a CURRENT certificate names the binding its slot
  holds after the visit.
-/
import ConstellationMonitor.Runtime.Deadlines
import ConstellationMonitor.Runtime.PerConsumer

namespace ConstellationMonitor.Runtime

open Foundation ConstellationMonitor.Types Evaluation

/-- A CURRENT certificate of the consumer names the binding in its slot. -/
def Qualified (key : ConsumerKey) (board : Board) : Prop :=
  ∀ (state : ConsumerState) certificate, board.consumers[key]? = some state →
    state.certificate = some certificate → certificate.judgment = .current →
    ∃ binding, certificate.qualifiedGeneration = some binding ∧
      board.Binds key state.context binding

variable {key : ConsumerKey} {host : Host}

theorem qualified_of_absent {board : Board} (absent : board.consumers[key]? = none) :
    Qualified key board := by
  intro state certificate hfound
  simp [absent] at hfound

/-- What changes neither the consumer nor its slot. -/
theorem qualified_of_same {before after : Board}
    (consumer : after.consumers[key]? = before.consumers[key]?)
    (slot : after.qualifiedBindings[key]? = before.qualifiedBindings[key]?)
    (qualified : Qualified key before) : Qualified key after := by
  intro state certificate hfound hstored hcurrent
  obtain ⟨binding, hbinding, held, accepted, hheld, hrest⟩ :=
    qualified state certificate (consumer ▸ hfound) hstored hcurrent
  exact ⟨binding, hbinding, held, accepted, slot.trans hheld, hrest⟩

/-- A certificate certified CURRENT names the binding it was issued with. -/
theorem binding_of_certified {evaluation : EvaluationOutput}
    {binding : Option QualifiedGenerationBindingV1}
    (h : certifiedJudgment evaluation binding = .current) :
    ∃ generation, binding = some generation := by
  cases binding with
  | some generation => exact ⟨generation, rfl⟩
  | none =>
    have hcategory := category_of_certified h
    simp [certifiedJudgment, hcategory] at h

/-- A visit stores no CURRENT certificate but one that names its slot's binding. -/
theorem Visited.qualified {visit : Visit} {before after : Board}
    (visited : Visited host visit before after) : Qualified visit.key after := by
  intro state certificate hfound hstored hcurrent
  cases visited.outcome with
  | withheld kept clear =>
    obtain rfl := Option.some.inj (kept.symm.trans hfound)
    cases hstored
  | issued ground binding same valid kept scheduled bound =>
    obtain rfl := Option.some.inj (kept.symm.trans hfound)
    cases hstored
    obtain ⟨generation, rfl⟩ := binding_of_certified hcurrent
    exact ⟨generation, rfl, bound hcurrent generation rfl⟩
  | unmeasured error current refused gone clear => simp [gone] at hfound
  | invalid ground binding error same refused gone clear => simp [gone] at hfound

theorem seen_qualified (before after : Board) (seen : Seen host key before after)
    (qualified : Qualified key before) : Qualified key after := by
  cases seen with
  | elsewhere elsewhere =>
    rcases elsewhere.slot with habsent | hslot
    · exact qualified_of_absent (elsewhere.consumer.trans habsent)
    · exact qualified_of_same elsewhere.consumer hslot qualified
  | visited visit own visited => exact own ▸ visited.qualified
  | enrolled registration evaluator own absent unexhausted made =>
    intro state certificate hfound hstored
    have hinitial : state = initialState registration evaluator := by
      simpa [Board.enrolled, own, eq_comm] using hfound
    subst hinitial
    cases hstored
  | reinstated state records evaluator found made =>
    intro last certificate hfound hstored
    obtain rfl : { state with evaluator := evaluator } = last := by simpa using hfound
    exact qualified state certificate found hstored
  | lost visit own lost => exact qualified_of_absent (own ▸ lost.gone)

theorem qualified_of_reachable {cycle : Cycle} (reachable : Reachable host cycle)
    (key : ConsumerKey) : Qualified key cycle.board :=
  reachable_seen key (fun _ fresh => qualified_of_absent (by simp [fresh.consumers]))
    seen_qualified reachable

/-- In every reachable state a CURRENT certificate was issued in the consumer's present
context and names the accepted binding of its slot, which is qualified and matched for
exactly this subject, consumer and context. -/
theorem current_rests_on_qualified_binding (host : Host) (cycle : Cycle)
    (reachable : Reachable host cycle) (key : ConsumerKey) (state : ConsumerState)
    (certificate : RelianceSupportCertificateV1) (found : cycle.consumers[key]? = some state)
    (stored : state.certificate = some certificate) (current : certificate.judgment = .current) :
    certificate.context = state.context ∧
      ∃ slot accepted, cycle.qualifiedBindings[key]? = some slot ∧
        slot.state = .qualifiedAndMatched ∧ slot.accepted = some accepted ∧
        certificate.qualifiedGeneration = some accepted.binding ∧
        accepted.binding.generationSet.subject = key.subject ∧
        accepted.binding.generationSet.consumer = key.consumer ∧
        accepted.binding.generationSet.matchesContext state.context = true := by
  have hholds := (backed_of_reachable reachable key).holds state certificate found stored
  obtain ⟨binding, hbinding, slot, accepted, hslot, hstate, haccepted, rfl, hmatches⟩ :=
    qualified_of_reachable reachable key state certificate found stored current
  simp only [bindingMatches, Bool.and_eq_true, decide_eq_true_eq] at hmatches
  exact ⟨hholds.context, slot, accepted, hslot, hstate, haccepted, hbinding, hmatches.1.1,
    hmatches.1.2, hmatches.2⟩

theorem current_rests_on_qualified_binding_reference :
    ∃ state certificate, Reachable Reference.host Reference.current ∧
      Reference.current.consumers[Reference.display]? = some state ∧
      state.certificate = some certificate ∧ certificate.judgment = .current ∧
      ∃ slot accepted, Reference.current.qualifiedBindings[Reference.display]? = some slot ∧
        slot.state = .qualifiedAndMatched ∧ slot.accepted = some accepted ∧
        certificate.qualifiedGeneration = some accepted.binding := by
  have hreachable := Reference.reachableOk_current.reachable
  obtain ⟨state, hfound, certificate, hstored, hcurrent⟩ :=
    holdsCurrent_eq_true.mp Reference.holdsCurrent_current
  obtain ⟨-, slot, accepted, hslot, hstate, haccepted, hbinding, -⟩ :=
    current_rests_on_qualified_binding Reference.host Reference.current hreachable
      Reference.display state certificate hfound hstored hcurrent
  exact ⟨state, certificate, hreachable, hfound, hstored, hcurrent, slot, accepted, hslot, hstate,
    haccepted, hbinding⟩

end ConstellationMonitor.Runtime
