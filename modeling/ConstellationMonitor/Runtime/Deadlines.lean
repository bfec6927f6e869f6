/-
  Standing and its deadlines.

  Each CURRENT certificate has its expiry on the schedule.  The half of that which says
  nothing about consumers that were lost, `Backed`, holds in every reachable state; the
  exact correspondence, `Kept`, holds as long as every call returned `Ok`.  With the first
  and a count of what is due, `run_until` ends and leaves no stale positive.
-/
import ConstellationMonitor.Runtime.Reference

namespace ConstellationMonitor.Runtime

open Foundation Foundation.Program ConstellationMonitor.Types Evaluation
open Std (ExtTreeSet)
open Relation (ReflTransGen)

/-! ## Deadlines of certificates -/

/-- A certificate fits the consumer that holds it: it was issued in the consumer's
context, and it carries deadlines exactly when it is CURRENT. -/
structure ConsumerState.Holds (state : ConsumerState)
    (certificate : RelianceSupportCertificateV1) : Prop where
  context : certificate.context = state.context
  next : certificate.nextScheduledReevaluationMonotonicMs =
    certificate.earliestSupportExpiryMonotonicMs
  deadline : certificate.judgment = .current ↔
    ∃ deadline, certificate.earliestSupportExpiryMonotonicMs = some deadline

/-- The deadline a consumer waits for: the expiry of its certificate, under its present
activation. -/
def ConsumerState.Awaits (state : ConsumerState) (schedule : ScheduleKey) : Prop :=
  (∃ certificate, state.certificate = some certificate ∧
    certificate.earliestSupportExpiryMonotonicMs = some schedule.deadlineMonotonicMs) ∧
    schedule.activationId = state.context.activationId

/-- A valid certificate is CURRENT exactly when it carries a deadline, and the deadline
lies in its future. -/
theorem validate_deadline {platform : Platform} {certificate : RelianceSupportCertificateV1}
    (valid : certificate.validate platform = .ok ()) :
    certificate.nextScheduledReevaluationMonotonicMs =
        certificate.earliestSupportExpiryMonotonicMs ∧ (certificate.judgment = .current ↔
        ∃ deadline, certificate.earliestSupportExpiryMonotonicMs = some deadline) ∧
      ∀ deadline, certificate.earliestSupportExpiryMonotonicMs = some deadline →
        certificate.evaluatedAtMonotonicMs < deadline := by
  simp only [RelianceSupportCertificateV1.validate, check_bind_eq_ok] at valid
  obtain ⟨-, -, -, -, -, -, -, -, -, hsupport, -⟩ := valid
  unfold RelianceSupportCertificateV1.validateSupport at hsupport
  by_cases hcurrent : certificate.judgment = .current
  · rw [if_pos hcurrent, refuseIf_eq_ok] at hsupport
    cases hexpiry : certificate.earliestSupportExpiryMonotonicMs with
    | none => simp [hexpiry] at hsupport
    | some deadline =>
      simp only [hexpiry, Bool.or_eq_false_iff, decide_eq_false_iff_not, not_not,
        Option.any_some, not_le] at hsupport
      refine ⟨hsupport.1.1.1.1.2, by simp [hcurrent], fun other hother => ?_⟩
      cases hother
      exact hsupport.1.1.1.2
  · rw [if_neg hcurrent, refuseIf_eq_ok] at hsupport
    simp only [Bool.or_eq_false_iff, Option.isSome_eq_false_iff, Option.isNone_iff_eq_none]
      at hsupport
    simp [hsupport.1, hsupport.2, hcurrent]

theorem holdsCurrent_eq_true {core : RuntimeCore} {key : ConsumerKey} :
    core.holdsCurrent key = true ↔ ∃ state, core.consumers[key]? = some state ∧
      ∃ certificate, state.certificate = some certificate ∧ certificate.judgment = .current := by
  simp [RuntimeCore.holdsCurrent, ConsumerState.holdsCurrent, Option.any_eq_true]

namespace Visited

variable {host : Host} {visit : Visit} {start last : Board}

/-- What a visit leaves of the consumer fits its certificate. -/
theorem holds (visited : Visited host visit start last) {state : ConsumerState}
    (found : last.consumers[visit.key]? = some state)
    {certificate : RelianceSupportCertificateV1} (stored : state.certificate = some certificate) :
    state.Holds certificate := by
  cases visited.outcome with
  | withheld kept clear =>
    obtain rfl := Option.some.inj (kept.symm.trans found)
    cases stored
  | issued ground binding same valid kept scheduled bound =>
    obtain rfl := Option.some.inj (kept.symm.trans found)
    cases stored
    obtain ⟨hnext, hdeadline, -⟩ := validate_deadline valid
    exact ⟨rfl, hnext, hdeadline⟩
  | unmeasured error current refused gone clear => simp [gone] at found
  | invalid ground binding error same refused gone clear => simp [gone] at found

/-- After a visit exactly the deadline the consumer waits for is scheduled, in the future
of the visit. -/
theorem scheduled_iff (visited : Visited host visit start last) {schedule : ScheduleKey}
    (owner : schedule.owner = visit.key) : (schedule ∈ last.schedules ↔
      ∃ state, last.consumers[visit.key]? = some state ∧ state.Awaits schedule) ∧
    (schedule ∈ last.schedules → visit.appliedAtMs < schedule.deadlineMonotonicMs) := by
  cases visited.outcome with
  | withheld kept clear =>
    have hout : schedule ∉ last.schedules := fun hin => clear schedule hin owner
    simp [hout, kept, ConsumerState.Awaits]
  | issued ground binding same valid kept scheduled bound =>
    obtain ⟨-, -, hfuture⟩ := validate_deadline valid
    rw [scheduled schedule owner]
    refine ⟨?_, fun h => hfuture _ h.1⟩
    simp [kept, ConsumerState.Awaits]
  | unmeasured error current refused gone clear =>
    have hout : schedule ∉ last.schedules := fun hin => clear schedule hin owner
    simp [hout, gone]
  | invalid ground binding error same refused gone clear =>
    have hout : schedule ∉ last.schedules := fun hin => clear schedule hin owner
    simp [hout, gone]

end Visited

/-! ## Certificates and the schedule -/

/-- The certificate of a consumer fits it, and the deadline it waits for is scheduled. -/
structure Backed (key : ConsumerKey) (board : Board) : Prop where
  holds : ∀ state certificate, board.consumers[key]? = some state →
    state.certificate = some certificate → state.Holds certificate
  scheduled : ∀ state schedule, board.consumers[key]? = some state → schedule.owner = key →
    state.Awaits schedule → schedule ∈ board.schedules

/-- Also, nothing else is scheduled for the consumer. -/
structure Kept (key : ConsumerKey) (board : Board) : Prop extends Backed key board where
  awaited : ∀ schedule ∈ board.schedules, schedule.owner = key →
    ∃ state, board.consumers[key]? = some state ∧ state.Awaits schedule

/-- Both are carried over from one board to another. -/
structure Carries (key : ConsumerKey) (before after : Board) : Prop where
  backed : Backed key before → Backed key after
  kept : Kept key before → Kept key after

namespace Carries

variable {key : ConsumerKey} {first second third : Board}

theorem trans (left : Carries key first second) (right : Carries key second third) :
    Carries key first third :=
  ⟨right.backed ∘ left.backed, right.kept ∘ left.kept⟩

/-- What changes neither the certificate and context of the consumer nor its deadlines. -/
theorem of_update (f : ConsumerState → ConsumerState)
    (same : ∀ state, (f state).certificate = state.certificate ∧ (f state).context = state.context)
    (consumer : second.consumers[key]? = first.consumers[key]?.map f)
    (schedules : ∀ schedule : ScheduleKey, schedule.owner = key →
      (schedule ∈ second.schedules ↔ schedule ∈ first.schedules)) : Carries key first second := by
  have hbacked : Backed key first → Backed key second := by
    intro backed
    refine ⟨fun state certificate hfound hstored => ?_,
      fun state schedule hfound howner hawaits => ?_⟩
    all_goals
      rw [consumer, Option.map_eq_some_iff] at hfound
      obtain ⟨prior, hprior, rfl⟩ := hfound
    · have hholds := backed.holds prior certificate hprior ((same prior).1.symm.trans hstored)
      exact ⟨hholds.context.trans (same prior).2.symm, hholds.next, hholds.deadline⟩
    · rw [schedules schedule howner]
      rw [ConsumerState.Awaits, (same prior).1, (same prior).2] at hawaits
      exact backed.scheduled prior schedule hprior howner hawaits
  refine ⟨hbacked, fun kept => ⟨hbacked kept.toBacked, fun schedule hin howner => ?_⟩⟩
  obtain ⟨prior, hprior, hawaits⟩ :=
    kept.awaited schedule ((schedules schedule howner).mp hin) howner
  refine ⟨f prior, by rw [consumer, hprior, Option.map_some], ?_⟩
  rwa [ConsumerState.Awaits, (same prior).1, (same prior).2]

theorem of_same (consumer : second.consumers[key]? = first.consumers[key]?)
    (schedules : ∀ schedule : ScheduleKey, schedule.owner = key →
      (schedule ∈ second.schedules ↔ schedule ∈ first.schedules)) : Carries key first second :=
  of_update id (fun _ => ⟨rfl, rfl⟩) (by simpa using consumer) schedules

/-- What leaves a key without a consumer with one that has no certificate, if with any. -/
theorem of_bare (absent : first.consumers[key]? = none)
    (bare : ∀ state, second.consumers[key]? = some state → state.certificate = none)
    (fewer : ∀ schedule ∈ second.schedules, schedule ∈ first.schedules) :
    Carries key first second := by
  have hbacked : Backed key second := by
    refine ⟨fun state certificate hfound hstored => ?_, fun state schedule hfound _ hawaits => ?_⟩
    · simp [bare state hfound] at hstored
    · simp [ConsumerState.Awaits, bare state hfound] at hawaits
  refine ⟨fun _ => hbacked, fun kept => ⟨hbacked, fun schedule hin howner => ?_⟩⟩
  obtain ⟨state, hfound, -⟩ := kept.awaited schedule (fewer schedule hin) howner
  simp [absent] at hfound

end Carries

section Carry

variable {host : Host} {before after : Board} (key : ConsumerKey)

theorem Visited.carries {visit : Visit} (visited : Visited host visit before after) :
    Carries key before after := by
  by_cases hkey : key = visit.key
  · subst hkey
    have hkept : Kept visit.key after := by
      refine ⟨⟨fun state certificate hfound => visited.holds hfound,
        fun state schedule hfound howner hawaits => ?_⟩, fun schedule hin howner => ?_⟩
      · exact (visited.scheduled_iff howner).1.mpr ⟨state, hfound, hawaits⟩
      · exact (visited.scheduled_iff howner).1.mp hin
    exact ⟨fun _ => hkept.toBacked, fun _ => hkept⟩
  · refine .of_same (visited.others_start hkey) fun schedule howner => ?_
    exact visited.schedules_start (howner ▸ hkey)

theorem visits_carries (visits : ReflTransGen (Visits host) before after) :
    Carries key before after := by
  induction visits with
  | refl => exact ⟨id, id⟩
  | tail _ hlast ih =>
    obtain ⟨visit, ⟨visited⟩⟩ := hlast
    exact ih.trans (visited.carries key)

theorem calm_carries (calm : Calm host before after) : Carries key before after := by
  cases calm with
  | noted noted =>
    obtain ⟨full, rfl⟩ := noted
    exact ⟨fun h => ⟨h.holds, h.scheduled⟩, fun h => ⟨⟨h.holds, h.scheduled⟩, h.awaited⟩⟩
  | @beside _ other absent aside =>
    by_cases hkey : key = other
    · subst hkey
      exact .of_bare absent (by simp [aside.consumers, absent]) aside.shrinks
    · refine .of_same (by rw [aside.consumers]) fun schedule howner => ?_
      exact aside.schedules schedule (howner ▸ hkey)
  | released schedule stale =>
    -- a consumer does not wait for a deadline of another activation
    have hbacked : Backed key before →
        Backed key { before with schedules := before.schedules.erase schedule } := by
      intro backed
      refine ⟨backed.holds, fun state other hfound howner hawaits => ?_⟩
      have hin := backed.scheduled state other hfound howner hawaits
      have hne : schedule ≠ other := by
        rintro rfl
        exact stale state (howner ▸ hfound) hawaits.2.symm
      simpa [hne] using hin
    refine ⟨hbacked, fun kept => ⟨hbacked kept.toBacked, fun other hin howner => ?_⟩⟩
    exact kept.awaited other (ExtTreeSet.mem_of_mem_erase hin) howner
  | surveyed subjects same => exact .of_same rfl fun _ _ => Iff.rfl
  | visited visit visited => exact visited.carries key
  | enrolled registration evaluator absent unexhausted made =>
    by_cases hkey : key = policyKey registration.policy
    · subst hkey
      exact .of_bare absent (by simp [Board.enrolled, initialState]) fun _ h => h
    · refine .of_same ?_ fun _ _ => Iff.rfl
      simp [Board.enrolled, getElem?_insert_iff, Ne.symm hkey]
  | reinstated other state records evaluator found made =>
    by_cases hkey : key = other
    · subst hkey
      refine .of_update (fun state => { state with evaluator := evaluator })
        (fun _ => ⟨rfl, rfl⟩) ?_ fun _ _ => Iff.rfl
      simp [found]
    · refine .of_same ?_ fun _ _ => Iff.rfl
      simp [getElem?_insert_iff, Ne.symm hkey]

theorem step_carries (step : Step host before after) : Carries key before after := by
  cases step with
  | calm calm => exact calm_carries key calm
  | pulsed delivery due fits => exact .of_same rfl fun _ _ => Iff.rfl
  | annotated receiver => exact .of_same rfl fun _ _ => Iff.rfl
  | replaced subject replacement receiver => exact .of_same rfl fun _ _ => Iff.rfl
  | latched exhausted visits all =>
    refine .trans ?_ (visits_carries key visits)
    exact .of_same rfl fun _ _ => Iff.rfl

theorem turn_carries (turn : Turn (Step host) before after) : Carries key before after := by
  cases turn with
  | step stepped => exact step_carries key stepped
  | queued pending input timely next => exact .of_same rfl fun _ _ => Iff.rfl
  | taken pending input found due first => exact .of_same rfl fun _ _ => Iff.rfl
  | ticked now later => exact .of_same rfl fun _ _ => Iff.rfl
  | advanced now later => exact .of_same rfl fun _ _ => Iff.rfl

/-- A consumer that is lost has no certificate to back. -/
theorem loss_backed (lost : Loses host before after) (backed : Backed key before) :
    Backed key after := by
  obtain ⟨visit, ⟨lost⟩⟩ := lost
  have hconsumers : after.consumers = before.consumers.erase visit.key := by
    rw [lost.rest.consumers, ← lost.lead.consumers]
    rfl
  by_cases hkey : key = visit.key
  · subst hkey
    have hnone : after.consumers[visit.key]? = none := by simp [hconsumers]
    exact ⟨fun state _ h => by simp [hnone] at h, fun state _ h => by simp [hnone] at h⟩
  · refine (Carries.of_same ?_ fun schedule howner => ?_).backed backed
    · simp [hconsumers, getElem?_erase_iff, Ne.symm hkey]
    · have hne : schedule.owner ≠ visit.key := howner ▸ hkey
      exact (lost.rest.schedules schedule hne).trans (lost.lead.schedules schedule hne)

end Carry

/-- A board on which nothing has happened yet keeps its deadlines. -/
theorem kept_fresh {board : Board} (fresh : Fresh board) (key : ConsumerKey) : Kept key board := by
  have hnone : board.consumers[key]? = none := by simp [fresh.consumers]
  refine ⟨⟨fun state _ h => by simp [hnone] at h, fun state _ h => by simp [hnone] at h⟩, ?_⟩
  intro schedule hin
  simp [fresh.schedules] at hin

/-- In every reachable state each CURRENT certificate has its deadline. -/
theorem backed_of_reachable {host : Host} {cycle : Cycle} (reachable : Reachable host cycle)
    (key : ConsumerKey) : Backed key cycle.board :=
  reachable_induction handles_step (fun _ fresh => (kept_fresh fresh key).toBacked)
    (fun _ _ turn => (turn_carries key turn).backed) (fun _ _ => loss_backed key) reachable

/-- After calls that all returned well each deadline has its CURRENT certificate too. -/
theorem kept_of_reachableOk {host : Host} {cycle : Cycle} (reachable : ReachableOk host cycle)
    (key : ConsumerKey) : Kept key cycle.board :=
  reachableOk_induction handles_step (fun _ fresh => kept_fresh fresh key)
    (fun _ _ turn => (turn_carries key turn).kept) reachable

/-- After calls that all returned `Ok`, a consumer with a CURRENT certificate has exactly
one deadline, that of the certificate under the present activation, and every other key
has none. -/
theorem schedule_matches_certificate (host : Host) (cycle : Cycle)
    (reachable : ReachableOk host cycle) (key : ConsumerKey) :
    (∀ state certificate, cycle.consumers[key]? = some state →
      state.certificate = some certificate → certificate.judgment = .current →
      ∃ schedule : ScheduleKey,
        (∀ other : ScheduleKey, other ∈ cycle.schedules ∧ other.owner = key ↔ other = schedule) ∧
        certificate.earliestSupportExpiryMonotonicMs = some schedule.deadlineMonotonicMs ∧
        certificate.nextScheduledReevaluationMonotonicMs = some schedule.deadlineMonotonicMs ∧
        schedule.activationId = state.context.activationId ∧
        schedule.activationId = certificate.context.activationId) ∧
    (cycle.holdsCurrent key = false → ∀ schedule ∈ cycle.schedules, schedule.owner ≠ key) := by
  have kept := kept_of_reachableOk reachable key
  refine ⟨fun state certificate hfound hstored hcurrent => ?_,
    fun hwithdrawn schedule hin howner => ?_⟩
  · have hholds := kept.holds state certificate hfound hstored
    obtain ⟨deadline, hdeadline⟩ := hholds.deadline.mp hcurrent
    refine ⟨⟨deadline, key.subject, key.consumer, state.context.activationId⟩, fun other => ?_,
      hdeadline, hholds.next.trans hdeadline, rfl, by rw [hholds.context]⟩
    constructor
    · rintro ⟨hin, howner⟩
      obtain ⟨found, hother, ⟨stored, hheld, hexpiry⟩, hactivation⟩ :=
        kept.awaited other hin howner
      obtain rfl := Option.some.inj (hfound.symm.trans hother)
      obtain rfl := Option.some.inj (hstored.symm.trans hheld)
      obtain rfl := Option.some.inj (hdeadline.symm.trans hexpiry)
      rw [← hactivation, ← howner]
      rfl
    · rintro rfl
      exact ⟨kept.scheduled state _ hfound rfl ⟨⟨certificate, hstored, hdeadline⟩, rfl⟩, rfl⟩
  · -- a deadline belongs to a certificate that carries one, and that is CURRENT
    obtain ⟨state, hfound, ⟨certificate, hstored, hexpiry⟩, -⟩ :=
      kept.awaited schedule hin howner
    have hcurrent := (kept.holds state certificate hfound hstored).deadline.mpr ⟨_, hexpiry⟩
    have hholds : cycle.holdsCurrent key = true := by
      have hfound : cycle.consumers[key]? = some state := hfound
      simp [RuntimeCore.holdsCurrent, hfound, ConsumerState.holdsCurrent, hstored, hcurrent]
    simp [hholds] at hwithdrawn

open Reference

theorem schedule_matches_certificate_reference : ReachableOk host current ∧
      current.holdsCurrent display = true ∧
      ∃ state certificate schedule, current.consumers[display]? = some state ∧
        state.certificate = some certificate ∧ certificate.earliestSupportExpiryMonotonicMs =
          some (schedule : ScheduleKey).deadlineMonotonicMs ∧
        schedule ∈ current.schedules := by
  obtain ⟨state, hfound, certificate, hstored, hcurrent⟩ :=
    holdsCurrent_eq_true.mp holdsCurrent_current
  obtain ⟨schedule, honly, hexpiry, -⟩ := (schedule_matches_certificate host
    current reachableOk_current display).1 state certificate hfound
      hstored hcurrent
  exact ⟨reachableOk_current, holdsCurrent_current, state, certificate,
    schedule, hfound, hstored, hexpiry, ((honly schedule).mpr rfl).1⟩

end ConstellationMonitor.Runtime
