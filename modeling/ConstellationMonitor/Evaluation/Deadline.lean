/-
  Evaluation/Deadline.lean --- how long a CURRENT judgment is supported.

  The category is recomputed at every time from what is still fresh; the deadline is
  computed once, from the expiries.  Between them stands a count: at a time past `now`, a
  tag is covered by enough failure domains exactly when the expiry at the required rank of
  the descending order of the domains' latest expiries lies beyond that time.
-/
import ConstellationMonitor.Evaluation.Admission
import ConstellationMonitor.Foundation.Latest

namespace ConstellationMonitor.Evaluation

open Foundation ConstellationMonitor.Types

namespace Evaluator

variable (evaluator : Evaluator)

/-- Relevant evidence that has not expired. -/
def freshEvidence (now : Nat) : List ObserverEvidence :=
  evaluator.relevantEvidence.filter fun evidence => decide (now < evidence.expiresAtMs)

/-- The failure domains that cover a tag at a time. -/
def coveringDomains (now : Nat) (tag : Text) : Nat :=
  domainCountForTag (evaluator.eligibleFresh now) tag evaluator.policy.observerFailureDomains

/-! ## Evidence expires and does not come back -/

variable {now : Nat}

theorem freshEvidence_later {later : Nat} (h : now ≤ later) :
    evaluator.freshEvidence later ⊆ evaluator.freshEvidence now := by
  intro evidence hevidence
  simp only [freshEvidence, List.mem_filter, decide_eq_true_eq] at hevidence ⊢
  exact ⟨hevidence.1, by omega⟩

theorem eligibleFresh_later {later : Nat} (h : now ≤ later) : evaluator.eligibleFresh later =
      (evaluator.eligibleFresh now).filter
        fun evidence => decide (later < evidence.expiresAtMs) := by
  simp only [eligibleFresh, List.filter_filter]
  refine List.filter_congr fun evidence _ => ?_
  by_cases hlater : later < evidence.expiresAtMs
  · simp [hlater, lt_of_le_of_lt h hlater]
  · simp [hlater]

theorem eligibleFresh_subset (now : Nat) :
    evaluator.eligibleFresh now ⊆ evaluator.freshEvidence now := by
  intro evidence hevidence
  simp only [eligibleFresh, freshEvidence, List.mem_filter, Bool.and_eq_true] at hevidence ⊢
  exact ⟨hevidence.1, hevidence.2.1⟩

/-! ## The deadline of one tag -/

/-- The failure domain and the expiry of one piece of evidence. -/
def domainExpiry (evidence : ObserverEvidence) : Text × Nat :=
  (failureDomain evidence.received.frame.observer evaluator.policy.observerFailureDomains,
    evidence.expiresAtMs)

theorem expiryByDomain_eq (fresh : List ObserverEvidence) (tag : Text) :
    evaluator.expiryByDomain fresh tag =
      latestByKey ((coveringTag fresh tag).map evaluator.domainExpiry) := by
  rw [latestByKey, List.foldl_map]
  rfl

/-- As many domains outlast a time as cover the tag with what is left by then. -/
theorem countP_expiryByDomain {later : Nat} (h : now ≤ later) (tag : Text) :
    ((evaluator.expiryByDomain (evaluator.eligibleFresh now) tag).values.countP fun expiry =>
      decide (later < expiry)) = evaluator.coveringDomains later tag := by
  rw [expiryByDomain_eq, countP_latestByKey, coveringDomains, domainCountForTag,
    evaluator.eligibleFresh_later h]
  have hleft : (((coveringTag (evaluator.eligibleFresh now) tag).map evaluator.domainExpiry).filter
      fun entry => decide (later < entry.2)).map Prod.fst =
      (coveringTag ((evaluator.eligibleFresh now).filter fun evidence =>
        decide (later < evidence.expiresAtMs)) tag).map fun item =>
          failureDomain item.received.frame.observer evaluator.policy.observerFailureDomains := by
    rw [List.filter_map, List.map_map]
    simp only [coveringTag, List.filter_filter]
    refine congrArg₂ List.map rfl (List.filter_congr fun evidence _ => ?_)
    exact Bool.and_comm _ _
  rw [hleft]
  rfl

/-- A tag's deadline is exact: until then, and no longer, enough domains cover the tag. -/
theorem lt_tagDeadline_iff (positive : 0 < evaluator.policy.minimumObservers) {later : Nat}
    (h : now ≤ later) {tag : Text} {deadline : Nat}
    (hdeadline : evaluator.tagDeadline (evaluator.eligibleFresh now) tag = some deadline) :
    later < deadline ↔ evaluator.policy.minimumObservers ≤ evaluator.coveringDomains later tag := by
  rw [lt_insertionSort_getElem?_iff hdeadline, evaluator.countP_expiryByDomain h]
  omega

/-- A tag that will still be covered has a deadline. -/
theorem tagDeadline_isSome (positive : 0 < evaluator.policy.minimumObservers) {later : Nat}
    (h : now ≤ later) {tag : Text}
    (covered : evaluator.policy.minimumObservers ≤ evaluator.coveringDomains later tag) :
    ∃ deadline, evaluator.tagDeadline (evaluator.eligibleFresh now) tag = some deadline := by
  refine insertionSort_getElem?_isSome later ?_
  rw [evaluator.countP_expiryByDomain h]
  omega

/-! ## The deadline of all tags -/

/-- The smallest deadline of a list of tags, none when a tag has no deadline. -/
theorem lt_foldlM_min_iff {deadlineOf : Text → Option Nat} {tags : List Text} {start overall : Nat}
    (h : tags.foldlM (fun least tag => (deadlineOf tag).map (min least)) start = some overall)
    (time : Nat) : time < overall ↔ time < start ∧
      ∀ tag ∈ tags, ∃ deadline, deadlineOf tag = some deadline ∧ time < deadline := by
  induction tags generalizing start with
  | nil =>
    obtain rfl : start = overall := by simpa using h
    simp
  | cons tag rest ih =>
    rw [List.foldlM_cons] at h
    obtain ⟨least, hleast, hrest⟩ := Option.bind_eq_some_iff.mp h
    obtain ⟨deadline, hdeadline, rfl⟩ := Option.map_eq_some_iff.mp hleast
    rw [ih hrest, lt_min_iff, List.forall_mem_cons]
    simp [hdeadline, and_assoc]

theorem foldlM_min_isSome (deadlineOf : Text → Option Nat) {tags : List Text} (start : Nat)
    (h : ∀ tag ∈ tags, ∃ deadline, deadlineOf tag = some deadline) :
    ∃ overall, tags.foldlM (fun least tag => (deadlineOf tag).map (min least)) start =
      some overall := by
  induction tags generalizing start with
  | nil => exact ⟨start, rfl⟩
  | cons tag rest ih =>
    obtain ⟨deadline, hdeadline⟩ := h tag (by simp)
    obtain ⟨overall, hoverall⟩ := ih (min start deadline) fun other hother =>
      h other (by simp [hother])
    exact ⟨overall, by simp [hdeadline, hoverall]⟩

/-- Every required tag is covered by enough domains. -/
def Covered (now : Nat) : Prop :=
  ∀ tag ∈ evaluator.policy.requiredCoverage,
    evaluator.policy.minimumObservers ≤ evaluator.coveringDomains now tag

/-- The deadline of all tags is exact: until then, and no longer, every tag is covered. -/
theorem lt_supportDeadline_iff (positive : 0 < evaluator.policy.minimumObservers) {later : Nat}
    (h : now ≤ later) {deadline : Nat}
    (hdeadline : evaluator.supportDeadline (evaluator.eligibleFresh now) = some deadline) :
    later < deadline ↔ evaluator.Covered later := by
  obtain ⟨hoverall, hend⟩ := Option.filter_eq_some_iff.mp hdeadline
  have hleast := lt_foldlM_min_iff hoverall
  constructor
  · intro hlater tag htag
    obtain ⟨limit, hlimit, hbefore⟩ := ((hleast later).mp hlater).2 tag htag
    exact (evaluator.lt_tagDeadline_iff positive h hlimit).mp hbefore
  · intro hcovered
    by_contra hpassed
    -- every tag outlasts the deadline, so only the end of the clock can have set it
    have houtlasts : ∀ tag ∈ evaluator.policy.requiredCoverage, ∃ limit,
        evaluator.tagDeadline (evaluator.eligibleFresh now) tag = some limit ∧
          deadline < limit := by
      intro tag htag
      obtain ⟨limit, hlimit⟩ := evaluator.tagDeadline_isSome positive h (hcovered tag htag)
      have := (evaluator.lt_tagDeadline_iff positive h hlimit).mpr (hcovered tag htag)
      exact ⟨limit, hlimit, by omega⟩
    have hge : ¬ deadline < u64Max := fun hlt =>
      lt_irrefl deadline ((hleast deadline).mpr ⟨hlt, houtlasts⟩)
    have hle : ¬ u64Max < deadline := fun hlt => lt_irrefl _ ((hleast u64Max).mp hlt).1
    have hne : deadline ≠ u64Max := by simpa using hend
    omega

/-! ## When the category is CURRENT -/

/-- What a CURRENT category stands for. -/
structure IsCurrent (now : Nat) : Prop where
  uncontradicted : evaluator.activeContradictionIds = []
  unviolated : ∀ evidence ∈ evaluator.eligibleFresh now, reportsViolation evidence = false
  covered : ∀ tag ∈ evaluator.policy.requiredCoverage,
    evaluator.policy.minimumObservers ≤ countU32 (evaluator.coveringDomains now tag)
  observed : evaluator.policy.minimumObservers ≤
    (uniqueDomains (evaluator.eligibleFresh now) evaluator.policy.observerFailureDomains).size
  fresh : evaluator.freshEvidence now ≠ []
  verified : evaluator.policy.requireVerifiedAuthentication = true →
    ∀ evidence ∈ evaluator.freshEvidence now,
      authenticationVerified evidence.received.receiver.authentication = true
  operational : evaluator.monitorCapability = .operational
  continuous : ∀ evidence ∈ evaluator.freshEvidence now,
    evidence.continuity ≠ .gapped ∧ evidence.continuity ≠ .restarted

theorem categoryOf_current_iff (policy : ReliancePolicyV1) (coverage : CoverageSummaryV1)
    (dimensions : ConfidenceDimensionsV1) (contradicted violated : Bool) :
    categoryOf policy coverage dimensions contradicted violated = .current ↔
      contradicted = false ∧ violated = false ∧ relianceUnknown policy coverage dimensions = false ∧
        dimensions.sequenceContinuity ≠ .gapped ∧ dimensions.sequenceContinuity ≠ .restarted ∧
        dimensions.sequenceContinuity ≠ .unknown ∧ dimensions.transport ≠ .degraded := by
  unfold categoryOf
  cases contradicted
  · cases violated
    · cases hunknown : relianceUnknown policy coverage dimensions
      · simp [and_assoc]
      · simp
    · simp
  · simp

theorem relianceUnknown_eq_false (policy : ReliancePolicyV1) (coverage : CoverageSummaryV1)
    (dimensions : ConfidenceDimensionsV1) : relianceUnknown policy coverage dimensions = false ↔
      coverage.missing = [] ∧ dimensions.observerAvailability = .available ∧
        dimensions.freshness ≠ .expired ∧ dimensions.freshness ≠ .noEvidence ∧
        (policy.requireVerifiedAuthentication = true → dimensions.provenance = .verified) ∧
        dimensions.transport ≠ .blind := by
  simp [relianceUnknown, and_assoc]

theorem provenanceDimension_verified_iff {evidence : List ObserverEvidence}
    (nonempty : evidence ≠ []) : provenanceDimension evidence = .verified ↔ ∀ item ∈ evidence,
        authenticationVerified item.received.receiver.authentication = true := by
  have hexclusive : ∀ result, authenticationVerified result = true →
      authenticationFailed result = false := by
    intro result hverified
    cases result <;> first | rfl | cases hverified
  unfold provenanceDimension
  rw [if_neg (by simpa using nonempty)]
  constructor
  · intro h
    split at h
    · cases h
    · split at h
      · rename_i hall
        exact fun item hitem => List.all_eq_true.mp hall item hitem
      · cases h
  · intro h
    rw [if_neg, if_pos (List.all_eq_true.mpr h)]
    intro hany
    obtain ⟨item, hitem, hfailed⟩ := List.any_eq_true.mp hany
    simp [hexclusive _ (h item hitem)] at hfailed

theorem continuityDimension_iff (fresh : List ObserverEvidence) :
    (continuityDimension fresh ≠ .gapped ∧ continuityDimension fresh ≠ .restarted ∧
      continuityDimension fresh ≠ .unknown) ↔ fresh ≠ [] ∧ ∀ evidence ∈ fresh,
        evidence.continuity ≠ .gapped ∧ evidence.continuity ≠ .restarted := by
  unfold continuityDimension
  dsimp only
  by_cases hempty : fresh = []
  · simp [hempty]
  · rw [if_neg (by simpa using hempty)]
    by_cases hgapped : fresh.any (fun evidence => decide (evidence.continuity = .gapped)) = true
    · simp only [hgapped, ↓reduceIte]
      obtain ⟨evidence, hevidence, hgap⟩ := List.any_eq_true.mp hgapped
      simp only [ne_eq, not_true_eq_false, false_and, false_iff, not_and, not_forall]
      intro _
      exact ⟨evidence, hevidence, fun h => absurd (by simpa using hgap) h⟩
    · rw [if_neg hgapped]
      by_cases hrestarted :
          fresh.any (fun evidence => decide (evidence.continuity = .restarted)) = true
      · simp only [hrestarted, ↓reduceIte]
        obtain ⟨evidence, hevidence, hrestart⟩ := List.any_eq_true.mp hrestarted
        simp only [ne_eq, not_true_eq_false, false_and, and_false, false_iff, not_and, not_forall]
        intro _
        exact ⟨evidence, hevidence, fun _ h => h (by simpa using hrestart)⟩
      · rw [if_neg hrestarted]
        have hnone : ∀ evidence ∈ fresh,
            evidence.continuity ≠ .gapped ∧ evidence.continuity ≠ .restarted := by
          simp only [List.any_eq_true, decide_eq_true_eq, not_exists, not_and] at hgapped hrestarted
          exact fun evidence hevidence =>
            ⟨hgapped evidence hevidence, hrestarted evidence hevidence⟩
        refine iff_of_true ?_ ⟨hempty, hnone⟩
        split <;> simp

theorem freshnessDimension_iff (relevant fresh expired : List ObserverEvidence)
    (h : fresh ⊆ relevant) : (freshnessDimension relevant fresh expired ≠ .expired ∧
      freshnessDimension relevant fresh expired ≠ .noEvidence) ↔ fresh ≠ [] := by
  unfold freshnessDimension
  by_cases hfresh : fresh = []
  · subst hfresh
    by_cases hrelevant : relevant = [] <;> simp [hrelevant]
  · have hrelevant : relevant ≠ [] := by
      rintro rfl
      exact hfresh (List.subset_nil.mp h)
    by_cases hexpired : expired = [] <;> simp [hfresh, hrelevant, hexpired]

theorem coverageSummary_missing (fresh expired : List ObserverEvidence) :
    (evaluator.coverageSummary fresh expired).missing = [] ↔
      ∀ tag ∈ evaluator.policy.requiredCoverage, evaluator.policy.minimumObservers ≤
        countU32 (domainCountForTag fresh tag evaluator.policy.observerFailureDomains) := by
  simp [coverageSummary]

theorem derive_current_iff (now : Nat) :
    (evaluator.derive now).category = .current ↔ evaluator.IsCurrent now := by
  have hfreshness := freshnessDimension_iff evaluator.relevantEvidence
    (evaluator.freshEvidence now)
    (evaluator.relevantEvidence.filter fun evidence => decide (now ≥ evidence.expiresAtMs))
    List.filter_sublist.subset
  have hcontinuity := continuityDimension_iff (evaluator.freshEvidence now)
  have hprovenance := @provenanceDimension_verified_iff (evaluator.freshEvidence now)
  have hmissing := evaluator.coverageSummary_missing (evaluator.eligibleFresh now)
    (evaluator.relevantEvidence.filter fun evidence => decide (now ≥ evidence.expiresAtMs))
  have htransport : (transportDimension evaluator.monitorCapability ≠ .blind ∧
      transportDimension evaluator.monitorCapability ≠ .degraded) ↔
      evaluator.monitorCapability = .operational := by
    cases evaluator.monitorCapability <;> simp [transportDimension]
  have havailable : ∀ domains required : Nat,
      (if domains ≥ required then ObserverAvailabilityDimensionV1.available
        else if domains = 0 then .unavailable else .partially) = .available ↔
        required ≤ domains := by
    intro domains required
    split
    · simpa
    · split <;> simp_all
  have hviolated : (!(((evaluator.eligibleFresh now).filter reportsViolation).map fun evidence =>
      evidenceRef evidence.received.frame).isEmpty) = false ↔
      ∀ evidence ∈ evaluator.eligibleFresh now, reportsViolation evidence = false := by
    simp
  simp only [derive, categoryOf_current_iff, relianceUnknown_eq_false, hviolated, havailable,
    hmissing]
  constructor
  · rintro ⟨hcontradicted, hunviolated,
      ⟨hcovered, hobserved, hexpired, hevidence, hverified, hblind⟩,
      hgapped, hrestarted, hunknown, hdegraded⟩
    have hfresh := hfreshness.mp ⟨hexpired, hevidence⟩
    exact
      { uncontradicted := by simpa using hcontradicted
        unviolated := hunviolated
        covered := hcovered
        observed := hobserved
        fresh := hfresh
        verified := fun hrequired => (hprovenance hfresh).mp (hverified hrequired)
        operational := htransport.mp ⟨hblind, hdegraded⟩
        continuous := (hcontinuity.mp ⟨hgapped, hrestarted, hunknown⟩).2 }
  · intro h
    obtain ⟨hgapped, hrestarted, hunknown⟩ := hcontinuity.mpr ⟨h.fresh, h.continuous⟩
    obtain ⟨hexpired, hevidence⟩ := hfreshness.mpr h.fresh
    obtain ⟨hblind, hdegraded⟩ := htransport.mpr h.operational
    exact ⟨by simp [h.uncontradicted], h.unviolated,
      ⟨h.covered, h.observed, hexpired, hevidence,
        fun hrequired => (hprovenance h.fresh).mpr (h.verified hrequired), hblind⟩,
      hgapped, hrestarted, hunknown, hdegraded⟩

/-! ## A CURRENT judgment lasts until its deadline -/

variable {evaluator}

theorem IsCurrent.isCovered (h : evaluator.IsCurrent now) : evaluator.Covered now :=
  fun tag htag => (h.covered tag htag).trans (Nat.min_le_left _ _)

/-- The failure domains of a tag are failure domains of the evidence. -/
theorem coveringDomains_le (now : Nat) (tag : Text) : evaluator.coveringDomains now tag ≤
      (uniqueDomains (evaluator.eligibleFresh now) evaluator.policy.observerFailureDomains).size :=
  size_ofList_le (List.map_subset _ (List.filter_sublist.subset))

/-- As long as every tag is covered, a CURRENT category stays CURRENT. -/
theorem IsCurrent.later (valid : evaluator.policy.validate = .ok ()) {later : Nat}
    (h : evaluator.IsCurrent now) (hlater : now ≤ later) (covered : evaluator.Covered later) :
    evaluator.IsCurrent later := by
  obtain ⟨hpositive, hrequired⟩ := validate_support valid
  obtain ⟨tag, htag⟩ := List.exists_mem_of_ne_nil _ hrequired
  have hobserved := (covered tag htag).trans (coveringDomains_le later tag)
  have heligible : evaluator.eligibleFresh later ≠ [] := by
    intro hempty
    rw [hempty] at hobserved
    have hzero : (uniqueDomains [] evaluator.policy.observerFailureDomains).size = 0 := rfl
    omega
  exact
    { uncontradicted := h.uncontradicted
      unviolated := fun evidence hevidence => h.unviolated evidence (by
        rw [evaluator.eligibleFresh_later hlater] at hevidence
        exact List.mem_of_mem_filter hevidence)
      covered := fun tag htag => le_min (covered tag htag)
        ((h.covered tag htag).trans (Nat.min_le_right _ _))
      observed := hobserved
      fresh := fun hempty => heligible (List.subset_nil.mp (hempty ▸
        evaluator.eligibleFresh_subset later))
      verified := fun hverify evidence hevidence =>
        h.verified hverify evidence (evaluator.freshEvidence_later hlater hevidence)
      operational := h.operational
      continuous := fun evidence hevidence =>
        h.continuous evidence (evaluator.freshEvidence_later hlater hevidence) }

/-- The deadline a CURRENT derivation exposes is the deadline of its tags. -/
theorem derive_supportDeadline (h : (evaluator.derive now).category = .current) :
    (evaluator.derive now).supportDeadlineMs =
      evaluator.supportDeadline (evaluator.eligibleFresh now) := by
  simp only [derive] at h ⊢
  rw [if_pos h]

end Evaluator

/-- The exposed support deadline of a reachable evaluator is exact: it lies ahead, the
category stays CURRENT until it, and is not CURRENT from it on. -/
theorem support_deadline_exact {platform : Platform} {evaluator : Evaluator}
    (reached : Reached platform evaluator) {now deadline : Nat}
    (current : (evaluator.derive now).category = .current)
    (exposed : (evaluator.derive now).supportDeadlineMs = some deadline) : now < deadline ∧
      (∀ later, now ≤ later → later < deadline → (evaluator.derive later).category = .current) ∧
      ∀ later, deadline ≤ later → (evaluator.derive later).category ≠ .current := by
  have hvalid := reached.policy_valid
  obtain ⟨hpositive, -⟩ := validate_support hvalid
  rw [Evaluator.derive_supportDeadline current] at exposed
  have hcurrent := (evaluator.derive_current_iff now).mp current
  have hexact := fun later (h : now ≤ later) =>
    evaluator.lt_supportDeadline_iff hpositive h exposed
  have hahead : now < deadline := (hexact now le_rfl).mpr hcurrent.isCovered
  refine ⟨hahead, fun later hlater hbefore => ?_, fun later hpassed hstill => ?_⟩
  · exact (evaluator.derive_current_iff later).mpr
      (hcurrent.later hvalid hlater ((hexact later hlater).mp hbefore))
  · have hcovered := ((evaluator.derive_current_iff later).mp hstill).isCovered
    have := (hexact later (by omega)).mpr hcovered
    omega

namespace Reference

/-- CURRENT at a time, with this deadline. -/
def supports (deadline : Option Nat) (now : Nat) (evaluator : Evaluator) : Bool :=
  decide ((evaluator.derive now).category = .current) &&
    decide ((evaluator.derive now).supportDeadlineMs = deadline)

/-- Two failure domains are needed, and `b` and `c` are in one. -/
def paired : ReliancePolicyV1 where
  __ := policy "p1" ∅
  minimumObservers := 2
  observerFailureDomains := .ofList ([("b", "west"), ("c", "west")] : List (Text × Text))

/-- Three pulses, valid to 100, 110 and 120. -/
def staggered : List EvaluatorOperation :=
  [arrival "a" 1 ⟨0x3fc999999999999a⟩ 0 .first, arrival "b" 1 ⟨0x3fc999999999999a⟩ 10 .first,
    arrival "c" 1 ⟨0x3fc999999999999a⟩ 20 .first]

theorem supported_isSome :
    (runsTo paired staggered (supports (some 100) 20)).isSome = true := by
  decide +kernel

/-- An evaluator that is CURRENT until the first of two failure domains runs out. -/
def supported : Evaluator :=
  (runsTo paired staggered (supports (some 100) 20)).get supported_isSome

end Reference

open Reference in
theorem support_deadline_exact_supported : 20 < 100 ∧
      (∀ later, 20 ≤ later → later < 100 → (supported.derive later).category = .current) ∧
      ∀ later, 100 ≤ later → (supported.derive later).category ≠ .current := by
  obtain ⟨hreached, htest⟩ := runsTo_get supported_isSome
  simp only [supports, Bool.and_eq_true, decide_eq_true_eq] at htest
  exact support_deadline_exact hreached htest.1 htest.2

/-! ## Every CURRENT judgment should have a deadline -/

namespace Evaluator

/-- Evidence that lasts to the end of the receiver clock. -/
def unendingEvidence (evaluator : Evaluator) : List ObserverEvidence :=
  evaluator.relevantEvidence.filter fun evidence =>
    decide (evidence.expiresAtMs = u64Max) && evaluator.provenanceIsEligible evidence

/-- Every required tag is covered by enough failure domains to the end of the clock. -/
def Unending (evaluator : Evaluator) : Prop :=
  ∀ tag ∈ evaluator.policy.requiredCoverage, evaluator.policy.minimumObservers ≤
    domainCountForTag evaluator.unendingEvidence tag evaluator.policy.observerFailureDomains

instance (evaluator : Evaluator) : Decidable evaluator.Unending :=
  inferInstanceAs (Decidable (∀ tag ∈ evaluator.policy.requiredCoverage, _ ≤ _))

variable {evaluator : Evaluator}

theorem relevant_timed (filed : Filed evaluator) :
    ∀ evidence ∈ evaluator.relevantEvidence, evidence.expiresAtMs ≤ u64Max := by
  intro evidence hevidence
  obtain ⟨observer, hfound⟩ := (mem_values _ _).mp (List.mem_of_mem_filter hevidence)
  exact filed.timed observer evidence hfound

/-- The evidence left in the last millisecond of the clock lasts to its end. -/
theorem eligibleFresh_last (filed : Filed evaluator) :
    evaluator.eligibleFresh (u64Max - 1) = evaluator.unendingEvidence := by
  refine List.filter_congr fun evidence hevidence => ?_
  have hle := relevant_timed filed evidence hevidence
  have hiff : u64Max - 1 < evidence.expiresAtMs ↔ evidence.expiresAtMs = u64Max := by
    have : 0 < u64Max := by decide
    omega
  simp [hiff]

/-- A CURRENT derivation exposes a deadline, unless its support lasts to the end of the
clock. -/
theorem supportDeadline_isSome_iff (filed : Filed evaluator)
    (valid : evaluator.policy.validate = .ok ()) {now : Nat} (h : evaluator.IsCurrent now) :
    (∃ deadline, evaluator.supportDeadline (evaluator.eligibleFresh now) = some deadline) ↔
      ¬ evaluator.Unending := by
  obtain ⟨hpositive, -⟩ := validate_support valid
  -- some evidence is fresh, so `now` is not the end of the clock
  have hnow : now ≤ u64Max - 1 := by
    obtain ⟨evidence, hevidence⟩ := List.exists_mem_of_ne_nil _ h.fresh
    obtain ⟨hrelevant, hfresh⟩ := List.mem_filter.mp hevidence
    have hle := relevant_timed filed evidence hrelevant
    have hlt : now < evidence.expiresAtMs := by simpa using hfresh
    omega
  obtain ⟨overall, hoverall⟩ := foldlM_min_isSome
    (evaluator.tagDeadline (evaluator.eligibleFresh now)) u64Max
    fun tag htag => evaluator.tagDeadline_isSome hpositive le_rfl (h.isCovered tag htag)
  have hleast := lt_foldlM_min_iff hoverall
  have hunending : u64Max - 1 < overall ↔ evaluator.Unending := by
    have hlast : u64Max - 1 < u64Max := by decide
    rw [hleast, and_iff_right hlast]
    refine forall_congr' fun tag => forall_congr' fun htag => ?_
    obtain ⟨limit, hlimit⟩ := evaluator.tagDeadline_isSome hpositive le_rfl (h.isCovered tag htag)
    have hexact := evaluator.lt_tagDeadline_iff hpositive hnow hlimit
    rw [coveringDomains, eligibleFresh_last filed] at hexact
    simp [hlimit, hexact]
  have hle : ¬ u64Max < overall := fun hlt => lt_irrefl _ ((hleast u64Max).mp hlt).1
  have hsome : (∃ deadline, evaluator.supportDeadline (evaluator.eligibleFresh now) =
      some deadline) ↔ overall ≠ u64Max := by
    simp only [supportDeadline, hoverall]
    simp [Option.filter]
  have hpositiveEnd : 0 < u64Max := by decide
  rw [hsome, ← hunending]
  omega

theorem relevantEvidence_of_same {before after : Evaluator} (same : SameEvidence before after) :
    after.relevantEvidence = before.relevantEvidence := by
  simp only [relevantEvidence, same.observers, same.currentSubjectIncarnation]

theorem unending_of_same {before after : Evaluator} (same : SameEvidence before after) :
    after.Unending ↔ before.Unending := by
  have hevidence : after.unendingEvidence = before.unendingEvidence := by
    simp only [unendingEvidence, relevantEvidence_of_same same, provenanceIsEligible,
      receivedProvenanceIsEligible, same.policy]
  simp only [Unending, hevidence, same.policy]

/-- One evaluation: what its deadline is, by its category. -/
theorem evaluate_deadline (platform : Platform) (requestedNow : Nat) (filed : Filed evaluator)
    (valid : evaluator.policy.validate = .ok ()) {judgment : PresentStateJudgmentV1}
    (h : judgment = (evaluator.evaluate platform requestedNow).1.judgment) :
    (judgment.category ≠ .current → judgment.positiveSupportExpiresAtMonotonicMs = none) ∧
      (judgment.category = .current →
        ((∃ deadline, judgment.positiveSupportExpiresAtMonotonicMs = some deadline ∧
          judgment.evaluatedAtMonotonicMs < deadline) ↔ ¬ evaluator.Unending)) := by
  have hsame := (evaluator.retains_hotState requestedNow).toSameEvidence
  have hcategory : judgment.category = (evaluator.derivation requestedNow).category := by
    rw [h, evaluate_category]
  have hexposed : judgment.positiveSupportExpiresAtMonotonicMs =
      (evaluator.derivation requestedNow).supportDeadlineMs := by
    rw [h, evaluate_judgment]
    rfl
  have htime : judgment.evaluatedAtMonotonicMs = evaluator.evaluationTime requestedNow := by
    rw [h, evaluate_judgment]
    rfl
  rw [hcategory, hexposed, htime, ← unending_of_same hsame]
  simp only [derivation, deriveBarred]
  split
  · simp
  · constructor
    · intro hother
      simp only [derive] at hother ⊢
      rw [if_neg hother]
    · intro hcurrent
      have hvalid : (evaluator.hotState requestedNow).policy.validate = .ok () := by
        rw [hsame.policy]
        exact valid
      have hIsCurrent := (derive_current_iff _ _).mp hcurrent
      rw [derive_supportDeadline hcurrent,
        ← supportDeadline_isSome_iff (filed.of_same hsame) hvalid hIsCurrent]
      constructor
      · rintro ⟨deadline, hdeadline, -⟩
        exact ⟨deadline, hdeadline⟩
      · rintro ⟨deadline, hdeadline⟩
        obtain ⟨hpositive, -⟩ := validate_support hvalid
        exact ⟨deadline, hdeadline,
          (lt_supportDeadline_iff _ hpositive le_rfl hdeadline).mpr hIsCurrent.isCovered⟩

end Evaluator

/-- The evidence an operation that keeps policy and subject evaluates: an admitted pulse stands for
its observer, to its arrival and what is left of its validity. -/
def EvaluatorOperation.evidenced (operation : EvaluatorOperation) (before : Evaluator) :
    Evaluator :=
  match operation.written before with
  | [evidence] => before.admitted evidence.received
  | _ => before

theorem unending_run {platform : Platform} {operation : EvaluatorOperation}
    {before after : Evaluator} {output : Option EvaluationOutput}
    (ran : operation.run platform before = .ok (output, after))
    (kept : operation.keepsBinding = true) :
    after.Unending ↔ (operation.evidenced before).Unending := by
  have hmoves := run_moves ran kept
  unfold EvaluatorOperation.evidenced
  generalize operation.written before = written at hmoves ⊢
  cases hmoves with
  | still same => exact Evaluator.unending_of_same same
  | passed advances same => exact (Evaluator.unending_of_same same).trans Iff.rfl
  | written admits same => exact Evaluator.unending_of_same same

theorem keepsBinding_of_current {platform : Platform} {operation : EvaluatorOperation}
    {before after : Evaluator} {output : EvaluationOutput}
    (ran : operation.run platform before = .ok (some output, after))
    (hcurrent : output.judgment.category = .current) : operation.keepsBinding = true := by
  cases operation with
  | call call atMs =>
    obtain ⟨_, ⟨⟩, hperformed⟩ := run_call ran
    by_contra hreplaces
    have hbarred := Evaluator.perform_barred hperformed
      (by cases call <;> first | rfl | exact absurd rfl hreplaces)
    rw [hbarred] at hcurrent
    cases hcurrent
  | _ => rfl

/-- Whatever a reachable evaluator is asked to do, a judgment that is not CURRENT exposes no
deadline, and a CURRENT one exposes a deadline that lies ahead unless the evidence there was, with
the pulse if it is one that is admitted, covers every required tag to the end of the clock. -/
theorem current_expires_iff {platform : Platform} {operation : EvaluatorOperation}
    {before after : Evaluator} {output : EvaluationOutput} (reached : Reached platform before)
    (ran : operation.run platform before = .ok (some output, after)) :
    (output.judgment.category ≠ .current →
        output.judgment.positiveSupportExpiresAtMonotonicMs = none) ∧
      (output.judgment.category = .current →
        ((∃ deadline, output.judgment.positiveSupportExpiresAtMonotonicMs = some deadline ∧
          output.judgment.evaluatedAtMonotonicMs < deadline) ↔
            ¬ (operation.evidenced before).Unending)) := by
  have hsame := (retains_run ran).toSameEvidence
  have hnext : Reached platform after := .step reached ran
  have hvalid : (operation.prepare platform before).policy.validate = .ok () := by
    rw [← hsame.policy]
    exact hnext.policy_valid
  obtain ⟨hother, hcurrent⟩ := Evaluator.evaluate_deadline platform operation.time
    (hnext.filed.of_same hsame.symm) hvalid (evaluates_run ran).judgment
  refine ⟨hother, fun hcategory => ?_⟩
  rw [hcurrent hcategory, ← unending_run ran (keepsBinding_of_current ran hcategory),
    Evaluator.unending_of_same hsame]

namespace Reference

/-- A pulse that arrives in the last but one millisecond of the clock. -/
def lastPulse : EvaluatorOperation := arrival "a" 1 ⟨0x3fc999999999999a⟩ (u64Max - 1) .first

/-- Whether an operation returns a CURRENT judgment with this deadline. -/
def returnsCurrent (operation : EvaluatorOperation) (deadline : Option Nat)
    (evaluator : Evaluator) : Bool :=
  match operation.run platform evaluator with
  | .ok (some output, _) =>
    decide (output.judgment.category = .current) &&
      decide (output.judgment.positiveSupportExpiresAtMonotonicMs = deadline)
  | _ => false

theorem exists_of_returnsCurrent {operation : EvaluatorOperation} {deadline : Option Nat}
    {evaluator : Evaluator} (h : returnsCurrent operation deadline evaluator = true) :
    ∃ output after, operation.run platform evaluator = .ok (some output, after) ∧
      output.judgment.category = .current ∧
      output.judgment.positiveSupportExpiresAtMonotonicMs = deadline := by
  unfold returnsCurrent at h
  split at h
  · rename_i output after hrun
    simp only [Bool.and_eq_true, decide_eq_true_eq] at h
    exact ⟨output, after, hrun, h⟩
  · cases h

end Reference

open Reference in
/-- A pulse whose expiry saturates supports a CURRENT judgment without a deadline. -/
theorem current_without_deadline : ∃ output after, Reached platform fresh ∧
      lastPulse.run platform fresh = .ok (some output, after) ∧
      output.judgment.category = .current ∧
      output.judgment.positiveSupportExpiresAtMonotonicMs = none := by
  obtain ⟨output, after, hrun, hcurrent, hnone⟩ :=
    exists_of_returnsCurrent (show returnsCurrent lastPulse none fresh = true by decide +kernel)
  exact ⟨output, after, .new new_fresh, hrun, hcurrent, hnone⟩

open Reference in
theorem current_expires_iff_first : ∃ output after,
      (arrival "a" 1 ⟨0x3fc999999999999a⟩ 0 .first).run platform fresh =
        .ok (some output, after) ∧ output.judgment.category = .current ∧
      ((∃ deadline, output.judgment.positiveSupportExpiresAtMonotonicMs = some deadline ∧
        output.judgment.evaluatedAtMonotonicMs < deadline) ↔
          ¬ ((arrival "a" 1 ⟨0x3fc999999999999a⟩ 0 .first).evidenced fresh).Unending) := by
  obtain ⟨output, after, hrun, hcurrent, -⟩ := exists_of_returnsCurrent
    (show returnsCurrent (arrival "a" 1 ⟨0x3fc999999999999a⟩ 0 .first) (some 100) fresh = true by
      decide +kernel)
  exact ⟨output, after, hrun, hcurrent, (current_expires_iff (.new new_fresh) hrun).2 hcurrent⟩

end ConstellationMonitor.Evaluation
