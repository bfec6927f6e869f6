/-
  Support/LoadPressure.lean --- producing, receiving and resolving load-pressure support
  (`pulse-nq-load-support/src/lib.rs`) under one valid configuration.

  Files are written where none was, by calls that complete or are killed while they write; a
  torn file stays and every reading of it fails.  A file is named after its acquisition id, and
  what the configuration signs it also verifies.  Boot identities do not come back.

  `resolve` takes the receipt received last.  Observation and arrival are two orders, so a
  receipt that arrives late can stand before a contradiction that was observed after it.
-/
import ConstellationMonitor.Foundation.Fallible

namespace ConstellationMonitor.LoadSupport

open Foundation Relation

/-! ## Evidence and receipts -/

/-- What the witness found. -/
inductive LoadPressureStateV1 where
  | present
  | explicitlyAbsent
  deriving DecidableEq

/-- A tick of one boot's clock. -/
structure ReceiverInstantV1 where
  clockId : Text
  tickMs : Nat
  deriving DecidableEq

/-- `LoadPressureEvidenceV1` in its envelope, without what the configuration fixes. -/
structure LoadPressureEvidenceV1 where
  acquisitionId : Text
  state : LoadPressureStateV1
  observedAt : ReceiverInstantV1
  deriving DecidableEq

/-- Evidence with the instant of its receipt. -/
structure ReceivedLoadPressureSupportV1 where
  receiptId : Text
  evidence : LoadPressureEvidenceV1
  receivedAt : ReceiverInstantV1
  expiryTickMs : Nat
  deriving DecidableEq

/-- A file as its readers find it. -/
inductive File (α : Type) where
  | torn (error : Text)
  | whole (value : α)

/-- Five minutes. -/
def supportValidityMs : Nat := 300000

/-- The bound of the receipt store. -/
def maxRecords : Nat := 1024

/-- The state the diagnostic expects, `require_token` and the object digests. -/
structure LoadSupportConfigV1 where
  expectedState : LoadPressureStateV1
  requireToken : Text → Except Text Unit
  evidenceId : LoadPressureEvidenceV1 → Text
  receiptId : LoadPressureEvidenceV1 → ReceiverInstantV1 → Text

/-- The boot clock and the two directories. -/
structure State where
  now : ReceiverInstantV1
  outgoing : List (Text × File LoadPressureEvidenceV1) := []
  receipts : List (Text × File ReceivedLoadPressureSupportV1) := []

namespace State

variable (config : LoadSupportConfigV1) (state : State)

/-- `produce_with` for a reading of the host that gives `pressure`. -/
def produce (acquisitionId : Text) (pressure : LoadPressureStateV1) : State × Except Text Text :=
  match config.requireToken acquisitionId with
  | .error error => (state, .error error)
  | .ok () =>
    match state.outgoing.lookup acquisitionId with
    | some (.torn error) => (state, .error error)
    | some (.whole existing) => (state, .ok (config.evidenceId existing))
    | none =>
      let evidence := ⟨acquisitionId, pressure, state.now⟩
      ({ state with outgoing := state.outgoing ++ [(acquisitionId, .whole evidence)] },
        .ok (config.evidenceId evidence))

/-- `verify_receipt`, as far as it is about the clock.  The clocks are compared before the
expiry is computed. -/
def verifyReceipt (receipt : ReceivedLoadPressureSupportV1) : Except Text Unit := do
  let invalid : Text := "support receipt custody or receiver-clock binding is invalid"
  refuseIf (receipt.receivedAt.clockId ≠ receipt.evidence.observedAt.clockId ||
    receipt.receivedAt.tickMs < receipt.evidence.observedAt.tickMs) invalid
  refuseIf (2 ^ 64 ≤ receipt.receivedAt.tickMs + supportValidityMs) "support expiry overflow"
  refuseIf (receipt.expiryTickMs ≠ receipt.receivedAt.tickMs + supportValidityMs) invalid

/-- What an ingest comes to before it writes: the receipt it finds, or the one to write. -/
inductive Intake where
  | retained (receipt : ReceivedLoadPressureSupportV1)
  | new (receipt : ReceivedLoadPressureSupportV1)
  deriving DecidableEq

/-- `ingest_with` on evidence that was read and whose receipt is not there yet. -/
def receive (evidence : LoadPressureEvidenceV1) : Except Text Intake := do
  refuseIf (state.now.clockId ≠ evidence.observedAt.clockId ||
      state.now.tickMs < evidence.observedAt.tickMs)
    "producer evidence is not ordered on the receiver's current boot clock"
  refuseIf (2 ^ 64 ≤ state.now.tickMs + supportValidityMs) "support expiry overflow"
  pure (.new ⟨config.receiptId evidence state.now, evidence, state.now,
    state.now.tickMs + supportValidityMs⟩)

/-- `ingest_with` up to its write. -/
def intake (acquisitionId : Text) : Except Text Intake := do
  config.requireToken acquisitionId
  match state.outgoing.lookup acquisitionId with
  | none => .error "No such file or directory (os error 2)"
  | some (.torn error) => .error error
  | some (.whole evidence) =>
    if evidence.acquisitionId ≠ acquisitionId then
      .error "producer occurrence does not match requested acquisition ID"
    else
      match state.receipts.lookup acquisitionId with
      | none => state.receive config evidence
      | some (.torn error) => .error error
      | some (.whole existing) => do
        verifyReceipt existing
        if existing.evidence ≠ evidence then
          .error "replayed acquisition conflicts with the retained exact envelope"
        else pure (.retained existing)

/-- `ingest`: a new receipt is filed. -/
def ingest (acquisitionId : Text) : State × Except Text Text :=
  match state.intake config acquisitionId with
  | .error error => (state, .error error)
  | .ok (.retained receipt) => (state, .ok receipt.receiptId)
  | .ok (.new receipt) =>
    ({ state with receipts := state.receipts ++ [(acquisitionId, .whole receipt)] },
      .ok receipt.receiptId)

end State

/-! ## Resolving -/

/-- The standings of an answer. -/
inductive QualifiedStandingV1 where
  | current
  | expired
  | unknown
  | unsupported
  | contradictory
  | blind
  deriving DecidableEq

/-- `QualifiedSupportV1`, without what it copies from the query and the configuration. -/
structure QualifiedSupportV1 where
  evaluatedAt : ReceiverInstantV1
  expiry : Option Nat
  standing : QualifiedStandingV1
  evidenceRefs : List Text
  contradictionRefs : List Text

/-- The receipts of the directory, read one by one. -/
def readAll : List (Text × File ReceivedLoadPressureSupportV1) →
    Except Text (List ReceivedLoadPressureSupportV1)
  | [] => .ok []
  | (_, .torn error) :: _ => .error error
  | (_, .whole receipt) :: rest => do
    State.verifyReceipt receipt
    let others ← readAll rest
    pure (receipt :: others)

/-- `load_receipts`. -/
def loadReceipts (state : State) : Except Text (List ReceivedLoadPressureSupportV1) :=
  if maxRecords < state.receipts.length then
    .error "support receipt store exceeds its closed record bound"
  else readAll state.receipts

/-- The order of `resolve_with`: by the tick of receipt, then by the receipt's identity. -/
def NotAfter (left right : ReceivedLoadPressureSupportV1) : Prop :=
  left.receivedAt.tickMs < right.receivedAt.tickMs ∨
    left.receivedAt.tickMs = right.receivedAt.tickMs ∧
      (compare left.receiptId right.receiptId).isLE = true

instance (left right : ReceivedLoadPressureSupportV1) : Decidable (NotAfter left right) :=
  inferInstanceAs (Decidable (_ ∨ _))

/-- The receipt of a boot clock that was received last. -/
def latest (receipts : List ReceivedLoadPressureSupportV1) (clockId : Text) :
    Option ReceivedLoadPressureSupportV1 :=
  (receipts.insertionSort NotAfter).reverse.find?
    fun receipt => receipt.receivedAt.clockId = clockId

/-- What `resolve_with` answers from the receipts. -/
def standingOf (config : LoadSupportConfigV1) (receipts : List ReceivedLoadPressureSupportV1)
    (now : ReceiverInstantV1) : QualifiedSupportV1 :=
  match latest receipts now.clockId with
  | none => ⟨now, none, .unknown, [], []⟩
  | some receipt =>
    if receipt.expiryTickMs ≤ now.tickMs then
      ⟨now, some receipt.expiryTickMs, .expired, [config.evidenceId receipt.evidence], []⟩
    else if receipt.evidence.state ≠ config.expectedState then
      ⟨now, none, .contradictory, [], [config.evidenceId receipt.evidence]⟩
    else ⟨now, some receipt.expiryTickMs, .current, [config.evidenceId receipt.evidence], []⟩

/-- `resolve_with` for a valid query. -/
def resolve (config : LoadSupportConfigV1) (state : State) : Except Text QualifiedSupportV1 := do
  let receipts ← loadReceipts state
  pure (standingOf config receipts state.now)

/-! ## Histories -/

/-- One call, or the clock.  A call killed before it creates its file changes nothing, one
killed after its write has changed what a complete call changes. -/
inductive Step (config : LoadSupportConfigV1) : State → State → Prop
  | tick {state : State} (time : Nat) :
      Step config state { state with now := ⟨state.now.clockId, state.now.tickMs + time⟩ }
  | reboot {state : State} (clockId : Text) (tickMs : Nat)
      (hfresh : ∀ id receipt, (id, File.whole receipt) ∈ state.receipts →
        receipt.receivedAt.clockId ≠ clockId) :
      Step config state { state with now := ⟨clockId, tickMs⟩ }
  | produce {state : State} (id : Text) (pressure : LoadPressureStateV1) :
      Step config state (state.produce config id pressure).1
  | produceKilled {state : State} (id error : Text) (htoken : config.requireToken id = .ok ())
      (hnone : state.outgoing.lookup id = none) :
      Step config state { state with outgoing := state.outgoing ++ [(id, .torn error)] }
  | ingest {state : State} (id : Text) : Step config state (state.ingest config id).1
  | ingestKilled {state : State} (id error : Text) {receipt : ReceivedLoadPressureSupportV1}
      (hnew : state.intake config id = .ok (.new receipt)) :
      Step config state { state with receipts := state.receipts ++ [(id, .torn error)] }

/-- A whole receipt of the directory. -/
def State.Retains (state : State) (receipt : ReceivedLoadPressureSupportV1) : Prop :=
  ∃ id, (id, File.whole receipt) ∈ state.receipts

section Receipts

variable {config : LoadSupportConfigV1} {state before after : State}
  {receipts : List ReceivedLoadPressureSupportV1} {receipt : ReceivedLoadPressureSupportV1}
  {clockId : Text}

instance : Std.Total NotAfter where
  total left right := by
    unfold NotAfter
    rcases lt_trichotomy left.receivedAt.tickMs right.receivedAt.tickMs with h | h | h
    · exact .inl (.inl h)
    · by_cases hid : (compare left.receiptId right.receiptId).isLE = true
      · exact .inl (.inr ⟨h, hid⟩)
      · refine .inr (.inr ⟨h.symm, ?_⟩)
        rw [Std.OrientedOrd.eq_swap]
        cases hcompare : compare left.receiptId right.receiptId <;> simp_all
    · exact .inr (.inl h)

instance : IsTrans ReceivedLoadPressureSupportV1 NotAfter where
  trans first second third h h' := by
    rcases h with h | ⟨h, hid⟩ <;> rcases h' with h' | ⟨h', hid'⟩
    · exact .inl (h.trans h')
    · exact .inl (h' ▸ h)
    · exact .inl (h ▸ h')
    · exact .inr ⟨h.trans h', Std.TransOrd.isLE_trans hid hid'⟩

/-- The receipt taken is the last one received of its boot clock. -/
theorem latest_eq_some (h : latest receipts clockId = some receipt) :
    receipt ∈ receipts ∧ receipt.receivedAt.clockId = clockId ∧
      ∀ other ∈ receipts, other.receivedAt.clockId = clockId →
        other.receivedAt.tickMs ≤ receipt.receivedAt.tickMs := by
  obtain ⟨hclock, newer, older, hsplit, hnewer⟩ := List.find?_eq_some_iff_append.mp h
  have hmem : ∀ other, other ∈ receipts ↔ other ∈ newer ++ receipt :: older := by
    intro other
    rw [← hsplit, List.mem_reverse, List.mem_insertionSort]
  refine ⟨(hmem receipt).mpr (by simp), by simpa using hclock, fun other hother hsame => ?_⟩
  have hsorted : (newer ++ receipt :: older).Pairwise fun left right => NotAfter right left := by
    rw [← hsplit]
    exact List.pairwise_reverse.mpr (List.pairwise_insertionSort NotAfter receipts)
  rcases List.mem_append.mp ((hmem other).mp hother) with hleft | hright
  · simpa [hsame] using hnewer other hleft
  · rcases List.mem_cons.mp hright with rfl | holder
    · exact le_rfl
    · have hpair := (List.pairwise_cons.mp (List.pairwise_append.mp hsorted).2.1).1 other holder
      rcases hpair with hlt | ⟨heq, -⟩
      · exact hlt.le
      · exact heq.le

theorem latest_eq_none (h : latest receipts clockId = none) :
    ∀ other ∈ receipts, other.receivedAt.clockId ≠ clockId := by
  intro other hother
  have hnone := List.find?_eq_none.mp h other
  rw [List.mem_reverse, List.mem_insertionSort] at hnone
  simpa using hnone hother

theorem readAll_eq_ok {files : List (Text × File ReceivedLoadPressureSupportV1)}
    (h : readAll files = .ok receipts) :
    receipt ∈ receipts ↔ ∃ id, (id, File.whole receipt) ∈ files := by
  induction files generalizing receipts with
  | nil =>
    cases h
    simp
  | cons file rest ih =>
    obtain ⟨id, torn | first⟩ := file
    · cases h
    · rw [readAll, check_bind_eq_ok, except_bind_eq_ok] at h
      obtain ⟨-, others, hothers, hpure⟩ := h
      cases hpure
      simp [ih hothers, exists_or]

theorem loadReceipts_eq_ok (h : loadReceipts state = .ok receipts) :
    receipt ∈ receipts ↔ state.Retains receipt := by
  rw [loadReceipts, ite_error_eq_ok] at h
  exact readAll_eq_ok h.2

/-- What an ingest writes, and where it comes from. -/
theorem intake_new {id : Text} (h : state.intake config id = .ok (.new receipt)) :
    receipt.receivedAt = state.now ∧ receipt.expiryTickMs = state.now.tickMs + supportValidityMs ∧
      state.outgoing.lookup id = some (.whole receipt.evidence) ∧
      State.verifyReceipt receipt = .ok () := by
  unfold State.intake at h
  rw [check_bind_eq_ok] at h
  obtain ⟨-, h⟩ := h
  split at h
  · cases h
  · cases h
  rename_i evidence hevidence
  rw [ite_error_eq_ok] at h
  obtain ⟨-, h⟩ := h
  split at h
  · unfold State.receive at h
    simp only [check_bind_eq_ok, pure, Except.pure, Except.ok.injEq, State.Intake.new.injEq,
      refuseIf_eq_ok, decide_eq_false_iff_not] at h
    obtain ⟨horder, hroom, rfl⟩ := h
    refine ⟨rfl, rfl, hevidence, ?_⟩
    simp only [State.verifyReceipt, check_bind_eq_ok, refuseIf_eq_ok, decide_eq_false_iff_not]
    exact ⟨horder, hroom, not_not.mpr rfl⟩
  · cases h
  · rw [check_bind_eq_ok, ite_error_eq_ok] at h
    cases h.2.2

/-- What a step may do to the clock and to the receipts. -/
theorem Step.effect (h : Step config before after) : (after.receipts = before.receipts ∧
      (after.now.clockId = before.now.clockId ∧ before.now.tickMs ≤ after.now.tickMs ∨
        ∀ receipt, before.Retains receipt → receipt.receivedAt.clockId ≠ after.now.clockId)) ∨
    after.now = before.now ∧ ∃ id file receipt, after.receipts = before.receipts ++ [(id, file)] ∧
      before.intake config id = .ok (.new receipt) ∧
      (file = .whole receipt ∨ ∃ error, file = .torn error) := by
  cases h with
  | tick time => exact .inl ⟨rfl, .inl ⟨rfl, Nat.le_add_right _ _⟩⟩
  | reboot clockId tickMs hfresh =>
    exact .inl ⟨rfl, .inr fun receipt ⟨id, hmem⟩ => hfresh id receipt hmem⟩
  | produce id pressure =>
    refine .inl ⟨?_, .inl ⟨?_, ?_⟩⟩ <;> (unfold State.produce; split) <;> try rfl
    all_goals (split <;> rfl)
  | produceKilled id error htoken hnone => exact .inl ⟨rfl, .inl ⟨rfl, le_rfl⟩⟩
  | ingest id =>
    unfold State.ingest
    split
    · exact .inl ⟨rfl, .inl ⟨rfl, le_rfl⟩⟩
    · exact .inl ⟨rfl, .inl ⟨rfl, le_rfl⟩⟩
    · rename_i receipt hnew
      exact .inr ⟨rfl, id, _, receipt, rfl, hnew, .inl rfl⟩
  | ingestKilled id error hnew => exact .inr ⟨rfl, id, _, _, rfl, hnew, .inr ⟨error, rfl⟩⟩

end Receipts

/-! ## Contradictions in the order of observation -/

/-- Evidence received on the current clock that is unexpired, against the expected state, and
observed after `evidence`. -/
def Hidden (config : LoadSupportConfigV1) (state : State) (evidence : LoadPressureEvidenceV1)
    (receipt : ReceivedLoadPressureSupportV1) : Prop :=
  state.Retains receipt ∧ receipt.receivedAt.clockId = state.now.clockId ∧
    state.now.tickMs < receipt.expiryTickMs ∧ receipt.evidence.state ≠ config.expectedState ∧
    evidence.observedAt.tickMs < receipt.evidence.observedAt.tickMs

/-- A receipt that arrives does not stand before a contradiction: supporting evidence was
observed no earlier than the unexpired contradictions, and a contradiction is received on a
later tick than the support it was observed after. -/
def Timely (config : LoadSupportConfigV1) (before after : State) : Prop :=
  ∀ old new, before.Retains old → after.Retains new → ¬before.Retains new →
    old.receivedAt.clockId = new.receivedAt.clockId →
    (new.evidence.state = config.expectedState → old.evidence.state ≠ config.expectedState →
      new.evidence.observedAt.tickMs < old.evidence.observedAt.tickMs →
      old.expiryTickMs ≤ before.now.tickMs) ∧
    (new.evidence.state ≠ config.expectedState → old.evidence.state = config.expectedState →
      old.evidence.observedAt.tickMs < new.evidence.observedAt.tickMs →
      old.receivedAt.tickMs < new.receivedAt.tickMs)

/-- Of the current clock, a contradiction observed after supporting evidence has expired or was
received after it. -/
def Ordered (config : LoadSupportConfigV1) (state : State) : Prop :=
  ∀ support contradiction, state.Retains support →
    Hidden config state support.evidence contradiction →
    support.receivedAt.clockId = state.now.clockId → support.evidence.state = config.expectedState →
    support.receivedAt.tickMs < contradiction.receivedAt.tickMs

section Histories

variable {config : LoadSupportConfigV1} {state before after : State}
  {receipt : ReceivedLoadPressureSupportV1}

theorem retains_append {id : Text} {file : File ReceivedLoadPressureSupportV1}
    (hreceipts : after.receipts = before.receipts ++ [(id, file)]) :
    after.Retains receipt ↔ before.Retains receipt ∨ file = .whole receipt := by
  simp only [State.Retains, hreceipts, List.mem_append, List.mem_singleton, Prod.mk.injEq,
    exists_or]
  refine or_congr_right ⟨fun ⟨_, _, heq⟩ => heq.symm, fun heq => ⟨id, rfl, heq.symm⟩⟩

theorem Ordered.step (hordered : Ordered config before) (h : Step config before after)
    (htimely : Timely config before after) : Ordered config after := by
  intro support contradiction hsupport ⟨hcontradiction, hclock, hlive, hstate, hlater⟩ hsame
    hexpected
  rcases h.effect with ⟨hreceipts, htime⟩ | ⟨hnow, id, file, receipt, hreceipts, hnew, hfile⟩
  · have hretains : ∀ receipt, after.Retains receipt ↔ before.Retains receipt := by
      simp [State.Retains, hreceipts]
    rw [hretains] at hsupport hcontradiction
    rcases htime with ⟨hboot, hticks⟩ | hfresh
    · refine hordered support contradiction hsupport
        ⟨hcontradiction, hclock.trans hboot, by omega, hstate, hlater⟩ (hsame.trans hboot) hexpected
    · exact absurd hsame (hfresh support hsupport)
  · rw [hnow] at hclock hlive hsame
    have hcases : ∀ receipt, after.Retains receipt →
        before.Retains receipt ∨ file = .whole receipt :=
      fun receipt => (retains_append hreceipts).mp
    by_cases holdSupport : before.Retains support
    · by_cases holdContradiction : before.Retains contradiction
      · exact hordered support contradiction holdSupport
          ⟨holdContradiction, hclock, hlive, hstate, hlater⟩ hsame hexpected
      · exact (htimely support contradiction holdSupport hcontradiction holdContradiction
          (hsame.trans hclock.symm)).2 hstate hexpected hlater
    · by_cases holdContradiction : before.Retains contradiction
      · have hexpired := (htimely contradiction support holdContradiction hsupport holdSupport
          (hclock.trans hsame.symm)).1 hexpected hstate hlater
        omega
      · -- One step brings one receipt, and it cannot both support and contradict.
        have hone := (hcases support hsupport).resolve_left holdSupport
        rw [(hcases contradiction hcontradiction).resolve_left holdContradiction] at hone
        cases hone
        exact absurd hexpected hstate

/-- A history in which every receipt is timely. -/
def TimelyRun (config : LoadSupportConfigV1) : State → State → Prop :=
  ReflTransGen fun before after => Step config before after ∧ Timely config before after

theorem TimelyRun.ordered {now : ReceiverInstantV1} (h : TimelyRun config { now } state) :
    Ordered config state := by
  induction h with
  | refl =>
    rintro support contradiction ⟨id, hmem⟩
    cases hmem
  | tail _ hstep ih => exact ih.step hstep.1 hstep.2

/-- What a current answer refers to. -/
theorem resolve_current {support : QualifiedSupportV1}
    (h : resolve config state = .ok support) (hcurrent : support.standing = .current) :
    ∃ receipt, state.Retains receipt ∧ support.evidenceRefs = [config.evidenceId receipt.evidence] ∧
      receipt.receivedAt.clockId = state.now.clockId ∧
      receipt.evidence.state = config.expectedState ∧ state.now.tickMs < receipt.expiryTickMs ∧
      ∀ other, state.Retains other → other.receivedAt.clockId = state.now.clockId →
        other.receivedAt.tickMs ≤ receipt.receivedAt.tickMs := by
  obtain ⟨receipts, hload, hpure⟩ := (except_bind_eq_ok _ _ _).mp h
  cases hpure
  unfold standingOf at hcurrent ⊢
  split at hcurrent
  · cases hcurrent
  rename_i receipt hlatest
  obtain ⟨hmem, hclock, hlast⟩ := latest_eq_some hlatest
  split at hcurrent
  · cases hcurrent
  rename_i hlive
  split at hcurrent
  · cases hcurrent
  rename_i hstate
  refine ⟨receipt, (loadReceipts_eq_ok hload).mp hmem, ?_, hclock, not_not.mp hstate,
    not_le.mp hlive, fun other hother => hlast other ((loadReceipts_eq_ok hload).mpr hother)⟩
  rw [if_neg hlive, if_neg hstate]

/-- Up to a later state receipts are only added, and while none is the clock goes on or has
left all of them behind. -/
theorem run_effect (h : ReflTransGen (Step config) before after) :
    ∃ more, after.receipts = before.receipts ++ more ∧ (more = [] →
      after.now.clockId = before.now.clockId ∧ before.now.tickMs ≤ after.now.tickMs ∨
        ∀ receipt, before.Retains receipt → receipt.receivedAt.clockId ≠ after.now.clockId) := by
  induction h with
  | refl => exact ⟨[], by simp, fun _ => .inl ⟨rfl, le_rfl⟩⟩
  | tail _ hstep ih =>
    obtain ⟨more, hreceipts, hclock⟩ := ih
    rcases hstep.effect with ⟨hsame, htime⟩ | ⟨-, id, file, _, hadded, -⟩
    · refine ⟨more, hsame.trans hreceipts, fun hnone => ?_⟩
      subst hnone
      rw [List.append_nil] at hreceipts
      rcases htime with ⟨hboot, hticks⟩ | hfresh
      · rw [hboot]
        exact (hclock rfl).imp_left fun ⟨hstart, hle⟩ => ⟨hstart, hle.trans hticks⟩
      · simp only [State.Retains, hreceipts] at hfresh
        exact .inr hfresh
    · refine ⟨more ++ [(id, file)], ?_, by simp⟩
      rw [hadded, hreceipts, List.append_assoc]

/-- Once support has expired it is not current before a new acquisition is received. -/
theorem not_current_of_expired {support later : QualifiedSupportV1}
    (h : resolve config before = .ok support) (hexpired : support.standing = .expired)
    (hrun : ReflTransGen (Step config) before after)
    (hids : after.receipts.map Prod.fst = before.receipts.map Prod.fst)
    (h' : resolve config after = .ok later) : later.standing ≠ .current := by
  obtain ⟨more, hreceipts, hclock⟩ := run_effect hrun
  obtain rfl : more = [] := by simpa [hreceipts] using hids
  rw [List.append_nil] at hreceipts
  intro hcurrent
  obtain ⟨receipt, hretains, -, hboot, -, hlive, hlast⟩ := resolve_current h' hcurrent
  obtain ⟨receipts, hload, hpure⟩ := (except_bind_eq_ok _ _ _).mp h
  cases hpure
  have hload' : loadReceipts after = .ok receipts := by
    rw [← hload, loadReceipts, loadReceipts, hreceipts]
  rcases hclock rfl with ⟨hsame, hticks⟩ | hfresh
  · -- The same receipt is taken at both times, and it had expired at the first.
    obtain ⟨receipts', hload'', hpure⟩ := (except_bind_eq_ok _ _ _).mp h'
    cases hpure
    obtain rfl : receipts = receipts' := Except.ok.inj (hload'.symm.trans hload'')
    unfold standingOf at hexpired hcurrent
    rw [hsame] at hcurrent
    split at hexpired
    · cases hexpired
    rename_i first hlatest
    rw [hlatest] at hcurrent
    dsimp only at hcurrent
    split at hexpired
    · rw [if_pos (by omega)] at hcurrent
      cases hcurrent
    · split at hexpired <;> cases hexpired
  · refine hfresh receipt ?_ hboot
    simpa [State.Retains, hreceipts] using hretains

/-- A late receipt of support is taken although a contradiction was observed after it. -/
theorem resolve_after_late {id : Text} {support : QualifiedSupportV1}
    (hnew : state.intake config id = .ok (.new receipt))
    (hexpected : receipt.evidence.state = config.expectedState)
    (hearlier : ∀ other, state.Retains other → other.receivedAt.clockId = state.now.clockId →
      other.receivedAt.tickMs < state.now.tickMs)
    (h : resolve config (state.ingest config id).1 = .ok support) :
    support.standing = .current ∧ support.evidenceRefs = [config.evidenceId receipt.evidence] := by
  obtain ⟨hreceived, hexpiry, -, -⟩ := intake_new hnew
  obtain ⟨receipts, hload, hpure⟩ := (except_bind_eq_ok _ _ _).mp h
  cases hpure
  have hafter : (state.ingest config id).1 =
      { state with receipts := state.receipts ++ [(id, .whole receipt)] } := by
    simp [State.ingest, hnew]
  rw [hafter] at hload ⊢
  have hmem : ∀ other, other ∈ receipts ↔ state.Retains other ∨ File.whole receipt = .whole other :=
    fun other => (loadReceipts_eq_ok hload).trans (retains_append rfl)
  have hreceipt : receipt ∈ receipts := (hmem receipt).mpr (.inr rfl)
  have hlatest : latest receipts state.now.clockId = some receipt := by
    cases hfound : latest receipts state.now.clockId with
    | none => exact absurd (by rw [hreceived]) (latest_eq_none hfound receipt hreceipt)
    | some found =>
      obtain ⟨hin, hclock, hlast⟩ := latest_eq_some hfound
      rcases (hmem found).mp hin with hold | heq
      · have hlt := hearlier found hold hclock
        have hle := hlast receipt hreceipt (by rw [hreceived])
        rw [hreceived] at hle
        omega
      · cases heq
        rfl
  have hlive : ¬receipt.expiryTickMs ≤ state.now.tickMs := by
    rw [hexpiry, supportValidityMs]
    omega
  simp [standingOf, hlatest, hlive, hexpected]

end Histories

/-- Current support hides no newer contradiction in any history whose receipts are timely;
expired support is not current again before a new acquisition is received; and support received
after a contradiction that was observed later is taken, if an answer is given, and hides it. -/
theorem load_support_hides_nothing (config : LoadSupportConfigV1) :
    (∀ now state support, TimelyRun config { now } state → resolve config state = .ok support →
      support.standing = .current → ∃ receipt, state.Retains receipt ∧
        support.evidenceRefs = [config.evidenceId receipt.evidence] ∧
        ∀ contradiction, ¬Hidden config state receipt.evidence contradiction) ∧
      (∀ before after support later, resolve config before = .ok support →
        support.standing = .expired → ReflTransGen (Step config) before after →
        after.receipts.map Prod.fst = before.receipts.map Prod.fst →
        resolve config after = .ok later → later.standing ≠ .current) ∧
      ∀ state id receipt contradiction support, state.intake config id = .ok (.new receipt) →
        receipt.evidence.state = config.expectedState →
        Hidden config state receipt.evidence contradiction →
        (∀ other, state.Retains other → other.receivedAt.clockId = state.now.clockId →
          other.receivedAt.tickMs < state.now.tickMs) →
        resolve config (state.ingest config id).1 = .ok support → support.standing = .current ∧
          support.evidenceRefs = [config.evidenceId receipt.evidence] := by
  refine ⟨fun now state support hrun h hcurrent => ?_, ?_, ?_⟩
  · obtain ⟨receipt, hretains, hrefs, hclock, hexpected, -, hlast⟩ := resolve_current h hcurrent
    refine ⟨receipt, hretains, hrefs, fun contradiction hhidden => ?_⟩
    have hlater := hrun.ordered receipt contradiction hretains hhidden hclock hexpected
    have hnot := hlast contradiction hhidden.1 hhidden.2.1
    omega
  · intro before after support later h hexpired hrun hids h'
    exact not_current_of_expired h hexpired hrun hids h'
  · intro state id receipt contradiction support hnew hexpected _ hearlier h
    exact resolve_after_late hnew hexpected hearlier h

namespace Reference

/-- The diagnostic expects no pressure. -/
def config : LoadSupportConfigV1 where
  expectedState := .explicitlyAbsent
  requireToken _ := .ok ()
  evidenceId evidence := evidence.acquisitionId
  receiptId evidence _ := evidence.acquisitionId

/-- `b` observes the other state at tick 5 and is received at 6. -/
def contradictedFirst : State :=
  let produced := (({ now := ⟨"boot", 5⟩ } : State).produce config "b" .present).1
  ({ produced with now := ⟨"boot", 6⟩ }.ingest config "b").1

/-- At 10 `a` observes the expected state.  `a` is received at 11. -/
def supportedLater : State :=
  let produced :=
    ({ contradictedFirst with now := ⟨"boot", 10⟩ }.produce config "a" .explicitlyAbsent).1
  ({ produced with now := ⟨"boot", 11⟩ }.ingest config "a").1

theorem supportedLater_timely : TimelyRun config { now := ⟨"boot", 5⟩ } supportedLater := by
  have hcalm : ∀ {before after : State}, after.receipts = before.receipts ∨ before.receipts = [] →
      Timely config before after := by
    rintro before after (hsame | hnone) old new ⟨id, hold⟩ ⟨name, hnew⟩ hfresh
    · exact absurd ⟨name, hsame ▸ hnew⟩ hfresh
    · rw [hnone] at hold
      cases hold
  have hfirst : TimelyRun config { now := ⟨"boot", 5⟩ } contradictedFirst :=
    (ReflTransGen.single ⟨.produce "b" .present, hcalm (.inl rfl)⟩).tail
      ⟨.tick 1, hcalm (.inl rfl)⟩ |>.tail ⟨.ingest "b", hcalm (.inr rfl)⟩
  refine hfirst.tail ⟨.tick 4, hcalm (.inl rfl)⟩ |>.tail
    ⟨.produce "a" .explicitlyAbsent, hcalm (.inl rfl)⟩ |>.tail ⟨.tick 1, hcalm (.inl rfl)⟩ |>.tail
    ⟨.ingest "a", ?_⟩
  -- `a` supports and was observed after `b`, so neither half of timeliness asks anything.
  rintro old new ⟨_, hold⟩ ⟨_, hnew⟩ hfresh -
  cases List.mem_singleton.mp hold
  rcases List.mem_cons.mp hnew with hb | hnew
  · cases hb
    exact absurd ⟨_, hold⟩ hfresh
  · cases List.mem_singleton.mp hnew
    exact ⟨fun _ _ hlt => absurd hlt (by decide), fun hother => absurd rfl hother⟩

/-- The answer rests on `a` while `b`, observed before it, has not expired. -/
theorem load_support_hides_nothing_prompt :
    ∃ support, TimelyRun config { now := ⟨"boot", 5⟩ } supportedLater ∧
      resolve config supportedLater = .ok support ∧ support.standing = .current ∧
      (∃ receipt, supportedLater.Retains receipt ∧
        supportedLater.now.tickMs < receipt.expiryTickMs ∧
        receipt.evidence.state ≠ config.expectedState) ∧
      ∃ receipt, supportedLater.Retains receipt ∧
        support.evidenceRefs = [config.evidenceId receipt.evidence] ∧
        ∀ contradiction, ¬Hidden config supportedLater receipt.evidence contradiction := by
  obtain ⟨support, hresolve, hcurrent⟩ : ∃ support,
      resolve config supportedLater = .ok support ∧ support.standing = .current := ⟨_, rfl, rfl⟩
  refine ⟨support, supportedLater_timely, hresolve, hcurrent,
    ⟨⟨"b", ⟨"b", .present, ⟨"boot", 5⟩⟩, ⟨"boot", 6⟩, 300006⟩, ⟨"b", .head _⟩, by decide,
      by decide⟩,
    (load_support_hides_nothing config).1 _ _ support supportedLater_timely hresolve hcurrent⟩

/-- `a` observes the expected state at tick 10. -/
def observed : State := (({ now := ⟨"boot", 10⟩ } : State).produce config "a" .explicitlyAbsent).1

/-- At 20 `b` observes the other state.  `b` is received at 30. -/
def contradicted : State :=
  let second := ({ observed with now := ⟨"boot", 20⟩ }.produce config "b" .present).1
  ({ second with now := ⟨"boot", 30⟩ }.ingest config "b").1

/-- `a` is received at 40. -/
def lateSupport : State := ({ contradicted with now := ⟨"boot", 40⟩ }.ingest config "a").1

/-- The answer rests on `a`, although `b` was observed after it and has not expired. -/
theorem late_support_hides_contradiction :
    ReflTransGen (Step config) { now := ⟨"boot", 10⟩ } lateSupport ∧
      ∃ support, resolve config lateSupport = .ok support ∧ support.standing = .current ∧
        support.evidenceRefs = ["a"] ∧ ∃ contradiction,
          Hidden config lateSupport ⟨"a", .explicitlyAbsent, ⟨"boot", 10⟩⟩ contradiction := by
  refine ⟨?_, _, rfl, rfl, rfl,
    ⟨"b", ⟨"b", .present, ⟨"boot", 20⟩⟩, ⟨"boot", 30⟩, 300030⟩, ⟨"b", .head _⟩, rfl, ?_⟩
  · have hproduced : ReflTransGen (Step config) _ observed :=
      .single (.produce "a" .explicitlyAbsent)
    have hsecond := (hproduced.tail (.tick 10)).tail (.produce "b" .present)
    have hreceived := (hsecond.tail (.tick 10)).tail (.ingest "b")
    exact (hreceived.tail (.tick 10)).tail (.ingest "a")
  · decide

end Reference

end ConstellationMonitor.LoadSupport
