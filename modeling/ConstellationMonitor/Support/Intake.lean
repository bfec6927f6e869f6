/-
  Support/Intake.lean --- when `resolve` answers and when an ingest succeeds
  (`pulse-nq-load-support/src/lib.rs`).

  `load_receipts` reads every receipt and gives up at the first it cannot read, and intake does
  not know its bound on their number.  A receipt file is created before it is written, so one
  ingest killed in between leaves a file that no later call replaces.
-/
import ConstellationMonitor.Support.LoadPressure

namespace ConstellationMonitor.LoadSupport

open Foundation Relation

/-- What the calls keep in the two directories. -/
structure Sound (config : LoadSupportConfigV1) (state : State) : Prop where
  /-- an envelope lies under its own, valid acquisition id -/
  envelopes : ∀ id evidence, state.outgoing.lookup id = some (.whole evidence) →
    config.requireToken id = .ok () ∧ evidence.acquisitionId = id
  /-- a whole receipt verifies and keeps the envelope that is still there -/
  receipts : ∀ id receipt, (id, File.whole receipt) ∈ state.receipts →
    State.verifyReceipt receipt = .ok () ∧
      state.outgoing.lookup id = some (.whole receipt.evidence)

/-- An ingest of evidence that was produced has what it needs. -/
def State.Admits (state : State) (id : Text) (evidence : LoadPressureEvidenceV1) : Prop :=
  match state.receipts.lookup id with
  | none => state.now.clockId = evidence.observedAt.clockId ∧
      evidence.observedAt.tickMs ≤ state.now.tickMs ∧
      state.now.tickMs + supportValidityMs < 2 ^ 64
  | some (.torn _) => False
  | some (.whole _) => True

/-- No ingest is killed while it writes its receipt. -/
def Calm (before after : State) : Prop :=
  ∀ id error, (id, File.torn error) ∈ after.receipts → (id, File.torn error) ∈ before.receipts

section Directories

variable {config : LoadSupportConfigV1} {state before after : State}

variable {id new : Text} {now : ReceiverInstantV1}

theorem mem_of_lookup {α : Type} {files : List (Text × α)} {file : α}
    (h : files.lookup id = some file) : (id, file) ∈ files := by
  obtain ⟨before, after, rfl, -⟩ := List.lookup_eq_some_iff.mp h
  simp

/-- A file added where none was leaves the others in place. -/
theorem lookup_append_of_none {α : Type} {files : List (Text × α)} {file value : α}
    (hnone : files.lookup new = none) : (files ++ [(new, value)]).lookup id = some file ↔
      files.lookup id = some file ∨ id = new ∧ value = file := by
  rw [List.lookup_append]
  by_cases heq : id = new
  · subst heq
    simp [hnone]
  · simp [List.lookup_cons, beq_eq_false_iff_ne.mpr heq, heq]

theorem Sound.outgoing {file : File LoadPressureEvidenceV1} (h : Sound config before)
    (hnone : before.outgoing.lookup new = none) (htoken : config.requireToken new = .ok ())
    (hnamed : ∀ evidence, file = .whole evidence → evidence.acquisitionId = new) :
    Sound config { before with outgoing := before.outgoing ++ [(new, file)] } := by
  refine ⟨fun id evidence hlookup => ?_, fun id receipt hmem => ?_⟩
  · rcases (lookup_append_of_none hnone).mp hlookup with hold | ⟨rfl, hnew⟩
    · exact h.envelopes id evidence hold
    · exact ⟨htoken, hnamed evidence hnew⟩
  · obtain ⟨hverify, hlookup⟩ := h.receipts id receipt hmem
    exact ⟨hverify, (lookup_append_of_none hnone).mpr (.inl hlookup)⟩

theorem Sound.append {file : File ReceivedLoadPressureSupportV1} (h : Sound config before)
    (hfile : ∀ receipt, file = .whole receipt → before.intake config new = .ok (.new receipt)) :
    Sound config { before with receipts := before.receipts ++ [(new, file)] } := by
  refine ⟨h.envelopes, fun id receipt hmem => ?_⟩
  rcases List.mem_append.mp hmem with hold | hnew
  · exact h.receipts id receipt hold
  · cases List.mem_singleton.mp hnew
    obtain ⟨-, -, hlookup, hverify⟩ := intake_new (hfile receipt rfl)
    exact ⟨hverify, hlookup⟩

theorem Sound.step (h : Sound config before) (hstep : Step config before after) :
    Sound config after := by
  cases hstep with
  | tick time => exact ⟨h.envelopes, h.receipts⟩
  | reboot clockId tickMs hfresh => exact ⟨h.envelopes, h.receipts⟩
  | produce id pressure =>
    unfold State.produce
    split
    · exact h
    rename_i htoken
    split
    · exact h
    · exact h
    rename_i hnone
    refine h.outgoing hnone htoken fun evidence heq => ?_
    cases heq
    rfl
  | produceKilled id error htoken hnone => exact h.outgoing hnone htoken fun _ heq => nomatch heq
  | ingest id =>
    unfold State.ingest
    split
    · exact h
    · exact h
    rename_i receipt hnew
    refine h.append fun other heq => ?_
    cases heq
    exact hnew
  | ingestKilled id error hnew => exact h.append fun _ heq => nomatch heq

theorem sound_of_run (h : ReflTransGen (Step config) { now } state) : Sound config state := by
  induction h with
  | refl => exact ⟨fun _ _ hlookup => (nomatch hlookup), fun _ _ hmem => (nomatch hmem)⟩
  | tail _ hstep ih => exact ih.step hstep

theorem readAll_ok_iff {files : List (Text × File ReceivedLoadPressureSupportV1)}
    (hverify : ∀ id receipt, (id, File.whole receipt) ∈ files →
      State.verifyReceipt receipt = .ok ()) :
    (∃ receipts, readAll files = .ok receipts) ↔ ∀ id error, (id, File.torn error) ∉ files := by
  induction files with
  | nil => simp [readAll]
  | cons head rest ih =>
    obtain ⟨id, error | receipt⟩ := head
    · refine iff_of_false ?_ fun h => h id error List.mem_cons_self
      rintro ⟨receipts, h⟩
      cases h
    · have hrest := ih fun id receipt hmem => hverify id receipt (List.mem_cons_of_mem _ hmem)
      have hfirst := hverify id receipt List.mem_cons_self
      constructor
      · rintro ⟨receipts, h⟩ other error hmem
        rw [readAll, check_bind_eq_ok, except_bind_eq_ok] at h
        obtain ⟨-, others, hothers, -⟩ := h
        rcases List.mem_cons.mp hmem with heq | hmem
        · cases heq
        · exact hrest.mp ⟨others, hothers⟩ other error hmem
      · intro h
        obtain ⟨others, hothers⟩ :=
          hrest.mpr fun id error hmem => h id error (List.mem_cons_of_mem _ hmem)
        refine ⟨receipt :: others, ?_⟩
        rw [readAll, check_bind_eq_ok, except_bind_eq_ok]
        exact ⟨hfirst, others, hothers, rfl⟩

/-- The resolver answers exactly while no receipt is torn and their number is within its bound. -/
theorem resolve_ok_iff (h : Sound config state) : (∃ support, resolve config state = .ok support) ↔
      state.receipts.length ≤ maxRecords ∧ ∀ id error, (id, File.torn error) ∉ state.receipts := by
  have hread := readAll_ok_iff fun id receipt hmem => (h.receipts id receipt hmem).1
  constructor
  · rintro ⟨support, hresolve⟩
    obtain ⟨receipts, hload, -⟩ := (except_bind_eq_ok _ _ _).mp hresolve
    rw [loadReceipts, ite_error_eq_ok] at hload
    exact ⟨not_lt.mp hload.1, hread.mp ⟨receipts, hload.2⟩⟩
  · rintro ⟨hbound, htorn⟩
    obtain ⟨receipts, hreceipts⟩ := hread.mpr htorn
    refine ⟨standingOf config receipts state.now, (except_bind_eq_ok _ _ _).mpr ⟨receipts, ?_, rfl⟩⟩
    rw [loadReceipts, if_neg (not_lt.mpr hbound), hreceipts]

/-- An ingest succeeds exactly if its envelope is whole and the rest of what it needs is there. -/
theorem ingest_ok_iff (h : Sound config state) :
    (∃ receiptId, (state.ingest config id).2 = .ok receiptId) ↔
      ∃ evidence, state.outgoing.lookup id = some (.whole evidence) ∧ state.Admits id evidence := by
  have hingest : (∃ receiptId, (state.ingest config id).2 = .ok receiptId) ↔
      ∃ intake, state.intake config id = .ok intake := by
    unfold State.ingest
    split <;> simp_all
  rw [hingest]
  rcases hevidence : state.outgoing.lookup id with _ | error | evidence
  · simp [State.intake, hevidence]
  · simp [State.intake, hevidence]
  obtain ⟨htoken, hnamed⟩ := h.envelopes id evidence hevidence
  simp only [Option.some.injEq, File.whole.injEq, exists_eq_left']
  unfold State.intake State.Admits
  simp only [htoken, check_bind_eq_ok, true_and, hevidence, hnamed, ne_eq, not_true_eq_false,
    if_false]
  rcases hfound : state.receipts.lookup id with _ | error | existing
  · simp only [State.receive, check_bind_eq_ok, refuseIf_eq_ok, Bool.or_eq_false_iff,
      decide_eq_false_iff_not, ne_eq, not_not, not_lt, not_le, exists_and_left, and_assoc]
    refine and_congr_right fun _ => and_congr_right fun _ => ?_
    exact and_iff_left ⟨_, rfl⟩
  · simp
  · obtain ⟨hverify, hkept⟩ := h.receipts id existing (mem_of_lookup hfound)
    have hsame : existing.evidence = evidence := by
      rw [hevidence] at hkept
      cases hkept
      rfl
    simp only [check_bind_eq_ok, hverify, true_and, hsame, not_true_eq_false, if_false, iff_true]
    exact ⟨_, rfl⟩

theorem whole_of_calm
    (h : ReflTransGen (fun before after => Step config before after ∧ Calm before after)
      { now } state) : ∀ id error, (id, File.torn error) ∉ state.receipts := by
  induction h with
  | refl => exact fun _ _ hmem => nomatch hmem
  | tail _ hstep ih => exact fun id error hmem => ih id error (hstep.2 id error hmem)

end Directories

/-- After any calls, complete or killed, `resolve` answers exactly if no receipt is torn and at
most 1024 are there, no receipt is torn if no ingest was killed while it wrote its receipt, and
an ingest succeeds exactly if its envelope was completely written, its receipt is not torn and,
where there is none yet, the evidence is of the current boot clock and its expiry fits. -/
theorem intake_resolves_iff (config : LoadSupportConfigV1) (now : ReceiverInstantV1)
    (state : State) (hrun : ReflTransGen (Step config) { now } state) :
    ((∃ support, resolve config state = .ok support) ↔ state.receipts.length ≤ maxRecords ∧
          ∀ id error, (id, File.torn error) ∉ state.receipts) ∧
      (ReflTransGen (fun before after => Step config before after ∧ Calm before after)
        { now } state → ∀ id error, (id, File.torn error) ∉ state.receipts) ∧
      ∀ id, (∃ receiptId, (state.ingest config id).2 = .ok receiptId) ↔
        ∃ evidence,
          state.outgoing.lookup id = some (.whole evidence) ∧ state.Admits id evidence := by
  have hsound := sound_of_run hrun
  exact ⟨resolve_ok_iff hsound, whole_of_calm, fun _ => ingest_ok_iff hsound⟩

namespace Reference

/-- The produce of `b` is killed while it writes; then `a` is produced and ingested. -/
def survived : State :=
  let torn : State :=
    { now := ⟨"boot", 10⟩, outgoing := [("b", .torn "EOF while parsing a value")] }
  ((torn.produce config "a" .explicitlyAbsent).1.ingest config "a").1

/-- Queries are answered and `a` can be received again, but `b` never. -/
theorem intake_resolves_iff_survived :
    ReflTransGen (Step config) { now := ⟨"boot", 10⟩ } survived ∧
      (∃ support, resolve config survived = .ok support) ∧
      (∃ receiptId, (survived.ingest config "a").2 = .ok receiptId) ∧
      ¬∃ receiptId, (survived.ingest config "b").2 = .ok receiptId := by
  have hrun : ReflTransGen (Step config) { now := ⟨"boot", 10⟩ } survived :=
    (ReflTransGen.single (.produceKilled "b" _ rfl rfl)).tail (.produce "a" .explicitlyAbsent)
      |>.tail (.ingest "a")
  obtain ⟨hresolve, -, hingest⟩ := intake_resolves_iff config _ _ hrun
  refine ⟨hrun, hresolve.mpr ⟨by decide, fun id error hmem => ?_⟩,
    (hingest "a").mpr ⟨_, rfl, trivial⟩, fun h => ?_⟩
  · cases List.mem_singleton.mp hmem
  · obtain ⟨evidence, hwhole, -⟩ := (hingest "b").mp h
    cases hwhole

/-- The ingest of `a` is killed after it created its file. -/
def killed : State :=
  { observed with receipts := [("a", .torn "EOF while parsing a value at line 1 column 0")] }

/-- No query is answered any more, and `a` cannot be received. -/
theorem killed_intake_wedges : ReflTransGen (Step config) { now := ⟨"boot", 10⟩ } killed ∧
      (¬∃ support, resolve config killed = .ok support) ∧
      ¬∃ receiptId, (killed.ingest config "a").2 = .ok receiptId := by
  refine ⟨?_, ?_, ?_⟩
  · have hproduced : ReflTransGen (Step config) _ observed :=
      .single (.produce "a" .explicitlyAbsent)
    have hnew : observed.intake config "a" = .ok (.new ⟨"a", ⟨"a", .explicitlyAbsent,
        ⟨"boot", 10⟩⟩, ⟨"boot", 10⟩, 300010⟩) := by decide +kernel
    exact hproduced.tail (.ingestKilled "a" _ hnew)
  · rintro ⟨support, h⟩
    cases h
  · rintro ⟨receiptId, h⟩
    cases h

end Reference

end ConstellationMonitor.LoadSupport
