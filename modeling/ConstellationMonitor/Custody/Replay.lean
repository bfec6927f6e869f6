/-
  The replay window of a custody session (`classify_sequence` in
  `pulse-runtime/src/custody.rs`) against the history of the numbers it accepted.

  The window is a high mark and a 64-bit map that is shifted as the mark advances; bits that
  leave the configured window are not cleared.  Within the window a bit is set exactly if the
  number it stands for was accepted, and the stale bits above it are never looked at.  A shift
  by 64 or more is a fault of its own here, so that its absence can be stated.
-/
import ConstellationMonitor.Types.Custody

namespace ConstellationMonitor.Custody

open Foundation ConstellationMonitor.Types

/-! ## The window -/

/-- `CustodyError`. -/
structure CustodyError where
  finding : TransportCustodyFindingV1
  detail : Text
  replayWindowResult : Option ReplayWindowResultV1
  deriving DecidableEq

/-- `CustodyError::new`. -/
def CustodyError.new (finding : TransportCustodyFindingV1) (detail : Text) : CustodyError :=
  ⟨finding, detail, none⟩

/-- `SequenceClassification`. -/
structure SequenceClassification where
  result : ReplayWindowResultV1
  gap : Option CustodySequenceGapV1
  newHigh : Nat
  newBitmap : BitVec 64
  deriving DecidableEq

/-- Why a number is not classified. -/
inductive SequenceFault where
  /-- the error `classify_sequence` returns -/
  | refused (error : CustodyError)
  /-- a word was shifted by its width or more -/
  | shiftOverflow
  deriving DecidableEq

/-- `<<` on a `u64`. -/
def shiftLeft (word : BitVec 64) (amount : Nat) : Except SequenceFault (BitVec 64) :=
  if amount ≥ 64 then .error .shiftOverflow else .ok (word <<< amount)

/-- `u32::try_from(value).unwrap_or(u32::MAX)`. -/
def clampU32 (value : Nat) : Nat := if value < 2 ^ 32 then value else 2 ^ 32 - 1

/-- `classify_sequence`. -/
def classifySequence (high : Option Nat) (bitmap : BitVec 64)
    (received windowSize maximumGap : Nat) : Except SequenceFault SequenceClassification :=
  if received = 0 then
    .error (.refused (.new .replayDetected "session sequence zero is invalid"))
  else
    match high with
    | none => .ok ⟨.first, none, received, 1#64⟩
    | some high =>
      if received > high then
        let delta := received - high
        if delta > satAdd maximumGap 1 then .ok ⟨.boundExceeded, none, high, bitmap⟩
        else do
          let newBitmap ←
            if delta ≥ windowSize then pure 1#64
            else do
              let shifted ← shiftLeft bitmap (clampU32 delta)
              pure (shifted ||| 1#64)
          let gap : Option CustodySequenceGapV1 :=
            if delta > 1 then some ⟨satAdd high 1, received, delta - 1⟩ else none
          return ⟨if gap.isSome then .gap else .continuous, gap, received, newBitmap⟩
      else
        let distance := high - received
        if distance ≥ windowSize then .ok ⟨.replay, none, high, bitmap⟩
        else do
          let mask ← shiftLeft 1#64 (clampU32 distance)
          return ⟨if bitmap &&& mask ≠ 0 then .duplicate else .reordered, none, high, bitmap⟩

/-- The window of a live session: `high_session_sequence` and `replay_bitmap`. -/
structure Window where
  high : Nat
  bitmap : BitVec 64
  deriving DecidableEq

/-- A session as far as its sequence numbers go: the window, and the numbers accepted so far,
which the source does not keep. -/
structure Session where
  window : Window
  accepted : List Nat
  deriving DecidableEq

namespace Session

/-- The window `accept_session_binding` opens for a session whose numbers start at one. -/
def opened : Session := ⟨⟨0, 0⟩, []⟩

/-- One number against the window; only a continuous number or one after a gap moves it. -/
def receive (windowSize maximumGap : Nat) (session : Session) (received : Nat) :
    Except SequenceFault Session := do
  let classification ← classifySequence (some session.window.high) session.window.bitmap received
    windowSize maximumGap
  if classification.result = .continuous ∨ classification.result = .gap then
    return ⟨⟨classification.newHigh, classification.newBitmap⟩, session.accepted ++ [received]⟩
  else return session

/-- A session after the numbers it received. -/
def run (windowSize maximumGap : Nat) (numbers : List Nat) : Except SequenceFault Session :=
  numbers.foldlM (receive windowSize maximumGap) opened

end Session

/-! ## What a number is classified as -/

section Classify

variable {high received windowSize maximumGap : Nat} {bitmap : BitVec 64}

/-- The classification of a number that moves the window. -/
def advanced (high : Nat) (bitmap : BitVec 64) (received windowSize : Nat) :
    SequenceClassification where
  result := if received = high + 1 then .continuous else .gap
  gap := if received = high + 1 then none else some ⟨high + 1, received, received - high - 1⟩
  newHigh := received
  newBitmap := if received - high ≥ windowSize then 1#64
    else bitmap <<< (received - high) ||| 1#64

theorem shiftLeft_clamp {word : BitVec 64} {amount : Nat} (h : amount < 64) :
    shiftLeft word (clampU32 amount) = .ok (word <<< amount) := by
  have hclamp : clampU32 amount = amount := if_pos (by omega)
  rw [shiftLeft, hclamp, if_neg (by omega)]

theorem classify_exceeded (habove : high < received) (hgap : received - high > maximumGap + 1) :
    classifySequence (some high) bitmap received windowSize maximumGap =
      .ok ⟨.boundExceeded, none, high, bitmap⟩ := by
  have hsat := satAdd_le_add maximumGap 1
  rw [classifySequence, if_neg (by omega)]
  dsimp only
  rw [if_pos habove, if_pos (by omega)]

theorem classify_advanced (hwindow : windowSize ≤ 64) (habove : high < received)
    (hfits : received < 2 ^ 64) (hgap : received - high ≤ maximumGap + 1) :
    classifySequence (some high) bitmap received windowSize maximumGap =
      .ok (advanced high bitmap received windowSize) := by
  -- the saturating sum is exact wherever it is compared with a number of 64 bits
  have hsat : ¬received - high > satAdd maximumGap 1 := by
    rw [satAdd, u64Max]
    omega
  have hnext : satAdd high 1 = high + 1 := by
    rw [satAdd, u64Max]
    omega
  rw [classifySequence, if_neg (by omega)]
  dsimp only
  rw [if_pos habove, if_neg hsat, hnext, advanced]
  by_cases hstep : received = high + 1
  · have hdelta : ¬received - high > 1 := by omega
    by_cases hwide : received - high ≥ windowSize
    · simp only [if_pos hwide, if_neg hdelta, if_pos hstep]
      rfl
    · simp only [if_neg hwide, if_neg hdelta, if_pos hstep,
        shiftLeft_clamp (show received - high < 64 by omega)]
      rfl
  · have hdelta : received - high > 1 := by omega
    by_cases hwide : received - high ≥ windowSize
    · simp only [if_pos hwide, if_pos hdelta, if_neg hstep]
      rfl
    · simp only [if_neg hwide, if_pos hdelta, if_neg hstep,
        shiftLeft_clamp (show received - high < 64 by omega)]
      rfl

theorem classify_outside (hpositive : 0 < received) (hbelow : received ≤ high)
    (hfar : windowSize ≤ high - received) :
    classifySequence (some high) bitmap received windowSize maximumGap =
      .ok ⟨.replay, none, high, bitmap⟩ := by
  rw [classifySequence, if_neg (by omega)]
  dsimp only
  rw [if_neg (by omega), if_pos hfar]

/-- Testing one bit with a mask. -/
theorem and_one_shiftLeft_ne_zero (word : BitVec 64) {bit : Nat} (hbit : bit < 64) :
    word &&& 1#64 <<< bit ≠ 0 ↔ word.getLsbD bit = true := by
  constructor
  · intro hne
    by_contra hclear
    refine hne (BitVec.eq_of_getLsbD_eq fun index hindex => ?_)
    rw [← BitVec.twoPow_eq, BitVec.getLsbD_and, BitVec.getLsbD_twoPow]
    by_cases hsame : bit = index
    · subst hsame
      simp [hclear]
    · simp [hsame]
  · intro hset hzero
    have hbits := congrArg (fun word : BitVec 64 => word.getLsbD bit) hzero
    simp only [← BitVec.twoPow_eq, BitVec.getLsbD_and, BitVec.getLsbD_twoPow, hset,
      decide_true, hbit, Bool.and_self, BitVec.ofNat_eq_ofNat, BitVec.getLsbD_zero,
      Bool.true_eq_false] at hbits

theorem classify_inside (hwindow : windowSize ≤ 64) (hpositive : 0 < received)
    (hbelow : received ≤ high) (hnear : high - received < windowSize) :
    classifySequence (some high) bitmap received windowSize maximumGap =
      .ok ⟨if bitmap.getLsbD (high - received) = true then .duplicate else .reordered, none, high,
        bitmap⟩ := by
  have hbit : high - received < 64 := by omega
  rw [classifySequence, if_neg (by omega)]
  dsimp only
  rw [if_neg (by omega), if_neg (by omega), shiftLeft_clamp hbit]
  simp only [← and_one_shiftLeft_ne_zero bitmap hbit]
  rfl

end Classify

/-! ## The window and the accepted numbers -/

namespace Session

/-- The window says of the accepted numbers what it can say: the high mark is the largest of
them, and within the window each bit tells whether its number was accepted. -/
structure Exact (windowSize : Nat) (session : Session) : Prop where
  sorted : session.accepted.Pairwise (· < ·)
  le_high : ∀ number ∈ session.accepted, number ≤ session.window.high
  high_mem : session.window.high ∈ session.accepted ∨
    session.accepted = [] ∧ session.window.high = 0
  bits : ∀ bit < min windowSize session.window.high,
    session.window.bitmap.getLsbD bit = true ↔ session.window.high - bit ∈ session.accepted

theorem exact_opened (windowSize : Nat) : Exact windowSize opened where
  sorted := .nil
  le_high := by simp [opened]
  high_mem := .inr ⟨rfl, rfl⟩
  bits := by
    intro bit hbit
    simp only [opened] at hbit
    omega

variable {windowSize received : Nat} {session : Session}

/-- The session after a number above its high mark was accepted. -/
def advance (windowSize : Nat) (session : Session) (received : Nat) : Session :=
  ⟨⟨received, (advanced session.window.high session.window.bitmap received windowSize).newBitmap⟩,
    session.accepted ++ [received]⟩

theorem bits_advance (h : Exact windowSize session) (hwindow : windowSize ≤ 64)
    (habove : session.window.high < received) {bit : Nat} (hbit : bit < min windowSize received) :
    (advance windowSize session received).window.bitmap.getLsbD bit = true ↔
      received - bit ∈ session.accepted ++ [received] := by
  have hlast : received - bit = received ↔ bit = 0 := by omega
  rw [List.mem_append, List.mem_singleton, hlast]
  simp only [advance, advanced]
  by_cases hwide : received - session.window.high ≥ windowSize
  · -- the whole window lies above the old mark: nothing in it was accepted
    have hnone : received - bit ∉ session.accepted := fun hmem => by
      have := h.le_high _ hmem
      omega
    rw [if_pos hwide]
    simp [hnone, eq_comm]
  · rw [if_neg hwide, BitVec.getLsbD_or, BitVec.getLsbD_shiftLeft]
    have hone : (1#64).getLsbD bit = decide (bit = 0) := by
      simp
    rw [hone]
    by_cases hnew : bit < received - session.window.high
    · have hnone : received - bit ∉ session.accepted := fun hmem => by
        have := h.le_high _ hmem
        omega
      simp [hnew, hnone]
    · have hold := h.bits (bit - (received - session.window.high)) (by omega)
      have hnumber : session.window.high - (bit - (received - session.window.high)) =
          received - bit := by omega
      rw [hnumber] at hold
      have hwidth : bit < 64 := by omega
      have hzero : bit ≠ 0 := by omega
      simp [hnew, hwidth, hzero, hold]

theorem exact_advance (h : Exact windowSize session) (hwindow : windowSize ≤ 64)
    (habove : session.window.high < received) :
    Exact windowSize (advance windowSize session received) where
  sorted := by
    refine List.pairwise_append.mpr ⟨h.sorted, by simp, fun number hnumber last hlast => ?_⟩
    obtain rfl := List.mem_singleton.mp hlast
    exact Nat.lt_of_le_of_lt (h.le_high number hnumber) habove
  le_high := List.forall_mem_append.mpr
    ⟨fun number hold => (Nat.lt_of_le_of_lt (h.le_high number hold) habove).le,
      List.forall_mem_singleton.mpr le_rfl⟩
  high_mem := .inl (by simp [advance])
  bits bit hbit := bits_advance h hwindow habove hbit

/-- How the next number is classified: by its place in the window, and by what was accepted. -/
structure Verdict (windowSize maximumGap : Nat) (session : Session) (received : Nat)
    (classification : SequenceClassification) : Prop where
  duplicate : received ≤ session.window.high → (classification.result = .duplicate ↔
    session.window.high - received < windowSize ∧ received ∈ session.accepted)
  reordered : received ≤ session.window.high → (classification.result = .reordered ↔
    session.window.high - received < windowSize ∧ received ∉ session.accepted)
  replay : received ≤ session.window.high → (classification.result = .replay ↔
    windowSize ≤ session.window.high - received)
  boundExceeded : session.window.high < received → (classification.result = .boundExceeded ↔
    received - session.window.high > maximumGap + 1)
  continuous : session.window.high < received →
    received - session.window.high ≤ maximumGap + 1 →
      (classification.result = .continuous ↔ received = session.window.high + 1)
  gap : session.window.high < received → received - session.window.high ≤ maximumGap + 1 →
    received ≠ session.window.high + 1 → classification.result = .gap ∧
      classification.gap = some ⟨session.window.high + 1, received,
        received - session.window.high - 1⟩

/-- A number at or below the mark is told by its distance and its bit. -/
theorem verdict_below (maximumGap : Nat) (h : Exact windowSize session) (hwindow : windowSize ≤ 64)
    (hpositive : 0 < received) (hbelow : received ≤ session.window.high) :
    ∃ classification, classifySequence (some session.window.high) session.window.bitmap received
        windowSize maximumGap = .ok classification ∧
      classification.result ≠ .continuous ∧ classification.result ≠ .gap ∧
      Verdict windowSize maximumGap session received classification := by
  by_cases hfar : windowSize ≤ session.window.high - received
  · refine ⟨_, classify_outside hpositive hbelow hfar, by simp, by simp, ?_⟩
    constructor <;> intros <;> simp <;> omega
  · have hbit := h.bits (session.window.high - received) (by omega)
    have hnumber : session.window.high - (session.window.high - received) = received := by omega
    rw [hnumber] at hbit
    refine ⟨_, classify_inside hwindow hpositive hbelow (by omega), ?_⟩
    by_cases hseen : received ∈ session.accepted
    · rw [if_pos (hbit.mpr hseen)]
      refine ⟨by simp, by simp, ?_⟩
      constructor <;> intros <;> simp [hseen] <;> omega
    · rw [if_neg fun hset => hseen (hbit.mp hset)]
      refine ⟨by simp, by simp, ?_⟩
      constructor <;> intros <;> simp [hseen] <;> omega

/-- A number above the mark is told by its distance alone. -/
theorem verdict_above (maximumGap : Nat) (hwindow : windowSize ≤ 64)
    (habove : session.window.high < received) (hfits : received < 2 ^ 64) :
    ∃ classification, classifySequence (some session.window.high) session.window.bitmap received
        windowSize maximumGap = .ok classification ∧
      Verdict windowSize maximumGap session received classification := by
  by_cases hgap : received - session.window.high > maximumGap + 1
  · refine ⟨_, classify_exceeded habove hgap, ?_⟩
    constructor <;> intros <;> simp <;> omega
  · refine ⟨_, classify_advanced hwindow habove hfits (by omega), ?_⟩
    by_cases hstep : received = session.window.high + 1
    · constructor <;> intros <;> simp [advanced, hstep] <;> omega
    · constructor <;> intros <;> simp [advanced, hstep] <;> omega

theorem exists_verdict (maximumGap : Nat) (h : Exact windowSize session)
    (hwindow : windowSize ≤ 64) (hpositive : 0 < received) (hfits : received < 2 ^ 64) :
    ∃ classification, classifySequence (some session.window.high) session.window.bitmap received
        windowSize maximumGap = .ok classification ∧
      Verdict windowSize maximumGap session received classification := by
  rcases Nat.lt_or_ge session.window.high received with habove | hbelow
  · exact verdict_above maximumGap hwindow habove hfits
  · obtain ⟨classification, hok, -, -, hverdict⟩ :=
      verdict_below maximumGap h hwindow hpositive hbelow
    exact ⟨classification, hok, hverdict⟩

/-- One number keeps the window exact. -/
theorem exists_receive (maximumGap : Nat) (h : Exact windowSize session)
    (hwindow : windowSize ≤ 64) (hpositive : 0 < received) (hfits : received < 2 ^ 64) :
    ∃ next, session.receive windowSize maximumGap received = .ok next ∧ Exact windowSize next := by
  rcases Nat.lt_or_ge session.window.high received with habove | hbelow
  · by_cases hgap : received - session.window.high > maximumGap + 1
    · refine ⟨session, ?_, h⟩
      rw [receive, classify_exceeded habove hgap]
      rfl
    · refine ⟨advance windowSize session received, ?_, exact_advance h hwindow habove⟩
      rw [receive, classify_advanced hwindow habove hfits (by omega)]
      by_cases hstep : received = session.window.high + 1
      · simp [advanced, advance, hstep, bind, Except.bind, pure, Except.pure]
      · simp [advanced, advance, hstep, bind, Except.bind, pure, Except.pure]
  · obtain ⟨classification, hok, hcontinuous, hgap, -⟩ :=
      verdict_below maximumGap h hwindow hpositive hbelow
    refine ⟨session, ?_, h⟩
    simp [receive, hok, hcontinuous, hgap, bind, Except.bind, pure, Except.pure]

/-- A run from an exact window goes through and ends in one. -/
theorem exists_foldlM (maximumGap : Nat) (hwindow : windowSize ≤ 64) {numbers : List Nat}
    (hnumbers : ∀ number ∈ numbers, 0 < number ∧ number < 2 ^ 64) (h : Exact windowSize session) :
    ∃ last, numbers.foldlM (receive windowSize maximumGap) session = .ok last ∧
      Exact windowSize last := by
  induction numbers generalizing session with
  | nil => exact ⟨session, rfl, h⟩
  | cons number rest ih =>
    obtain ⟨⟨hpositive, hfits⟩, hrest⟩ := List.forall_mem_cons.mp hnumbers
    obtain ⟨next, hnext, hexact⟩ := exists_receive maximumGap h hwindow hpositive hfits
    obtain ⟨last, hlast, hend⟩ := ih hrest hexact
    exact ⟨last, by rw [List.foldlM_cons, hnext]; exact hlast, hend⟩

end Session

/-- The replay window is exact: whatever numbers a session received, no shift overflowed, the
window describes the numbers that were accepted, and the next number is classified by them. -/
theorem replay_window_exact {windowSize : Nat} (hwindow : windowSize ≤ 64) (maximumGap : Nat)
    {numbers : List Nat} (hnumbers : ∀ number ∈ numbers, 0 < number ∧ number < 2 ^ 64) :
    ∃ session, Session.run windowSize maximumGap numbers = .ok session ∧ session.Exact windowSize ∧
      ∀ received, 0 < received → received < 2 ^ 64 → ∃ classification,
        classifySequence (some session.window.high) session.window.bitmap received windowSize
          maximumGap = .ok classification ∧
        session.Verdict windowSize maximumGap received classification := by
  obtain ⟨session, hrun, hexact⟩ := Session.exists_foldlM maximumGap hwindow hnumbers
    (Session.exact_opened windowSize)
  exact ⟨session, hrun, hexact, fun _ hpositive hfits =>
    Session.exists_verdict maximumGap hexact hwindow hpositive hfits⟩

/-- A run with a gap, a duplicate and a late number, in a window of eight. -/
theorem replay_window_exact_gap :
    ∃ session, Session.run 8 4 [1, 2, 5, 5, 3] = .ok session ∧ session.accepted = [1, 2, 5] ∧
      session.Exact 8 := by
  obtain ⟨session, hrun, hexact, -⟩ := replay_window_exact (show 8 ≤ 64 by decide) 4
    (show ∀ number ∈ [1, 2, 5, 5, 3], 0 < number ∧ number < 2 ^ 64 by decide)
  have hsession : Session.run 8 4 [1, 2, 5, 5, 3] = .ok ⟨⟨5, 25⟩, [1, 2, 5]⟩ := by decide
  obtain rfl := Except.ok.inj (hrun.symm.trans hsession)
  exact ⟨_, hrun, rfl, hexact⟩

end ConstellationMonitor.Custody
