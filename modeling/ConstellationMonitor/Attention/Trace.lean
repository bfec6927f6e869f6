/-
  Attention/Trace.lean --- the lifecycle of a condition over a whole trace of observations.

  `step` keeps five fields and shifts open intervals in place.  Here the decisions of a trace
  are given their meaning on the trace itself: a trigger needs presence, measured from the
  first present observation since the last clear, without long unknown runs, past the bound; a
  resolve needs the same of clear observations, or a removal.  The two intervals are one
  stopwatch, which counts presence while the condition is inactive and clearance while it is
  active.
-/
import ConstellationMonitor.Attention.Lifecycle
import ConstellationMonitor.Foundation.Stopwatch

namespace ConstellationMonitor.Attention

open Foundation

/-! ## The run of a trace -/

/-- A condition after a trace of timed observations. -/
def observeAll (bound : Int) (condition : ConditionState) (passes : List (Observation × Int)) :
    ConditionState :=
  passes.foldl (fun condition pass => (step condition pass.1 bound pass.2).1) condition

/-- What is decided at each pass of a trace. -/
def decisions (bound : Int) (condition : ConditionState) :
    List (Observation × Int) → List (Option Action)
  | [] => []
  | pass :: rest =>
    let stepped := step condition pass.1 bound pass.2
    stepped.2 :: decisions bound stepped.1 rest

theorem observeAll_take_succ {bound : Int} {condition : ConditionState}
    {passes : List (Observation × Int)} {n : ℕ} {pass : Observation × Int}
    (h : passes[n]? = some pass) : observeAll bound condition (passes.take (n + 1)) =
      (step (observeAll bound condition (passes.take n)) pass.1 bound pass.2).1 := by
  unfold observeAll
  rw [List.take_add_one, h, Option.toList_some, List.foldl_append]
  rfl

theorem decisions_getElem? (bound : Int) (condition : ConditionState)
    (passes : List (Observation × Int)) (n : ℕ) :
    (decisions bound condition passes)[n]? = (passes[n]?).map fun pass =>
      (step (observeAll bound condition (passes.take n)) pass.1 bound pass.2).2 := by
  induction passes generalizing condition n with
  | nil => rfl
  | cons pass rest ih =>
    cases n with
    | zero => rfl
    | succ n => exact ih _ n

theorem decisions_take (bound : Int) (condition : ConditionState)
    (passes : List (Observation × Int)) (n : ℕ) :
    (decisions bound condition passes).take n = decisions bound condition (passes.take n) := by
  induction passes generalizing condition n with
  | nil => simp [decisions]
  | cons pass rest ih =>
    cases n with
    | zero => rfl
    | succ n => exact congrArg _ (ih _ n)

/-! ## Alternation -/

/-- The decisions of a trace from an inactive condition are triggers at even places and
resolves at odd ones; from an active condition it is the other way round. -/
theorem decisions_alternate (bound : Int) (condition : ConditionState)
    (passes : List (Observation × Int)) {i : ℕ} {action : Action}
    (h : (decisions bound condition passes).reduceOption[i]? = some action) :
    action = .trigger ↔ (i % 2 = 0 ↔ condition.active = false) := by
  induction passes generalizing condition i with
  | nil => simp [decisions] at h
  | cons pass rest ih =>
    unfold decisions at h
    dsimp only at h
    cases hdecision : (step condition pass.1 bound pass.2).2 with
    | none =>
      rw [hdecision, List.reduceOption_cons_of_none] at h
      rw [← (step_active_of_none hdecision).1]
      exact ih _ h
    | some decided =>
      obtain ⟨hbefore, hafter, _⟩ := step_transition hdecision
      rw [hdecision, List.reduceOption_cons_of_some] at h
      cases i with
      | zero =>
        obtain rfl : decided = action := by simpa using h
        rw [hbefore]
        cases decided <;> simp
      | succ i =>
        rw [ih _ (by simpa using h), hafter, hbefore]
        cases decided <;> simp <;> omega

/-- A condition is active exactly when the last decision of its trace was a trigger, or
nothing was decided and it was active from the start. -/
theorem observeAll_active (bound : Int) (condition : ConditionState)
    (passes : List (Observation × Int)) : (observeAll bound condition passes).active =
      (((decisions bound condition passes).reduceOption.getLast?).map fun action =>
        decide (action = .trigger)).getD condition.active := by
  induction passes generalizing condition with
  | nil => rfl
  | cons pass rest ih =>
    have hrest := ih (step condition pass.1 bound pass.2).1
    unfold decisions
    dsimp only
    cases hdecision : (step condition pass.1 bound pass.2).2 with
    | none =>
      rw [List.reduceOption_cons_of_none, ← (step_active_of_none hdecision).1]
      exact hrest
    | some decided =>
      obtain ⟨_, hafter, _⟩ := step_transition hdecision
      rw [List.reduceOption_cons_of_some, List.getLast?_cons]
      refine hrest.trans ?_
      rw [hafter]
      cases (decisions bound (step condition pass.1 bound pass.2).1 rest).reduceOption.getLast?
      <;> rfl

/-! ## A trace, place by place -/

section Places

variable (passes : List (Observation × Int)) (decided : List (Option Action))

/-- What was observed at a pass. -/
def SeenAt (observation : Observation) (i : ℕ) : Prop :=
  (passes[i]?).map Prod.fst = some observation

/-- The time of a pass. -/
def timeAt (i : ℕ) : Int := ((passes[i]?).map Prod.snd).getD 0

/-- What was decided at a pass. -/
def DecidedAt (action : Action) (i : ℕ) : Prop := decided[i]? = some (some action)

/-- The last decision before a pass was a trigger. -/
def ActiveAt (i : ℕ) : Prop := (decided.take i).reduceOption.getLast? = some .trigger

/-- What ends presence: a clear or removed observation, or a resolve. -/
def EndsPresence (i : ℕ) : Prop :=
  SeenAt passes .clear i ∨ SeenAt passes .removed i ∨ DecidedAt decided .resolve i

/-- What ends clearance: a present observation, or a trigger. -/
def EndsClearance (i : ℕ) : Prop := SeenAt passes .present i ∨ DecidedAt decided .trigger i

/-- `i` is the first present observation since the last clear, removed or resolve, up to and
including pass `n`. -/
def PresentFrom (n i : ℕ) : Prop :=
  FirstSince (SeenAt passes .present) (EndsPresence passes decided) (n + 1) i

/-- `i` is the first clear observation since the last present or trigger, up to and including
pass `n`. -/
def ClearFrom (n i : ℕ) : Prop :=
  FirstSince (SeenAt passes .clear) (EndsClearance passes decided) (n + 1) i

/-- The total length of the unknown runs since pass `i` that were longer than the gap, each
from its first unknown observation to the next definite one. -/
noncomputable def unknownTime (n i : ℕ) : Int :=
  longRuns (SeenAt passes .unknown) (timeAt passes) unknownGapSeconds i (n + 1)

variable {passes decided}

theorem timeAt_mono (htimes : passes.Pairwise fun earlier later => earlier.2 ≤ later.2) {n : ℕ}
    (hn : n < passes.length) : ∀ i j, i ≤ j → j ≤ n → timeAt passes i ≤ timeAt passes j := by
  intro i j hij hjn
  have hi : i < passes.length := by omega
  have hj : j < passes.length := by omega
  simp only [timeAt, List.getElem?_eq_getElem hi, List.getElem?_eq_getElem hj, Option.map_some,
    Option.getD_some]
  rcases Nat.lt_or_eq_of_le hij with hlt | rfl
  · exact List.pairwise_iff_getElem.mp htimes i j hi hj hlt
  · exact le_rfl

end Places

/-! ## The stopwatch of a condition -/

section Stopwatch

variable (passes : List (Observation × Int)) (decided : List (Option Action))

/-- A stopwatch of presence. -/
def Presence (n : ℕ) : Option Int → Option Int → Prop :=
  Measures (SeenAt passes .present) (EndsPresence passes decided) (SeenAt passes .unknown)
    (timeAt passes) unknownGapSeconds n

/-- A stopwatch of clearance. -/
def Clearance (n : ℕ) : Option Int → Option Int → Prop :=
  Measures (SeenAt passes .clear) (EndsClearance passes decided) (SeenAt passes .unknown)
    (timeAt passes) unknownGapSeconds n

/-- The open interval of a condition is what the trace says: presence while it is inactive,
clearance while it is active. -/
structure Watches (n : ℕ) (condition : ConditionState) : Prop where
  presence : condition.active = false →
    Presence passes decided n condition.firstSeen condition.unknownSince
  clearance : condition.active = true →
    Clearance passes decided n condition.clearSince condition.unknownSince

theorem presentSince_eq_resumeAt {condition : ConditionState} (h : condition.active = false)
    (now : Int) : condition.presentSince now =
      resumeAt unknownGapSeconds condition.firstSeen condition.unknownSince now := by
  unfold ConditionState.presentSince ConditionState.unknownRun resumeAt
  rw [h]
  cases (condition.unknownSince.map fun since => now - since).filter
      fun run => decide (run > unknownGapSeconds) <;> cases condition.firstSeen <;> rfl

theorem clearedSince_eq_resumeAt (condition : ConditionState) (now : Int) :
    condition.clearedSince now =
      resumeAt unknownGapSeconds condition.clearSince condition.unknownSince now := by
  unfold ConditionState.clearedSince ConditionState.unknownRun resumeAt
  cases (condition.unknownSince.map fun since => now - since).filter
      fun run => decide (run > unknownGapSeconds) <;> cases condition.clearSince <;> rfl

variable {passes decided} {n : ℕ} {observation : Observation} {now bound : Int}
  {condition : ConditionState}

theorem seenAt_iff (hpass : passes[n]? = some (observation, now)) (other : Observation) :
    SeenAt passes other n ↔ observation = other := by
  simp [SeenAt, hpass]

theorem timeAt_eq (hpass : passes[n]? = some (observation, now)) : timeAt passes n = now := by
  simp [timeAt, hpass]

/-- An unknown observation decides nothing and keeps the interval. -/
theorem Watches.unknown (h : Watches passes decided n condition)
    (hpass : passes[n]? = some (.unknown, now)) (hnone : decided[n]? = some none)
    (hmono : ∀ i j, i ≤ j → j ≤ n → timeAt passes i ≤ timeAt passes j) :
    Watches passes decided (n + 1) (step condition .unknown bound now).1 := by
  have hseen := seenAt_iff hpass
  have hheld : (step condition .unknown bound now).1 =
      { condition with
        unknownSince := if condition.intervalOpen then some (condition.unknownSince.getD now)
          else condition.unknownSince } := by
    dsimp only [step]
    split <;> rfl
  rw [hheld]
  constructor
  · intro hactive
    have hopen : condition.intervalOpen = condition.firstSeen.isSome := by
      simp [ConditionState.intervalOpen, show condition.active = false from hactive]
    rw [hopen, ← timeAt_eq hpass]
    refine (h.presence hactive).of_hold ((hseen _).mpr rfl) ?_ ?_ hmono
    · simp [hseen]
    · simp [EndsPresence, hseen, DecidedAt, hnone]
  · intro hactive
    have hopen : condition.intervalOpen = condition.clearSince.isSome := by
      simp [ConditionState.intervalOpen, show condition.active = true from hactive]
    rw [hopen, ← timeAt_eq hpass]
    refine (h.clearance hactive).of_hold ((hseen _).mpr rfl) ?_ ?_ hmono
    · simp [hseen]
    · simp [EndsClearance, hseen, DecidedAt, hnone]

/-- Presence of an inactive condition, measured at a present observation. -/
theorem Watches.present_inactive (h : Watches passes decided n condition)
    (hactive : condition.active = false) (hpass : passes[n]? = some (.present, now))
    (hresolve : ¬ DecidedAt decided .resolve n)
    (hmono : ∀ i j, i ≤ j → j ≤ n → timeAt passes i ≤ timeAt passes j) :
    ∃ i, PresentFrom passes decided n i ∧
      condition.presentSince now = timeAt passes i + unknownTime passes n i ∧
      Presence passes decided (n + 1) (some (condition.presentSince now)) none := by
  have hseen := seenAt_iff hpass
  rw [presentSince_eq_resumeAt hactive, ← timeAt_eq hpass]
  refine (h.presence hactive).of_wanted ((hseen _).mpr rfl) ?_ ?_ hmono
  · simp [EndsPresence, hseen, hresolve]
  · simp [hseen]

/-- Clearance of an active condition, measured at a clear observation. -/
theorem Watches.clear_active (h : Watches passes decided n condition)
    (hactive : condition.active = true) (hpass : passes[n]? = some (.clear, now))
    (htrigger : ¬ DecidedAt decided .trigger n)
    (hmono : ∀ i j, i ≤ j → j ≤ n → timeAt passes i ≤ timeAt passes j) :
    ∃ i, ClearFrom passes decided n i ∧
      condition.clearedSince now = timeAt passes i + unknownTime passes n i ∧
      Clearance passes decided (n + 1) (some (condition.clearedSince now)) none := by
  have hseen := seenAt_iff hpass
  rw [clearedSince_eq_resumeAt, ← timeAt_eq hpass]
  refine (h.clearance hactive).of_wanted ((hseen _).mpr rfl) ?_ ?_ hmono
  · simp [EndsClearance, hseen, htrigger]
  · simp [hseen]

/-- One observation keeps the stopwatch. -/
theorem Watches.step (h : Watches passes decided n condition)
    (hpass : passes[n]? = some (observation, now))
    (hdecided : decided[n]? = some (step condition observation bound now).2)
    (hmono : ∀ i j, i ≤ j → j ≤ n → timeAt passes i ≤ timeAt passes j) :
    Watches passes decided (n + 1) (step condition observation bound now).1 := by
  have hseen := seenAt_iff hpass
  cases observation with
  | unknown =>
    refine h.unknown hpass ?_ hmono
    rw [hdecided]
    dsimp only [Attention.step]
    split <;> rfl
  | present =>
    have hclearance : Clearance passes decided (n + 1) none none :=
      .of_reset (.inl ((hseen _).mpr rfl))
    have hresolve : ¬ DecidedAt decided .resolve n := by
      rw [DecidedAt, hdecided]
      dsimp only [Attention.step]
      split <;> simp
    cases hactive : condition.active with
    | true =>
      have hstep : (Attention.step condition .present bound now).1 =
          { condition with unknownSince := none, firstSeen := some (condition.presentSince now),
                           lastSeen := some now, clearSince := none } := by
        simp [Attention.step, hactive]
      rw [hstep]
      exact ⟨fun hinactive => by simp [hactive] at hinactive, fun _ => hclearance⟩
    | false =>
      obtain ⟨_, _, _, hpresence⟩ := h.present_inactive hactive hpass hresolve hmono
      dsimp only [Attention.step]
      split
      · exact ⟨fun hinactive => (Bool.noConfusion hinactive), fun _ => hclearance⟩
      · exact ⟨fun _ => hpresence, fun hon => by simp [hactive] at hon⟩
  | clear =>
    have hpresence : Presence passes decided (n + 1) none none :=
      .of_reset (.inl ((hseen _).mpr rfl))
    have htrigger : ¬ DecidedAt decided .trigger n := by
      rw [DecidedAt, hdecided]
      dsimp only [Attention.step]
      split
      · split <;> simp
      · simp
    cases hactive : condition.active with
    | false =>
      simp only [Attention.step, hactive]
      exact ⟨fun _ => hpresence, fun hon => by simp at hon⟩
    | true =>
      obtain ⟨_, _, _, hclearance⟩ := h.clear_active hactive hpass htrigger hmono
      simp only [Attention.step, hactive, if_true]
      split
      · exact ⟨fun _ => hpresence, fun hon => (Bool.noConfusion hon)⟩
      · exact ⟨fun hinactive => by simp at hinactive, fun _ => hclearance⟩
  | removed =>
    have hpresence : Presence passes decided (n + 1) none none :=
      .of_reset (.inr (.inl ((hseen _).mpr rfl)))
    dsimp only [Attention.step]
    split
    · exact ⟨fun _ => hpresence, fun hon => (Bool.noConfusion hon)⟩
    · rename_i hinactive
      exact ⟨fun _ => hpresence, fun hon => absurd hon hinactive⟩

/-- An inactive condition is triggered exactly at a present observation past the bound. -/
theorem Watches.trigger_iff (h : Watches passes decided n condition)
    (hactive : condition.active = false) (hpass : passes[n]? = some (observation, now))
    (hresolve : ¬ DecidedAt decided .resolve n)
    (hmono : ∀ i j, i ≤ j → j ≤ n → timeAt passes i ≤ timeAt passes j) :
    (Attention.step condition observation bound now).2 = some .trigger ↔ observation = .present ∧
      ∃ i, PresentFrom passes decided n i ∧
        now - timeAt passes i - unknownTime passes n i > bound := by
  rw [step_trigger_iff hactive]
  refine and_congr_right fun hpresent => ?_
  obtain ⟨i, hfrom, hstart, _⟩ := h.present_inactive hactive (hpresent ▸ hpass) hresolve hmono
  rw [hstart]
  constructor
  · exact fun hpast => ⟨i, hfrom, by omega⟩
  · rintro ⟨j, hother, hpast⟩
    obtain rfl := hfrom.unique hother
    omega

/-- An active condition is resolved exactly at a removal or at a confirmed clearance. -/
theorem Watches.resolve_iff (h : Watches passes decided n condition)
    (hactive : condition.active = true) (hpass : passes[n]? = some (observation, now))
    (htrigger : ¬ DecidedAt decided .trigger n)
    (hmono : ∀ i j, i ≤ j → j ≤ n → timeAt passes i ≤ timeAt passes j) :
    (Attention.step condition observation bound now).2 = some .resolve ↔
      observation = .removed ∨ observation = .clear ∧ ∃ i, ClearFrom passes decided n i ∧
          now - timeAt passes i - unknownTime passes n i ≥ resolveConfirmSeconds := by
  rw [step_resolve_iff hactive]
  refine or_congr_right (and_congr_right fun hclear => ?_)
  obtain ⟨i, hfrom, hstart, _⟩ := h.clear_active hactive (hclear ▸ hpass) htrigger hmono
  rw [hstart]
  constructor
  · exact fun hconfirmed => ⟨i, hfrom, by omega⟩
  · rintro ⟨j, hother, hconfirmed⟩
    obtain rfl := hfrom.unique hother
    omega

end Stopwatch

/-! ## The meaning of the decisions -/

section Meaning

variable (item : Observed) (bound : Int) {passes : List (Observation × Int)}

/-- A new condition starts inactive, with no interval open. -/
theorem watches_fresh (decided : List (Option Action)) :
    Watches passes decided 0 (.fresh item) := by
  refine ⟨fun _ => .idle ?_, fun hactive => ?_⟩
  · intro i hi
    omega
  · cases hactive

/-- Along the whole trace the fields of a condition are what the trace says. -/
theorem watches_observeAll (htimes : passes.Pairwise fun earlier later => earlier.2 ≤ later.2)
    {n : ℕ} (hn : n ≤ passes.length) : Watches passes (decisions bound (.fresh item) passes) n
      (observeAll bound (.fresh item) (passes.take n)) := by
  induction n with
  | zero => exact watches_fresh item _
  | succ n ih =>
    rcases hpass : passes[n] with ⟨observation, now⟩
    have hfound : passes[n]? = some (observation, now) := by
      rw [List.getElem?_eq_getElem (by omega), hpass]
    rw [observeAll_take_succ hfound]
    refine (ih (by omega)).step hfound ?_ (timeAt_mono htimes (by omega))
    rw [decisions_getElem?, hfound]
    rfl

/-- A condition of a trace is active exactly when the last decision was a trigger. -/
theorem observeAll_active_iff (n : ℕ) :
    (observeAll bound (.fresh item) (passes.take n)).active = true ↔
      ActiveAt (decisions bound (.fresh item) passes) n := by
  rw [observeAll_active, ActiveAt, decisions_take]
  cases (decisions bound (.fresh item) (passes.take n)).reduceOption.getLast? with
  | none => simp [ConditionState.fresh]
  | some action => simp

end Meaning

/-- The decisions of a trace from a new condition.  They alternate, beginning with a trigger.
While the condition is inactive a trigger is decided exactly at a present observation at which
presence, without long unknown runs, has passed the bound.  While it is active a resolve is
decided exactly at a removal, or at a clear observation at which clearance, without long
unknown runs, is confirmed.  Nothing is decided at an unknown observation. -/
theorem decisions_meaning (item : Observed) (bound : Int) {passes : List (Observation × Int)}
    (htimes : passes.Pairwise fun earlier later => earlier.2 ≤ later.2) :
    let decided := decisions bound (.fresh item) passes
    (∀ (i : ℕ) (action : Action), decided.reduceOption[i]? = some action →
      (action = .trigger ↔ i % 2 = 0)) ∧
    ∀ (n : ℕ) (observation : Observation) (now : Int), passes[n]? = some (observation, now) →
      (¬ ActiveAt decided n → ¬ DecidedAt decided .resolve n ∧
        (DecidedAt decided .trigger n ↔ observation = .present ∧
          ∃ i, PresentFrom passes decided n i ∧
            now - timeAt passes i - unknownTime passes n i > bound)) ∧
      (ActiveAt decided n → ¬ DecidedAt decided .trigger n ∧
        (DecidedAt decided .resolve n ↔ observation = .removed ∨ observation = .clear ∧
          ∃ i, ClearFrom passes decided n i ∧
            now - timeAt passes i - unknownTime passes n i ≥ 120)) ∧
      (observation = .unknown → decided[n]? = some none) := by
  intro decided
  refine ⟨fun i action h => ?_, fun n observation now hpass => ?_⟩
  · rw [decisions_alternate bound _ passes h]
    simp [ConditionState.fresh]
  have hn : n < passes.length := (List.getElem?_eq_some_iff.mp hpass).1
  have hmono := timeAt_mono htimes hn
  have hwatches := watches_observeAll item bound htimes hn.le
  set condition := observeAll bound (.fresh item) (passes.take n) with hcondition
  have hdecided : decided[n]? = some (step condition observation bound now).2 := by
    rw [show decided = decisions bound (.fresh item) passes from rfl, decisions_getElem?, hpass]
    rfl
  have hat : ∀ action, DecidedAt decided action n ↔
      (step condition observation bound now).2 = some action := by
    intro action
    rw [DecidedAt, hdecided, Option.some.injEq]
  have hactive : condition.active = true ↔ ActiveAt decided n :=
    observeAll_active_iff item bound n
  refine ⟨fun hidle => ?_, fun hon => ?_, fun hunknown => ?_⟩
  · have hinactive : condition.active = false := by
      rw [← hactive] at hidle
      simpa using hidle
    have hresolve : ¬ DecidedAt decided .resolve n := by
      rw [hat]
      intro h
      have hbefore := (step_transition h).1
      simp [hinactive] at hbefore
    refine ⟨hresolve, ?_⟩
    rw [hat]
    exact hwatches.trigger_iff hinactive hpass hresolve hmono
  · have htrigger : ¬ DecidedAt decided .trigger n := by
      rw [hat]
      intro h
      have hbefore := (step_transition h).1
      simp [hactive.mpr hon] at hbefore
    refine ⟨htrigger, ?_⟩
    rw [hat]
    exact hwatches.resolve_iff (hactive.mpr hon) hpass htrigger hmono
  · subst hunknown
    rw [hdecided]
    dsimp only [step]
    split <;> rfl

namespace Reference

/-- The watch of a service. -/
def serviceItem : Observed :=
  { key := { site := "lab", component := "service", rule := "service-down"
             targetClass := some "demo.service" }
    inputLabel := "nq", observation := .present }

/-- Presence with an unknown run of 190 s in it, then clearance with one of 30 s. -/
def observedService : List (Observation × Int) :=
  [(.present, 0), (.unknown, 60), (.unknown, 120), (.present, 250), (.present, 380),
    (.clear, 440), (.unknown, 470), (.clear, 500), (.clear, 560), (.present, 620)]

end Reference

open Reference

/-- Of 380 s of presence 190 s do not count, so the trigger waits for the bound of 180 s; the
short unknown run counts as clearance. -/
theorem decisions_meaning_service :
    let decided := decisions 180 (.fresh serviceItem) observedService
    decided = [none, none, none, none, some .trigger, none, none, none, some .resolve, none] ∧
      (ActiveAt decided 8 → (DecidedAt decided .resolve 8 ↔
        Observation.clear = .removed ∨ Observation.clear = .clear ∧
          ∃ i, ClearFrom observedService decided 8 i ∧
            560 - timeAt observedService i -
              unknownTime observedService 8 i ≥ 120)) := by
  refine ⟨by decide, fun hactive => ?_⟩
  have htimes : observedService.Pairwise fun earlier later => earlier.2 ≤ later.2 := by
    decide
  have hmeaning := (decisions_meaning serviceItem 180 htimes).2 8 .clear 560 rfl
  exact (hmeaning.2.1 hactive).2

end ConstellationMonitor.Attention
