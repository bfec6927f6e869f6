/-
  Stopwatches over a sequence of timed observations.

  A stopwatch is opened by the first wanted observation, closed by a reset, and held while
  nothing is observed.  A hold that was too long does not count: the start of the measured
  interval is moved forward by its length.  What the stopwatch then shows is what a reader of
  the whole sequence would compute: the time since the first wanted observation after the last
  reset, without the maximal runs of hold that were longer than the allowed gap.
-/
import Mathlib

namespace ConstellationMonitor.Foundation

open Finset

/-! ## What a reader of the sequence computes -/

section Reader

variable (wanted reset hold : ℕ → Prop) (time : ℕ → ℤ) (gap : ℤ)

/-- The first wanted place since the last reset, among the first `n` places. -/
structure FirstSince (n start : ℕ) : Prop where
  lt : start < n
  isWanted : wanted start
  quiet : ∀ i, start ≤ i → i < n → ¬ reset i
  first : ∀ i, i < start → wanted i → ∃ j, i ≤ j ∧ j < n ∧ reset j

/-- A run of hold from its first place to the first place after it. -/
structure MaximalRun (first next : ℕ) : Prop where
  lt : first < next
  held : ∀ i, first ≤ i → i < next → hold i
  ends : ¬ hold next
  starts : ∀ i, i + 1 = first → ¬ hold i

open Classical in
/-- The total length of the maximal runs from `start` on that end among the first `n` places
and are longer than the gap. -/
noncomputable def longRuns (start n : ℕ) : ℤ :=
  ∑ next ∈ range n, ∑ first ∈ Ico start next,
    if MaximalRun hold first next ∧ gap < time next - time first
    then time next - time first else 0

variable {wanted reset hold time gap}

theorem FirstSince.unique {n left right : ℕ} (hleft : FirstSince wanted reset n left)
    (hright : FirstSince wanted reset n right) : left = right := by
  rcases Nat.lt_trichotomy left right with hlt | heq | hgt
  · obtain ⟨j, hfrom, hto, hreset⟩ := hright.first left hlt hleft.isWanted
    exact absurd hreset (hleft.quiet j hfrom hto)
  · exact heq
  · obtain ⟨j, hfrom, hto, hreset⟩ := hleft.first right hgt hright.isWanted
    exact absurd hreset (hright.quiet j hfrom hto)

theorem FirstSince.next {n start : ℕ} (h : FirstSince wanted reset n start)
    (hquiet : ¬ reset n) : FirstSince wanted reset (n + 1) start := by
  refine ⟨by have := h.lt; omega, h.isWanted, ?_, ?_⟩
  · intro i hfrom hto
    rcases Nat.lt_succ_iff_lt_or_eq.mp hto with hlt | rfl
    · exact h.quiet i hfrom hlt
    · exact hquiet
  · intro i hi hwanted
    obtain ⟨j, hfrom, hto, hreset⟩ := h.first i hi hwanted
    exact ⟨j, hfrom, by omega, hreset⟩

/-- A maximal run is determined by its end. -/
theorem MaximalRun.unique {left right next : ℕ} (hleft : MaximalRun hold left next)
    (hright : MaximalRun hold right next) : left = right := by
  have hle : ∀ {a b : ℕ}, MaximalRun hold a next → MaximalRun hold b next → b ≤ a := by
    intro a b ha hb
    by_contra hlt
    exact hb.starts (b - 1) (by omega) (ha.held (b - 1) (by omega) (by have := hb.lt; omega))
  exact Nat.le_antisymm (hle hright hleft) (hle hleft hright)

open Classical in
/-- The runs that end at a place are added to those that ended before. -/
theorem longRuns_succ (start n : ℕ) :
    longRuns hold time gap start (n + 1) = longRuns hold time gap start n +
      ∑ first ∈ Ico start n, if MaximalRun hold first n ∧ gap < time n - time first
        then time n - time first else 0 :=
  sum_range_succ _ n

/-- No run has ended by its own start. -/
theorem longRuns_self (start : ℕ) : longRuns hold time gap start (start + 1) = 0 := by
  refine sum_eq_zero fun next hnext => ?_
  have hle : next ≤ start := Nat.lt_succ_iff.mp (mem_range.mp hnext)
  rw [Ico_eq_empty_of_le hle, sum_empty]

/-- A place at which no run ends adds nothing. -/
theorem longRuns_succ_of_none {start n : ℕ}
    (h : ∀ first, start ≤ first → ¬ MaximalRun hold first n) :
    longRuns hold time gap start (n + 1) = longRuns hold time gap start n := by
  rw [longRuns_succ, sum_eq_zero, add_zero]
  intro first hfirst
  rw [if_neg]
  rintro ⟨hrun, _⟩
  exact h first (mem_Ico.mp hfirst).1 hrun

/-- A place at which a run ends adds the run, if it was long. -/
theorem longRuns_succ_of_run {start first n : ℕ} (hfrom : start ≤ first)
    (hrun : MaximalRun hold first n) :
    longRuns hold time gap start (n + 1) = longRuns hold time gap start n +
      if gap < time n - time first then time n - time first else 0 := by
  rw [longRuns_succ, sum_eq_single first]
  · simp only [hrun, true_and]
  · intro other _ hother
    rw [if_neg]
    rintro ⟨hsame, _⟩
    exact hother (hsame.unique hrun)
  · intro hout
    exact absurd (mem_Ico.mpr ⟨hfrom, hrun.lt⟩) hout

end Reader

/-! ## What the stopwatch does -/

/-- The start of the interval after a wanted observation: a long hold moves it forward by the
hold's length. -/
def resumeAt (gap : ℤ) (start since : Option ℤ) (now : ℤ) : ℤ :=
  match (since.map fun since => now - since).filter fun run => run > gap, start with
  | some run, some start => min (start + run) now
  | _, start => start.getD now

/-- The start of the hold after an unobserved place, if an interval is open. -/
def holdFrom (start since : Option ℤ) (now : ℤ) : Option ℤ :=
  if start.isSome then some (since.getD now) else since

section Stopwatch

variable (wanted reset hold : ℕ → Prop) (time : ℕ → ℤ) (gap : ℤ)

/-- A stopwatch shows what a reader of the first `n` places computes. -/
inductive Measures (n : ℕ) : Option ℤ → Option ℤ → Prop
  /-- nothing wanted since the last reset -/
  | idle (h : ∀ i, i < n → wanted i → ∃ j, i ≤ j ∧ j < n ∧ reset j) : Measures n none none
  /-- an interval is open, and the last place was observed -/
  | open {start : ℕ} (hfirst : FirstSince wanted reset n start)
      (hlast : ∀ i, i + 1 = n → ¬ hold i ∧ time start + longRuns hold time gap start n ≤ time i) :
      Measures n (some (time start + longRuns hold time gap start n)) none
  /-- an interval is open, and nothing was observed from `first` on -/
  | held {start first : ℕ} (hfirst : FirstSince wanted reset n start) (hfrom : start < first)
      (hto : first < n) (hhold : ∀ i, first ≤ i → i < n → hold i)
      (hlast : ∀ i, i + 1 = first → ¬ hold i)
      (hbefore : time start + longRuns hold time gap start n ≤ time first) :
      Measures n (some (time start + longRuns hold time gap start n)) (some (time first))

variable {wanted reset hold time gap} {n : ℕ} {start since : Option ℤ}

namespace Measures

/-- A reset closes the interval. -/
theorem of_reset (hreset : reset n) : Measures wanted reset hold time gap (n + 1) none none :=
  .idle fun i hi _ => ⟨n, by omega, by omega, hreset⟩

/-- Nothing observed: the interval is held. -/
theorem of_hold (h : Measures wanted reset hold time gap n start since) (hhold : hold n)
    (hwanted : ¬ wanted n) (hreset : ¬ reset n) (htimes : ∀ i j, i ≤ j → j ≤ n → time i ≤ time j) :
    Measures wanted reset hold time gap (n + 1) start (holdFrom start since (time n)) := by
  have hnone : ∀ first, ¬ MaximalRun hold first n := fun _ hrun => hrun.ends hhold
  cases h with
  | idle hidle =>
    refine .idle fun i hi hi' => ?_
    rcases Nat.lt_succ_iff_lt_or_eq.mp hi with hlt | rfl
    · obtain ⟨j, hfrom, hto, hj⟩ := hidle i hlt hi'
      exact ⟨j, hfrom, by omega, hj⟩
    · exact absurd hi' hwanted
  | «open» hfirst hlast =>
    rename_i place
    rw [← longRuns_succ_of_none (n := n) fun first _ => hnone first]
    refine .held (hfirst.next hreset) hfirst.lt (by omega) ?_ ?_ ?_
    · intro i hfrom hto
      obtain rfl : i = n := by omega
      exact hhold
    · intro i hi
      exact (hlast i hi).1
    · rw [longRuns_succ_of_none fun first _ => hnone first]
      exact (hlast (n - 1) (by have := hfirst.lt; omega)).2.trans (htimes _ _ (by omega) le_rfl)
  | held hfirst hfrom hto hrun hlast hbefore =>
    rename_i place first
    rw [← longRuns_succ_of_none (n := n) fun first _ => hnone first] at hbefore ⊢
    refine .held (hfirst.next hreset) hfrom (by omega) ?_ hlast hbefore
    intro i hi hlt
    rcases Nat.lt_succ_iff_lt_or_eq.mp hlt with hlt | rfl
    · exact hrun i hi hlt
    · exact hhold

/-- A wanted observation opens the interval or goes on with it. -/
theorem of_wanted (h : Measures wanted reset hold time gap n start since) (hwanted : wanted n)
    (hreset : ¬ reset n) (hhold : ¬ hold n) (htimes : ∀ i j, i ≤ j → j ≤ n → time i ≤ time j) :
    ∃ place, FirstSince wanted reset (n + 1) place ∧ resumeAt gap start since (time n) =
        time place + longRuns hold time gap place (n + 1) ∧
      Measures wanted reset hold time gap (n + 1) (some (resumeAt gap start since (time n)))
        none := by
  suffices hopen : ∃ place, FirstSince wanted reset (n + 1) place ∧
      resumeAt gap start since (time n) = time place + longRuns hold time gap place (n + 1) ∧
      resumeAt gap start since (time n) ≤ time n by
    obtain ⟨place, hfirst, hstart, hle⟩ := hopen
    refine ⟨place, hfirst, hstart, ?_⟩
    rw [hstart] at hle ⊢
    refine .open hfirst fun i hi => ?_
    obtain rfl : i = n := by omega
    exact ⟨hhold, hle⟩
  cases h with
  | idle hidle =>
    refine ⟨n, ⟨by omega, hwanted, ?_, ?_⟩, ?_, le_rfl⟩
    · intro i hfrom hto
      obtain rfl : i = n := by omega
      exact hreset
    · intro i hi hi'
      obtain ⟨j, hfrom, hto, hj⟩ := hidle i hi hi'
      exact ⟨j, hfrom, by omega, hj⟩
    · rw [longRuns_self]
      simp [resumeAt]
  | «open» hfirst hlast =>
    rename_i place
    obtain ⟨hobserved, hle⟩ := hlast (n - 1) (by have := hfirst.lt; omega)
    have hnone : ∀ first, ¬ MaximalRun hold first n := fun first hrun =>
      hobserved (hrun.held (n - 1) (by have := hrun.lt; omega)
        (by have := hrun.lt; omega))
    refine ⟨place, hfirst.next hreset, ?_, ?_⟩
    · rw [longRuns_succ_of_none fun first _ => hnone first]
      simp [resumeAt]
    · exact hle.trans (htimes _ _ (by omega) le_rfl)
  | held hfirst hfrom hto hrun hlast hbefore =>
    rename_i place first
    have hmaximal : MaximalRun hold first n := ⟨hto, hrun, hhold, hlast⟩
    have htime : time first ≤ time n := htimes _ _ (by omega) le_rfl
    have hstart : resumeAt gap (some (time place + longRuns hold time gap place n))
        (some (time first)) (time n) = time place + longRuns hold time gap place (n + 1) := by
      rw [longRuns_succ_of_run (by omega) hmaximal]
      unfold resumeAt
      by_cases hlong : gap < time n - time first
      · simp only [Option.map_some, Option.filter_some, gt_iff_lt, hlong, decide_true, if_true]
        omega
      · simp only [Option.map_some, Option.filter_some, gt_iff_lt, hlong, decide_false, if_false,
          Bool.false_eq_true, Option.getD_some, add_zero]
    refine ⟨place, hfirst.next hreset, hstart, ?_⟩
    rw [hstart, longRuns_succ_of_run (by omega) hmaximal]
    split <;> omega

end Measures

end Stopwatch

/-! ## A latch

An armed latch fires at the first event that trips it, and is then spent. -/

section Latch

variable {α : Type} (trips fires : α → Prop)

/-- The events a latch sees, from whether it is armed before them. -/
inductive Latched : Prop → List α → Prop
  | nil {armed : Prop} : Latched armed []
  | cons {armed next : Prop} {event : α} {rest : List α}
      (hfires : fires event ↔ armed ∧ trips event)
      (hnext : next ↔ armed ∧ ¬ trips event) (hrest : Latched next rest) :
      Latched armed (event :: rest)

variable {trips fires} {armed : Prop} {events : List α}

theorem Latched.first (h : Latched trips fires armed events) (k : ℕ) (event : α)
    (hevent : events[k]? = some event) : fires event ↔ armed ∧ trips event ∧
      ∀ (j : ℕ) (other : α), j < k → events[j]? = some other → ¬ trips other := by
  induction h generalizing k with
  | nil => simp at hevent
  | @cons armed next head rest hfires hnext _ ih =>
    cases k with
    | zero =>
      obtain rfl : head = event := by simpa using hevent
      simp [hfires]
    | succ k =>
      rw [ih k hevent, hnext]
      constructor
      · rintro ⟨⟨harmed, hhead⟩, htrips, hearlier⟩
        refine ⟨harmed, htrips, fun j other hj hother => ?_⟩
        cases j with
        | zero => exact Option.some.inj hother ▸ hhead
        | succ j => exact hearlier j other (by omega) hother
      · rintro ⟨harmed, htrips, hearlier⟩
        exact ⟨⟨harmed, hearlier 0 head (by omega) rfl⟩, htrips,
          fun j other hj hother => hearlier (j + 1) other (by omega) hother⟩

theorem Latched.unique (h : Latched trips fires armed events) (j k : ℕ) (left right : α)
    (hleft : events[j]? = some left) (hright : events[k]? = some right) (hfires : fires left)
    (hagain : fires right) : j = k := by
  obtain ⟨-, htrips, hfirst⟩ := (h.first j left hleft).mp hfires
  obtain ⟨-, htrips', hfirst'⟩ := (h.first k right hright).mp hagain
  rcases Nat.lt_trichotomy j k with hlt | heq | hgt
  · exact absurd htrips (hfirst' j left hlt hleft)
  · exact heq
  · exact absurd htrips' (hfirst k right hgt hright)

theorem Latched.exists_fires_iff (h : Latched trips fires armed events) :
    (∃ event ∈ events, fires event) ↔ armed ∧ ∃ event ∈ events, trips event := by
  induction h with
  | nil => simp
  | cons hfires hnext _ ih =>
    simp only [List.mem_cons, exists_eq_or_imp, hfires, ih, hnext]
    tauto

end Latch

end ConstellationMonitor.Foundation
