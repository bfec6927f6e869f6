/-
  Foundation/Fairness.lean --- endless runs of several agents in a world that moves too.

  An agent that is ready acts at some later time.  The rule `FairRun.leads_to` turns a rank
  that the agent lowers and nobody raises into a promise that its goal is reached.
-/
import Mathlib.Order.Nat

namespace ConstellationMonitor.Foundation

/-- The agents of a system, what they and the world may do, and when an agent is not blocked. -/
structure Agents (σ ι : Type) where
  acts : ι → σ → σ → Prop
  world : σ → σ → Prop
  ready : ι → σ → Prop

variable {σ ι : Type} {agents : Agents σ ι}

/-- A step of the system. -/
def Agents.Step (agents : Agents σ ι) (before after : σ) : Prop :=
  agents.world before after ∨ ∃ agent, agents.acts agent before after

/-- An endless run that leaves no ready agent waiting for ever. -/
structure FairRun (agents : Agents σ ι) where
  state : Nat → σ
  next : ∀ n, agents.Step (state n) (state (n + 1))
  fair : ∀ agent n, agents.ready agent (state n) →
    ∃ m, n ≤ m ∧ agents.acts agent (state m) (state (m + 1))

namespace FairRun

variable (run : FairRun agents) {n m : Nat}

/-- What every step keeps holds from its first time on. -/
theorem stays (holds : σ → Prop)
    (hstep : ∀ {before after}, agents.Step before after → holds before → holds after)
    (hle : n ≤ m) (h : holds (run.state n)) : holds (run.state m) := by
  induction m, hle using Nat.le_induction with
  | base => exact h
  | succ m _ ih => exact hstep (run.next m) ih

/-- Up to a later time the goal is reached or the rank has not grown. -/
theorem keeps_rank {holds goal : σ → Prop} {rank : σ → Nat}
    (hstep : ∀ {before after}, agents.Step before after → holds before → ¬goal before →
      goal after ∨ holds after ∧ rank after ≤ rank before) (hle : n ≤ m) (h : holds (run.state n)) :
    (∃ k, n ≤ k ∧ goal (run.state k)) ∨
      holds (run.state m) ∧ rank (run.state m) ≤ rank (run.state n) := by
  induction m, hle using Nat.le_induction with
  | base => exact .inr ⟨h, le_rfl⟩
  | succ m hle ih =>
    rcases ih with hdone | ⟨hm, hrank⟩
    · exact .inl hdone
    · by_cases hgoal : goal (run.state m)
      · exact .inl ⟨m, hle, hgoal⟩
      · rcases hstep (run.next m) hm hgoal with hdone | ⟨hnext, hrank'⟩
        · exact .inl ⟨m + 1, Nat.le_succ_of_le hle, hdone⟩
        · exact .inr ⟨hnext, hrank'.trans hrank⟩

/-- An agent that is ready until the goal is reached, and lowers a rank that no step raises,
reaches the goal. -/
theorem leads_to (agent : ι) (holds goal : σ → Prop) (rank : σ → Nat)
    (hready : ∀ {state}, holds state → ¬goal state → agents.ready agent state)
    (hstep : ∀ {before after}, agents.Step before after → holds before → ¬goal before →
      goal after ∨ holds after ∧ rank after ≤ rank before)
    (hacts : ∀ {before after}, agents.acts agent before after → holds before → ¬goal before →
      goal after ∨ rank after < rank before)
    (h : holds (run.state n)) : ∃ m, n ≤ m ∧ goal (run.state m) := by
  -- The induction is on the rank at the time the wait begins.
  generalize hrank : rank (run.state n) = r
  induction r using Nat.strongRecOn generalizing n with
  | ind r ih =>
    subst hrank
    by_cases hgoal : goal (run.state n)
    · exact ⟨n, le_rfl, hgoal⟩
    obtain ⟨m, hle, hact⟩ := run.fair agent n (hready h hgoal)
    rcases run.keeps_rank hstep hle h with hdone | ⟨hm, hrank⟩
    · exact hdone
    by_cases hgoal' : goal (run.state m)
    · exact ⟨m, hle, hgoal'⟩
    rcases hstep (run.next m) hm hgoal' with hdone | ⟨hnext, -⟩
    · exact ⟨m + 1, Nat.le_succ_of_le hle, hdone⟩
    rcases hacts hact hm hgoal' with hdone | hless
    · exact ⟨m + 1, Nat.le_succ_of_le hle, hdone⟩
    obtain ⟨k, hk, hreached⟩ := ih _ (hless.trans_le hrank) hnext rfl
    exact ⟨k, by omega, hreached⟩

end FairRun

end ConstellationMonitor.Foundation
