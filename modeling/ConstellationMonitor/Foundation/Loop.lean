/-
  Loops that take fallible steps while there is more to do.

  The loop runs on fuel.  A measure that every step lowers shows that the fuel was enough, and
  the loop then ends where no step can be taken: every state that steps lead to lies on its way.
-/
import Mathlib

namespace ConstellationMonitor.Foundation

/-- How a loop ended. -/
inductive Halt (ε : Type) where
  /-- there was no more to do -/
  | finished
  /-- a step failed -/
  | stopped (error : ε)
  /-- the fuel ran out -/
  | unfinished

section Loop

variable {σ ε : Type} (more : σ → Bool) (step : σ → Except ε σ)

/-- Take steps while there is more to do. -/
def runWhile : Nat → σ → σ × Halt ε
  | 0, state => (state, if more state then .unfinished else .finished)
  | fuel + 1, state =>
    if more state then
      match step state with
      | .ok next => runWhile fuel next
      | .error error => (state, .stopped error)
    else (state, .finished)

/-- A step the loop takes. -/
def Takes (state next : σ) : Prop := more state = true ∧ step state = .ok next

/-- The states the loop goes through. -/
abbrev Steps : σ → σ → Prop := Relation.ReflTransGen (Takes more step)

/-- What the end of a loop says about its last state. -/
def Ends : σ × Halt ε → Prop
  | (state, .finished) => more state = false
  | (state, .stopped error) => more state = true ∧ step state = .error error
  | (_, .unfinished) => True

variable {more step}

theorem takes_rightUnique : Relator.RightUnique (Takes more step) :=
  fun _ _ _ first second => Except.ok.inj (first.2.symm.trans second.2)

variable (more step) in
theorem steps_runWhile (fuel : Nat) (state : σ) :
    Steps more step state (runWhile more step fuel state).1 := by
  induction fuel generalizing state with
  | zero => exact .refl
  | succ fuel ih =>
    unfold runWhile
    split
    · rename_i hmore
      split
      · rename_i next hstep
        exact .head ⟨hmore, hstep⟩ (ih next)
      · exact .refl
    · exact .refl

variable (more step) in
/-- The loop ends where there is no more to do or a step fails. -/
theorem ends_runWhile (fuel : Nat) (state : σ) :
    Ends more step (runWhile more step fuel state) := by
  induction fuel generalizing state with
  | zero =>
    unfold runWhile
    cases hmore : more state
    · exact hmore
    · trivial
  | succ fuel ih =>
    unfold runWhile
    split
    · rename_i hmore
      split
      · exact ih _
      · rename_i error hstep
        exact ⟨hmore, hstep⟩
    · rename_i hmore
      exact Bool.eq_false_iff.mpr hmore

/-- More fuel than a measure that every step lowers is enough. -/
theorem runWhile_halts (invariant : σ → Prop) (rank : σ → Nat)
    (hstep : ∀ state next, invariant state → Takes more step state next →
      invariant next ∧ rank next < rank state)
    {fuel : Nat} {state : σ} (h : invariant state) (hfuel : rank state < fuel) :
    (runWhile more step fuel state).2 ≠ .unfinished := by
  induction fuel generalizing state with
  | zero => omega
  | succ fuel ih =>
    unfold runWhile
    split
    · rename_i hmore
      split
      · rename_i next hnext
        obtain ⟨hkept, hlower⟩ := hstep state next h ⟨hmore, hnext⟩
        exact ih hkept (by omega)
      · simp
    · simp

/-- No step is taken from where a loop halts. -/
theorem Ends.stuck {result : σ × Halt ε} (h : Ends more step result)
    (halts : result.2 ≠ .unfinished) (next : σ) : ¬Takes more step result.1 next := by
  rintro ⟨hmore, hstep⟩
  obtain ⟨state, halt⟩ := result
  cases halt with
  | finished => exact absurd (hmore.symm.trans h) (by simp)
  | stopped error => exact absurd (hstep.symm.trans h.2) (by simp)
  | unfinished => exact halts rfl

/-- A loop that halts has gone through every state that steps lead to. -/
theorem runWhile_last {fuel : Nat} {state other : σ}
    (halts : (runWhile more step fuel state).2 ≠ .unfinished) (h : Steps more step state other) :
    Steps more step other (runWhile more step fuel state).1 := by
  rcases Relation.ReflTransGen.total_of_right_unique takes_rightUnique h
    (steps_runWhile more step fuel state) with hbefore | hafter
  · exact hbefore
  · rcases Relation.ReflTransGen.cases_head hafter with hsame | ⟨next, htakes, -⟩
    · rw [hsame]
    · exact absurd htakes ((ends_runWhile more step fuel state).stuck halts next)

end Loop

end ConstellationMonitor.Foundation
