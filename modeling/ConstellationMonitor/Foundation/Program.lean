/-
  Programs in `EStateM` and the transition systems they follow.

  The state of such a program survives an error, as that of a `&mut self` method does.
  A `Discipline` says what a program may do to an abstraction of its state: the steps it
  takes, the last damage an early exit may do, and the errors it may end with.  The rules
  below show that a program follows a discipline from the shape of the program.
-/
import Mathlib

namespace ConstellationMonitor.Foundation

namespace Program

open Relation (ReflGen ReflTransGen)

variable {ε σ τ α β : Type}

/-- The state a program leaves behind, whichever way it ended. -/
def final : EStateM.Result ε σ α → σ
  | .ok _ state => state
  | .error _ state => state

/-! ## Evaluation of programs -/

@[simp] theorem pure_apply (value : α) (state : σ) :
    (pure value : EStateM ε σ α) state = .ok value state := rfl

@[simp] theorem throw_apply (error : ε) (state : σ) :
    (throw error : EStateM ε σ α) state = .error error state := rfl

@[simp] theorem modify_apply (f : σ → σ) (state : σ) :
    (modify f : EStateM ε σ PUnit) state = .ok ⟨⟩ (f state) := rfl

@[simp] theorem get_bind_apply (f : σ → EStateM ε σ β) (state : σ) :
    (get >>= f) state = f state state := rfl

@[simp] theorem modify_bind_apply (f : σ → σ) (g : PUnit → EStateM ε σ β) (state : σ) :
    (modify f >>= g) state = g ⟨⟩ (f state) := rfl

/-- A bind runs its continuation when the first program succeeds. -/
theorem bind_apply (x : EStateM ε σ α) (f : α → EStateM ε σ β) (state : σ) :
    (x >>= f) state =
      match x state with
      | .ok value next => f value next
      | .error error next => .error error next := by
  show EStateM.bind x f state = _
  unfold EStateM.bind
  cases x state <;> rfl

theorem bind_eq_ok (x : EStateM ε σ α) (f : α → EStateM ε σ β) (state next : σ) (value : β) :
    (x >>= f) state = .ok value next ↔
      ∃ mid between, x state = .ok mid between ∧ f mid between = .ok value next := by
  rw [bind_apply]
  cases x state <;> simp

/-- What each round of a loop keeps when it ends well, a loop that ends well keeps. -/
theorem forM_keeps_ok (keeps : σ → Prop) {values : List α} {body : α → EStateM ε σ PUnit}
    (hbody : ∀ value ∈ values, ∀ state next, body value state = .ok ⟨⟩ next → keeps state →
      keeps next) {state next : σ} (hrun : forM values body state = .ok ⟨⟩ next)
    (hstart : keeps state) : keeps next := by
  induction values generalizing state with
  | nil =>
    obtain rfl : state = next := by simpa using hrun
    exact hstart
  | cons head rest ih =>
    rw [List.forM_cons] at hrun
    obtain ⟨_, mid, hhead, hrest⟩ := (bind_eq_ok _ _ _ _ _).mp hrun
    exact ih (fun value hvalue => hbody value (by simp [hvalue])) hrest
      (hbody head (by simp) state mid hhead hstart)

/-- Dropping the value of a program keeps its ending. -/
theorem discard_apply (x : EStateM ε σ α) (state : σ) :
    (discard x : EStateM ε σ PUnit) state =
      match x state with
      | .ok _ next => .ok ⟨⟩ next
      | .error error next => .error error next := by
  show EStateM.map (Function.const α PUnit.unit) x state = _
  unfold EStateM.map
  cases x state <;> rfl

/-! ## Disciplines -/

/-- What every step keeps, a chain of steps keeps. -/
theorem keeps_along {step : τ → τ → Prop} {keeps : τ → Prop}
    (hstep : ∀ before after, step before after → keeps before → keeps after) {first last : τ}
    (hsteps : ReflTransGen step first last) (hstart : keeps first) : keeps last := by
  induction hsteps with
  | refl => exact hstart
  | tail _ hlast ih => exact hstep _ _ hlast ih

/-- What a program may do, seen through an abstraction of its state. -/
structure Discipline (ε σ τ : Type) where
  /-- the part of the state the discipline is about -/
  abs : σ → τ
  /-- one step -/
  step : τ → τ → Prop
  /-- what an early exit may do after the last step -/
  loss : τ → τ → Prop
  /-- the errors an early exit may end with -/
  raises : ε → Prop

/-- A program follows a discipline that has come from `start` to the present state. -/
def FollowsFrom (discipline : Discipline ε σ τ) (start : τ) (x : EStateM ε σ α) (state : σ) :
    Prop :=
  match x state with
  | .ok _ next => ReflTransGen discipline.step start (discipline.abs next)
  | .error error next => discipline.raises error ∧
      ∃ mid, ReflTransGen discipline.step start mid ∧
        ReflGen discipline.loss mid (discipline.abs next)

/-- A program follows a discipline from a state. -/
def Follows (discipline : Discipline ε σ τ) (x : EStateM ε σ α) (state : σ) : Prop :=
  FollowsFrom discipline (discipline.abs state) x state

section Follows

variable {d : Discipline ε σ τ} {start : τ} {state : σ}

variable {next : σ} {value : α} {x : EStateM ε σ α} {error : ε} {f : α → EStateM ε σ β}
  {keeps : τ → Prop}

theorem FollowsFrom.of_ok (hx : FollowsFrom d start x state) (hrun : x state = .ok value next) :
    ReflTransGen d.step start (d.abs next) := by
  unfold FollowsFrom at hx
  rwa [hrun] at hx

theorem FollowsFrom.of_error (hx : FollowsFrom d start x state)
    (hrun : x state = .error error next) : d.raises error ∧ ∃ mid, ReflTransGen d.step start mid ∧
      ReflGen d.loss mid (d.abs next) := by
  unfold FollowsFrom at hx
  rwa [hrun] at hx

theorem followsFrom_of
    (hok : ∀ value next, x state = .ok value next → ReflTransGen d.step start (d.abs next))
    (herror : ∀ error next, x state = .error error next → d.raises error ∧
      ∃ mid, ReflTransGen d.step start mid ∧ ReflGen d.loss mid (d.abs next)) :
    FollowsFrom d start x state := by
  unfold FollowsFrom
  cases hrun : x state with
  | ok value next => exact hok value next hrun
  | error error next => exact herror error next hrun

/-- Steps already taken are put in front. -/
theorem Follows.after (hx : Follows d x state) (hsteps : ReflTransGen d.step start (d.abs state)) :
    FollowsFrom d start x state := by
  refine followsFrom_of (fun value next hrun => ?_) fun error next hrun => ?_
  · exact hsteps.trans (FollowsFrom.of_ok hx hrun)
  · obtain ⟨hraises, mid, hmid, hlast⟩ := FollowsFrom.of_error hx hrun
    exact ⟨hraises, mid, hsteps.trans hmid, hlast⟩

theorem followsFrom_modify_bind {f : σ → σ} {g : PUnit → EStateM ε σ β}
    (h : FollowsFrom d start (g ⟨⟩) (f state)) : FollowsFrom d start (modify f >>= g) state := h

theorem followsFrom_get_bind {f : σ → EStateM ε σ β} (h : FollowsFrom d start (f state) state) :
    FollowsFrom d start (get >>= f) state := h

theorem followsFrom_pure (value : α) (hsteps : ReflTransGen d.step start (d.abs state)) :
    FollowsFrom d start (pure value : EStateM ε σ α) state := hsteps

theorem Follows.of_ok (hx : Follows d x state) (hrun : x state = .ok value next) :
    ReflTransGen d.step (d.abs state) (d.abs next) :=
  FollowsFrom.of_ok hx hrun

theorem Follows.of_error (hx : Follows d x state) (hrun : x state = .error error next) :
    d.raises error ∧ ∃ mid, ReflTransGen d.step (d.abs state) mid ∧
      ReflGen d.loss mid (d.abs next) :=
  FollowsFrom.of_error hx hrun

theorem follows_pure (value : α) : Follows d (pure value : EStateM ε σ α) state := .refl

theorem follows_throw (h : d.raises error) : Follows d (throw error : EStateM ε σ α) state :=
  ⟨h, _, .refl, .refl⟩

theorem follows_modify {f : σ → σ} (h : ReflTransGen d.step (d.abs state) (d.abs (f state))) :
    Follows d (modify f : EStateM ε σ PUnit) state := h

theorem follows_set (h : ReflTransGen d.step (d.abs state) (d.abs next)) :
    Follows d (set next : EStateM ε σ PUnit) state := h

theorem follows_get_bind {f : σ → EStateM ε σ β} (h : Follows d (f state) state) :
    Follows d (get >>= f) state := h

theorem followsFrom_bind (hx : FollowsFrom d start x state)
    (hf : ∀ value next, x state = .ok value next → Follows d (f value) next) :
    FollowsFrom d start (x >>= f) state := by
  refine followsFrom_of (fun result last hrun => ?_) fun error last hrun => ?_
  · obtain ⟨value, next, hfirst, hrest⟩ := (bind_eq_ok x f state last result).mp hrun
    exact (hx.of_ok hfirst).trans ((hf value next hfirst).of_ok hrest)
  · rw [bind_apply] at hrun
    cases hfirst : x state with
    | error first next =>
      rw [hfirst] at hrun
      obtain ⟨rfl, rfl⟩ : first = error ∧ next = last := by simpa using hrun
      exact hx.of_error hfirst
    | ok value next =>
      rw [hfirst] at hrun
      obtain ⟨hraises, mid, hsteps, hloss⟩ := (hf value next hfirst).of_error hrun
      exact ⟨hraises, mid, (hx.of_ok hfirst).trans hsteps, hloss⟩

theorem follows_bind (hx : Follows d x state)
    (hf : ∀ value next, x state = .ok value next → Follows d (f value) next) :
    Follows d (x >>= f) state :=
  followsFrom_bind hx hf

/-- A bind whose first program is known to succeed goes on where it ended. -/
theorem follows_reached (hrun : x state = .ok value next)
    (hsteps : ReflTransGen d.step (d.abs state) (d.abs next)) (hf : Follows d (f value) next) :
    Follows d (x >>= f) state := by
  have hbind : (x >>= f) state = f value next := by rw [bind_apply, hrun]
  unfold Follows FollowsFrom
  rw [hbind]
  exact hf.after hsteps

/-- A property every step keeps holds where the continuation of a bind starts. -/
theorem follows_seq (hkeeps : ∀ before after, d.step before after → keeps before → keeps after)
    (hstart : keeps (d.abs state)) (hx : Follows d x state)
    (hf : ∀ value next, keeps (d.abs next) → Follows d (f value) next) :
    Follows d (x >>= f) state :=
  follows_bind hx fun value next hrun =>
    hf value next (keeps_along hkeeps (hx.of_ok hrun) hstart)

/-- A loop follows when each round does from every state that keeps a property. -/
theorem follows_forM (hkeeps : ∀ before after, d.step before after → keeps before → keeps after)
    {values : List α} {body : α → EStateM ε σ PUnit}
    (hbody : ∀ value ∈ values, ∀ state, keeps (d.abs state) → Follows d (body value) state)
    (hstart : keeps (d.abs state)) : Follows d (forM values body) state := by
  induction values generalizing state with
  | nil => exact follows_pure _
  | cons head rest ih =>
    rw [List.forM_cons]
    refine follows_seq hkeeps hstart (hbody head (by simp) state hstart) fun _ next hnext => ?_
    exact ih (fun value hvalue => hbody value (by simp [hvalue])) hnext

theorem follows_discard (hx : Follows d x state) :
    Follows d (discard x : EStateM ε σ PUnit) state := by
  unfold Follows FollowsFrom at hx ⊢
  rw [discard_apply]
  cases hrun : x state <;> rw [hrun] at hx <;> exact hx

theorem follows_ite {condition : Prop} [Decidable condition] {y : EStateM ε σ α}
    (hx : condition → Follows d x state) (hy : ¬ condition → Follows d y state) :
    Follows d (if condition then x else y) state := by
  by_cases h : condition
  · simpa [h] using hx h
  · simpa [h] using hy h

/-- A discipline that allows more over the same abstraction is followed too. -/
theorem FollowsFrom.mono {larger : Discipline ε σ τ} (hx : FollowsFrom d start x state)
    (habs : larger.abs = d.abs)
    (hstep : ∀ before after, d.step before after → larger.step before after)
    (hloss : ∀ before after, d.loss before after → larger.loss before after)
    (hraises : ∀ error, d.raises error → larger.raises error) :
    FollowsFrom larger start x state := by
  refine followsFrom_of (fun value next hrun => ?_) fun error next hrun => ?_
  · rw [habs]
    exact ReflTransGen.mono hstep _ _ (hx.of_ok hrun)
  · obtain ⟨hraised, mid, hsteps, hlast⟩ := hx.of_error hrun
    rw [habs]
    exact ⟨hraises error hraised, mid, ReflTransGen.mono hstep _ _ hsteps,
      ReflGen.mono hloss _ _ hlast⟩

/-- What every step keeps, a run that ends well keeps. -/
theorem Follows.keeps_ok (hx : Follows d x state)
    (hstep : ∀ before after, d.step before after → keeps before → keeps after)
    (hrun : x state = .ok value next) (hstart : keeps (d.abs state)) : keeps (d.abs next) :=
  keeps_along hstep (hx.of_ok hrun) hstart

/-- What steps and losses keep, every run keeps. -/
theorem Follows.keeps_final (hx : Follows d x state)
    (hstep : ∀ before after, d.step before after → keeps before → keeps after)
    (hloss : ∀ before after, d.loss before after → keeps before → keeps after)
    (hstart : keeps (d.abs state)) : keeps (d.abs (final (x state))) := by
  cases hrun : x state with
  | ok value next => exact hx.keeps_ok hstep hrun hstart
  | error error next =>
    obtain ⟨_, mid, hmid, hlast⟩ := hx.of_error hrun
    have hkept : keeps mid := keeps_along hstep hmid hstart
    cases hlast with
    | refl => exact hkept
    | single h => exact hloss _ _ h hkept

end Follows

end Program

end ConstellationMonitor.Foundation
