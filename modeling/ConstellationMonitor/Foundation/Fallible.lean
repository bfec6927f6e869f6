/-
  Validation in `Except`: checks in sequence, and when all of them pass.
-/
import ConstellationMonitor.Foundation.Text

namespace ConstellationMonitor.Foundation

/-- `if bad { return Err(error) }`. -/
def refuseIf {ε : Type} (bad : Bool) (error : ε) : Except ε Unit :=
  if bad then .error error else .ok ()

variable {ε ε' α β : Type}

@[simp] theorem refuseIf_eq_ok (bad : Bool) (error : ε) :
    refuseIf bad error = .ok () ↔ bad = false := by
  cases bad <;> simp [refuseIf]

theorem except_bind_eq_ok (x : Except ε α) (f : α → Except ε β) (result : β) :
    x >>= f = .ok result ↔ ∃ value, x = .ok value ∧ f value = .ok result := by
  cases x <;> simp [bind, Except.bind]

@[simp] theorem check_bind_eq_ok (check : Except ε Unit) (f : Unit → Except ε β) (result : β) :
    check >>= f = .ok result ↔ check = .ok () ∧ f () = .ok result := by
  cases check <;> simp [bind, Except.bind]

@[simp] theorem ite_error_eq_ok {bad : Prop} [Decidable bad] {error : ε} {x : Except ε α}
    {result : α} : (if bad then .error error else x) = .ok result ↔ ¬bad ∧ x = .ok result := by
  split <;> simp_all

@[simp] theorem mapError_eq_ok (x : Except ε α) (f : ε → ε') (result : α) :
    x.mapError f = .ok result ↔ x = .ok result := by
  cases x <;> simp [Except.mapError]

/-- What each round of a fold keeps when it passes, a fold that passes keeps. -/
theorem foldlM_keeps_ok (keeps : β → Prop) {f : β → α → Except ε β}
    (hround : ∀ start value next, f start value = .ok next → keeps start → keeps next)
    {values : List α} {start last : β} (hrun : values.foldlM f start = .ok last)
    (hstart : keeps start) : keeps last := by
  induction values generalizing start with
  | nil =>
    obtain rfl : start = last := by simpa [pure, Except.pure] using hrun
    exact hstart
  | cons head rest ih =>
    rw [List.foldlM_cons, except_bind_eq_ok] at hrun
    obtain ⟨next, hhead, hrest⟩ := hrun
    exact ih hrest (hround start head next hhead hstart)

@[simp] theorem toOption_eq_some {x : Except ε α} {value : α} :
    x.toOption = some value ↔ x = .ok value := by
  cases x <;> simp [Except.toOption]

/-- The same for rounds that pass or do not. -/
theorem foldlM_keeps_some (keeps : β → Prop) {f : β → α → Option β}
    (hround : ∀ start value next, f start value = some next → keeps start → keeps next)
    {values : List α} {start last : β} (hrun : values.foldlM f start = some last)
    (hstart : keeps start) : keeps last := by
  induction values generalizing start with
  | nil =>
    cases hrun
    exact hstart
  | cons head rest ih =>
    obtain ⟨next, hhead, hrest⟩ := Option.bind_eq_some_iff.mp hrun
    exact ih hrest (hround start head next hhead hstart)

/-- Rounds that each climb a preorder climb it together. -/
theorem foldl_climbs {rel : β → β → Prop} (refl : ∀ state, rel state state)
    (trans : ∀ {first second third}, rel first second → rel second third → rel first third)
    {f : β → α → β} (h : ∀ state value, rel state (f state value)) (values : List α) (state : β) :
    rel state (values.foldl f state) := by
  induction values generalizing state with
  | nil => exact refl _
  | cons head rest ih => exact trans (h state head) (ih _)

end ConstellationMonitor.Foundation
