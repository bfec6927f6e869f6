/-
  Attention/Turns.lean --- runs of passes, each completed or cut off.

  Planning and submitting change the intent records of a condition and nothing else; what a
  pass decided is what its reconciling decided.  A pass that is cut off has performed a first
  part of its effects, and the next pass starts from the disk that left.
-/
import ConstellationMonitor.Attention.Planning

namespace ConstellationMonitor.Attention

open Foundation
open Std (ExtTreeMap)

/-! ## A condition without its records -/

/-- A condition without its intent records: what its lifecycle is about. -/
def ConditionState.life (condition : ConditionState) : ConditionState :=
  { condition with lastIntent := .none, pendingTrigger := .none }

/-- Conditions that agree up to their records. -/
structure SameLife (left right : ConditionState) : Prop where
  key : left.key = right.key
  firstSeen : left.firstSeen = right.firstSeen
  clearSince : left.clearSince = right.clearSince
  unknownSince : left.unknownSince = right.unknownSince
  active : left.active = right.active
  transitionAt : left.transitionAt = right.transitionAt
  pageDeferred : left.pageDeferred = right.pageDeferred

theorem sameLife_of_eq {left right : ConditionState} (h : left.life = right.life) :
    SameLife left right := by
  simp only [ConditionState.life, ConditionState.mk.injEq] at h
  obtain ⟨hkey, _, _, hfirst, _, hclear, hunknown, hactive, htransition, _, _, hdeferred⟩ := h
  exact ⟨hkey, hfirst, hclear, hunknown, hactive, htransition, hdeferred⟩

theorem record_life (condition : ConditionState) (role : Role) (last : LastIntent) :
    (condition.record role last).life = condition.life := by
  unfold ConditionState.record
  dsimp only
  split
  · rfl
  · split <;> rfl

theorem planWork_life (config : Config) (rule : EffectiveRule) (now : Int) (work : Work)
    (condition : ConditionState) :
    (planWork config rule now work condition).condition.life = condition.life := by
  let same := fun next : ConditionState => next.life = condition.life
  exact List.foldlRecOn (motive := same) _ _ rfl fun _ h _ _ => (record_life _ _ _).trans h

theorem followUpsFrom_life (config : Config) (now : Int) (id : Text) (snapshot : ConditionState)
    (roles : List Role) (files : ExtTreeMap Text Intent) (share : Share) :
    (followUpsFrom config now id snapshot roles files share).condition.life =
      share.condition.life := by
  induction roles generalizing files share with
  | nil => rfl
  | cons role rest ih =>
    unfold followUpsFrom
    split
    · exact ih _ _
    · exact ih _ _

/-- The planning leaves everything but the intent records alone. -/
theorem PlansFor.life {config : Config} {now : Int} {files : ExtTreeMap Text Intent}
    {written : List Written} {id : Text} {result : Reconciled} {share : Share}
    (h : PlansFor config now files written id result share) :
    share.condition.life = result.condition.life := by
  cases h with
  | decided _ _ => exact planWork_life _ _ _ _ _
  | held _ _ _ => exact planWork_life _ _ _ _ _
  | unruled _ _ => rfl
  | followed _ _ _ => exact followUpsFrom_life _ _ _ _ _ _ _

theorem answered_life (condition : ConditionState) (item : Planned) (last : LastIntent)
    (answer : SubmitOutcome) (now : Int) :
    (condition.answered item last answer now).life = condition.life := by
  unfold ConditionState.answered
  split <;> rfl

/-! ## The submission loop -/

section Submitting

variable {config : Config} {now : Int} {answers : Nat → SubmitOutcome}

/-- The state after one attempt. -/
def State.answered (state : State) (item : Planned) (condition : ConditionState)
    (last : LastIntent) (answer : SubmitOutcome) (now : Int) : State :=
  { state with
    conditions := state.conditions.insert item.conditionId
      (condition.answered item last answer now) }

/-- A rule for the submission loop.  `Inv` holds before each planned attempt, of what is still
planned, the state and the effects so far; `Mid` holds of the state on disk wherever the loop
is cut off. -/
theorem submitAll_rule (Inv : List Planned → State → List Effect → Prop)
    (Mid : State → List Effect → Prop) (hmid : ∀ rest state log, Inv rest state log → Mid state log)
    (hskip : ∀ item rest state log, Inv (item :: rest) state log →
      (∀ condition, state.conditions[item.conditionId]? = some condition →
        (item.operation.slots condition).get item.role = none) → Inv rest state log)
    (hsubmit : ∀ item rest state log condition last answer, Inv (item :: rest) state log →
      state.conditions[item.conditionId]? = some condition →
      (item.operation.slots condition).get item.role = some last →
      Mid state (log ++ [.submit (submission config item last) answer]) ∧
        Inv rest (state.answered item condition last answer now)
          (log ++ [.submit (submission config item last) answer,
            .saveState (state.answered item condition last answer now)]))
    {plan : List Planned} {index : Nat} {state : State} (log : List Effect)
    (hinv : Inv plan state log) :
    (∀ done, done <+: (submitAll config now answers index plan state).1 →
      ∃ current, Mid current (log ++ done) ∧
        ∀ disk : Disk, disk.state = some state →
          disk.after done = { disk with state := some current }) ∧
      Inv [] (submitAll config now answers index plan state).2
        (log ++ (submitAll config now answers index plan state).1) := by
  induction plan generalizing index state log with
  | nil =>
    simp only [submitAll, List.append_nil]
    refine ⟨fun done hdone => ?_, hinv⟩
    obtain rfl := List.prefix_nil.mp hdone
    exact ⟨state, by simpa using hmid _ _ _ hinv, fun disk hdisk => by
      rw [← hdisk]; rfl⟩
  | cons item rest ih =>
    unfold submitAll
    cases hcondition : state.conditions[item.conditionId]? with
    | none =>
      exact ih log (hskip item rest state log hinv fun condition hfound => by
        rw [hcondition] at hfound; cases hfound)
    | some condition =>
      dsimp only
      cases hslot : (item.operation.slots condition).get item.role with
      | none =>
        exact ih log (hskip item rest state log hinv fun other hfound => by
          rw [hcondition] at hfound; cases hfound; exact hslot)
      | some last =>
        dsimp only
        obtain ⟨hcut, hnext⟩ := hsubmit item rest state log condition last (answers index)
          hinv hcondition hslot
        obtain ⟨hlater, hend⟩ := @ih (index + 1) _ _ hnext
        rw [List.append_assoc] at hend
        refine ⟨fun done hdone => ?_, hend⟩
        rcases List.prefix_cons_iff.mp hdone with rfl | ⟨afterSubmit, rfl, hsubmitted⟩
        · exact ⟨state, by simpa using hmid _ _ _ hinv, fun disk hdisk => by
            rw [← hdisk]; rfl⟩
        · rcases List.prefix_cons_iff.mp hsubmitted with rfl | ⟨afterSave, rfl, hsaved⟩
          · exact ⟨state, hcut, fun disk hdisk => by rw [← hdisk]; rfl⟩
          · obtain ⟨current, hcurrent, hdisk⟩ := hlater afterSave hsaved
            rw [List.append_assoc] at hcurrent
            exact ⟨current, hcurrent, fun disk _ =>
              hdisk { disk with state := some _ } rfl⟩

/-- Submitting changes intent records only. -/
structure SameLives (left right : State) : Prop where
  schema : left.schema = right.schema
  site : left.site = right.site
  updatedAt : left.updatedAt = right.updatedAt
  lives : ∀ id : Text, (left.conditions[id]?).map ConditionState.life =
    (right.conditions[id]?).map ConditionState.life

theorem SameLives.refl (state : State) : SameLives state state := ⟨rfl, rfl, rfl, fun _ => rfl⟩

theorem SameLives.answered {start state : State} (h : SameLives state start) {item : Planned}
    {condition : ConditionState} {last : LastIntent}
    (hcondition : state.conditions[item.conditionId]? = some condition) (answer : SubmitOutcome)
    (now : Int) : SameLives (state.answered item condition last answer now) start := by
  refine ⟨h.schema, h.site, h.updatedAt, fun id => ?_⟩
  rw [State.answered, getElem?_insert_iff, ← h.lives id]
  split
  · rename_i hid
    rw [← hid, hcondition, Option.map_some, Option.map_some, answered_life]
  · rfl

/-- Wherever the submissions are cut off, the state on disk differs in records only. -/
theorem submitAll_sameLives (plan : List Planned) (index : Nat) (state : State) :
    (∀ done, done <+: (submitAll config now answers index plan state).1 →
      ∃ current, SameLives current state ∧ ∀ disk : Disk, disk.state = some state →
          disk.after done = { disk with state := some current }) ∧
      SameLives (submitAll config now answers index plan state).2 state :=
  submitAll_rule (fun _ current _ => SameLives current state)
    (fun current _ => SameLives current state) (fun _ _ _ h => h) (fun _ _ _ _ h _ => h)
    (fun _ _ _ _ _ _ answer h hcondition _ => ⟨h, h.answered hcondition answer now⟩) []
    (SameLives.refl state)

end Submitting

/-! ## The stages of a pass on disk -/

section Stages

variable (input : PassInput) (state : State) (files : ExtTreeMap Text Intent)

theorem planning_plannedBy :
    ∃ share, PlannedBy input.config input.now files (input.reconciled state)
      (input.planning state files) share :=
  planAll_plannedBy input.config input.now files (reconciled_oneDecision input state)

theorem saved_conditions :
    (input.saved state files).conditions = (input.planning state files).conditions := by
  simp only [PassInput.saved]

theorem submitted_sameLives :
    SameLives (input.submitted state files).2 (input.saved state files) := by
  unfold PassInput.submitted
  exact (submitAll_sameLives _ _ _).2

/-- Wherever the submissions of a pass are cut off, what is on disk differs in records only
from what was saved before them. -/
theorem submitted_prefix_sameLives {done : List Effect}
    (h : done <+: (input.submitted state files).1) :
    ∃ current, SameLives current (input.saved state files) ∧
      ∀ disk : Disk, disk.state = some (input.saved state files) →
        disk.after done = { disk with state := some current } := by
  unfold PassInput.submitted at h
  exact (submitAll_sameLives _ _ _).1 done h

variable {condition : ConditionState} {id : Text}

theorem final_getElem?_eq_some : (input.final state files).conditions[id]? = some condition ↔
      (input.submitted state files).2.conditions[id]? = some condition ∧
        condition.kept input.config = true := by
  unfold PassInput.final
  exact getElem?_filter_eq_some _ _ _ _

/-- The state after a pass has the conditions the pass reconciled and still needs. -/
theorem final_getElem? {result : Reconciled} (h : (id, result) ∈ input.reconciled state) :
    ∃ condition, condition.life = result.condition.life ∧
      (input.final state files).conditions[id]? =
        if condition.kept input.config then some condition else none := by
  obtain ⟨share, hplanned⟩ := planning_plannedBy input state files
  have hlives := (submitted_sameLives input state files).lives id
  rw [saved_conditions, (hplanned.conditions id (share id result).condition).mpr ⟨result, h, rfl⟩,
    Option.map_some] at hlives
  obtain ⟨condition, hfound, hlife⟩ := Option.map_eq_some_iff.mp hlives
  refine ⟨condition, hlife.trans (hplanned.shares id result h).life, ?_⟩
  cases hkept : condition.kept input.config with
  | true => exact (final_getElem?_eq_some input state files).mpr ⟨hfound, hkept⟩
  | false =>
    rw [if_neg (by simp)]
    refine Option.eq_none_iff_forall_ne_some.mpr fun other hother => ?_
    obtain ⟨hmem, hkeep⟩ := (final_getElem?_eq_some input state files).mp hother
    rw [hfound] at hmem
    cases hmem
    rw [hkept] at hkeep
    cases hkeep

/-- Every condition the planning and the submissions keep was reconciled in the pass. -/
theorem reconciled_of_sameLives {current : State}
    (hlives : SameLives current (input.saved state files))
    (h : current.conditions[id]? = some condition) :
    ∃ result, (id, result) ∈ input.reconciled state ∧ condition.life = result.condition.life := by
  obtain ⟨share, hplanned⟩ := planning_plannedBy input state files
  have hsame := hlives.lives id
  rw [h, Option.map_some, saved_conditions] at hsame
  obtain ⟨saved, hsaved, hlife⟩ := Option.map_eq_some_iff.mp hsame.symm
  obtain ⟨result, hmem, rfl⟩ := (hplanned.conditions id saved).mp hsaved
  exact ⟨result, hmem, hlife.symm.trans (hplanned.shares id result hmem).life⟩

theorem reconciled_of_final (h : (input.final state files).conditions[id]? = some condition) :
    ∃ result, (id, result) ∈ input.reconciled state ∧ condition.life = result.condition.life :=
  reconciled_of_sameLives input state files (submitted_sameLives input state files)
    ((final_getElem?_eq_some input state files).mp h).1

end Stages

/-! ## Effects on the disk -/

theorem after_append (disk : Disk) (left right : List Effect) :
    disk.after (left ++ right) = (disk.after left).after right :=
  List.foldl_append

theorem after_writes (disk : Disk) (written : List Written) :
    disk.after (written.map .writeIntent) =
      { disk with intents := writeAll disk.intents written } := by
  induction written generalizing disk with
  | nil => rfl
  | cons item rest ih => exact ih _

theorem after_removals (disk : Disk) (removed : List Text) :
    disk.after (removed.map .removeIntent) =
      { disk with intents := removed.foldl ExtTreeMap.erase disk.intents } := by
  induction removed generalizing disk with
  | nil => rfl
  | cons file rest ih => exact ih _

/-- Writes, then a save, then the rest. -/
theorem after_save (disk : Disk) (written : List Written) (saved : State) (done : List Effect) :
    disk.after (written.map .writeIntent ++ .saveState saved :: done) =
      Disk.after ⟨some saved, writeAll disk.intents written⟩ done := by
  rw [after_append, after_writes]
  rfl

/-- After a save and removals the saved state is on disk. -/
theorem after_last_save (disk : Disk) (effects : List Effect) (final : State)
    (removed : List Text) : disk.after (effects ++ .saveState final :: removed.map .removeIntent) =
      ⟨some final, removed.foldl ExtTreeMap.erase (disk.after effects).intents⟩ := by
  rw [after_append]
  exact after_removals _ removed

section Disks

variable {input : PassInput} {state : State} {disk : Disk}

/-- A completed pass leaves its final state on disk. -/
theorem after_pass_state (input : PassInput) (state : State) (disk : Disk) :
    (disk.after (input.pass state disk.intents).effects).state =
      some (input.final state disk.intents) := by
  unfold PassInput.pass
  exact congrArg Disk.state (after_last_save _ _ _ _)

theorem saved_fields (input : PassInput) (state : State) (files : ExtTreeMap Text Intent) :
    (input.saved state files).schema = state.schema ∧ (input.saved state files).site = state.site ∧
      (input.saved state files).updatedAt = input.now := by
  simp only [PassInput.saved, and_self]

theorem final_fields (input : PassInput) (state : State) (files : ExtTreeMap Text Intent) :
    (input.final state files).schema = state.schema ∧ (input.final state files).site = state.site ∧
      (input.final state files).updatedAt = input.now := by
  obtain ⟨hschema, hsite, _⟩ := saved_fields input state files
  have hlives := submitted_sameLives input state files
  simp only [PassInput.final, hlives.schema, hlives.site, hschema, hsite, and_self]

/-- The state on disk after some effects is the one before, or one they saved. -/
theorem after_state (effects : List Effect) : (disk.after effects).state = disk.state ∨
    ∃ saved, .saveState saved ∈ effects ∧ (disk.after effects).state = some saved := by
  refine List.foldlRecOn (motive := fun current : Disk => current.state = disk.state ∨
    ∃ saved, .saveState saved ∈ effects ∧ current.state = some saved) effects _ (.inl rfl)
    fun current h effect hmem => ?_
  cases effect with
  | saveState saved => exact .inr ⟨saved, hmem, rfl⟩
  | _ => exact h

/-- Every state a pass saves is that of the conditions it reconciled. -/
theorem reconciled_of_saved {files : ExtTreeMap Text Intent} {saved : State}
    (h : .saveState saved ∈ (input.pass state files).effects) : saved.updatedAt = input.now ∧
      ∀ (id : Text) (condition : ConditionState), saved.conditions[id]? = some condition →
        ∃ result, (id, result) ∈ input.reconciled state ∧
          condition.life = result.condition.life := by
  have hsame {current : State} (hlives : SameLives current (input.saved state files)) := And.intro
    (hlives.updatedAt.trans (saved_fields input state files).2.2)
    fun (id : Text) condition (h : current.conditions[id]? = some condition) =>
      reconciled_of_sameLives input state files hlives h
  simp only [PassInput.pass, List.mem_append, List.mem_cons, List.mem_map, Effect.saveState.injEq,
    reduceCtorEq, and_false, exists_false, or_false, false_or] at h
  rcases h with (rfl | hsubmitted) | rfl
  · exact hsame (.refl _)
  · -- the disk up to this save has the state on it
    obtain ⟨front, rest, hsplit⟩ := List.append_of_mem hsubmitted
    obtain ⟨current, hlives, hdisk⟩ := submitted_prefix_sameLives input state files
      (show front ++ [.saveState saved] <+: _ from ⟨rest, by simp [hsplit]⟩)
    have hlast := congrArg Disk.state (hdisk ⟨some (input.saved state files), ∅⟩ rfl)
    rw [after_append] at hlast
    obtain rfl : saved = current := Option.some.inj hlast
    exact hsame hlives
  · exact ⟨(final_fields input state files).2.2, fun _ _ hfound =>
      reconciled_of_final input state files hfound⟩

end Disks

/-! ## Runs -/

/-- One pass of a run: what it was given, what it came to, and the effects it performed. -/
structure Turn where
  input : PassInput
  pass : Pass
  performed : List Effect

/-- Passes one after the other, each completed or cut off, from one disk to another. -/
inductive Turns : Disk → List Turn → Disk → Prop
  | nil (disk : Disk) : Turns disk [] disk
  | cons {disk last : Disk} {turn : Turn} {rest : List Turn}
      (hpass : turn.input.evaluate disk = .ok turn.pass)
      (hperformed : turn.performed <+: turn.pass.effects)
      (hrest : Turns (disk.after turn.performed) rest last) :
      Turns disk (turn :: rest) last

/-- A pass that was not cut off. -/
def Turn.Completed (turn : Turn) : Prop := turn.performed = turn.pass.effects

/-- The turns of some passes, each cut off after a number of effects or completed; a refused
pass ends the run. -/
def turnsFrom (disk : Disk) : List (PassInput × Option Nat) → List Turn
  | [] => []
  | (input, cut) :: rest =>
    match input.evaluate disk with
    | .error _ => []
    | .ok pass =>
      let performed := match cut with
        | none => pass.effects
        | some count => pass.effects.take count
      ⟨input, pass, performed⟩ :: turnsFrom (disk.after performed) rest

theorem turnsFrom_turns (disk : Disk) (passes : List (PassInput × Option Nat)) :
    ∃ last, Turns disk (turnsFrom disk passes) last := by
  induction passes generalizing disk with
  | nil => exact ⟨disk, .nil disk⟩
  | cons entry rest ih =>
    obtain ⟨input, cut⟩ := entry
    unfold turnsFrom
    cases hpass : input.evaluate disk with
    | error refusal => exact ⟨disk, .nil disk⟩
    | ok pass =>
      obtain ⟨last, hrest⟩ := ih (disk.after (match cut with
        | none => pass.effects
        | some count => pass.effects.take count))
      refine ⟨last, .cons hpass ?_ hrest⟩
      cases cut
      · exact List.prefix_refl _
      · exact List.take_prefix _ _

/-- The turns are of the passes they were given, and those not cut off are completed. -/
theorem mem_turnsFrom {disk : Disk} {passes : List (PassInput × Option Nat)} {turn : Turn}
    (h : turn ∈ turnsFrom disk passes) :
    ∃ cut, (turn.input, cut) ∈ passes ∧ (cut = none → turn.Completed) := by
  induction passes generalizing disk with
  | nil => simp [turnsFrom] at h
  | cons entry rest ih =>
    obtain ⟨input, cut⟩ := entry
    unfold turnsFrom at h
    cases hpass : input.evaluate disk with
    | error refusal => simp [hpass] at h
    | ok pass =>
      rw [hpass] at h
      rcases List.mem_cons.mp h with rfl | h
      · exact ⟨cut, by simp, fun hcut => by subst hcut; rfl⟩
      · obtain ⟨cut', hmem, hcompleted⟩ := ih h
        exact ⟨cut', by simp [hmem], hcompleted⟩

end ConstellationMonitor.Attention
