/-
  Attention/Visits.lean --- runs of completed passes, and what each does to one intent slot.

  Between two passes intent files may be lost; the state file is not.  A pass changes the
  record of a condition and role in two places: the planning replaces it or leaves it, and
  every submission attempt of the slot then notes NQ's answer in it.
-/
import ConstellationMonitor.Attention.Records
import ConstellationMonitor.Attention.Removal

namespace ConstellationMonitor.Attention

open Foundation
open Std (ExtTreeMap)

/-! ## Runs of completed passes -/

/-- One completed pass: the disk it found, what it was given and what it came to. -/
structure Visit where
  disk : Disk
  input : PassInput
  pass : Pass

/-- The disk after the pass. -/
def Visit.after (visit : Visit) : Disk := visit.disk.after visit.pass.effects

/-- The files on the disk are among those of another, and the state is the same. -/
structure Disk.LostFiles (before after : Disk) : Prop where
  state : after.state = before.state
  intents : ∀ (file : Text) (intent : Intent), after.intents[file]? = some intent →
    before.intents[file]? = some intent

/-- Completed passes one after the other, from a disk on. -/
inductive Passes : Disk → List Visit → Prop
  | nil (disk : Disk) : Passes disk []
  | cons {disk : Disk} {visit : Visit} {rest : List Visit}
      (hlost : disk.LostFiles visit.disk)
      (hpass : visit.input.evaluate visit.disk = .ok visit.pass)
      (hrest : Passes visit.after rest) : Passes disk (visit :: rest)

theorem Disk.LostFiles.trans {first second third : Disk} (h : first.LostFiles second)
    (hnext : second.LostFiles third) : first.LostFiles third :=
  ⟨hnext.state.trans h.state, fun file intent hfile =>
    h.intents file intent (hnext.intents file intent hfile)⟩

variable {visits earlier : List Visit} {disk : Disk} {visit : Visit} {condition : ConditionState}

/-- Files lost before a run may be lost before its first pass. -/
theorem Passes.of_lost {before after : Disk} (hlost : before.LostFiles after)
    (h : Passes after visits) : Passes before visits := by
  cases h with
  | nil => exact .nil before
  | cons hgone hpass hrest => exact .cons (hlost.trans hgone) hpass hrest

/-- A disk without its intent files. -/
def Disk.withoutFiles (disk : Disk) : Disk := ⟨disk.state, ∅⟩

theorem Disk.withoutFiles_lost (disk : Disk) : disk.LostFiles disk.withoutFiles := by
  refine ⟨rfl, fun file intent h => ?_⟩
  simp [Disk.withoutFiles] at h

/-- The completed passes of some inputs, before some of which all intent files are lost; a
refused pass changes nothing. -/
def visitsLosing (disk : Disk) : List (Bool × PassInput) → List Visit
  | [] => []
  | (lost, input) :: rest =>
    let found := if lost then disk.withoutFiles else disk
    match input.evaluate found with
    | .error _ => visitsLosing found rest
    | .ok pass => ⟨found, input, pass⟩ :: visitsLosing (found.after pass.effects) rest

/-- The completed passes of some inputs with no file lost between them. -/
def visitsFrom (disk : Disk) (inputs : List PassInput) : List Visit :=
  visitsLosing disk (inputs.map fun input => (false, input))

theorem visitsLosing_passes (disk : Disk) (inputs : List (Bool × PassInput)) :
    Passes disk (visitsLosing disk inputs) := by
  induction inputs generalizing disk with
  | nil => exact .nil disk
  | cons entry rest ih =>
    obtain ⟨lost, input⟩ := entry
    have hlost : disk.LostFiles (if lost then disk.withoutFiles else disk) := by
      cases lost
      · exact ⟨rfl, fun _ _ h => h⟩
      · exact disk.withoutFiles_lost
    unfold visitsLosing
    dsimp only
    split
    · exact .of_lost hlost (ih _)
    · rename_i pass hpass
      exact .cons hlost hpass (ih _)

theorem visitsFrom_passes (disk : Disk) (inputs : List PassInput) :
    Passes disk (visitsFrom disk inputs) := visitsLosing_passes disk _

theorem input_of_mem_visitsLosing {inputs : List (Bool × PassInput)}
    (h : visit ∈ visitsLosing disk inputs) : ∃ lost, (lost, visit.input) ∈ inputs := by
  induction inputs generalizing disk with
  | nil => simp [visitsLosing] at h
  | cons entry rest ih =>
    obtain ⟨lost, input⟩ := entry
    unfold visitsLosing at h
    dsimp only at h
    split at h
    · obtain ⟨other, hother⟩ := ih h
      exact ⟨other, List.mem_cons_of_mem _ hother⟩
    · rcases List.mem_cons.mp h with rfl | h
      · exact ⟨lost, List.mem_cons_self⟩
      · obtain ⟨other, hother⟩ := ih h
        exact ⟨other, List.mem_cons_of_mem _ hother⟩

theorem input_of_mem_visitsFrom {inputs : List PassInput} (h : visit ∈ visitsFrom disk inputs) :
    visit.input ∈ inputs := by
  obtain ⟨lost, hmem⟩ := input_of_mem_visitsLosing h
  obtain ⟨input, hinput, hsame⟩ := List.mem_map.mp hmem
  rw [← (Prod.mk.inj hsame).2]
  exact hinput

/-- A run goes on from where its first part ended. -/
theorem Passes.tail {later : List Visit} (h : Passes disk (earlier ++ visit :: later)) :
    visit.input.evaluate visit.disk = .ok visit.pass ∧ Passes visit.after later := by
  induction earlier generalizing disk with
  | nil =>
    cases h with
    | cons _ hpass hrest => exact ⟨hpass, hrest⟩
  | cons head earlier ih =>
    cases h with
    | cons _ _ hrest => exact ih hrest

/-- Every pass of a run was evaluated. -/
theorem Passes.evaluated (h : Passes disk visits) :
    ∀ visit ∈ visits, visit.input.evaluate visit.disk = .ok visit.pass := by
  intro visit hmem
  obtain ⟨earlier, later, rfl⟩ := List.append_of_mem hmem
  exact h.tail.1

/-- The first part of a run is a run. -/
theorem Passes.start {later : List Visit} (h : Passes disk (earlier ++ later)) :
    Passes disk earlier := by
  induction earlier generalizing disk with
  | nil => exact .nil disk
  | cons head earlier ih =>
    cases h with
    | cons hlost hpass hrest => exact .cons hlost hpass (ih hrest)

/-- What every pass keeps and lost files do not break holds before every pass of a run. -/
theorem Passes.invariant {Inv : Disk → Prop}
    (hlost : ∀ before after : Disk, before.LostFiles after → Inv before → Inv after)
    (hpass : ∀ visit : Visit, visit.input.evaluate visit.disk = .ok visit.pass →
      Inv visit.disk → Inv visit.after) (h : Passes disk visits) (hinv : Inv disk) :
    ∀ visit ∈ visits, Inv visit.disk := by
  induction h with
  | nil disk => simp
  | cons hgone heval _ ih =>
    have hhere := hlost _ _ hgone hinv
    intro visit hmem
    rcases List.mem_cons.mp hmem with rfl | hmem
    · exact hhere
    · exact ih (hpass _ heval hhere) visit hmem

/-! ## Attempts -/

/-- A submission attempt of the newest intent of a condition and role. -/
def Effect.attempt (id : Text) (role : Role) : Effect → Option (Submission × SubmitOutcome)
  | .submit submission answer =>
    if submission.conditionId = id ∧ submission.role = role ∧
        submission.operation ≠ .submitBeforeResolve then some (submission, answer)
    else none
  | _ => none

def attemptsOf (id : Text) (role : Role) (effects : List Effect) :
    List (Submission × SubmitOutcome) :=
  effects.filterMap (Effect.attempt id role)

/-- A plan entry for the newest intent of a condition and role. -/
def Planned.For (item : Planned) (id : Text) (role : Role) : Prop :=
  item.conditionId = id ∧ item.role = role ∧ item.operation ≠ .submitBeforeResolve

instance (item : Planned) (id : Text) (role : Role) : Decidable (item.For id role) :=
  inferInstanceAs (Decidable (_ ∧ _ ∧ _))

/-- A record after the answers to some attempts. -/
def LastIntent.answeredAll (last : LastIntent) (attempts : List (Submission × SubmitOutcome))
    (now : Int) : LastIntent :=
  attempts.foldl (fun last attempt => last.answered attempt.2 now) last

/-- What the submissions of a plan do to a slot. -/
structure SlotSubmitted (config : Config) (now : Int) (plan : List Planned) (id : Text)
    (role : Role) (before : Option LastIntent) (attempts : List (Submission × SubmitOutcome))
    (after : Option LastIntent) : Prop where
  after : after = before.map fun last => last.answeredAll attempts now
  planned : ∀ attempt ∈ attempts, ∃ item ∈ plan, item.For id role ∧
    ∃ last, before = some last ∧ attempt.1 = submission config item last
  attempted : ∀ item ∈ plan, item.For id role → before.isSome = true → attempts ≠ []

section Submitting

variable {config : Config} {now : Int} {answers : Nat → SubmitOutcome} {id : Text} {role : Role}
  {plan : List Planned} {item : Planned} {before after : Option LastIntent} {last : LastIntent}
  {attempts : List (Submission × SubmitOutcome)}

/-- Answers do not change what is submitted. -/
theorem submission_answeredAll :
    submission config item (last.answeredAll attempts now) = submission config item last := by
  induction attempts generalizing last with
  | nil => rfl
  | cons head rest ih => exact ih

/-- An entry for another slot changes nothing for this one. -/
theorem SlotSubmitted.skip (h : SlotSubmitted config now plan id role before attempts after)
    (hitem : item.For id role → after = none) :
    SlotSubmitted config now (plan ++ [item]) id role before attempts after := by
  refine ⟨h.after, fun attempt hattempt => ?_, fun other hother hfor hsome => ?_⟩
  · obtain ⟨other, hother, hfor⟩ := h.planned attempt hattempt
    exact ⟨other, by simp [hother], hfor⟩
  · rcases List.mem_append.mp hother with hother | hother
    · exact h.attempted other hother hfor hsome
    · obtain rfl := List.mem_singleton.mp hother
      have hnone := h.after.symm.trans (hitem hfor)
      rw [Option.map_eq_none_iff] at hnone
      simp [hnone] at hsome

/-- An entry for this slot is attempted, and its answer noted. -/
theorem SlotSubmitted.sent (h : SlotSubmitted config now plan id role before attempts (some last))
    (hfor : item.For id role) (answer : SubmitOutcome) :
    SlotSubmitted config now (plan ++ [item]) id role before
      (attempts ++ [(submission config item last, answer)]) (some (last.answered answer now)) := by
  obtain ⟨start, hstart, hlast⟩ := Option.map_eq_some_iff.mp h.after.symm
  refine ⟨?_, fun attempt hattempt => ?_, by simp⟩
  · simp [hstart, ← hlast, LastIntent.answeredAll]
  · rcases List.mem_append.mp hattempt with hattempt | hattempt
    · obtain ⟨other, hother, hrest⟩ := h.planned attempt hattempt
      exact ⟨other, by simp [hother], hrest⟩
    · obtain rfl := List.mem_singleton.mp hattempt
      refine ⟨item, by simp, hfor, start, hstart, ?_⟩
      rw [← hlast, submission_answeredAll]

/-- An attempt for another slot leaves the record of this one. -/
theorem get_answered_of_not_for {condition : ConditionState} (hid : item.conditionId = id)
    (hfor : ¬item.For id role) (answer : SubmitOutcome) :
    (condition.answered item last answer now).lastIntent.get role =
      condition.lastIntent.get role := by
  unfold ConditionState.answered
  split
  · rfl
  · rename_i hoperation
    exact Slots.get_set_ne _ _ fun hrole => hfor ⟨hid, hrole, hoperation⟩

theorem attemptsOf_submit (log : List Effect) (answer : SubmitOutcome) (saved : State) :
    attemptsOf id role (log ++ [.submit (submission config item last) answer, .saveState saved]) =
      attemptsOf id role log ++
        if item.For id role then [(submission config item last, answer)] else [] := by
  have hattempt : Effect.attempt id role (.submit (submission config item last) answer) =
      if item.For id role then some (submission config item last, answer) else none := rfl
  rw [attemptsOf, List.filterMap_append, List.filterMap_cons, hattempt]
  by_cases hfor : item.For id role
  · rw [if_pos hfor, if_pos hfor]
    rfl
  · rw [if_neg hfor, if_neg hfor]
    rfl

/-- The entries of a plan that are done account for the record a slot has by now. -/
def SlotAt (config : Config) (now : Int) (plan : List Planned) (id : Text) (role : Role)
    (before : Option LastIntent) (rest : List Planned) (state : State) (log : List Effect) : Prop :=
  ∃ current done, state.conditions[id]? = some current ∧ plan = done ++ rest ∧
    SlotSubmitted config now done id role before (attemptsOf id role log)
      (current.lastIntent.get role)

theorem SlotAt.submit {rest : List Planned} {state : State} {log : List Effect}
    {found : ConditionState} (h : SlotAt config now plan id role before (item :: rest) state log)
    (hfound : state.conditions[item.conditionId]? = some found)
    (hget : (item.operation.slots found).get item.role = some last) (answer : SubmitOutcome) :
    SlotAt config now plan id role before rest (state.answered item found last answer now)
      (log ++ [.submit (submission config item last) answer,
        .saveState (state.answered item found last answer now)]) := by
  obtain ⟨current, done, hcurrent, hplan, hslot⟩ := h
  unfold SlotAt
  simp only [attemptsOf_submit, State.answered, getElem?_insert_iff]
  by_cases hid : item.conditionId = id
  · rw [hid, hcurrent] at hfound
    cases hfound
    refine ⟨_, done ++ [item], if_pos hid, by simp [hplan], ?_⟩
    by_cases hfor : item.For id role
    · rw [Operation.slots, if_neg hfor.2.2, hfor.2.1] at hget
      rw [hget] at hslot
      rw [if_pos hfor, ConditionState.answered, if_neg hfor.2.2, hfor.2.1, Slots.get_set_self]
      exact hslot.sent hfor answer
    · rw [if_neg hfor, List.append_nil, get_answered_of_not_for hid hfor]
      exact hslot.skip fun h => absurd h hfor
  · have hfor : ¬item.For id role := fun h => hid h.1
    rw [if_neg hfor, List.append_nil]
    exact ⟨current, done ++ [item], (if_neg hid).trans hcurrent, by simp [hplan],
      hslot.skip fun h => absurd h hfor⟩

/-- What the submission loop does to one slot of a condition. -/
theorem submitAll_slot {index : Nat} {state : State} {condition : ConditionState}
    (hcondition : state.conditions[id]? = some condition) :
    ∃ next, (submitAll config now answers index plan state).2.conditions[id]? = some next ∧
      SlotSubmitted config now plan id role (condition.lastIntent.get role)
        (attemptsOf id role (submitAll config now answers index plan state).1)
        (next.lastIntent.get role) := by
  obtain ⟨-, next, done, hnext, hdone, hslot⟩ := submitAll_rule
    (SlotAt config now plan id role (condition.lastIntent.get role)) (fun _ _ => True)
    (fun _ _ _ _ => trivial)
    (fun item rest state log ⟨current, done, hcurrent, hplan, hslot⟩ hnone =>
      ⟨current, done ++ [item], hcurrent, by simp [hplan], hslot.skip fun hfor => by
        have hget := hnone current (hfor.1 ▸ hcurrent)
        rwa [Operation.slots, if_neg hfor.2.2, hfor.2.1] at hget⟩)
    (fun _ _ _ _ _ _ answer h hfound hget => ⟨trivial, h.submit hfound hget answer⟩) []
    ⟨condition, [], hcondition, rfl, by simp [attemptsOf, LastIntent.answeredAll], by
      simp [attemptsOf], by simp⟩
  rw [List.append_nil] at hdone
  exact ⟨next, hnext, hdone ▸ hslot⟩

end Submitting

/-! ## Follow-ups -/

theorem followUp_operation {last : LastIntent} {config : Config} {operation : Operation}
    {waits : Bool} (h : followUp last condition config = some (operation, waits)) :
    operation ≠ .submitBeforeResolve ∧ (last.schema = .v2 → operation ≠ .submit) := by
  unfold followUp at h
  dsimp only at h
  repeat' split at h
  all_goals cases h
  all_goals simp_all

/-- What a follow-up leaves of the record it is for, and what it writes. -/
structure FollowsUp (now : Int) (files : ExtTreeMap Text Intent) (role : Role) (last : LastIntent)
    (next : FollowedUp) : Prop where
  operation : next.operation ≠ .submitBeforeResolve
  schema : next.last.schema = last.schema
  action : next.last.action = last.action
  attemptedAt : next.last.attemptedAt = now
  intentFile : next.last.intentFile = last.intentFile ∨
    ∃ event, next.last.intentFile = intentFileName event role
  written : ∀ intent, next.written = some intent → last.schema = .v2 →
    intent.responseClass = some .page
  resubmitted : last.schema = .v2 → next.operation = .submit →
    ∃ prior, files[last.intentFile]? = some prior ∧ prior.responseClass ≠ some .page

theorem followUpRole_followsUp {config : Config} {now : Int} {files : ExtTreeMap Text Intent}
    {role : Role} {last : LastIntent} {next : FollowedUp}
    (h : followUpRole config now files condition role last = some next) :
    FollowsUp now files role last next := by
  revert h
  fun_cases followUpRole config now files condition role last <;> rintro ⟨⟩
  -- a page file without the class is rendered again; any other keeps its class
  case case3 prior hlegacy _ =>
    refine ⟨by simp, rfl, rfl, rfl, .inr ⟨_, rfl⟩, fun intent hintent _ => ?_, fun hschema _ => ?_⟩
    · cases hintent
      rfl
    · rw [if_pos hschema, Option.filter_eq_some_iff] at hlegacy
      exact ⟨prior, hlegacy.1, of_decide_eq_true hlegacy.2⟩
  case case4 => exact ⟨by simp, rfl, rfl, rfl, .inl rfl, by simp, by simp⟩
  case case5 operation _ hfollow _ _ _ _ hlegacy _ prior hfile =>
    obtain ⟨hoperation, hpaged⟩ := followUp_operation hfollow
    refine ⟨?_, rfl, rfl, rfl, .inr ⟨_, rfl⟩, fun intent hintent hschema => ?_,
      fun hschema hsubmit => ?_⟩
    · dsimp only
      split
      · simp
      · exact hoperation
    · cases hintent
      rw [if_pos hschema, hfile, Option.filter_some] at hlegacy
      show prior.responseClass = some .page
      by_contra hne
      simp [hne] at hlegacy
    · dsimp only at hsubmit
      split at hsubmit
      · cases hsubmit
      · exact absurd hsubmit (hpaged hschema)
  case case6 =>
    refine ⟨?_, rfl, rfl, rfl, .inl rfl, by simp, fun _ hsubmit => ?_⟩
    · dsimp only
      split <;> simp
    · dsimp only at hsubmit
      split at hsubmit <;> cases hsubmit

/-! ## One slot through a pass -/

section Pass

variable (input : PassInput) (state : State) (files : ExtTreeMap Text Intent)

theorem attemptsOf_pass (id : Text) (role : Role) :
    attemptsOf id role (input.pass state files).effects =
      attemptsOf id role (input.submitted state files).1 := by
  have hwrites : ∀ written : List Written,
      (written.map Effect.writeIntent).filterMap (Effect.attempt id role) = [] := by
    intro written
    rw [List.filterMap_map]
    exact List.filterMap_eq_nil_iff.mpr fun _ _ => rfl
  have hremovals : ∀ removed : List Text,
      (removed.map Effect.removeIntent).filterMap (Effect.attempt id role) = [] := by
    intro removed
    rw [List.filterMap_map]
    exact List.filterMap_eq_nil_iff.mpr fun _ _ => rfl
  simp only [attemptsOf, PassInput.pass, List.filterMap_append, List.filterMap_cons, hwrites,
    hremovals, Effect.attempt, List.nil_append, List.append_nil]

/-- What a pass does to one slot of a condition it reconciled. -/
structure SlotPass (id : Text) (role : Role) (result : Reconciled) (share : Share)
    (next : ConditionState) : Prop where
  /-- by the planning -/
  change : RoleChange input.config input.now files (input.planning state files).written id result
    share role
  /-- the entries planned for the slot -/
  plan : ∀ item, item ∈ (input.planning state files).plan ∧ item.For id role ↔
    item ∈ share.plan ∧ item.role = role
  /-- the files written for the slot -/
  written : ∀ item, item ∈ (input.planning state files).written ∧ item.conditionId = id ∧
    item.role = role ↔ item ∈ share.written ∧ item.role = role
  /-- the rest of the condition -/
  life : next.life = result.condition.life
  /-- after the submissions -/
  found : (input.submitted state files).2.conditions[id]? = some next
  submitted : SlotSubmitted input.config input.now (input.planning state files).plan id role
    (share.condition.lastIntent.get role)
    (attemptsOf id role (input.pass state files).effects) (next.lastIntent.get role)

variable {id : Text} {result : Reconciled} {share : Share} {written : List Written}

/-- An entry of a condition's share is for that condition and for its newest intents. -/
theorem RoleChange.mem_plan {config : Config} {now : Int} {files : ExtTreeMap Text Intent}
    {item : Planned} (h : RoleChange config now files written id result share item.role)
    (hitem : item ∈ share.plan) :
    item.conditionId = id ∧ item.operation ≠ .submitBeforeResolve := by
  cases h with
  | planned _ _ _ _ _ hplan _ =>
    rw [(hplan item).mp ⟨hitem, rfl⟩]
    exact ⟨rfl, by simp⟩
  | followed _ _ _ _ hnext _ _ hplan _ =>
    rw [(hplan item).mp ⟨hitem, rfl⟩]
    exact ⟨rfl, (followUpRole_followsUp hnext).operation⟩
  | kept _ _ _ _ hplan _ => exact absurd rfl (hplan item hitem)

theorem RoleChange.mem_written {config : Config} {now : Int} {files : ExtTreeMap Text Intent}
    {item : Written} (h : RoleChange config now files written id result share item.role)
    (hitem : item ∈ share.written) : item.conditionId = id := by
  cases h with
  | planned _ _ _ _ _ _ hwritten => rw [(hwritten item).mp ⟨hitem, rfl⟩]
  | followed _ _ _ _ _ _ _ _ hwritten =>
    obtain ⟨_, _, hsame⟩ := (hwritten item).mp ⟨hitem, rfl⟩
    rw [hsame]
  | kept _ _ _ _ _ hwritten => exact absurd rfl (hwritten item hitem)

theorem exists_slotPass (hmem : (id, result) ∈ input.reconciled state) :
    ∃ share next, ∀ role, SlotPass input state files id role result share next := by
  obtain ⟨share, hplanned⟩ := planning_plannedBy input state files
  have hchange : ∀ other result', (other, result') ∈ input.reconciled state → ∀ role,
      RoleChange input.config input.now files (input.planning state files).written other result'
        (share other result') role := by
    intro other result' hother role
    exact (hplanned.shares other result' hother).role
      (fun item hitem => (hplanned.written item).mpr ⟨other, result', hother, hitem⟩) role
  have hsaved : (input.saved state files).conditions[id]? = some (share id result).condition := by
    rw [saved_conditions]
    exact (hplanned.conditions id _).mpr ⟨result, hmem, rfl⟩
  have hslot : ∀ role, ∃ next, (input.submitted state files).2.conditions[id]? = some next ∧
      SlotSubmitted input.config input.now (input.planning state files).plan id role
        ((share id result).condition.lastIntent.get role)
        (attemptsOf id role (input.pass state files).effects) (next.lastIntent.get role) := by
    intro role
    rw [attemptsOf_pass]
    unfold PassInput.submitted
    exact submitAll_slot hsaved
  obtain ⟨next, hnext, _⟩ := hslot .page
  have hone := reconciled_oneDecision input state
  refine ⟨share id result, next, fun role => ⟨hchange id result hmem role, ?_, ?_, ?_, hnext, ?_⟩⟩
  · intro item
    constructor
    · rintro ⟨hitem, hid, hrole, hoperation⟩
      rcases (hplanned.plan item).mp hitem with ⟨other, result', hother, hshare⟩ | hpending
      · obtain ⟨hsame, _⟩ := (hchange other result' hother item.role).mem_plan hshare
        obtain rfl : other = id := hsame.symm.trans hid
        obtain rfl : result' = result := hone.unique hother hmem
        exact ⟨hshare, hrole⟩
      · simp only [pendingPlan, List.mem_flatMap, List.mem_map] at hpending
        obtain ⟨_, _, _, _, rfl⟩ := hpending
        exact absurd rfl hoperation
    · rintro ⟨hshare, rfl⟩
      obtain ⟨hid, hoperation⟩ := (hchange id result hmem item.role).mem_plan hshare
      exact ⟨(hplanned.plan item).mpr (.inl ⟨id, result, hmem, hshare⟩), hid, rfl, hoperation⟩
  · intro item
    constructor
    · rintro ⟨hitem, hid, hrole⟩
      obtain ⟨other, result', hother, hshare⟩ := (hplanned.written item).mp hitem
      obtain rfl : other = id :=
        ((hchange other result' hother item.role).mem_written hshare).symm.trans hid
      obtain rfl : result' = result := hone.unique hother hmem
      exact ⟨hshare, hrole⟩
    · rintro ⟨hshare, rfl⟩
      exact ⟨(hplanned.written item).mpr ⟨id, result, hmem, hshare⟩,
        (hchange id result hmem item.role).mem_written hshare, rfl⟩
  · have hlives := (submitted_sameLives input state files).lives id
    rw [hnext, hsaved, Option.map_some, Option.map_some, Option.some.injEq] at hlives
    exact hlives.trans (hplanned.shares id result hmem).life
  · obtain ⟨other, hother, hsubmitted⟩ := hslot role
    rw [hnext] at hother
    cases hother
    exact hsubmitted

/-- Every file a pass writes is that of a role of a condition it reconciled. -/
theorem mem_planning_written {item : Written} (h : item ∈ (input.planning state files).written) :
    ∃ id result share, (id, result) ∈ input.reconciled state ∧
      RoleChange input.config input.now files (input.planning state files).written id result share
        item.role ∧ item ∈ share.written := by
  obtain ⟨share, hplanned⟩ := planning_plannedBy input state files
  obtain ⟨id, result, hmem, hitem⟩ := (hplanned.written item).mp h
  refine ⟨id, result, share id result, hmem, ?_, hitem⟩
  exact (hplanned.shares id result hmem).role
    (fun other hother => (hplanned.written other).mpr ⟨id, result, hmem, hother⟩) item.role

theorem foldl_erase_getElem? {removed : List Text} {files : ExtTreeMap Text Intent} {file : Text}
    {intent : Intent} (h : (removed.foldl ExtTreeMap.erase files)[file]? = some intent) :
    files[file]? = some intent := by
  induction removed generalizing files with
  | nil => exact h
  | cons head rest ih =>
    have hrest := ih h
    rw [ExtTreeMap.getElem?_erase] at hrest
    split at hrest
    · cases hrest
    · exact hrest

/-- The intent files after writes, a save, attempts, a save and removals. -/
theorem after_stages_intents (disk : Disk) (written : List Written) (saved final : State)
    (attempts : List Effect) (removed : List Text)
    (hattempts : ∀ disk : Disk, disk.state = some saved →
      (disk.after attempts).intents = disk.intents) :
    (disk.after (written.map .writeIntent ++ .saveState saved :: attempts ++
      .saveState final :: removed.map .removeIntent)).intents =
      removed.foldl ExtTreeMap.erase (writeAll disk.intents written) := by
  rw [after_last_save, after_save, hattempts _ rfl]

/-- The intent files after a pass: those written were added, those no longer needed removed. -/
theorem after_pass_intents_eq (disk : Disk) :
    (disk.after (input.pass state disk.intents).effects).intents =
      (pruned (input.planning state disk.intents).files (input.final state disk.intents)).foldl
        ExtTreeMap.erase (writeAll disk.intents (input.planning state disk.intents).written) := by
  obtain ⟨current, _, hdisk⟩ :=
    submitted_prefix_sameLives input state disk.intents (List.prefix_refl _)
  unfold PassInput.pass
  refine after_stages_intents disk _ _ _ _ _ fun other hother => ?_
  rw [hdisk other hother]

/-- Every entry of the plan is of a condition the pass reconciled. -/
theorem reconciled_of_mem_plan {item : Planned} (h : item ∈ (input.planning state files).plan) :
    ∃ result, (item.conditionId, result) ∈ input.reconciled state := by
  obtain ⟨share, hplanned⟩ := planning_plannedBy input state files
  rcases (hplanned.plan item).mp h with ⟨id, result, hmem, hitem⟩ | hpending
  · have hchange := (hplanned.shares id result hmem).role
      (fun other hother => (hplanned.written other).mpr ⟨id, result, hmem, hother⟩) item.role
    rw [(hchange.mem_plan hitem).1]
    exact ⟨result, hmem⟩
  · simp only [pendingPlan, List.mem_flatMap, List.mem_map] at hpending
    obtain ⟨⟨id, condition⟩, hfound, _, _, rfl⟩ := hpending
    rw [ExtTreeMap.mem_toList_iff_getElem?_eq_some] at hfound
    obtain ⟨result, hmem, _⟩ := (hplanned.conditions id condition).mp hfound
    exact ⟨result, hmem⟩

variable {input state files}

/-- A decision that goes to a role is planned for it as a new intent. -/
theorem SlotPass.plans {role : Role} {next : ConditionState}
    (h : SlotPass input state files id role result share next) {work : Work} {rule : EffectiveRule}
    {route : Text} (hwork : IsWork id result work) (haction : work.action = .trigger)
    (hrule : ruleFor input.config.effectiveRules result.condition.key.rule = some rule)
    (hroute : (role, route) ∈ workRoles input.config rule result.condition work) :
    ∃ item ∈ (input.planning state files).plan, item.conditionId = id ∧ item.role = role ∧
      item.action = .trigger ∧ item.operation = .submit := by
  cases h.change with
  | planned hother _ _ _ _ hplan _ =>
    obtain ⟨hitem, hrole⟩ := (hplan _).mpr rfl
    obtain ⟨hplanned, hid, _, _⟩ := (h.plan _).mpr ⟨hitem, hrole⟩
    exact ⟨_, hplanned, hid, rfl, (hother.unique hwork) ▸ haction, rfl⟩
  | followed htransition hdue _ _ _ _ _ _ _ =>
    cases hwork with
    | decided hsome =>
      rw [htransition] at hsome
      cases hsome
    | held _ hheld =>
      rw [hdue] at hheld
      cases hheld
  | kept hunrouted _ _ _ _ _ => exact absurd hroute (hunrouted work rule route hwork hrule)

end Pass

end ConstellationMonitor.Attention
