/-
  Attention/Retries.lean --- what is left to retry of a page that was not accepted.

  A page NQ has retained is resubmitted by NQ's record id; one it has not is submitted again
  from its file.  A resubmission gives up the record id before NQ has answered, so an attempt
  that ends without an answer leaves only the file to retry from.
-/
import ConstellationMonitor.Attention.HeldPages

namespace ConstellationMonitor.Attention

open Foundation
open Std (ExtTreeMap)

/-! ## Attempts of a page over a run -/

/-- The attempts a pass makes to deliver the page of a condition. -/
def Visit.attempts (visit : Visit) (id : Text) : List (Submission × SubmitOutcome) :=
  attemptsOf id .page visit.pass.effects

/-- The intent files a pass writes for the page. -/
def Visit.pageFiles (visit : Visit) (id : Text) : List Text :=
  ((visit.input.planning visit.state visit.disk.intents).written.filter fun item =>
    item.conditionId = id ∧ item.role = .page).map Written.file

/-- The record ids NQ has returned for the page. -/
def returnedIds (id : Text) (visits : List Visit) : List Text :=
  visits.flatMap fun visit => (visit.attempts id).filterMap fun attempt => attempt.2.notificationId

/-- The last pass that made an attempt. -/
def lastTry (id : Text) (visits : List Visit) : Option Visit :=
  (visits.filter fun visit => !(visit.attempts id).isEmpty).getLast?

/-- When the last attempt was made. -/
def lastAttempt (id : Text) (visits : List Visit) : Option Int :=
  (lastTry id visits).map fun visit => visit.input.now

/-- The intent file of the page that was written last. -/
def lastFile (id : Text) (visits : List Visit) : Option Text :=
  (visits.flatMap fun visit => visit.pageFiles id).getLast?

/-- The intent file is there: it was on disk, or the pass wrote it. -/
def Visit.HasFile (visit : Visit) (id file : Text) : Prop :=
  (visit.disk.intents[file]?).isSome = true ∨ file ∈ visit.pageFiles id

/-- An attempt NQ can act on: a resubmission of a record it returned for this page, or a
submission of an intent file that is there. -/
def Visit.Actionable (visit : Visit) (id : Text) (returned : List Text) : NqCommand → Prop
  | .resubmit notificationId _ => notificationId ∈ returned
  | .submit file _ => visit.HasFile id file
  | .deliverLocal _ _ => False

/-- NQ answered an attempt of the pass with a record id. -/
def Visit.Named (tried : Visit) (id : Text) : Prop :=
  ∃ attempt ∈ tried.attempts id, attempt.2.notificationId.isSome = true

/-- The attempts of the pass ended without an answer. -/
def Visit.Unanswered (tried : Visit) (id : Text) : Prop :=
  ∃ attempt, (tried.attempts id).getLast? = some attempt ∧
    (attempt.2.outcome = "unknown" ∨ attempt.2.outcome = "command_error")

/-- What NQ's answers and the lost files have left to retry the page from: the last pass that
attempted it was answered with a record id, or it was not answered and the intent file written
last has not been lost. -/
def Visit.Retriable (visit : Visit) (id : Text) (visits : List Visit) : Prop :=
  ∃ tried, lastTry id visits = some tried ∧ (tried.Named id ∨ tried.Unanswered id ∧
    ∃ file, lastFile id visits = some file ∧ (visit.disk.intents[file]?).isSome = true)

theorem lastTry_append (id : Text) (visits : List Visit) (visit : Visit) :
    lastTry id (visits ++ [visit]) =
      if visit.attempts id = [] then lastTry id visits else some visit := by
  unfold lastTry
  rw [List.filter_append]
  by_cases hnone : visit.attempts id = []
  · simp [hnone]
  · simp [hnone]

theorem returnedIds_append (id : Text) (visits : List Visit) (visit : Visit) :
    returnedIds id (visits ++ [visit]) = returnedIds id visits ++
      (visit.attempts id).filterMap fun attempt => attempt.2.notificationId := by
  simp [returnedIds]

theorem lastFile_append (id : Text) (visits : List Visit) (visit : Visit) :
    lastFile id (visits ++ [visit]) = (visit.pageFiles id).getLast?.or (lastFile id visits) := by
  simp [lastFile, List.getLast?_append]

theorem getLast?_of_forall {α : Type} {values : List α} {value : α}
    (h : ∀ other, other ∈ values ↔ other = value) : values.getLast? = some value := by
  have hne : values ≠ [] := List.ne_nil_of_mem ((h value).mpr rfl)
  rw [List.getLast?_eq_some_getLast hne, (h _).mp (List.getLast_mem hne)]

/-- A record is what the answers of a pass have left of it. -/
structure LastIntent.AnsweredIn (last : LastIntent) (id : Text) (tried : Visit) : Prop where
  time : last.attemptedAt = tried.input.now
  outcome : ∃ attempt, (tried.attempts id).getLast? = some attempt ∧
    last.outcome = attempt.2.outcome
  named : last.notificationId.isSome = true ↔ tried.Named id
  returned : ∀ notificationId, last.notificationId = some notificationId →
    notificationId ∈ (tried.attempts id).filterMap fun attempt => attempt.2.notificationId

/-- The answers to some attempts, as they fold into a record without a record id. -/
theorem answeredAll_spec {last : LastIntent} (hnone : last.notificationId = none)
    (attempts : List (Submission × SubmitOutcome)) (now : Int) :
    (last.answeredAll attempts now).action = last.action ∧
      (last.answeredAll attempts now).intentFile = last.intentFile ∧
      ((last.answeredAll attempts now).notificationId.isSome = true ↔
        ∃ attempt ∈ attempts, attempt.2.notificationId.isSome = true) ∧
      ∀ notificationId, (last.answeredAll attempts now).notificationId = some notificationId →
        notificationId ∈ attempts.filterMap fun attempt => attempt.2.notificationId := by
  induction attempts using List.reverseRecOn with
  | nil => simp [LastIntent.answeredAll, hnone]
  | append_singleton attempts attempt ih =>
    have hlast : last.answeredAll (attempts ++ [attempt]) now =
        (last.answeredAll attempts now).answered attempt.2 now := by
      simp [LastIntent.answeredAll]
    obtain ⟨haction, hfile, hnamed, hreturned⟩ := ih
    rw [hlast]
    refine ⟨haction, hfile, ?_, fun notificationId hsome => ?_⟩
    · cases hanswer : attempt.2.notificationId <;>
        simp [LastIntent.answered, hanswer, hnamed, or_and_right, exists_or]
    · cases hanswer : attempt.2.notificationId with
      | some returned => simp_all [LastIntent.answered]
      | none =>
        rw [List.filterMap_append]
        exact List.mem_append_left _
          (hreturned _ (by simpa [LastIntent.answered, hanswer] using hsome))

theorem answeredIn_answeredAll {last : LastIntent} {visit : Visit} {id : Text}
    (hnone : last.notificationId = none) (hattempts : visit.attempts id ≠ []) :
    (last.answeredAll (visit.attempts id) visit.input.now).AnsweredIn id visit := by
  obtain ⟨-, -, hnamed, hreturned⟩ := answeredAll_spec hnone (visit.attempts id) visit.input.now
  obtain ⟨attempts, attempt, hsplit⟩ := (List.eq_nil_or_concat _).resolve_left hattempts
  have hlast : last.answeredAll (visit.attempts id) visit.input.now =
      (last.answeredAll attempts visit.input.now).answered attempt.2 visit.input.now := by
    simp [LastIntent.answeredAll, hsplit]
  refine ⟨by rw [hlast]; rfl, ⟨attempt, by simp [hsplit], by rw [hlast]; rfl⟩, hnamed, hreturned⟩

/-! ## The follow-up of a page -/

section FollowUp

variable {config : Config} {now : Int} {files : ExtTreeMap Text Intent}
  {condition : ConditionState} {last : LastIntent}

/-- The record of a page that is resubmitted. -/
def resubmitted (config : Config) (now : Int) (files : ExtTreeMap Text Intent)
    (condition : ConditionState) (last : LastIntent) : LastIntent :=
  ({ last with
      stableEventId := eventId condition.key last.action now, notificationId := none
      intentFile := if (files[last.intentFile]?).isSome then
        intentFileName (eventId condition.key last.action now) .page else last.intentFile } :
    LastIntent).retried config now

/-- What is done about a page that was not accepted: it is resubmitted by its record id, or else
submitted again from its file when the last attempt was not answered. -/
def pageFollowUp (config : Config) (now : Int) (files : ExtTreeMap Text Intent)
    (condition : ConditionState) (last : LastIntent) : Option FollowedUp :=
  match last.notificationId with
  | none =>
    if last.outcome = "unknown" ∨ last.outcome = "command_error" then
      some ⟨last.retried config now, none, .submitAgain, none⟩
    else none
  | some origin =>
    if now - last.attemptedAt < pageResendSeconds then none
    else some ⟨resubmitted config now files condition last,
      (files[last.intentFile]?).map fun prior =>
        prior.withEventId (eventId condition.key last.action now),
      .resubmit, some origin⟩

/-- A follow-up gives up the record id, and goes on with the same file unless it writes one. -/
theorem pageFollowUp_spec {followed : FollowedUp}
    (h : pageFollowUp config now files condition last = some followed) :
    followed.last.action = last.action ∧ followed.last.notificationId = none ∧
      (followed.written = none ∧ followed.last.intentFile = last.intentFile ∨
        ∃ intent, followed.written = some intent ∧
          intentFileName intent.stableEventId .page = followed.last.intentFile) := by
  unfold pageFollowUp at h
  split at h <;> rename_i hid <;> split at h <;> cases h
  · exact ⟨rfl, hid, .inl ⟨rfl, rfl⟩⟩
  · refine ⟨rfl, rfl, ?_⟩
    cases hfile : files[last.intentFile]? with
    | none => exact .inl ⟨rfl, by simp [resubmitted, hfile, LastIntent.retried]⟩
    | some prior =>
      exact .inr ⟨_, rfl, by simp [resubmitted, hfile, LastIntent.retried, Intent.withEventId]⟩

theorem followUpRole_page (hactive : condition.active = true) (haction : last.action = .trigger)
    (hschema : last.schema = .v2) (hnetwork : config.routes.networkEnabled = true)
    (hclass : ∀ prior, files[last.intentFile]? = some prior → prior.responseClass = some .page)
    (hunaccepted : last.outcome ≠ "accepted") : followUpRole config now files condition .page last =
      pageFollowUp config now files condition last := by
  have hlegacy : (if last.schema = .v2 then (files[last.intentFile]?).filter
      (fun prior => decide (prior.responseClass ≠ some .page)) else none) = none := by
    rw [if_pos hschema]
    cases hfile : files[last.intentFile]? with
    | none => rfl
    | some prior => simp [hclass prior hfile]
  have hdelivers : config.routes.delivers last.schema = true := by
    simp [Routes.delivers, hnetwork]
  unfold followUpRole pageFollowUp
  cases hid : last.notificationId with
  | none =>
    by_cases hunanswered : last.outcome = "unknown" ∨ last.outcome = "command_error"
    · have hfollow : followUp last condition config = some (.submitAgain, false) := by
        simp [followUp, haction, hactive, hid, hunanswered]
      simp only [hfollow, hlegacy, hunanswered, if_true, Bool.false_eq_true, false_and, if_false]
    · have hfollow : followUp last condition config = none := by
        simp [followUp, haction, hactive, hid, hunanswered]
      simp [hfollow, hunanswered]
  | some origin =>
    have hfollow : followUp last condition config = some (.resubmit, true) := by
      rw [hschema] at hdelivers
      simp [followUp, haction, hactive, hid, hunaccepted, hdelivers, hschema]
    by_cases hwait : now - last.attemptedAt < pageResendSeconds
    · simp [hfollow, hwait]
    · simp only [hfollow, hlegacy, if_true, true_and, hwait, if_false, reduceCtorEq]
      cases hfile : files[last.intentFile]? with
      | none => simp [resubmitted, hfile]
      | some prior => simp [resubmitted, hfile]

end FollowUp

/-! ## A page through a pass -/

/-- What a pass does with the page of an active condition it decides nothing about. -/
inductive PageFollowed (visit : Visit) (id : Text) (last : LastIntent) :
    Option FollowedUp → Option LastIntent → Prop
  /-- no attempt -/
  | none (hattempts : visit.attempts id = []) (hfiles : visit.pageFiles id = []) :
      PageFollowed visit id last none (some last)
  /-- attempts, each of the follow-up -/
  | some {followed : FollowedUp} (hattempts : visit.attempts id ≠ [])
      (hsubmitted : ∀ attempt ∈ visit.attempts id, attempt.1 = submission visit.input.config
        ⟨id, .page, followed.last.action, followed.operation, followed.retryOf⟩ followed.last)
      (hfiles : ∀ file, file ∈ visit.pageFiles id ↔ ∃ intent, followed.written = some intent ∧
        file = intentFileName intent.stableEventId .page) :
      PageFollowed visit id last (some followed)
        (some (followed.last.answeredAll (visit.attempts id) visit.input.now))

section Quiet

variable {visit : Visit} {id : Text} {condition : ConditionState}

/-- The page of a condition that is active after a pass: what was planned for it and written,
and what NQ's answers made of it. -/
theorem Visit.page_slot (hpass : visit.input.evaluate visit.disk = .ok visit.pass)
    (hstart : visit.start id = some condition)
    (hactive : (visit.result id condition).condition.active = true) :
    ∃ share next, visit.pass.state.conditions[id]? = some next ∧ next.active = true ∧
      next.pageDeferred = (visit.result id condition).condition.pageDeferred ∧
      RoleChange visit.input.config visit.input.now visit.disk.intents
        (visit.input.planning visit.state visit.disk.intents).written id
        (visit.result id condition) share .page ∧
      (∀ item, item ∈ (visit.input.planning visit.state visit.disk.intents).plan ∧
        item.For id .page ↔ item ∈ share.plan ∧ item.role = .page) ∧
      (∀ file, file ∈ visit.pageFiles id ↔
        ∃ item, (item ∈ share.written ∧ item.role = .page) ∧ file = item.file) ∧
      SlotSubmitted visit.input.config visit.input.now
        (visit.input.planning visit.state visit.disk.intents).plan id .page
        (share.condition.lastIntent.get .page) (visit.attempts id) (next.lastIntent.get .page) := by
  obtain ⟨_, hsame⟩ := Visit.pass_eq hpass
  obtain ⟨next, hnext⟩ := Visit.left_of_active hpass hstart hactive
  have hlife := sameLife_of_eq (Visit.left_of_start hpass hstart hnext)
  obtain ⟨share, after, hslots⟩ := exists_slotPass visit.input visit.state visit.disk.intents
    (Visit.mem_reconciled.mpr ⟨condition, hstart, rfl⟩)
  have hslot := hslots .page
  obtain rfl : after = next := by
    have hfinal := hnext
    rw [hsame] at hfinal
    simp only [PassInput.pass] at hfinal
    exact Option.some.inj (hslot.found.symm.trans ((final_getElem?_eq_some _ _ _).mp hfinal).1)
  refine ⟨share, after, hnext, hlife.active.trans hactive, hlife.pageDeferred, hslot.change,
    hslot.plan, fun file => ?_, ?_⟩
  · simp only [Visit.pageFiles, List.mem_map, List.mem_filter, decide_eq_true_eq, ← hslot.written]
    exact exists_congr fun item => and_congr_right fun _ => eq_comm
  · rw [Visit.attempts, hsame]
    exact hslot.submitted

theorem Visit.page_followed (hpass : visit.input.evaluate visit.disk = .ok visit.pass)
    (hfound : visit.state.conditions[id]? = some condition) (hactive : condition.active = true)
    (hheld : condition.pageDeferred = false)
    (hquiet : ∀ action reason, (id, action, reason) ∉ visit.pass.decided) {last : LastIntent}
    (hlast : condition.lastIntent.get .page = some last) : ∃ before : List Written,
      (∀ item ∈ before, item ∈ (visit.input.planning visit.state visit.disk.intents).written) ∧
      (visit.result id condition).condition.active = true ∧
      ∃ next, visit.pass.state.conditions[id]? = some next ∧ next.active = true ∧
        next.pageDeferred = false ∧ PageFollowed visit id last
          (followUpRole visit.input.config visit.input.now (writeAll visit.disk.intents before)
            (visit.result id condition).condition .page last) (next.lastIntent.get .page) := by
  have hstart := Visit.start_of_found hfound
  have hstep := Visit.step_quiet hpass hstart hactive (hquiet .resolve)
  obtain ⟨_, htransition⟩ := visit.result_transition id condition
  rw [hstep, Option.map_none] at htransition
  obtain ⟨hdueIff, hheldIff⟩ := Visit.result_quiet hstep
  have hdue : (visit.result id condition).pageDue = false := by
    rw [← Bool.not_eq_true, hdueIff]
    exact fun hreleases => absurd (hheld.symm.trans hreleases.held) (by simp)
  have hresultActive := (Visit.result_active_of_quiet hstep).trans hactive
  have hresultLast : (visit.result id condition).condition.lastIntent.get .page = some last := by
    rw [Visit.result, (reconcile_sameRecord _ _ _ _ _).lastIntent, hlast]
  obtain ⟨share, next, hnext, hnextActive, hdeferred, hchange, hplanOf, hfilesOf, hsubmitted⟩ :=
    Visit.page_slot hpass hstart hresultActive
  have hnextHeld : next.pageDeferred = false := by
    rw [hdeferred, ← Bool.not_eq_true, hheldIff, hheld]
    simp
  cases hchange with
  | planned hwork _ _ _ _ _ _ =>
    cases hwork with
    | decided hsome => cases htransition.symm.trans hsome
    | held _ hdue' => cases hdue.symm.trans hdue'
  | kept _ hunfollowed hkept _ hplan hwritten =>
    obtain ⟨before, hbefore, hnone⟩ := hunfollowed htransition hdue
    refine ⟨before, hbefore, hresultActive, next, hnext, hnextActive, hnextHeld, ?_⟩
    have hempty : visit.attempts id = [] := by
      refine List.eq_nil_iff_forall_not_mem.mpr fun attempt hattempt => ?_
      obtain ⟨item, hitem, hfor, _⟩ := hsubmitted.planned attempt hattempt
      obtain ⟨hshare, hrole⟩ := (hplanOf item).mp ⟨hitem, hfor⟩
      exact hplan item hshare hrole
    have hunwritten : visit.pageFiles id = [] := by
      refine List.eq_nil_iff_forall_not_mem.mpr fun file hfile => ?_
      obtain ⟨item, ⟨hshare, hrole⟩, -⟩ := (hfilesOf file).mp hfile
      exact hwritten item hshare hrole
    rw [hnone last hresultLast, hsubmitted.after, hkept, hresultLast, hempty]
    exact .none hempty hunwritten
  | @followed retained followed before _ _ hretained hbefore hfollowed hfollowedLast _ hplan
      hwritten =>
    obtain rfl := Option.some.inj (hretained.symm.trans hresultLast)
    refine ⟨before, hbefore, hresultActive, next, hnext, hnextActive, hnextHeld, ?_⟩
    rw [hfollowed, hsubmitted.after, hfollowedLast, Option.map_some]
    obtain ⟨hplanned, hfor⟩ := (hplanOf _).mpr ((hplan _).mpr rfl)
    refine .some (hsubmitted.attempted _ hplanned hfor (by rw [hfollowedLast]; rfl)) ?_ ?_
    · intro attempt hattempt
      obtain ⟨other, hother, hotherFor, record, hrecord, hsubmission⟩ :=
        hsubmitted.planned attempt hattempt
      rw [hfollowedLast] at hrecord
      cases hrecord
      rw [hsubmission, (hplan other).mp ((hplanOf other).mp ⟨hother, hotherFor⟩)]
    · intro file
      simp only [hfilesOf, hwritten]
      constructor
      · rintro ⟨_, ⟨intent, hintent, rfl⟩, rfl⟩
        exact ⟨intent, hintent, rfl⟩
      · rintro ⟨intent, hintent, rfl⟩
        exact ⟨_, ⟨intent, hintent, rfl⟩, rfl⟩

end Quiet

/-! ## A page that stays unaccepted -/

/-- The page of an active condition after some passes of its episode: its record is what the
answers to the last attempt left of it, and it names the file written last. -/
structure PageOpen (id : Text) (visits : List Visit) (condition : ConditionState)
    (last : LastIntent) : Prop where
  active : condition.active = true
  released : condition.pageDeferred = false
  retained : condition.lastIntent.get .page = some last
  action : last.action = .trigger
  answered : ∃ tried, lastTry id visits = some tried ∧ last.AnsweredIn id tried
  unaccepted : last.outcome ≠ "accepted"
  returned : ∀ notificationId, last.notificationId = some notificationId →
    notificationId ∈ returnedIds id visits
  file : lastFile id visits = some last.intentFile

/-- After attempts whose record had no record id left. -/
theorem pageOpen_attempted {id : Text} {visits : List Visit} {visit : Visit}
    {condition : ConditionState} {last : LastIntent} (hactive : condition.active = true)
    (hreleased : condition.pageDeferred = false) (haction : last.action = .trigger)
    (hnone : last.notificationId = none) (hattempts : visit.attempts id ≠ [])
    (hrecord : condition.lastIntent.get .page =
      some (last.answeredAll (visit.attempts id) visit.input.now))
    (hfile : lastFile id (visits ++ [visit]) = some last.intentFile)
    (hunaccepted : ∀ attempt ∈ visit.attempts id, attempt.2.outcome ≠ "accepted") :
    PageOpen id (visits ++ [visit]) condition
      (last.answeredAll (visit.attempts id) visit.input.now) := by
  obtain ⟨hsame, hkept, -, -⟩ := answeredAll_spec hnone (visit.attempts id) visit.input.now
  have hanswered := answeredIn_answeredAll hnone hattempts
  obtain ⟨attempt, hattempt, houtcome⟩ := hanswered.outcome
  refine ⟨hactive, hreleased, hrecord, hsame.trans haction, ⟨visit, ?_, hanswered⟩, ?_, ?_, ?_⟩
  · rw [lastTry_append, if_neg hattempts]
  · rw [houtcome]
    exact hunaccepted attempt (List.mem_of_getLast? hattempt)
  · intro notificationId hsome
    rw [returnedIds_append]
    exact List.mem_append_right _ (hanswered.returned notificationId hsome)
  · rw [hfile, hkept]

/-- What a pass of the episode after the page was planned is: the network is enabled, and
nothing is decided about the condition. -/
structure Visit.Retries (visit : Visit) (id : Text) : Prop where
  network : visit.input.config.routes.networkEnabled = true
  quiet : ∀ action reason, (id, action, reason) ∉ visit.pass.decided

section Episode

variable {id : Text} {visits : List Visit} {visit : Visit} {condition : ConditionState}
  {last : LastIntent}

/-- The follow-up of an open page, from the files a pass has when it is the page's turn. -/
theorem PageOpen.followUp (h : PageOpen id visits condition last)
    (hpass : visit.input.evaluate visit.disk = .ok visit.pass)
    (hfiled : visit.disk.PagesFiled) (hfound : visit.state.conditions[id]? = some condition)
    (hretries : visit.Retries id) : ∃ files : ExtTreeMap Text Intent, ∃ next,
      visit.pass.state.conditions[id]? = some next ∧ next.active = true ∧
      next.pageDeferred = false ∧ ∃ followed,
        PageFollowed visit id last followed (next.lastIntent.get .page) ∧
        followed = pageFollowUp visit.input.config visit.input.now files
          (visit.result id condition).condition last := by
  obtain ⟨before, hbefore, hresultActive, next, hnext, hactive, hreleased, hfollowed⟩ :=
    Visit.page_followed hpass hfound h.active h.released hretries.quiet h.retained
  obtain ⟨hload, _⟩ := Visit.pass_eq hpass
  have hrecords := hfiled.loaded hload
  have hrecord : PageRecord last := hrecords id condition last hfound h.retained
  have hclass : ∀ prior, (writeAll visit.disk.intents before)[last.intentFile]? = some prior →
      prior.responseClass = some .page := by
    intro prior hprior
    obtain ⟨event, hfile⟩ := hrecord.file
    rw [hfile] at hprior
    exact page_of_writeAll hrecords hfiled.files hbefore hprior
  exact ⟨_, next, hnext, hactive, hreleased, _, hfollowed, followUpRole_page hresultActive h.action
    hrecord.schema hretries.network hclass h.unaccepted⟩

/-- One more pass keeps the page open. -/
theorem PageOpen.next (h : PageOpen id visits condition last)
    (hpass : visit.input.evaluate visit.disk = .ok visit.pass)
    (hfiled : visit.disk.PagesFiled) (hfound : visit.state.conditions[id]? = some condition)
    (hretries : visit.Retries id)
    (hunaccepted : ∀ attempt ∈ visit.attempts id, attempt.2.outcome ≠ "accepted") :
    ∃ next record, visit.pass.state.conditions[id]? = some next ∧
      PageOpen id (visits ++ [visit]) next record := by
  obtain ⟨files, next, hnext, hactive, hreleased, followed, hfollowed, hcase⟩ :=
    h.followUp hpass hfiled hfound hretries
  generalize hafter : next.lastIntent.get .page = record at hfollowed
  cases hfollowed with
  | none hattempts hfiles =>
    refine ⟨next, last, hnext, hactive, hreleased, hafter, h.action, ?_, h.unaccepted, ?_, ?_⟩
    · rw [lastTry_append, if_pos hattempts]
      exact h.answered
    · intro notificationId hsome
      rw [returnedIds_append]
      exact List.mem_append_left _ (h.returned notificationId hsome)
    · rw [lastFile_append, hfiles]
      exact h.file
  | @some follow hattempts _ hfiles =>
    obtain ⟨haction, hgiven, hwhere⟩ := pageFollowUp_spec hcase.symm
    have hfile : lastFile id (visits ++ [visit]) = some follow.last.intentFile := by
      rw [lastFile_append]
      rcases hwhere with ⟨hnone, hsame⟩ | ⟨intent, hintent, hname⟩
      · have hempty : visit.pageFiles id = [] := by
          simpa [hnone, List.eq_nil_iff_forall_not_mem] using hfiles
        rw [hempty, hsame]
        exact h.file
      · rw [getLast?_of_forall (fun file => ?_), Option.some_or]
        rw [hfiles]
        simp [hintent, hname]
    exact ⟨next, _, hnext, pageOpen_attempted hactive hreleased (haction.trans h.action) hgiven
      hattempts hafter hfile hunaccepted⟩

/-- At least the resend interval after the last attempt, a pass makes an attempt NQ can act on
exactly when the answers and the files have left something to retry from. -/
theorem PageOpen.retry_iff (h : PageOpen id visits condition last)
    (hpass : visit.input.evaluate visit.disk = .ok visit.pass)
    (hfiled : visit.disk.PagesFiled) (hfound : visit.state.conditions[id]? = some condition)
    (hretries : visit.Retries id)
    (hdue : ∀ time, lastAttempt id visits = some time → time + 120 ≤ visit.input.now) :
    (∃ attempt ∈ visit.attempts id,
        visit.Actionable id (returnedIds id visits) attempt.1.command) ↔
      visit.Retriable id visits := by
  obtain ⟨files, next, _, _, _, followed, hfollowed, hcase⟩ :=
    h.followUp hpass hfiled hfound hretries
  obtain ⟨tried, htried, hanswered⟩ := h.answered
  have hleft : visit.Retriable id visits ↔ last.notificationId.isSome = true ∨
      (last.outcome = "unknown" ∨ last.outcome = "command_error") ∧
        (visit.disk.intents[last.intentFile]?).isSome = true := by
    obtain ⟨attempt, hattempt, houtcome⟩ := hanswered.outcome
    simp [Visit.Retriable, htried, h.file, hanswered.named, Visit.Unanswered, hattempt, houtcome,
      -Prod.exists]
  have hlocal : last.schema = .v2 := by
    obtain ⟨hload, _⟩ := Visit.pass_eq hpass
    exact (hfiled.loaded hload id condition last hfound h.retained).schema
  rw [hleft]
  generalize next.lastIntent.get .page = record at hfollowed
  cases hid : last.notificationId with
  | some origin =>
    have hwaited : ¬ visit.input.now - last.attemptedAt < pageResendSeconds := by
      have := hdue tried.input.now (by rw [lastAttempt, htried, Option.map_some])
      rw [hanswered.time, pageResendSeconds]
      omega
    simp only [pageFollowUp, hid, hwaited, if_false] at hcase
    rw [hcase] at hfollowed
    refine iff_of_true ?_ (.inl rfl)
    cases hfollowed with
    | some hattempts hsubmitted _ =>
      obtain ⟨attempt, hattempt⟩ := List.exists_mem_of_ne_nil _ hattempts
      refine ⟨attempt, hattempt, ?_⟩
      rw [hsubmitted attempt hattempt]
      exact h.returned origin hid
  | none =>
    by_cases hunanswered : last.outcome = "unknown" ∨ last.outcome = "command_error"
    · simp only [pageFollowUp, hid, hunanswered, if_true] at hcase
      rw [hcase] at hfollowed
      cases hfollowed with
      | some hattempts hsubmitted hwritten =>
        have hcommand : ∀ attempt ∈ visit.attempts id,
            attempt.1.command = .submit last.intentFile last.route := by
          intro attempt hattempt
          rw [hsubmitted attempt hattempt]
          simp [submission, LastIntent.retried, Routes.local, hlocal]
        have hfile : visit.HasFile id last.intentFile ↔
            (visit.disk.intents[last.intentFile]?).isSome = true := by
          simp [Visit.HasFile, hwritten]
        simp only [Option.isSome_none, Bool.false_eq_true, hunanswered, true_and, false_or]
        rw [← hfile]
        constructor
        · rintro ⟨attempt, hattempt, hactionable⟩
          rwa [hcommand attempt hattempt] at hactionable
        · intro hhas
          obtain ⟨attempt, hattempt⟩ := List.exists_mem_of_ne_nil _ hattempts
          refine ⟨attempt, hattempt, ?_⟩
          rwa [hcommand attempt hattempt]
    · simp only [pageFollowUp, hid, hunanswered, if_false] at hcase
      rw [hcase] at hfollowed
      cases hfollowed with
      | none hattempts _ => simp [hattempts, hunanswered]

end Episode

/-- A pass that plans a page leaves it open, unless NQ accepts it. -/
theorem pageOpen_planned {visit : Visit} {id : Text}
    (hpass : visit.input.evaluate visit.disk = .ok visit.pass)
    (hfiled : visit.disk.PagesFiled) (hplans : visit.pass.PlansTrigger id .page)
    (hunaccepted : ∀ attempt ∈ visit.attempts id, attempt.2.outcome ≠ "accepted") :
    ∃ next record, visit.pass.state.conditions[id]? = some next ∧
      PageOpen id [visit] next record := by
  obtain ⟨hload, hsame⟩ := Visit.pass_eq hpass
  -- the condition is active and its page no longer held
  obtain ⟨condition, hstart, hactive, hreleased⟩ : ∃ condition, visit.start id = some condition ∧
      (visit.result id condition).condition.active = true ∧
      (visit.result id condition).condition.pageDeferred = false := by
    rcases (plansPage_cases hpass hfiled).mp hplans with
      ⟨condition, hfound, _, _, hreleases⟩ | ⟨_, _, condition, hstart, hstep, hreleased⟩
    · refine ⟨condition, Visit.start_of_found hfound,
        (Visit.result_active_of_quiet hreleases.quiet).trans hreleases.active, ?_⟩
      rw [← Bool.not_eq_true, (Visit.result_quiet hreleases.quiet).2]
      exact fun hheld => hheld.2 hreleases
    · exact ⟨condition, hstart, Visit.result_active_of_trigger hstep, hreleased⟩
  obtain ⟨result, work, rule, route, hmem, hwork, haction, hrule, hroute⟩ :=
    (plansPage_iff hload hsame hfiled).mp hplans
  obtain rfl : result = visit.result id condition :=
    (reconciled_oneDecision visit.input visit.state).unique hmem
      (Visit.mem_reconciled.mpr ⟨condition, hstart, rfl⟩)
  obtain ⟨share, next, hnext, hnextActive, hdeferred, hchange, hplanOf, hfilesOf, hsubmitted⟩ :=
    Visit.page_slot hpass hstart hactive
  cases hchange with
  | planned hother _ _ hlast _ hplan hwritten =>
    obtain rfl := hother.unique hwork
    obtain ⟨hplanned, hfor⟩ := (hplanOf _).mpr ((hplan _).mpr rfl)
    have hnonempty := hsubmitted.attempted _ hplanned hfor (by rw [hlast]; rfl)
    have hrecord := hsubmitted.after
    rw [hlast, Option.map_some] at hrecord
    refine ⟨next, _, hnext, @pageOpen_attempted id [] visit next _ hnextActive
      (hdeferred.trans hreleased) haction rfl hnonempty hrecord ?_ hunaccepted⟩
    rw [lastFile_append, getLast?_of_forall (fun file => ?_), Option.some_or]
    rw [hfilesOf]
    simp [hwritten, Written.file, workIntent, workRecord, intentV2]
  | followed htransition hdue _ _ _ _ _ _ _ =>
    cases hwork with
    | decided hsome => cases htransition.symm.trans hsome
    | held _ hheld => cases hdue.symm.trans hheld
  | kept hunrouted _ _ _ _ _ => exact absurd hroute (hunrouted work rule route hwork hrule)

/-- From an open page on: at every later pass the retry is what the state on file allows. -/
theorem PageOpen.run_retry_iff {id : Text} {during later : List Visit} {visit : Visit}
    {visits : List Visit} {condition : ConditionState} {last : LastIntent} {disk : Disk}
    {saved : State} (h : PageOpen id visits condition last)
    (hpasses : Passes disk (during ++ visit :: later))
    (hfiled : ∀ other ∈ during ++ [visit], other.disk.PagesFiled)
    (hsaved : disk.state = some saved) (hfound : saved.conditions[id]? = some condition)
    (hretries : ∀ other ∈ during ++ [visit], other.Retries id)
    (hunaccepted : ∀ other ∈ during, ∀ attempt ∈ other.attempts id, attempt.2.outcome ≠ "accepted")
    (hdue : ∀ time, lastAttempt id (visits ++ during) = some time → time + 120 ≤ visit.input.now) :
    (∃ attempt ∈ visit.attempts id,
        visit.Actionable id (returnedIds id (visits ++ during)) attempt.1.command) ↔
      visit.Retriable id (visits ++ during) := by
  induction during generalizing visits condition last disk saved with
  | nil =>
    rw [List.append_nil] at hdue ⊢
    cases hpasses with
    | cons hlost hpass _ =>
      rw [← Visit.state_eq hpass (hlost.state.trans hsaved)] at hfound
      exact h.retry_iff hpass (hfiled visit (by simp)) hfound (hretries visit (by simp)) hdue
  | cons head during ih =>
    cases hpasses with
    | cons hlost hpass hrest =>
      rw [← Visit.state_eq hpass (hlost.state.trans hsaved)] at hfound
      obtain ⟨next, record, hnext, hopen⟩ := h.next hpass (hfiled head (by simp)) hfound
        (hretries head (by simp)) (hunaccepted head (by simp))
      rw [List.append_cons] at hdue ⊢
      refine ih hopen hrest (fun other hmem => hfiled other ?_) (Visit.pass_state hpass) hnext
        (fun other hmem => hretries other ?_) (fun other hmem => hunaccepted other ?_) hdue
      · exact List.mem_cons_of_mem _ hmem
      · exact List.mem_cons_of_mem _ hmem
      · exact List.mem_cons_of_mem _ hmem

/-- A page planned for a condition that then stays active, with the network enabled and no
attempt answered accepted, up to a pass at least 120 s after the last attempt. -/
structure PageEpisode (id : Text) (planned : Visit) (during : List Visit) (visit : Visit) :
    Prop where
  plans : planned.pass.PlansTrigger id .page
  retries : ∀ other ∈ during ++ [visit], other.Retries id
  unaccepted : ∀ other ∈ planned :: during, ∀ attempt ∈ other.attempts id,
    attempt.2.outcome ≠ "accepted"
  due : ∀ time, lastAttempt id (planned :: during) = some time → time + 120 ≤ visit.input.now

/-- In the episode of a page, once NQ has returned a record id for it, the last pass makes an
attempt NQ can act on, a resubmission of a record NQ returned for the page or a submission of an
intent file that is there, exactly when the last attempt was answered with a record id, or was
not answered and the intent file written last has not been lost. -/
theorem page_retry_iff {earlier during later : List Visit} {planned visit : Visit} {id : Text}
    (hpasses : Passes ⟨none, ∅⟩ (earlier ++ planned :: (during ++ visit :: later)))
    (episode : PageEpisode id planned during visit) :
    (returnedIds id (planned :: during) ≠ [] → ∃ attempt ∈ visit.attempts id,
        visit.Actionable id (returnedIds id (planned :: during)) attempt.1.command) ↔
      (returnedIds id (planned :: during) ≠ [] → visit.Retriable id (planned :: during)) := by
  have hfiled := hpasses.pagesFiled
  obtain ⟨hpass, hrest⟩ := hpasses.tail
  obtain ⟨hunaccepted, hlater⟩ := List.forall_mem_cons.mp episode.unaccepted
  obtain ⟨next, record, hnext, hopen⟩ :=
    pageOpen_planned hpass (hfiled planned (by simp)) episode.plans hunaccepted
  refine imp_congr_right fun _ => hopen.run_retry_iff hrest (fun other hmem => hfiled other ?_)
    (Visit.pass_state hpass) hnext episode.retries hlater episode.due
  rcases List.mem_append.mp hmem with hmem | hmem
  · simp [hmem]
  · simp [List.mem_singleton.mp hmem]

namespace Reference

/-- A pass over a unit that is down, with NQ's answer to every submission. -/
def answeredPass (now : Int) (answer : SubmitOutcome) : PassInput :=
  { unitPass (config nqOnly []) now .present with answers := fun _ => answer }

/-- The page of the unit fails at its destination, then NQ cannot be run; the intent files are
lost in between, or not. -/
def failingVisits (lost : Bool) : List Visit :=
  visitsLosing ⟨none, ∅⟩ [(false, answeredPass 1000 ⟨none, "command_error"⟩),
    (false, answeredPass 1190 ⟨some "n-1", "failed"⟩),
    (lost, answeredPass 1310 ⟨none, "command_error"⟩),
    (false, answeredPass 1430 ⟨none, "command_error"⟩)]

/-- A pass that may retry the unit's page. -/
def mayRetry (visit : Visit) : Bool :=
  visit.input.config.routes.networkEnabled && visit.pass.decided.isEmpty

def unacceptedPage (visit : Visit) : Bool :=
  (visit.attempts unitKey.id).all fun attempt => decide (attempt.2.outcome ≠ "accepted")

/-- The third pass is an episode's retry 120 s after the last attempt. -/
def retriesPage (visits : List Visit) : Bool :=
  match visits with
  | [_, planned, during, visit] =>
    plansPage planned && mayRetry during && mayRetry visit && unacceptedPage planned &&
      unacceptedPage during && decide (lastAttempt unitKey.id [planned, during] = some 1310) &&
      decide (visit.input.now = 1430) &&
      decide (returnedIds unitKey.id [planned, during] = ["n-1"])
  | _ => false

/-- The last attempt ended in a command error, and the file written last is there. -/
def fileLeft (visits : List Visit) : Bool :=
  match visits with
  | [_, planned, during, visit] => (lastTry unitKey.id [planned, during]).any fun tried =>
      ((tried.attempts unitKey.id).getLast?).any
        (fun attempt => decide (attempt.2.outcome = Text.ofString "command_error")) &&
      (lastFile unitKey.id [planned, during]).any fun file => (visit.disk.intents[file]?).isSome
  | _ => false

/-- What the retry of the failing page starts from. -/
theorem failing_episode {lost : Bool} (h : retriesPage (failingVisits lost) = true) :
    ∃ first planned during visit, failingVisits lost = [first, planned, during, visit] ∧
      Passes ⟨none, ∅⟩ ([first] ++ planned :: ([during] ++ visit :: [])) ∧
      PageEpisode unitKey.id planned [during] visit ∧
      returnedIds unitKey.id (planned :: [during]) = ["n-1"] := by
  have hpasses : Passes ⟨none, ∅⟩ (failingVisits lost) := visitsLosing_passes _ _
  unfold retriesPage at h
  split at h
  · rename_i first planned during visit hvisits
    simp only [Bool.and_eq_true, decide_eq_true_eq, mayRetry, unacceptedPage, List.isEmpty_iff,
      List.all_eq_true] at h
    obtain ⟨⟨⟨⟨⟨⟨⟨hplans, hduring⟩, hvisit⟩, hplanned⟩, hagain⟩, hlast⟩, hnow⟩, hreturned⟩ := h
    rw [hvisits] at hpasses
    have hquiet : ∀ other : Visit, other.input.config.routes.networkEnabled = true ∧
        other.pass.decided = [] → other.Retries unitKey.id := by
      intro other hother
      refine ⟨hother.1, fun action reason hmem => ?_⟩
      rw [hother.2] at hmem
      cases hmem
    refine ⟨first, planned, during, visit, hvisits, hpasses, ⟨plansTrigger_of_plansPage hplans, ?_,
      List.forall_mem_cons.mpr ⟨hplanned, List.forall_mem_singleton.mpr hagain⟩, ?_⟩, hreturned⟩
    · exact List.forall_mem_cons.mpr
        ⟨hquiet _ hduring, List.forall_mem_singleton.mpr (hquiet _ hvisit)⟩
    · intro time htime
      rw [hlast] at htime
      obtain rfl := Option.some.inj htime
      omega
  · cases h

end Reference

open Reference

/-- NQ has returned `n-1` for the page; with the intent file lost and one attempt ended in a
command error, the next attempt submits the file that is not there. -/
theorem lost_file_ends_retries :
    ∃ first planned during visit, failingVisits true = [first, planned, during, visit] ∧
      Passes ⟨none, ∅⟩ ([first] ++ planned :: ([during] ++ visit :: [])) ∧
      PageEpisode unitKey.id planned [during] visit ∧
      returnedIds unitKey.id (planned :: [during]) = ["n-1"] ∧
      ¬ ∃ attempt ∈ visit.attempts unitKey.id, visit.Actionable unitKey.id
        (returnedIds unitKey.id (planned :: [during])) attempt.1.command := by
  obtain ⟨first, planned, during, visit, hvisits, hpasses, hepisode, hreturned⟩ :=
    failing_episode (by decide +kernel : retriesPage (failingVisits true) = true)
  refine ⟨first, planned, during, visit, hvisits, hpasses, hepisode, hreturned, ?_⟩
  have hattempts : ((failingVisits true)[3]?).any (fun visit =>
      (visit.attempts unitKey.id).all (fun attempt => decide (attempt.1.command =
        .submit "lab-service-down-demo.service-trigger-1190.page.json" "ops-pagerduty")) &&
      visit.disk.intents.isEmpty &&
      (visit.input.planning visit.state visit.disk.intents).written.isEmpty) = true := by
    decide +kernel
  rw [hvisits] at hattempts
  simp only [List.getElem?_cons_succ, List.getElem?_cons_zero, Option.any_some, Bool.and_eq_true,
    List.all_eq_true, decide_eq_true_eq, List.isEmpty_iff, ExtTreeMap.isEmpty_iff] at hattempts
  obtain ⟨⟨hcommands, hfiles⟩, hwritten⟩ := hattempts
  rintro ⟨attempt, hattempt, hactionable⟩
  rw [hcommands attempt hattempt] at hactionable
  rcases hactionable with hdisk | hfile
  · simp [hfiles] at hdisk
  · simp [Visit.pageFiles, hwritten] at hfile

/-- With the file there, the attempt after the command error submits it again. -/
theorem page_retry_of_file :
    ∃ first planned during visit, failingVisits false = [first, planned, during, visit] ∧
      returnedIds unitKey.id (planned :: [during]) ≠ [] ∧
      ∃ attempt ∈ visit.attempts unitKey.id, visit.Actionable unitKey.id
        (returnedIds unitKey.id (planned :: [during])) attempt.1.command := by
  obtain ⟨first, planned, during, visit, hvisits, hpasses, hepisode, hreturned⟩ :=
    failing_episode (by decide +kernel : retriesPage (failingVisits false) = true)
  have hever : returnedIds unitKey.id (planned :: [during]) ≠ [] := by simp [hreturned]
  refine ⟨first, planned, during, visit, hvisits, hever,
    (page_retry_iff hpasses hepisode).mpr (fun _ => ?_) hever⟩
  have hleft : fileLeft (failingVisits false) = true := by decide +kernel
  rw [hvisits] at hleft
  simp only [fileLeft, Option.any_eq_true, Bool.and_eq_true, decide_eq_true_eq] at hleft
  obtain ⟨tried, htried, ⟨attempt, hattempt, houtcome⟩, file, hfile, hdisk⟩ := hleft
  exact ⟨tried, htried, .inr ⟨⟨attempt, hattempt, .inr houtcome⟩, file, hfile, hdisk⟩⟩

end ConstellationMonitor.Attention
