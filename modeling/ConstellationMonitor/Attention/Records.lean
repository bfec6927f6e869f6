/-
  Attention/Records.lean --- what a pass does to the intent records of one condition, role
  by role.

  `RoleChange` says once what the planning can do to the slots of a role: plan an intent of
  a decision, follow up a retained one, or leave both slots alone.
-/
import ConstellationMonitor.Attention.Turns

namespace ConstellationMonitor.Attention

open Foundation
open Std (ExtTreeMap)

/-! ## Planning, role by role -/

/-- The decision a pass plans intents for. -/
inductive IsWork (id : Text) (result : Reconciled) : Work → Prop
  | decided {action : Action} {reason : ResolveReason}
      (htransition : result.transition = some (action, reason)) :
      IsWork id result ⟨id, action, reason, false⟩
  | held (htransition : result.transition = none) (hdue : result.pageDue = true) :
      IsWork id result ⟨id, .trigger, .recovered, true⟩

variable {id : Text} {result : Reconciled} {config : Config} {files : ExtTreeMap Text Intent}
  {now : Int} {written : List Written} {share : Share}

/-- A condition has one decision. -/
theorem IsWork.unique {left right : Work} (hleft : IsWork id result left)
    (hright : IsWork id result right) : left = right := by
  cases hleft with
  | decided htransition =>
    cases hright with
    | decided htransition' =>
      rw [htransition] at htransition'
      cases htransition'
      rfl
    | held hnone _ =>
      rw [htransition] at hnone
      cases hnone
  | held htransition hdue =>
    cases hright with
    | decided htransition' =>
      rw [htransition] at htransition'
      cases htransition'
    | held _ _ => rfl

/-- The pending trigger of a role after a new record took its slot. -/
def pendingAfter (previous pending : Option LastIntent) : Option LastIntent :=
  match previous with
  | none => pending
  | some previous =>
    if previous.action = .trigger ∧ previous.notificationId = none then some previous
    else pending

/-- What the planning of a pass does to one role of a condition. -/
inductive RoleChange (config : Config) (now : Int) (files : ExtTreeMap Text Intent)
    (written : List Written) (id : Text) (result : Reconciled) (share : Share) (role : Role) :
    Prop
  /-- an intent of the decision is planned -/
  | planned {work : Work} {rule : EffectiveRule} {route : Text} (hwork : IsWork id result work)
      (hrule : ruleFor config.effectiveRules result.condition.key.rule = some rule)
      (hroute : (role, route) ∈ workRoles config rule result.condition work)
      (hlast : share.condition.lastIntent.get role =
        some (workRecord config now result.condition work role route))
      (hpending : share.condition.pendingTrigger.get role =
        pendingAfter (result.condition.lastIntent.get role)
          (result.condition.pendingTrigger.get role))
      (hplan : ∀ item, item ∈ share.plan ∧ item.role = role ↔
        item = ⟨id, role, work.action, .submit, none⟩)
      (hwritten : ∀ item, item ∈ share.written ∧ item.role = role ↔
        item = ⟨id, role, workIntent config rule now result.condition work role route⟩)
  /-- the retained intent is followed up -/
  | followed {last : LastIntent} {next : FollowedUp} {before : List Written}
      (htransition : result.transition = none) (hdue : result.pageDue = false)
      (hretained : result.condition.lastIntent.get role = some last)
      (hbefore : ∀ item ∈ before, item ∈ written)
      (hnext : followUpRole config now (writeAll files before) result.condition role last =
        some next)
      (hlast : share.condition.lastIntent.get role = some next.last)
      (hpending : share.condition.pendingTrigger.get role =
        result.condition.pendingTrigger.get role)
      (hplan : ∀ item, item ∈ share.plan ∧ item.role = role ↔
        item = ⟨id, role, next.last.action, next.operation, next.retryOf⟩)
      (hwritten : ∀ item, item ∈ share.written ∧ item.role = role ↔
        ∃ intent, next.written = some intent ∧ item = ⟨id, role, intent⟩)
  /-- nothing is planned -/
  | kept (hunrouted : ∀ work rule route, IsWork id result work →
        ruleFor config.effectiveRules result.condition.key.rule = some rule →
        (role, route) ∉ workRoles config rule result.condition work)
      (hunfollowed : result.transition = none → result.pageDue = false →
        ∃ before : List Written, (∀ item ∈ before, item ∈ written) ∧
          ∀ last, result.condition.lastIntent.get role = some last →
            followUpRole config now (writeAll files before) result.condition role last = none)
      (hlast : share.condition.lastIntent.get role = result.condition.lastIntent.get role)
      (hpending : share.condition.pendingTrigger.get role =
        result.condition.pendingTrigger.get role)
      (hplan : ∀ item ∈ share.plan, item.role ≠ role)
      (hwritten : ∀ item ∈ share.written, item.role ≠ role)

theorem record_get (condition : ConditionState) (role other : Role) (last : LastIntent) :
    (condition.record role last).lastIntent.get other =
        (if role = other then some last else condition.lastIntent.get other) ∧
      (condition.record role last).pendingTrigger.get other = if role = other then
          pendingAfter (condition.lastIntent.get role) (condition.pendingTrigger.get role)
        else condition.pendingTrigger.get other := by
  unfold ConditionState.record
  dsimp only
  split
  · rename_i hprevious
    refine ⟨Slots.get_set _ _ _ _, ?_⟩
    simp only [hprevious, pendingAfter]
    split
    · rename_i hrole
      rw [hrole]
    · rfl
  · rename_i previous hprevious
    simp only [hprevious, pendingAfter]
    by_cases hretained : previous.action = .trigger ∧ previous.notificationId = none
    · rw [if_pos hretained, if_pos hretained]
      exact ⟨Slots.get_set _ _ _ _, Slots.get_set _ _ _ _⟩
    · rw [if_neg hretained, if_neg hretained]
      refine ⟨Slots.get_set _ _ _ _, ?_⟩
      split
      · rename_i hrole
        rw [hrole]
      · rfl

/-- Records for distinct roles take their slots independently. -/
theorem record_foldl (record : Role → Text → LastIntent) (roles : List (Role × Text))
    (hnodup : (roles.map Prod.fst).Nodup) (condition : ConditionState) (role : Role) :
    let next := roles.foldl
      (fun next entry => next.record entry.1 (record entry.1 entry.2)) condition
    (∀ route, (role, route) ∈ roles → next.lastIntent.get role = some (record role route) ∧
      next.pendingTrigger.get role =
        pendingAfter (condition.lastIntent.get role) (condition.pendingTrigger.get role)) ∧
      ((∀ route, (role, route) ∉ roles) →
        next.lastIntent.get role = condition.lastIntent.get role ∧
          next.pendingTrigger.get role = condition.pendingTrigger.get role) := by
  induction roles generalizing condition with
  | nil => simp
  | cons entry rest ih =>
    obtain ⟨other, otherRoute⟩ := entry
    obtain ⟨hhead, hrest⟩ := List.nodup_cons.mp hnodup
    obtain ⟨hlast, hpending⟩ := record_get condition other role (record other otherRoute)
    obtain ⟨hin, hout⟩ := ih hrest (condition.record other (record other otherRoute))
    constructor
    · intro route hroute
      rcases List.mem_cons.mp hroute with hsame | hroute
      · obtain ⟨rfl, rfl⟩ := Prod.mk.inj hsame
        have hnone : ∀ route', (role, route') ∉ rest := fun route' hmem =>
          hhead (List.mem_map.mpr ⟨_, hmem, rfl⟩)
        obtain ⟨hlast', hpending'⟩ := hout hnone
        rw [if_pos rfl] at hlast hpending
        exact ⟨hlast'.trans hlast, hpending'.trans hpending⟩
      · have hne : other ≠ role := by
          rintro rfl
          exact hhead (List.mem_map.mpr ⟨_, hroute, rfl⟩)
        obtain ⟨hlast', hpending'⟩ := hin route hroute
        rw [if_neg hne] at hlast hpending
        rw [hlast, hpending] at hpending'
        exact ⟨hlast', hpending'⟩
    · intro hnone
      have hne : other ≠ role := by
        rintro rfl
        exact hnone otherRoute (by simp)
      obtain ⟨hlast', hpending'⟩ := hout fun route hmem => hnone route (by simp [hmem])
      rw [if_neg hne] at hlast hpending
      exact ⟨hlast'.trans hlast, hpending'.trans hpending⟩

theorem entries_roles_nodup (slots : Slots) :
    ((slots.entries.map fun entry => (entry.1, entry.2.route)).map Prod.fst).Nodup := by
  unfold Slots.entries
  cases slots.notice <;> cases slots.page <;> simp

/-- A decision goes to a role at most once. -/
theorem workRoles_nodup (config : Config) (rule : EffectiveRule) (condition : ConditionState)
    (work : Work) : ((workRoles config rule condition work).map Prod.fst).Nodup := by
  unfold workRoles
  cases work.action with
  | trigger =>
    dsimp only
    cases config.routes.pageRoute <;> split <;> (try split) <;> simp
  | resolve =>
    dsimp only
    split
    · simp
    · exact entries_roles_nodup condition.lastIntent

/-- The planning of a decision, role by role. -/
theorem planWork_role {work : Work} {rule : EffectiveRule} (hwork : IsWork id result work)
    (hrule : ruleFor config.effectiveRules result.condition.key.rule = some rule) (role : Role) :
    RoleChange config now files written id result
      (planWork config rule now work result.condition) role := by
  have hid : work.conditionId = id := by cases hwork <;> rfl
  have hroles := workRoles_nodup config rule result.condition work
  have hunique : ∀ {route route'}, (role, route) ∈ workRoles config rule result.condition work →
      (role, route') ∈ workRoles config rule result.condition work → route = route' :=
    fun hleft hright => congrArg Prod.snd (List.inj_on_of_nodup_map hroles hleft hright rfl)
  obtain ⟨hin, hout⟩ := record_foldl (workRecord config now result.condition work)
    (workRoles config rule result.condition work) hroles result.condition role
  by_cases hroute : ∃ route, (role, route) ∈ workRoles config rule result.condition work
  · obtain ⟨route, hroute⟩ := hroute
    obtain ⟨hlast, hpending⟩ := hin route hroute
    refine .planned hwork hrule hroute hlast hpending (fun item => ?_) fun item => ?_
    · simp only [planWork, List.mem_map, hid]
      constructor
      · rintro ⟨⟨entry, _, rfl⟩, rfl⟩
        rfl
      · rintro rfl
        exact ⟨⟨(role, route), hroute, rfl⟩, rfl⟩
    · simp only [planWork, List.mem_map, hid]
      constructor
      · rintro ⟨⟨⟨other, otherRoute⟩, hother, rfl⟩, rfl⟩
        rw [hunique hother hroute]
      · rintro rfl
        exact ⟨⟨(role, route), hroute, rfl⟩, rfl⟩
  · have hnone : ∀ route, (role, route) ∉ workRoles config rule result.condition work :=
      fun route hmem => hroute ⟨route, hmem⟩
    obtain ⟨hlast, hpending⟩ := hout hnone
    refine .kept ?_ (fun htransition hdue => ?_) hlast hpending (fun item hitem hsame => ?_)
      fun item hitem hsame => ?_
    · intro other otherRule route hother hotherRule
      rw [hrule] at hotherRule
      cases hotherRule
      rw [hother.unique hwork]
      exact hnone route
    · cases hwork with
      | decided hsome =>
        rw [htransition] at hsome
        cases hsome
      | held _ hheld =>
        rw [hdue] at hheld
        cases hheld
    · obtain ⟨⟨other, route⟩, hmem, rfl⟩ := List.mem_map.mp hitem
      exact hnone route (hsame ▸ hmem)
    · obtain ⟨⟨other, route⟩, hmem, rfl⟩ := List.mem_map.mp hitem
      exact hnone route (hsame ▸ hmem)

/-- What the follow-up of one role adds to a condition's share. -/
def Share.follow (share : Share) (id : Text) (role : Role) : Option FollowedUp → Share
  | none => share
  | some next =>
    { condition := { share.condition with
        lastIntent := share.condition.lastIntent.set role (some next.last) }
      written := share.written ++ next.written.toList.map fun intent => ⟨id, role, intent⟩
      plan := share.plan ++ [⟨id, role, next.last.action, next.operation, next.retryOf⟩] }

theorem planFollowUps_eq (config : Config) (now : Int) (id : Text)
    (files : ExtTreeMap Text Intent) (condition : ConditionState) :
    ∃ notice page : Option FollowedUp, ∃ between : List Written,
      notice = (condition.lastIntent.get .notice).bind
        (followUpRole config now files condition .notice) ∧
      page = (condition.lastIntent.get .page).bind
        (followUpRole config now (writeAll files between) condition .page) ∧
      (between = ((notice.bind FollowedUp.written).toList.map
        fun intent => (⟨id, .notice, intent⟩ : Written))) ∧
      planFollowUps config now id files condition =
        ((⟨condition, [], []⟩ : Share).follow id .notice notice).follow id .page page := by
  refine ⟨_, _, _, rfl, rfl, rfl, ?_⟩
  unfold planFollowUps
  cases hnotice : (condition.lastIntent.get .notice).bind
      (followUpRole config now files condition .notice) with
  | none =>
    simp only [followUpsFrom, hnotice, Option.bind_none, Option.toList_none, List.map_nil,
      writeAll_nil]
    cases (condition.lastIntent.get .page).bind
      (followUpRole config now files condition .page) <;> rfl
  | some next =>
    simp only [followUpsFrom, hnotice, Option.bind_some, writeAll]
    split <;> rename_i hpage <;> rw [hpage] <;> rfl

/-- One role's follow-up in a share that had nothing for it. -/
theorem follow_role {before : List Written} {role : Role} (htransition : result.transition = none)
    (hdue : result.pageDue = false) (hbefore : ∀ item ∈ before, item ∈ written)
    {followed : Option FollowedUp}
    (hfollowed : followed = (result.condition.lastIntent.get role).bind
      (followUpRole config now (writeAll files before) result.condition role))
    (hlast : share.condition.lastIntent.get role = result.condition.lastIntent.get role)
    (hpending : share.condition.pendingTrigger.get role = result.condition.pendingTrigger.get role)
    (hplan : ∀ item ∈ share.plan, item.role ≠ role)
    (hwritten : ∀ item ∈ share.written, item.role ≠ role) :
    RoleChange config now files written id result (share.follow id role followed) role := by
  cases followed with
  | none =>
    refine .kept (fun work rule route hwork => ?_) (fun _ _ => ⟨before, hbefore, ?_⟩) hlast
      hpending hplan hwritten
    · cases hwork with
      | decided hsome => rw [htransition] at hsome; cases hsome
      | held _ hpage => rw [hdue] at hpage; cases hpage
    · intro last hretained
      rw [hretained, Option.bind_some] at hfollowed
      exact hfollowed.symm
  | some next =>
    obtain ⟨last, hretained, hnext⟩ := Option.bind_eq_some_iff.mp hfollowed.symm
    refine .followed htransition hdue hretained hbefore hnext (by simp [Share.follow]) hpending
      (fun item => ?_) fun item => ?_
    · simp only [Share.follow, List.mem_append, List.mem_singleton]
      constructor
      · rintro ⟨hold | rfl, hrole⟩
        · exact absurd hrole (hplan item hold)
        · rfl
      · rintro rfl
        exact ⟨.inr rfl, rfl⟩
    · simp only [Share.follow, List.mem_append, List.mem_map, Option.mem_toList]
      constructor
      · rintro ⟨hold | ⟨intent, hintent, rfl⟩, hrole⟩
        · exact absurd hrole (hwritten item hold)
        · exact ⟨intent, hintent, rfl⟩
      · rintro ⟨intent, hintent, rfl⟩
        exact ⟨.inr ⟨intent, hintent, rfl⟩, rfl⟩

/-- The follow-up of the other role changes nothing for a role. -/
theorem RoleChange.follow_other {role other : Role}
    (h : RoleChange config now files written id result share role) (hne : other ≠ role)
    (followed : Option FollowedUp) :
    RoleChange config now files written id result (share.follow id other followed) role := by
  cases followed with
  | none => exact h
  | some next =>
    have hget : (share.follow id other (some next)).condition.lastIntent.get role =
        share.condition.lastIntent.get role := Slots.get_set_ne _ _ hne
    have hplan' : ∀ item, item ∈ (share.follow id other (some next)).plan ∧ item.role = role ↔
        item ∈ share.plan ∧ item.role = role := by
      intro item
      simp only [Share.follow, List.mem_append, List.mem_singleton]
      constructor
      · rintro ⟨hold | rfl, hrole⟩
        · exact ⟨hold, hrole⟩
        · exact absurd hrole hne
      · exact fun ⟨hold, hrole⟩ => ⟨.inl hold, hrole⟩
    have hwritten' : ∀ item, item ∈ (share.follow id other (some next)).written ∧
        item.role = role ↔ item ∈ share.written ∧ item.role = role := by
      intro item
      simp only [Share.follow, List.mem_append, List.mem_map, Option.mem_toList]
      constructor
      · rintro ⟨hold | ⟨intent, _, rfl⟩, hrole⟩
        · exact ⟨hold, hrole⟩
        · exact absurd hrole hne
      · exact fun ⟨hold, hrole⟩ => ⟨.inl hold, hrole⟩
    cases h with
    | planned hwork hrule hroute hlast hpending hplan hwritten =>
      exact .planned hwork hrule hroute (hget.trans hlast) hpending
        (fun item => (hplan' item).trans (hplan item))
        fun item => (hwritten' item).trans (hwritten item)
    | followed htransition hdue hretained hbefore hnext hlast hpending hplan hwritten =>
      exact .followed htransition hdue hretained hbefore hnext (hget.trans hlast) hpending
        (fun item => (hplan' item).trans (hplan item))
        fun item => (hwritten' item).trans (hwritten item)
    | kept hunrouted hunfollowed hlast hpending hplan hwritten =>
      exact .kept hunrouted hunfollowed (hget.trans hlast) hpending
        (fun item hitem hrole => hplan item ((hplan' item).mp ⟨hitem, hrole⟩).1 hrole)
        fun item hitem hrole => hwritten item ((hwritten' item).mp ⟨hitem, hrole⟩).1 hrole

/-- What the planning of a pass does to each role of a condition. -/
theorem PlansFor.role (h : PlansFor config now files written id result share)
    (hshare : ∀ item ∈ share.written, item ∈ written) (role : Role) :
    RoleChange config now files written id result share role := by
  cases h with
  | decided htransition hrule => exact planWork_role (.decided htransition) hrule role
  | held htransition hdue hrule => exact planWork_role (.held htransition hdue) hrule role
  | unruled hwork hrule =>
    refine .kept (fun work rule route _ hsome => ?_) (fun htransition hdue => ?_) rfl rfl
      (by simp) (by simp)
    · rw [hrule] at hsome
      cases hsome
    · rcases hwork with hsome | hheld
      · rw [htransition] at hsome
        cases hsome
      · rw [hdue] at hheld
        cases hheld
  | followed htransition hdue hbefore =>
    rename_i before
    obtain ⟨notice, page, between, hnotice, hpage, hbetween, hplanned⟩ :=
      planFollowUps_eq config now id (writeAll files before) result.condition
    rw [hplanned] at hshare ⊢
    cases role with
    | notice =>
      exact (follow_role htransition hdue hbefore hnotice rfl rfl (by simp)
        (by simp)).follow_other (by decide) page
    | page =>
      rw [← writeAll_append] at hpage
      have hbetweenWritten : ∀ item ∈ between, item ∈ written := by
        intro item hitem
        refine hshare item ?_
        have hnoticeWritten : item ∈ ((⟨result.condition, [], []⟩ : Share).follow id .notice
            notice).written := by
          rw [hbetween] at hitem
          cases notice with
          | none => simp at hitem
          | some next => simpa [Share.follow] using hitem
        cases page with
        | none => exact hnoticeWritten
        | some next => exact List.mem_append_left _ hnoticeWritten
      have hall : ∀ item ∈ before ++ between, item ∈ written := by
        intro item hitem
        rcases List.mem_append.mp hitem with hitem | hitem
        · exact hbefore item hitem
        · exact hbetweenWritten item hitem
      refine follow_role htransition hdue hall hpage ?_ ?_ ?_ ?_
      · cases notice with
        | none => rfl
        | some next => exact Slots.get_set_ne _ _ (show Role.notice ≠ Role.page by decide)
      · cases notice <;> rfl
      · cases notice <;> simp [Share.follow]
      · cases notice <;> simp [Share.follow]

end ConstellationMonitor.Attention
