/-
  Attention/Passes.lean --- what a pass that was not refused has computed, condition by
  condition.

  `evaluate` is taken apart once, here.  The rest of the development works with the stages
  it names: the observations of a pass, the conditions after reconciling, the planning, the
  submissions and the final state.
-/
import ConstellationMonitor.Attention.Engine

namespace ConstellationMonitor.Attention

open Foundation
open Std (ExtTreeMap)

/-! ## The stages of a pass -/

/-- A pass that is not refused is the pass of the state it loaded. -/
theorem evaluate_eq_ok {input : PassInput} {disk : Disk} {pass : Pass} :
    input.evaluate disk = .ok pass ↔ ∃ state, State.load disk.state input.config.site = .ok state ∧
        state.updatedAt ≤ input.now ∧ pass = input.pass state disk.intents := by
  unfold PassInput.evaluate
  rw [except_bind_eq_ok]
  refine exists_congr fun state => and_congr_right fun _ => ?_
  rw [check_bind_eq_ok, refuseIf_eq_ok, decide_eq_false_iff_not, not_lt]
  refine and_congr_right fun _ => ?_
  exact ⟨fun h => (Except.ok.inj h).symm, fun h => congrArg Except.ok h.symm⟩

/-! ## Reconciling, by condition -/

variable {conditions : ExtTreeMap Text ConditionState} {id : Text}
  {observed : ExtTreeMap Text Observed} {config : Config} {item : Observed} {report : InputReport}

theorem mem_passIds : id ∈ passIds observed conditions ↔
      (observed[id]?).isSome ∨ (conditions[id]?).isSome := by
  simp [passIds]

theorem nodup_passIds (observed : ExtTreeMap Text Observed)
    (conditions : ExtTreeMap Text ConditionState) : (passIds observed conditions).Nodup := by
  refine (sortDedup_pairwise (observed.keys ++ conditions.keys)).imp fun {left right} h => ?_
  rintro rfl
  simp [Std.ReflOrd.compare_self] at h

/-- The condition a pass starts from: the saved one, or a fresh one for an observation. -/
def startOf (readout : Readout) (conditions : ExtTreeMap Text ConditionState) (id : Text) :
    Option ConditionState :=
  conditions[id]? <|> (readout.observed[id]?).map ConditionState.fresh

/-- Each condition, saved or observed, is reconciled once. -/
theorem mem_reconcileAll {now : Int} {readout : Readout} {result : Reconciled} :
    (id, result) ∈ reconcileAll config now readout conditions ↔
      ∃ condition, startOf readout conditions id = some condition ∧
        result = reconcile config now readout.reports (readout.observed[id]?) condition := by
  unfold reconcileAll
  simp only [List.mem_filterMap, Option.map_eq_some_iff, Prod.mk.injEq]
  constructor
  · rintro ⟨other, _, condition, hstart, rfl, rfl⟩
    exact ⟨condition, hstart, rfl⟩
  · rintro ⟨condition, hstart, rfl⟩
    refine ⟨id, mem_passIds.mpr ?_, condition, hstart, rfl, rfl⟩
    unfold startOf at hstart
    cases hsaved : conditions[id]? with
    | some saved => exact .inr rfl
    | none =>
      cases hitem : readout.observed[id]? with
      | some item => exact .inl rfl
      | none => simp [hsaved, hitem] at hstart

/-- The names of the picked values are distinct when those of all values are. -/
theorem nodup_map_filterMap {α β γ : Type} {values : List α} (source : α → γ) (pick : α → Option β)
    (name : β → γ) (hname : ∀ value picked, pick value = some picked → name picked = source value)
    (h : (values.map source).Nodup) : ((values.filterMap pick).map name).Nodup := by
  have hsublist : ((values.filterMap pick).map name).Sublist (values.map source) := by
    clear h
    induction values with
    | nil => simp
    | cons value rest ih =>
      rw [List.filterMap_cons]
      split
      · exact ih.cons _
      · rename_i picked hpicked
        rw [List.map_cons, List.map_cons, hname value picked hpicked]
        exact ih.cons_cons _
  exact hsublist.nodup h

theorem nodup_reconcileAll (config : Config) (now : Int) (readout : Readout)
    (conditions : ExtTreeMap Text ConditionState) :
    ((reconcileAll config now readout conditions).map Prod.fst).Nodup := by
  refine nodup_map_filterMap id _ Prod.fst (fun id picked hpicked => ?_) ?_
  · obtain ⟨condition, _, rfl⟩ := Option.map_eq_some_iff.mp hpicked
    rfl
  · rw [List.map_id]
    exact nodup_passIds _ _

theorem mem_reconciled {input : PassInput} {state : State} {result : Reconciled} :
    (id, result) ∈ input.reconciled state ↔
      ∃ condition, startOf (input.readout state) state.conditions id = some condition ∧
        result = reconcile input.config input.now (input.readout state).reports
          ((input.readout state).observed[id]?) condition :=
  mem_reconcileAll

/-! ## Observations, by condition -/

/-- An observation kept for a condition was made of it. -/
theorem gather_key {items : List Observed} (h : (gather items).observed[id]? = some item) :
    ∃ origin ∈ items, origin.key.id = id ∧ item.key = origin.key ∧
      item.inputLabel = origin.inputLabel := by
  let sourced := fun gathered : Gathered => ∀ id item, gathered.observed[id]? = some item →
    ∃ origin ∈ items, origin.key.id = id ∧ item.key = origin.key ∧
      item.inputLabel = origin.inputLabel
  refine List.foldlRecOn (motive := sourced) items Gathered.add (by simp [sourced])
    (fun gathered hall head hmem id item hfound => ?_) id item h
  unfold Gathered.add at hfound
  split at hfound
  · simp only [getElem?_insert_iff] at hfound
    split at hfound
    · rename_i hid
      cases hfound
      exact ⟨head, hmem, hid, rfl, rfl⟩
    · exact hall id item hfound
  · rename_i existing hexisting
    split at hfound
    · exact hall id item hfound
    · simp only [getElem?_insert_iff] at hfound
      split at hfound
      · rename_i hid
        cases hfound
        obtain ⟨origin, horigin, hkey, hsame⟩ := hall _ _ hexisting
        exact ⟨origin, horigin, hid ▸ hkey, hsame⟩
      · exact hall id item hfound

/-- The observations of the fault classes of one input are added to those there are. -/
theorem observeFault_getElem? {site : Text} {cause : FaultClass}
    (h : (observeFault site report observed cause)[id]? = some item) : observed[id]? = some item ∨
      ∃ key, faultKey site report cause = .ok key ∧ key.id = id ∧ item =
        { key, inputLabel := report.label, observation := faultObservation report cause } := by
  unfold observeFault at h
  split at h
  · exact .inl h
  · split at h
    · exact .inl h
    · rename_i key hkey
      rw [ExtTreeMap.getElem?_insertIfNew] at h
      split at h
      · rename_i hid
        cases h
        exact .inr ⟨key, hkey, by simpa using hid.1, rfl⟩
      · exact .inl h

/-- Every observation of a pass is an input's or that of a fault class of an input. -/
theorem readout_getElem? {read : InputsRead}
    (h : (readout config conditions read).observed[id]? = some item) :
    (gather read.observed).observed[id]? = some item ∨
      ∃ report ∈ (readout config conditions read).reports, ∃ cause key,
        faultKey config.site report cause = .ok key ∧ key.id = id ∧ item =
          { key, inputLabel := report.label, observation := faultObservation report cause } := by
  unfold readout at h
  simp only at h
  split at h
  · -- the fold over reports, and in each round the fold over the classes of its report
    let origin := fun observed : ExtTreeMap Text Observed => observed[id]? = some item →
      (gather read.observed).observed[id]? = some item ∨
        ∃ report ∈ (readout config conditions read).reports, ∃ cause key,
          faultKey config.site report cause = .ok key ∧ key.id = id ∧ item =
            { key, inputLabel := report.label, observation := faultObservation report cause }
    refine List.foldlRecOn (motive := origin) _ _ .inl (fun _ hall report hreport => ?_) h
    refine List.foldlRecOn (motive := origin) _ _ hall fun _ hall cause _ hfound => ?_
    rcases observeFault_getElem? hfound with hold | ⟨key, hfault⟩
    · exact hall hold
    · exact .inr ⟨report, hreport, cause, key, hfault⟩
  · exact .inl h

theorem faultKey_rule {site : Text} {cause : FaultClass} {key : ConditionKey}
    (h : faultKey site report cause = .ok key) : key.rule = inputUnavailable ∧ key.Plain := by
  refine ⟨?_, plain_of_new h⟩
  obtain ⟨_, _, _, _, rfl⟩ := (new_eq_ok _ _ _ _ _).mp h
  rfl

/-- An observation of a pass is filed under its own key, which is well formed. -/
theorem readout_key {readings : Source → Reading}
    (h : (readout config conditions (readAll config readings)).observed[id]? = some item) :
    item.key.id = id ∧ item.key.Plain := by
  rcases readout_getElem? h with hinput | ⟨_, _, _, key, hkey, hid, rfl⟩
  · obtain ⟨origin, horigin, hid, hkey, _⟩ := gather_key hinput
    obtain ⟨_, _, _, _, _, _, _, hnew⟩ := mem_readAll_observed horigin
    rw [hkey]
    exact ⟨hid, plain_of_new hnew⟩
  · exact ⟨hid, (faultKey_rule hkey).2⟩

end ConstellationMonitor.Attention
