/-
  Runs as one consumer sees them.

  Whatever the runtime does either happens elsewhere, as far as a consumer is concerned,
  or visits, registers, reinstates or loses it.  An invariant about one consumer is kept
  when each of these keeps it.
-/
import ConstellationMonitor.Runtime.Reference

namespace ConstellationMonitor.Runtime

open Foundation Foundation.Program ConstellationMonitor.Types Evaluation
open Relation (ReflTransGen)

/-! ## Trails -/

/-- A property of every moment of a trail, given the moments before it. -/
def Throughout (property : Moment → List Moment → Prop) : List Moment → Prop
  | [] => True
  | moment :: older => property moment older ∧ Throughout property older

instance decidableThroughout {property : Moment → List Moment → Prop}
    [decide : ∀ moment older, Decidable (property moment older)] :
    (trail : List Moment) → Decidable (Throughout property trail)
  | [] => isTrue trivial
  | moment :: older => @instDecidableAnd _ _ (decide moment older) (decidableThroughout older)

variable {other property : Moment → List Moment → Prop} {trail : List Moment} {before : Board}
  {host : Host}

theorem Throughout.congr
    (h : Throughout (fun moment older => property moment older ↔ other moment older) trail) :
    Throughout property trail ↔ Throughout other trail := by
  induction trail with
  | nil => exact Iff.rfl
  | cons moment older ih => exact and_congr h.1 (ih h.2)

theorem Throughout.imp (himp : ∀ moment older, property moment older → other moment older)
    (h : Throughout property trail) : Throughout other trail := by
  induction trail with
  | nil => trivial
  | cons moment older ih => exact ⟨himp moment older h.1, ih h.2⟩

theorem Throughout.and (left : Throughout property trail) (right : Throughout other trail) :
    Throughout (fun moment older => property moment older ∧ other moment older) trail := by
  induction trail with
  | nil => trivial
  | cons moment older ih => exact ⟨⟨left.1, right.1⟩, ih left.2 right.2⟩

theorem throughout_forall {ι : Type} {property : ι → Moment → List Moment → Prop}
    (h : ∀ index, Throughout (property index) trail) :
    Throughout (fun moment older => ∀ index, property index moment older) trail := by
  induction trail with
  | nil => trivial
  | cons moment older ih => exact ⟨fun index => (h index).1, ih fun index => (h index).2⟩

/-- The moment is the registration of a consumer, or a visit to it. -/
def Moment.About (key : ConsumerKey) : Moment → Prop
  | .registered _ registration => policyKey registration.policy = key
  | .visit _ request => request.key = key
  | _ => False

/-! ## One consumer -/

/-- Something happened that does not concern a consumer.  Only the slot of a key without
a consumer may have changed. -/
structure Elsewhere (key : ConsumerKey) (before after : Board) : Prop where
  consumer : after.consumers[key]? = before.consumers[key]?
  slot : before.consumers[key]? = none ∨
    after.qualifiedBindings[key]? = before.qualifiedBindings[key]?
  trail : after.trail = before.trail ∨
    ∃ moment, after.trail = moment :: before.trail ∧ ¬ moment.About key

/-- What the runtime does, as one consumer sees it. -/
inductive Seen (host : Host) (key : ConsumerKey) : Board → Board → Prop where
  | elsewhere {before after : Board} (elsewhere : Elsewhere key before after) :
      Seen host key before after
  | visited {before after : Board} (visit : Visit) (own : visit.key = key)
      (visited : Visited host visit before after) : Seen host key before after
  | enrolled {before : Board} (registration : ConsumerRegistrationV1) (evaluator : Evaluator)
      (own : policyKey registration.policy = key)
      (absent : before.consumers[key]? = none)
      (unexhausted : before.historyExhausted = false)
      (made : before.newEvaluator registration = .ok evaluator) :
      Seen host key before (before.enrolled registration evaluator)
  | reinstated {before : Board} (state : ConsumerState) (records : List ContradictionRecordV1)
      (evaluator : Evaluator) (found : before.consumers[key]? = some state)
      (made : state.evaluator.importContradictions records = .ok evaluator) :
      Seen host key before
        { before with
          consumers := before.consumers.insert key { state with evaluator := evaluator } }
  | lost {before after : Board} (visit : Visit) (own : visit.key = key)
      (lost : Loss host visit before after) : Seen host key before after

namespace Seen

variable {host : Host} {key : ConsumerKey} {before after : Board}

/-- Consumer, slot and trail are as before. -/
theorem of_same (consumers : after.consumers = before.consumers)
    (slots : after.qualifiedBindings = before.qualifiedBindings)
    (trail : after.trail = before.trail) : Seen host key before after :=
  .elsewhere ⟨by rw [consumers], .inr (by rw [slots]), .inl trail⟩

theorem of_visited (visit : Visit) (visited : Visited host visit before after) :
    Seen host key before after := by
  by_cases own : visit.key = key
  · exact .visited visit own visited
  · exact .elsewhere ⟨visited.others_start (Ne.symm own),
      .inr (visited.qualifiedBindings_start (Ne.symm own)),
      .inr ⟨_, visited.trail_start, own⟩⟩

theorem of_calm (calm : Calm host before after) : Seen host key before after := by
  cases calm with
  | noted noted =>
    obtain ⟨full, rfl⟩ := noted
    exact .of_same rfl rfl rfl
  | @beside _ other absent aside =>
    refine .elsewhere ⟨by rw [aside.consumers], ?_, .inl aside.trail⟩
    by_cases hkey : key = other
    · exact .inl (hkey ▸ absent)
    · exact .inr (aside.qualifiedBindings key hkey)
  | released schedule stale => exact .of_same rfl rfl rfl
  | surveyed subjects same => exact .of_same rfl rfl rfl
  | visited visit visited => exact .of_visited visit visited
  | enrolled registration evaluator absent unexhausted made =>
    by_cases own : policyKey registration.policy = key
    · exact .enrolled registration evaluator own (own ▸ absent) unexhausted made
    · refine .elsewhere ⟨?_, .inr rfl, .inr ⟨_, rfl, own⟩⟩
      simp [Board.enrolled, getElem?_insert_iff, own]
  | reinstated other state records evaluator found made =>
    by_cases own : other = key
    · subst own
      exact .reinstated state records evaluator found made
    · refine .elsewhere ⟨?_, .inr rfl, .inl rfl⟩
      simp [getElem?_insert_iff, own]

theorem of_step (step : Step host before after) : ReflTransGen (Seen host key) before after := by
  cases step with
  | calm calm => exact .single (.of_calm calm)
  | pulsed delivery due fits =>
    exact .single (.elsewhere ⟨rfl, .inr rfl, .inr ⟨_, rfl, not_false⟩⟩)
  | annotated receiver => exact .single (.of_same rfl rfl rfl)
  | replaced subject replacement receiver =>
    exact .single (.elsewhere ⟨rfl, .inr rfl, .inr ⟨_, rfl, not_false⟩⟩)
  | latched exhausted visits all =>
    have hflag : Seen host key before { before with historyBlindnessLatched := true } :=
      .of_same rfl rfl rfl
    refine .head hflag (ReflTransGen.mono ?_ _ _ visits)
    rintro first last ⟨visit, ⟨visited⟩⟩
    exact .of_visited visit visited

theorem of_turn (turn : Turn (Step host) before after) :
    ReflTransGen (Seen host key) before after := by
  cases turn with
  | step stepped => exact of_step stepped
  | queued pending input timely next => exact .single (.of_same rfl rfl rfl)
  | taken pending input found due first =>
    exact .single (.elsewhere ⟨rfl, .inr rfl, .inr ⟨_, rfl, not_false⟩⟩)
  | ticked now later => exact .single (.of_same rfl rfl rfl)
  | advanced now later => exact .single (.of_same rfl rfl rfl)

theorem of_loss (loses : Loses host before after) : Seen host key before after := by
  obtain ⟨visit, ⟨lost⟩⟩ := loses
  by_cases own : visit.key = key
  · exact .lost visit own lost
  · have hconsumers : after.consumers = before.consumers.erase visit.key := by
      rw [lost.rest.consumers, ← lost.lead.consumers]
      rfl
    have hslot := (lost.rest.qualifiedBindings key (Ne.symm own)).trans
      (lost.lead.qualifiedBindings key (Ne.symm own))
    refine .elsewhere ⟨?_, .inr hslot, .inr ⟨.visit lost.before.toRuntimeCore visit, ?_, own⟩⟩
    · simp [hconsumers, getElem?_erase_iff, own]
    · rw [lost.rest.trail, ← lost.lead.trail]
      rfl

end Seen

/-- A consumer that was lost is gone. -/
theorem Loss.gone {visit : Visit} {after : Board} (lost : Loss host visit before after) :
    after.consumers[visit.key]? = none := by
  rw [lost.rest.consumers]
  simp [Board.takenOut]

theorem Loss.trail_start {visit : Visit} {after : Board} (lost : Loss host visit before after) :
    after.trail = .visit lost.before.toRuntimeCore visit :: before.trail := by
  rw [lost.rest.trail, ← lost.lead.trail]
  rfl

/-- What a visit leaves behind of its consumer: the state that was put back, but for the
certificate, or nothing. -/
theorem Visited.left {visit : Visit} {after : Board} (visited : Visited host visit before after) :
    after.consumers[visit.key]? = none ∨ ∃ certificate, after.consumers[visit.key]? =
        some { visited.updated with certificate := certificate } := by
  cases visited.outcome with
  | withheld stored clear => exact .inr ⟨_, stored⟩
  | issued ground binding same valid stored scheduled bound => exact .inr ⟨_, stored⟩
  | unmeasured error current refused gone clear => exact .inl gone
  | invalid ground binding error same refused gone clear => exact .inl gone

/-- An invariant one consumer sees kept holds in every reachable state. -/
theorem reachable_seen (key : ConsumerKey) {invariant : Board → Prop} {cycle : Cycle}
    (fresh : ∀ board, Fresh board → invariant board)
    (seen : ∀ before after, Seen host key before after → invariant before → invariant after)
    (reachable : Reachable host cycle) : invariant cycle.board :=
  reachable_induction handles_step fresh
    (fun _ _ turn => keeps_along seen (Seen.of_turn turn))
    (fun before after loses => seen before after (Seen.of_loss loses)) reachable

/-! ## Evaluators and their sight -/

/-- The consumer's evaluator is one that its own operations lead to. -/
def Operated (host : Host) (key : ConsumerKey) (board : Board) : Prop :=
  ∀ state, board.consumers[key]? = some state → Reached host.toPlatform state.evaluator

theorem seen_operated {key : ConsumerKey} (before after : Board) (seen : Seen host key before after)
    (operated : Operated host key before) : Operated host key after := by
  intro state hfound
  cases seen with
  | elsewhere elsewhere => exact operated state (elsewhere.consumer ▸ hfound)
  | visited visit own visited =>
    subst own
    rcases visited.left with hgone | ⟨certificate, hleft⟩
    · simp [hgone] at hfound
    · obtain rfl := Option.some.inj (hleft.symm.trans hfound)
      show Reached _ visited.updated.evaluator
      rw [visited.updated_evaluator]
      refine @Reached.step _ (.call visit.call visit.atMs) _ _ (some visited.evaluation)
        (operated visited.state visited.found_start) ?_
      rw [EvaluatorOperation.run, visited.performed]
      rfl
  | enrolled registration evaluator own absent unexhausted made =>
    obtain rfl : initialState registration evaluator = state := by
      simpa [Board.enrolled, own] using hfound
    exact .new made
  | reinstated earlier records evaluator found made =>
    obtain rfl : { earlier with evaluator := evaluator } = state := by simpa using hfound
    refine foldlM_keeps_ok _ (fun first record next hround hfirst => ?_) made (operated _ found)
    refine @Reached.step _ (.reinstate record) _ _ none hfirst ?_
    rw [EvaluatorOperation.run, hround]
    rfl
  | lost visit own lost => simp [← own, lost.gone] at hfound

/-- In every reachable runtime, after failed calls too, each consumer's evaluator is one that
its own operations lead to: what holds of every run of an evaluator holds in the runtime. -/
theorem evaluators_reached {cycle : Cycle} (reachable : Reachable host cycle)
    (key : ConsumerKey) : Operated host key cycle.board :=
  reachable_seen key (fun _ fresh state hfound => by simp [fresh.consumers] at hfound)
    seen_operated reachable

theorem evaluators_reached_current :
    Operated Reference.host Reference.display Reference.current.board :=
  evaluators_reached Reference.reachableOk_current.reachable _

/-- What a moment says of a consumer's monitor: it sees after a registration or a restoration,
and is blind after an input drop. -/
def Moment.sight (key : ConsumerKey) : Moment → Option Bool
  | .registered _ registration => if policyKey registration.policy = key then some true else none
  | .visit _ request =>
    if request.key = key then
      match request.call with
      | .restore _ => some true
      | .inputDrop _ _ => some false
      | _ => none
    else none
  | _ => none

/-- A consumer that was last said to be blind is latched. -/
def Latching (key : ConsumerKey) (board : Board) : Prop :=
  board.trail.findSome? (Moment.sight key) = some false →
    ∀ state, board.consumers[key]? = some state → state.Latched

theorem Visited.latching {visit : Visit} {after : Board} (visited : Visited host visit before after)
    (latching : Latching visit.key before) : Latching visit.key after := by
  intro hblind state hfound
  -- The evaluator is blind before it evaluates: the call blinds it, or leaves it blind.
  have hprepared :
      (visited.state.evaluator.prepare host.toPlatform visit.call visit.atMs).Blind := by
    rw [visited.trail_start, List.findSome?_cons, Moment.sight, if_pos rfl] at hblind
    split at hblind
    · cases hcall : visit.call <;> simp_all [Evaluator.blind_prepare_inputDrop]
    · rename_i hnone
      refine Evaluator.blind_prepare _ _ _ (fun detail hcall => ?_)
        (latching hblind _ visited.found_start).blind
      simp [hcall] at hnone
  have hafter := Evaluator.perform_blind visited.performed hprepared
  obtain ⟨heq, hwithdrawn⟩ := (visited.withdraws hafter.2).1 state hfound
  exact ⟨heq ▸ hafter.1, hwithdrawn⟩

theorem seen_latching {key : ConsumerKey} (before after : Board) (seen : Seen host key before after)
    (latching : Latching key before) : Latching key after := by
  cases seen with
  | elsewhere elsewhere =>
    rw [Latching, elsewhere.consumer]
    rcases elsewhere.trail with hsame | ⟨moment, hadded, habout⟩
    · exact hsame ▸ latching
    · have hsilent : moment.sight key = none := by
        cases moment <;> simp_all [Moment.sight, Moment.About]
      rw [hadded, List.findSome?_cons_of_isNone (by simp [hsilent])]
      exact latching
  | visited visit own visited => exact own ▸ visited.latching (own ▸ latching)
  | enrolled registration evaluator own absent unexhausted made =>
    intro hblind
    simp [Board.enrolled, Moment.sight, own] at hblind
  | reinstated earlier records evaluator found made =>
    intro hblind state hfound
    obtain rfl : { earlier with evaluator := evaluator } = state := by simpa using hfound
    obtain ⟨contradictions, rfl⟩ := Evaluator.importContradictions_eq_ok made
    exact ⟨(latching hblind earlier found).blind, (latching hblind earlier found).withdrawn⟩
  | lost visit own lost =>
    intro _ state hfound
    simp [← own, lost.gone] at hfound

/-- Blindness latches: in every reachable state, after failed calls too, a consumer whose monitor
was blinded and not restored since is blind and has no CURRENT certificate. -/
theorem blind_until_restored {cycle : Cycle} (reachable : Reachable host cycle)
    (key : ConsumerKey) : Latching key cycle.board :=
  reachable_seen key (fun _ fresh hblind => by simp [fresh.trail] at hblind) seen_latching reachable

theorem blind_until_restored_declared : ∃ cycle : Cycle,
    cycle.trail.findSome? (Moment.sight Reference.display) = some false ∧
      Latching Reference.display cycle.board := by
  obtain ⟨cycle, hreachable, hblind⟩ := exists_reachable Reference.host Reference.config
    (Reference.opening ++ [.declareExternalMonitorBlindness 1 "transport" "link down"])
    (fun cycle => cycle.trail.findSome? (Moment.sight Reference.display) = some false)
    (by decide +kernel)
  exact ⟨cycle, of_decide_eq_true hblind, blind_until_restored hreachable _⟩

end ConstellationMonitor.Runtime
