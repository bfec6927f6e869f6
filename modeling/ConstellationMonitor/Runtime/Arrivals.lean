/-
  Arrivals: when an evaluator takes a pulse for a regression of the receiver's clock.

  The queue is served in the order of its times and a local pulse arrives at its own time,
  so local pulses never go backwards.  A remote pulse arrives when custody says it did,
  which may be before a pulse that was served earlier.
-/
import ConstellationMonitor.Runtime.PerConsumer

namespace ConstellationMonitor.Runtime

open Foundation Foundation.Program ConstellationMonitor.Types Evaluation
open Std (ExtTreeMap)

/-! ## The high-water mark -/

/-- The arrivals a consumer's evaluator was given since the consumer was registered, newest
first. -/
def arrivalsSince (key : ConsumerKey) : List Moment → List Nat
  | [] => []
  | .registered _ registration :: older =>
    if policyKey registration.policy = key then [] else arrivalsSince key older
  | .visit _ visit :: older =>
    match visit.call with
    | .ingest received =>
      if visit.key = key then
        received.receiver.arrivalMonotonicMs :: arrivalsSince key older
      else arrivalsSince key older
    | _ => arrivalsSince key older
  | _ :: older => arrivalsSince key older

section ArrivalsSince

variable {key : ConsumerKey} {older : List Moment}

theorem arrivalsSince_elsewhere {moment : Moment} (h : ¬ moment.About key) :
    arrivalsSince key (moment :: older) = arrivalsSince key older := by
  cases moment with
  | registered core registration =>
    have hkey : ¬ policyKey registration.policy = key := h
    simp [arrivalsSince, hkey]
  | taken core pending input => rfl
  | pulse core delivery => rfl
  | replaced core subject replacement => rfl
  | visit core visit =>
    have hkey : ¬ visit.key = key := h
    cases hcall : visit.call <;> simp [arrivalsSince, hcall, hkey]

/-- A visit moves the greatest arrival as its call moves the high-water mark. -/
theorem arrivalsSince_visit (core : RuntimeCore) {visit : Visit} (own : visit.key = key) :
    (arrivalsSince key (.visit core visit :: older)).max? =
      Evaluator.arrivalAfter visit.call (arrivalsSince key older).max? := by
  cases hcall : visit.call <;>
    simp [arrivalsSince, hcall, own, Evaluator.arrivalAfter, Evaluator.latestArrival,
      List.max?_cons]

theorem mem_arrivalsSince_visit {core : RuntimeCore} {visit : Visit} {arrival : Nat}
    (h : arrival ∈ arrivalsSince key (.visit core visit :: older)) :
    arrival ∈ arrivalsSince key older ∨ ∃ received, visit.call = .ingest received ∧
        arrival = received.receiver.arrivalMonotonicMs := by
  unfold arrivalsSince at h
  split at h
  · rename_i received hcall
    split at h
    · rcases List.mem_cons.mp h with rfl | hrest
      · exact .inr ⟨received, hcall, rfl⟩
      · exact .inl hrest
    · exact .inl h
  · exact .inl h

end ArrivalsSince

/-- The high-water mark of an evaluator is the greatest arrival it was given. -/
structure Marked (key : ConsumerKey) (board : Board) : Prop where
  present : ∀ state, board.consumers[key]? = some state →
    state.evaluator.lastReceiverArrivalMs = (arrivalsSince key board.trail).max?
  past : Throughout (fun moment older => ∀ core visit, moment = .visit core visit →
    visit.key = key → ∃ state, core.consumers[key]? = some state ∧
      state.evaluator.lastReceiverArrivalMs = (arrivalsSince key older).max?) board.trail

theorem marked_past_visit {host : Host} {key : ConsumerKey} {visit : Visit} {before : Board}
    (marked : Marked key before) (begun : Begun host visit before) (own : visit.key = key) :
    Throughout (fun moment older => ∀ core visit, moment = .visit core visit →
      visit.key = key → ∃ state, core.consumers[key]? = some state ∧
        state.evaluator.lastReceiverArrivalMs = (arrivalsSince key older).max?)
      (.visit begun.before.toRuntimeCore visit :: before.trail) := by
  refine ⟨?_, marked.past⟩
  rintro core other heq -
  obtain ⟨rfl, rfl⟩ := Moment.visit.inj heq
  have hfound : begun.before.consumers[key]? = some begun.state := own ▸ begun.found
  refine ⟨begun.state, hfound, marked.present begun.state ?_⟩
  rw [← begun.lead.consumers]
  exact hfound

theorem seen_marked {host : Host} {key : ConsumerKey} (before after : Board)
    (seen : Seen host key before after) (marked : Marked key before) : Marked key after := by
  cases seen with
  | elsewhere elsewhere =>
    rcases elsewhere.trail with htrail | ⟨moment, htrail, habout⟩
    · refine ⟨fun state hfound => ?_, by rw [htrail]; exact marked.past⟩
      rw [htrail]
      exact marked.present state (elsewhere.consumer ▸ hfound)
    · refine ⟨fun state hfound => ?_, ?_⟩
      · rw [htrail, arrivalsSince_elsewhere habout]
        exact marked.present state (elsewhere.consumer ▸ hfound)
      · rw [htrail]
        refine ⟨?_, marked.past⟩
        rintro core visit rfl own
        exact absurd own habout
  | visited visit own visited =>
    refine ⟨fun state hfound => ?_, ?_⟩
    · have hbefore := marked.present visited.state (own ▸ visited.found_start)
      have hafter : state.evaluator = visited.evaluator := by
        rcases visited.left with hgone | ⟨certificate, hleft⟩
        · rw [← own, hgone] at hfound
          cases hfound
        · rw [← own, hleft] at hfound
          obtain rfl := Option.some.inj hfound
          exact visited.updated_evaluator
      rw [hafter, Evaluator.perform_lastReceiverArrivalMs visited.performed, hbefore,
        visited.trail_start, arrivalsSince_visit _ own]
    · rw [visited.trail_start]
      exact marked_past_visit marked visited.toBegun own
  | enrolled registration evaluator own absent unexhausted made =>
    refine ⟨fun state hfound => ?_, ?_⟩
    · obtain rfl : initialState registration evaluator = state := by
        simpa [Board.enrolled, own] using hfound
      show evaluator.lastReceiverArrivalMs = _
      rw [Evaluator.new_eq_ok made]
      simp [Board.enrolled, arrivalsSince, own, Evaluator.initial]
    · refine ⟨?_, marked.past⟩
      rintro core visit heq
      cases heq
  | reinstated state records evaluator found made =>
    refine ⟨fun last hfound => ?_, marked.past⟩
    obtain rfl : { state with evaluator := evaluator } = last := by simpa using hfound
    obtain ⟨contradictions, rfl⟩ := Evaluator.importContradictions_eq_ok made
    exact marked.present state found
  | lost visit own lost =>
    refine ⟨fun state hfound => ?_, ?_⟩
    · rw [← own, lost.gone] at hfound
      cases hfound
    · rw [lost.trail_start]
      exact marked_past_visit marked lost.toBegun own

theorem marked_of_reachable {host : Host} {cycle : Cycle} (reachable : Reachable host cycle)
    (key : ConsumerKey) : Marked key cycle.board := by
  refine reachable_seen key (fun board fresh => ⟨fun state hfound => ?_, ?_⟩) seen_marked
    reachable
  · simp [fresh.consumers] at hfound
  · rw [fresh.trail]
    trivial

/-! ## The order of service -/

/-- The time of the input last taken off the queue. -/
def front : List Moment → Nat
  | [] => 0
  | .taken _ key _ :: _ => key.atMonotonicMs
  | _ :: older => front older

/-- A remote pulse arrived no later than it was enqueued. -/
def Moment.punctual : Moment → Bool
  | .taken _ key (.remotePulse verified) =>
    decide (verified.custody.receiverArrivalMonotonicMs ≤ key.atMonotonicMs)
  | _ => true

/-- The arrival of a punctual input is at most its time, and is its time if it is local. -/
theorem delivery_of_punctual {core : RuntimeCore} {key : PendingKey} {input : RuntimeInputV1}
    {delivery : Delivery} (punctual : (Moment.taken core key input).punctual = true)
    (h : input.delivery key.atMonotonicMs = some delivery) :
    delivery.arrivalAt ≤ key.atMonotonicMs ∧
      (delivery.custody = none → delivery.arrivalAt = key.atMonotonicMs) ∧
      ∀ custody ∈ delivery.custody, delivery.arrivalAt = custody.receiverArrivalMonotonicMs := by
  cases input with
  | pulse ingress =>
    obtain rfl := Option.some.inj h
    exact ⟨le_rfl, fun _ => rfl, by simp⟩
  | remotePulse verified =>
    obtain rfl := Option.some.inj h
    refine ⟨by simpa [Moment.punctual] using punctual, fun hnone => by simp at hnone, ?_⟩
    intro custody hcustody
    obtain rfl : verified.custody = custody := by simpa using hcustody
    rfl
  | _ => cases h

/-- The inputs still to come are not before the one last taken. -/
structure Drawn (board : Board) : Prop where
  clock : front board.trail ≤ board.currentMonotonicMs
  queue : ∀ key ∈ board.pending, front board.trail ≤ key.atMonotonicMs

/-- The arrivals of a trail are in line with its inputs. -/
structure InLine (trail : List Moment) : Prop where
  underway : ∀ core delivery, pulseUnderway trail = some (core, delivery) →
    delivery.arrivalAt ≤ front trail ∧
      (delivery.custody = none → delivery.arrivalAt = front trail) ∧
      ∀ custody ∈ delivery.custody, delivery.arrivalAt = custody.receiverArrivalMonotonicMs
  bounded : ∀ key, ∀ arrival ∈ arrivalsSince key trail, arrival ≤ front trail
  visits : Throughout (fun moment older => ∀ core visit received, moment = .visit core visit →
    visit.call = .ingest received →
    (visit.origin = none → ∀ arrival ∈ arrivalsSince visit.key older,
      arrival ≤ received.receiver.arrivalMonotonicMs) ∧
    ∀ custody ∈ visit.origin,
      received.receiver.arrivalMonotonicMs = custody.receiverArrivalMonotonicMs) trail

namespace InLine

variable {trail : List Moment}

/-- A moment that neither serves the queue nor visits. -/
theorem cons (inLine : InLine trail) {moment : Moment}
    (front_eq : front (moment :: trail) = front trail)
    (underway_eq : pulseUnderway (moment :: trail) = pulseUnderway trail)
    (arrivals : ∀ key, ∀ arrival ∈ arrivalsSince key (moment :: trail),
      arrival ∈ arrivalsSince key trail)
    (quiet : ∀ core visit, moment ≠ .visit core visit) : InLine (moment :: trail) where
  underway core delivery h := by
    rw [front_eq]
    exact inLine.underway core delivery (underway_eq ▸ h)
  bounded key arrival h := by
    rw [front_eq]
    exact inLine.bounded key arrival (arrivals key arrival h)
  visits := ⟨fun core visit _ heq => absurd heq (quiet core visit), inLine.visits⟩

/-- A visit of a pulse has the arrival of the pulse underway. -/
theorem visit (inLine : InLine trail) {host : Host} {visit : Visit} {start : Board}
    (begun : Begun host visit start) (same : start.trail = trail) :
    InLine (.visit begun.before.toRuntimeCore visit :: trail) := by
  have hpulse : ∀ received, visit.call = .ingest received →
      received.receiver.arrivalMonotonicMs ≤ front trail ∧
        (visit.origin = none → received.receiver.arrivalMonotonicMs = front trail) ∧
        ∀ custody ∈ visit.origin,
          received.receiver.arrivalMonotonicMs = custody.receiverArrivalMonotonicMs := by
    intro received hcall
    have hlawful := begun.lawful
    simp only [Visit.Lawful, hcall] at hlawful
    obtain ⟨-, core, delivery, hdelivered⟩ := hlawful
    have hunderway := hdelivered.underway
    rw [begun.lead.trail, same] at hunderway
    rw [ReceiverTracker.annotate_arrival hdelivered.annotated, ← hdelivered.custody]
    exact inLine.underway core delivery hunderway
  refine ⟨inLine.underway, fun key arrival harrival => ?_, ?_, inLine.visits⟩
  · rcases mem_arrivalsSince_visit harrival with hold | ⟨received, hcall, rfl⟩
    · exact inLine.bounded key arrival hold
    · exact (hpulse received hcall).1
  · rintro core other received heq hcall
    obtain ⟨-, rfl⟩ := Moment.visit.inj heq
    refine ⟨fun horigin arrival harrival => ?_, (hpulse received hcall).2.2⟩
    rw [(hpulse received hcall).2.1 horigin]
    exact inLine.bounded visit.key arrival harrival

end InLine

/-- The queue is drawn in order, and so are arrivals as long as remote pulses are
punctual. -/
structure Served (board : Board) : Prop where
  drawn : Drawn board
  inLine : (∀ moment ∈ board.trail, moment.punctual = true) → InLine board.trail

namespace Served

variable {host : Host} {before after : Board}

/-- Nothing the order depends on has changed. -/
theorem of_same (served : Served before) (trail : after.trail = before.trail)
    (pending : after.pending = before.pending)
    (clock : before.currentMonotonicMs ≤ after.currentMonotonicMs) : Served after := by
  refine ⟨⟨?_, ?_⟩, ?_⟩
  · rw [trail]
    exact served.drawn.clock.trans clock
  · rw [trail, pending]
    exact served.drawn.queue
  · rw [trail]
    exact served.inLine

theorem of_frame (served : Served before) (trail : after.trail = before.trail)
    (frame : Frame before after) : Served after :=
  served.of_same trail frame.pending frame.currentMonotonicMs.ge

/-- A moment was added that leaves the queue alone. -/
theorem of_moment (served : Served before) {moment : Moment}
    (trail : after.trail = moment :: before.trail) (pending : after.pending = before.pending)
    (clock : after.currentMonotonicMs = before.currentMonotonicMs)
    (front_eq : front (moment :: before.trail) = front before.trail)
    (inLine : moment.punctual = true → InLine before.trail → InLine (moment :: before.trail)) :
    Served after := by
  refine ⟨⟨?_, ?_⟩, ?_⟩
  · rw [trail, front_eq, clock]
    exact served.drawn.clock
  · rw [trail, front_eq, pending]
    exact served.drawn.queue
  · rw [trail]
    intro hpunctual
    rw [List.forall_mem_cons] at hpunctual
    exact inLine hpunctual.1 (served.inLine hpunctual.2)

theorem visited (served : Served before) {visit : Visit}
    (visited : Visited host visit before after) : Served after :=
  served.of_moment visited.trail_start visited.frame_start.pending
    visited.frame_start.currentMonotonicMs rfl
    fun _ inLine => inLine.visit visited.toBegun rfl

theorem calm (served : Served before) (calm : Calm host before after) : Served after := by
  cases calm with
  | noted noted =>
    obtain ⟨full, rfl⟩ := noted
    exact served.of_same rfl rfl le_rfl
  | beside absent aside => exact served.of_frame aside.trail aside.toFrame
  | released schedule stale => exact served.of_same rfl rfl le_rfl
  | surveyed subjects same => exact served.of_same rfl rfl le_rfl
  | visited visit visited => exact served.visited visited
  | enrolled registration evaluator absent unexhausted made =>
    refine served.of_moment rfl rfl rfl rfl fun _ inLine => inLine.cons rfl rfl ?_ (by simp)
    intro key arrival harrival
    unfold arrivalsSince at harrival
    split at harrival
    · cases harrival
    · exact harrival
  | reinstated key state records evaluator found made => exact served.of_same rfl rfl le_rfl

theorem step (served : Served before) (step : Step host before after) : Served after := by
  cases step with
  | calm calm => exact served.calm calm
  | pulsed delivery due fits =>
    obtain ⟨core, key, input, rest, htrail, hdelivery⟩ := due
    refine ⟨⟨served.drawn.clock, served.drawn.queue⟩, fun hpunctual => ?_⟩
    have hpunctual : ∀ moment ∈ before.trail, moment.punctual = true :=
      fun moment h => hpunctual moment (List.mem_cons_of_mem _ h)
    have hinLine := served.inLine hpunctual
    refine ⟨?_, hinLine.bounded, ?_, hinLine.visits⟩
    · intro found other hunderway
      obtain ⟨-, rfl⟩ := Prod.mk.inj (Option.some.inj hunderway)
      have hfront : front (Moment.pulse before.toRuntimeCore delivery :: before.trail) =
          key.atMonotonicMs := by rw [htrail]; rfl
      have htaken : (Moment.taken core key input).punctual = true :=
        hpunctual _ (by rw [htrail]; exact List.mem_cons_self)
      show delivery.arrivalAt ≤ front (Moment.pulse before.toRuntimeCore delivery ::
        before.trail) ∧ _
      rw [show (before.pulsed delivery).trail =
        Moment.pulse before.toRuntimeCore delivery :: before.trail from rfl, hfront]
      exact delivery_of_punctual htaken hdelivery
    · rintro found visit received heq
      cases heq
  | annotated receiver => exact served.of_same rfl rfl le_rfl
  | replaced subject replacement receiver =>
    exact served.of_moment rfl rfl rfl rfl fun _ inLine =>
      inLine.cons rfl rfl (fun _ _ h => h) (by simp)
  | latched exhausted visits all =>
    have hflag : Served { before with historyBlindnessLatched := true } :=
      served.of_same rfl rfl le_rfl
    refine keeps_along (fun first last hvisit hserved => ?_) visits hflag
    obtain ⟨visit, ⟨visited⟩⟩ := hvisit
    exact hserved.visited visited

theorem turn (before after : Board) (turn : Turn (Step host) before after)
    (served : Served before) : Served after := by
  cases turn with
  | step stepped => exact served.step stepped
  | queued key input timely next =>
    refine ⟨⟨served.drawn.clock, fun other hother => ?_⟩, served.inLine⟩
    rcases ExtTreeMap.mem_insert.mp hother with heq | hold
    · obtain rfl := Std.LawfulEqCmp.eq_of_compare heq
      exact served.drawn.clock.trans timely
    · exact served.drawn.queue other hold
  | taken key input found due first =>
    refine ⟨⟨due, fun other hother => first other (ExtTreeMap.mem_of_mem_erase hother)⟩, ?_⟩
    intro hpunctual
    have hinLine := served.inLine fun moment h =>
      hpunctual moment (List.mem_cons_of_mem _ h)
    have hfront : front before.trail ≤ key.atMonotonicMs :=
      served.drawn.queue key (ExtTreeMap.mem_iff_isSome_getElem?.mpr (by simp [found]))
    refine ⟨fun core delivery h => (by cases h), fun other arrival harrival => ?_, ?_,
      hinLine.visits⟩
    · exact (hinLine.bounded other arrival harrival).trans hfront
    · rintro core visit received heq
      cases heq
  | ticked now later => exact served.of_same rfl rfl later
  | advanced now later => exact served.of_same rfl rfl later

theorem loses (before after : Board) (loses : Loses host before after) (served : Served before) :
    Served after := by
  obtain ⟨visit, ⟨lost⟩⟩ := loses
  have hout : Frame lost.before (lost.before.takenOut visit) := {}
  have hframe := (lost.lead.toFrame.trans hout).trans lost.rest.toFrame
  exact served.of_moment lost.trail_start hframe.pending hframe.currentMonotonicMs rfl
    fun _ inLine => inLine.visit lost.toBegun rfl

end Served

theorem served_of_reachable {host : Host} {cycle : Cycle} (reachable : Reachable host cycle) :
    Served cycle.board := by
  refine reachable_induction handles_step (fun board fresh => ?_) Served.turn Served.loses
    reachable
  refine ⟨⟨?_, ?_⟩, fun _ => ?_⟩
  · simp [fresh.trail, front]
  · simp [fresh.trail, front]
  · rw [fresh.trail]
    exact ⟨by simp [pulseUnderway], by simp [arrivalsSince], trivial⟩

/-- In every reachable state, after failed calls too, the queue is served in the order of its
times: the input last taken is not after the clock, and none still queued is before it. -/
theorem queue_served_in_order {host : Host} {cycle : Cycle} (reachable : Reachable host cycle) :
    front cycle.trail ≤ cycle.currentMonotonicMs ∧
      ∀ key ∈ cycle.pending, front cycle.trail ≤ key.atMonotonicMs :=
  ⟨(served_of_reachable reachable).drawn.clock, (served_of_reachable reachable).drawn.queue⟩

open Reference

/-- At 50 a pulse was taken off, and one of 80 is still queued. -/
theorem queue_served_in_order_reference : ∃ cycle, Reachable host cycle ∧
      front cycle.trail = 50 ∧ cycle.pending.isEmpty = false ∧
      front cycle.trail ≤ cycle.currentMonotonicMs ∧
        ∀ key ∈ cycle.pending, front cycle.trail ≤ key.atMonotonicMs := by
  obtain ⟨cycle, hreachable, htest⟩ := exists_reachable host config
    (opening ++ [.enqueue 80 (.pulse (ingress (frame "a" 3))),
      .enqueue 50 (.pulse (ingress (frame "a" 2))), .runUntil 60])
    (fun cycle => decide (front cycle.trail = 50) && !cycle.pending.isEmpty) (by decide +kernel)
  simp only [Bool.and_eq_true, decide_eq_true_eq, Bool.not_eq_true'] at htest
  exact ⟨cycle, hreachable, htest.1, htest.2, queue_served_in_order hreachable⟩

/-! ## Regressions -/

/-- A pulse passes the checks `ingest` makes before it looks at the arrival. -/
def considers (platform : Platform) (received : ReceivedPulseV1) (atMs : Nat)
    (evaluator : Evaluator) : Bool :=
  (received.validate platform.sha256).isOk && (evaluator.validateBinding received).isOk &&
    decide (received.receiver.arrivalMonotonicMs ≤ atMs)

/-- The evaluator of a visit takes the branch of `ingest` for a regressed arrival. -/
def Moment.arrivalRegresses (host : Host) : Moment → Bool
  | .visit core request =>
    match request.call, core.consumers[request.key]? with
    | .ingest received, some state =>
      considers host.toPlatform received request.atMs state.evaluator &&
        state.evaluator.arrivalRegressed received
    | _, _ => false
  | _ => false

/-- A remote pulse reaches an evaluator after a pulse that arrived later. -/
def Moment.overtaken (host : Host) (older : List Moment) : Moment → Bool
  | .visit core request =>
    match request.call, core.consumers[request.key]?, request.origin with
    | .ingest received, some state, some custody =>
      considers host.toPlatform received request.atMs state.evaluator &&
        (arrivalsSince request.key older).any fun arrival =>
          decide (custody.receiverArrivalMonotonicMs < arrival)
    | _, _, _ => false
  | _ => false

/-- The greatest of some numbers exceeds a bound when one of them does. -/
theorem max?_any_lt (values : List Nat) (bound : Nat) :
    (values.max?.any fun greatest => decide (bound < greatest)) =
      values.any fun value => decide (bound < value) := by
  rw [Bool.eq_iff_iff]
  simp only [Option.any_eq_true, List.any_eq_true, decide_eq_true_eq]
  constructor
  · rintro ⟨greatest, hmax, hlt⟩
    exact ⟨greatest, List.max?_mem hmax, hlt⟩
  · rintro ⟨value, hmem, hlt⟩
    cases hmax : values.max? with
    | none =>
      rw [List.max?_eq_none_iff] at hmax
      simp [hmax] at hmem
    | some greatest =>
      exact ⟨greatest, rfl, hlt.trans_le ((List.max?_eq_some_iff.mp hmax).2 value hmem)⟩

/-- A visit regresses exactly when it is overtaken. -/
theorem arrivalRegresses_eq_overtaken {host : Host} {older : List Moment} {core : RuntimeCore}
    {visit : Visit} (marked : ∃ state, core.consumers[visit.key]? = some state ∧
      state.evaluator.lastReceiverArrivalMs = (arrivalsSince visit.key older).max?)
    (inLine : ∀ received, visit.call = .ingest received →
      (visit.origin = none → ∀ arrival ∈ arrivalsSince visit.key older,
        arrival ≤ received.receiver.arrivalMonotonicMs) ∧ ∀ custody ∈ visit.origin,
        received.receiver.arrivalMonotonicMs = custody.receiverArrivalMonotonicMs) :
    (Moment.visit core visit).arrivalRegresses host =
      (Moment.visit core visit).overtaken host older := by
  obtain ⟨state, hfound, hmark⟩ := marked
  cases hcall : visit.call with
  | ingest received =>
    obtain ⟨hlocal, hremote⟩ := inLine received hcall
    have hregressed : state.evaluator.arrivalRegressed received =
        (arrivalsSince visit.key older).any fun arrival =>
          decide (received.receiver.arrivalMonotonicMs < arrival) := by
      unfold Evaluator.arrivalRegressed
      rw [hmark, max?_any_lt]
    cases horigin : visit.origin with
    | none =>
      have hnever : state.evaluator.arrivalRegressed received = false := by
        rw [hregressed]
        simpa using hlocal horigin
      simp [Moment.arrivalRegresses, Moment.overtaken, hcall, hfound, horigin, hnever]
    | some custody =>
      have harrival := hremote custody horigin
      simp [Moment.arrivalRegresses, Moment.overtaken, hcall, hfound, horigin, hregressed,
        harrival]
  | _ => simp [Moment.arrivalRegresses, Moment.overtaken, hcall]

/-- In a run whose remote pulses arrived no later than they were enqueued, no evaluator
takes the branch for a regressed arrival exactly when no remote pulse reached an evaluator
after a pulse that had arrived later. -/
theorem no_arrival_regression_iff (host : Host) (cycle : Cycle) (reachable : Reachable host cycle)
    (punctual : ∀ moment ∈ cycle.trail, moment.punctual = true) :
    Throughout (fun moment _ => moment.arrivalRegresses host = false) cycle.trail ↔
      Throughout (fun moment older => moment.overtaken host older = false) cycle.trail := by
  have hinLine : InLine cycle.trail := (served_of_reachable reachable).inLine punctual
  have hmarked : Throughout (fun moment older => ∀ core visit, moment = .visit core visit →
      ∃ state, core.consumers[visit.key]? = some state ∧
        state.evaluator.lastReceiverArrivalMs = (arrivalsSince visit.key older).max?)
      cycle.trail :=
    (throughout_forall fun key => (marked_of_reachable reachable key).past).imp
      fun _ _ h core visit heq => h visit.key core visit heq rfl
  refine Throughout.congr ((hmarked.and hinLine.visits).imp ?_)
  rintro moment older ⟨hmark, hline⟩
  cases moment with
  | visit core visit =>
    rw [arrivalRegresses_eq_overtaken (hmark core visit rfl) (hline core visit · rfl)]
  | _ => exact Iff.rfl

/-- A local pulse at 60, then a remote one at 70 that arrived at 65. -/
def punctualPulses : List Operation :=
  opening ++
    [.enqueue 60 (.pulse (ingress (frame "a" 2))), .runUntil 60,
      .enqueue 70 (.remotePulse (remote (frame "a" 3) 65 (by decide +kernel))),
      .runUntil 70]

theorem no_arrival_regression_iff_reference : ∃ cycle, Reachable host cycle ∧
      (∀ moment ∈ cycle.trail, moment.punctual = true) ∧
      Throughout (fun moment _ => moment.arrivalRegresses host = false) cycle.trail := by
  let test : Cycle → Bool := fun cycle =>
    decide ((∀ moment ∈ cycle.trail, moment.punctual = true) ∧
      Throughout (fun moment older => moment.overtaken host older = false) cycle.trail)
  obtain ⟨cycle, hreachable, htest⟩ := exists_reachable host config
    punctualPulses test (by decide +kernel)
  obtain ⟨hpunctual, hline⟩ := of_decide_eq_true htest
  exact ⟨cycle, hreachable, hpunctual,
    (no_arrival_regression_iff host cycle hreachable hpunctual).mpr hline⟩

/-- A local pulse at 60, then a remote one at 61 that arrived at 50. -/
def overtakenPulses : List Operation :=
  opening ++
    [.enqueue 60 (.pulse (ingress (frame "a" 2))), .runUntil 60,
      .enqueue 61 (.remotePulse (remote (frame "a" 3) 50 (by decide +kernel))),
      .runUntil 61]

/-- The times of the calls never go backwards and the remote pulse arrived before it was
enqueued, yet the evaluator takes its arrival for a regression. -/
theorem overtaken_pulse_regresses :
    (overtakenPulses.map Operation.time).Pairwise (· ≤ ·) ∧
      ∃ cycle, runs host config overtakenPulses = some cycle ∧
        (∀ moment ∈ cycle.trail, moment.punctual = true) ∧
        ∃ moment ∈ cycle.trail, moment.arrivalRegresses host = true := by
  refine ⟨by decide, ?_⟩
  have htest : ((runs host config overtakenPulses).any fun cycle =>
      cycle.trail.all Moment.punctual &&
        cycle.trail.any (Moment.arrivalRegresses host)) = true := by
    decide +kernel
  obtain ⟨cycle, hrun, htest⟩ := Option.any_eq_true _ _ |>.mp htest
  simp only [Bool.and_eq_true, List.all_eq_true, List.any_eq_true] at htest
  exact ⟨cycle, hrun, htest.1, htest.2⟩

end ConstellationMonitor.Runtime
