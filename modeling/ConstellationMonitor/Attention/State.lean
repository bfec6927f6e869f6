/-
  Attention/State.lean --- the persisted state of every condition, and the intents it
  refers to.

  The state file is replaced atomically; a pass loads it, changes it in memory and saves it
  at fixed points.  An intent is written to a file of its own before the state names it.
-/
import ConstellationMonitor.Attention.Inputs

namespace ConstellationMonitor.Attention

open Foundation
open Std (ExtTreeMap)

inductive Action where
  | trigger
  | resolve
  deriving DecidableEq

def Action.text : Action → Text
  | .trigger => "trigger"
  | .resolve => "resolve"

/-- A route role, in the order of the role names. -/
inductive Role where
  | notice
  | page
  deriving DecidableEq

def Role.text : Role → Text
  | .notice => "notice"
  | .page => "page"

/-- Newest record of one intent of a condition. -/
structure LastIntent where
  stableEventId : Text
  transitionId : Text
  action : Action
  route : Text
  schema : IntentSchema
  /-- NQ's record id once NQ has answered -/
  notificationId : Option Text
  /-- `unknown` until NQ answers; then NQ's `delivery_state`, or `command_error` -/
  outcome : Text
  /-- whether the submission could deliver -/
  network : Bool
  /-- Unix seconds of the latest submission attempt -/
  attemptedAt : Int
  intentFile : Text

/-! ## One record per role -/

/-- A map from route roles to intent records. -/
structure Slots where
  notice : Option LastIntent
  page : Option LastIntent

namespace Slots

def none : Slots := ⟨.none, .none⟩

def get (slots : Slots) : Role → Option LastIntent
  | .notice => slots.notice
  | .page => slots.page

def set (slots : Slots) (role : Role) (value : Option LastIntent) : Slots :=
  match role with
  | .notice => { slots with notice := value }
  | .page => { slots with page := value }

/-- The records of a map, in the order of the role names. -/
def entries (slots : Slots) : List (Role × LastIntent) :=
  slots.notice.toList.map (fun last => (Role.notice, last)) ++
    slots.page.toList.map (fun last => (Role.page, last))

def isEmpty (slots : Slots) : Bool := slots.notice.isNone && slots.page.isNone

@[simp] theorem get_none (role : Role) : none.get role = .none := by cases role <;> rfl

theorem get_set (slots : Slots) (role other : Role) (value : Option LastIntent) :
    (slots.set role value).get other = if role = other then value else slots.get other := by
  cases role <;> cases other <;> rfl

@[simp] theorem get_set_self (slots : Slots) (role : Role) (value : Option LastIntent) :
    (slots.set role value).get role = value := by
  simp [get_set]

theorem get_set_ne (slots : Slots) {role other : Role} (value : Option LastIntent)
    (h : role ≠ other) : (slots.set role value).get other = slots.get other := by
  simp [get_set, h]

end Slots

/-! ## Conditions -/

structure ConditionState where
  key : ConditionKey
  ruleVersion : Nat
  inputLabel : Text
  /-- start of the current continuous presence -/
  firstSeen : Option Int
  /-- last pass that observed presence -/
  lastSeen : Option Int
  /-- start of the current clear interval while active -/
  clearSince : Option Int
  /-- first unknown observation since the last definite one, while an interval is open -/
  unknownSince : Option Int
  /-- a trigger has been decided and no resolve since -/
  active : Bool
  /-- the latest trigger or resolve decision -/
  transitionAt : Option Int
  /-- newest intent per route role -/
  lastIntent : Slots
  /-- triggers NQ never retained when a resolve replaced them -/
  pendingTrigger : Slots
  /-- triggered, notice sent, page held for the remediation window -/
  pageDeferred : Bool

structure State where
  schema : Text
  site : Text
  /-- Unix seconds of the last completed pass -/
  updatedAt : Int
  conditions : ExtTreeMap Text ConditionState
  nqWatchers : ExtTreeMap Text (ExtTreeMap Text Int)

def stateSchema : Text := "constellation.attention_state.v1"

/-- Why a pass is refused before it reads anything. -/
inductive Refusal where
  | stateSchema
  | foreignSite (site : Text)
  | clockMovedBackwards (now updatedAt : Int)
  deriving DecidableEq

namespace State

/-- `State::empty`. -/
def empty (site : Text) : State :=
  { schema := stateSchema, site, updatedAt := 0, conditions := ∅, nqWatchers := ∅ }

/-- `State::load`: a missing file is an empty state. -/
def load (file : Option State) (site : Text) : Except Refusal State :=
  match file with
  | none => .ok (empty site)
  | some state => do
    refuseIf (decide (state.schema ≠ stateSchema)) .stateSchema
    refuseIf (decide (state.site ≠ site)) (.foreignSite state.site)
    pure state

end State

theorem load_eq_ok (file : Option State) (site : Text) (state : State) :
    State.load file site = .ok state ↔ (file = none ∧ state = State.empty site) ∨
        (file = some state ∧ state.schema = stateSchema ∧ state.site = site) := by
  cases file with
  | none => simp [State.load, eq_comm]
  | some saved =>
    simp only [State.load, check_bind_eq_ok, refuseIf_eq_ok, decide_eq_false_iff_not, not_not,
      pure, Except.pure, Except.ok.injEq, reduceCtorEq, false_and, false_or, Option.some.injEq]
    constructor
    · rintro ⟨hschema, hsite, rfl⟩
      exact ⟨rfl, hschema, hsite⟩
    · rintro ⟨rfl, hschema, hsite⟩
      exact ⟨hschema, hsite, rfl⟩

/-! ## Intents -/

/-- The decimal form of a signed number. -/
def decimalInt (value : Int) : Text :=
  if value < 0 then "-" ++ Text.decimal value.natAbs else Text.decimal value.natAbs

/-- `event_id`: `{site}-{rule}[-{target_class}]-{action}-{unix_seconds}`. -/
def eventId (key : ConditionKey) (action : Action) (time : Int) : Text :=
  key.eventPrefix ++ "-" ++ action.text ++ "-" ++ decimalInt time

/-- The file an intent is written to. -/
def intentFileName (stableEventId : Text) (role : Role) : Text :=
  stableEventId ++ "." ++ role.text ++ ".json"

/-- Why a resolve was decided. -/
inductive ResolveReason where
  | recovered
  | noLongerEvaluated
  | recoveredWithinWindow
  deriving DecidableEq

/-- An intent file, without the texts nothing reads back (summary, details, digests). -/
structure Intent where
  schema : IntentSchema
  stableEventId : Text
  transitionId : Text
  routeReference : Text
  destinationIdentity : Text
  /-- `v2` only -/
  action : Option Action
  responseClass : Option ResponseClass

/-- `v2`: an intent for a page route. -/
def intentV2 (stableEventId transitionId : Text) (action : Action) (route : Text) : Intent :=
  { schema := .v2, stableEventId, transitionId, routeReference := route,
    destinationIdentity := Text.ofString "pagerduty:" ++ route, action := some action,
    responseClass := some .page }

/-- `response_class`: `page` for a decision that also pages, otherwise `attention`. -/
def responseClass (rule : EffectiveRule) (action : Action) (reason : ResolveReason) :
    ResponseClass :=
  let removal := decide (action = .resolve) &&
    (decide (reason = .noLongerEvaluated) || decide (reason = .recoveredWithinWindow))
  if rule.class' = .page ∧ removal = false then .page else .attention

/-- `v1`: an intent for a notice route. -/
def intentV1 (rule : EffectiveRule) (stableEventId transitionId : Text) (action : Action)
    (reason : ResolveReason) (route label : Text) : Intent :=
  { schema := .v1, stableEventId, transitionId, routeReference := route,
    destinationIdentity := label ++ ":" ++ route, action := none,
    responseClass := some (responseClass rule action reason) }

/-- `with_event_id`. -/
def Intent.withEventId (intent : Intent) (stableEventId : Text) : Intent :=
  { intent with stableEventId }

end ConstellationMonitor.Attention
