/-
  Attention/Engine.lean --- one evaluation pass: read inputs, reconcile conditions with the
  state, write intents, submit them through NQ.

  A pass is one ordered sequence of effects on the outside: intent files written, state
  saved, NQ called, intent files removed.  `evaluate` computes that sequence from what the
  inputs say and what NQ will answer; a pass that is cut off has performed a first part of
  it.  The report file, the texts of its notes and dry runs, which save and submit nothing,
  are not part of the model.
-/
import ConstellationMonitor.Attention.State

namespace ConstellationMonitor.Attention

open Foundation
open Std (ExtTreeMap)

/-! ## Lifecycle of one condition -/

/-- A run of unknown observations too long for an open interval to absorb. -/
def ConditionState.unknownRun (condition : ConditionState) (now : Int) : Option Int :=
  (condition.unknownSince.map fun since => now - since).filter fun run => run > unknownGapSeconds

/-- The start of the presence interval a present observation goes on with: a long unknown
run moves it forward by the run's length. -/
def ConditionState.presentSince (condition : ConditionState) (now : Int) : Int :=
  match condition.unknownRun now, condition.active, condition.firstSeen with
  | some run, false, some first => min (first + run) now
  | _, _, first => first.getD now

/-- The start of the clear interval a clear observation of an active condition goes on
with. -/
def ConditionState.clearedSince (condition : ConditionState) (now : Int) : Int :=
  match condition.unknownRun now, condition.clearSince with
  | some run, some since => min (since + run) now
  | _, since => since.getD now

/-- Whether a persistence or confirmation interval is open. -/
def ConditionState.intervalOpen (condition : ConditionState) : Bool :=
  if condition.active then condition.clearSince.isSome else condition.firstSeen.isSome

/-- `step`: the condition after one observation, and the transition decided now.  The source's
`i64` seconds are integers here: with a clock and saved times from 0 to `2 ^ 62 - 1` no sum or
difference of them leaves the type. -/
def step (condition : ConditionState) (observation : Observation) (persistenceSeconds now : Int) :
    ConditionState × Option Action :=
  match observation with
  | .present =>
    let firstSeen := condition.presentSince now
    let next := { condition with
      unknownSince := none, firstSeen := some firstSeen, lastSeen := some now, clearSince := none }
    if condition.active = false ∧ now - firstSeen > persistenceSeconds then
      ({ next with active := true, transitionAt := some now }, some .trigger)
    else (next, none)
  | .clear =>
    let next := { condition with unknownSince := none }
    if condition.active then
      let since := condition.clearedSince now
      if now - since ≥ resolveConfirmSeconds then
        ({ next with
            active := false, firstSeen := none, clearSince := none, transitionAt := some now },
          some .resolve)
      else ({ next with clearSince := some since }, none)
    -- presence below the bound must be continuous; a clear pass restarts it
    else ({ next with firstSeen := none, clearSince := none }, none)
  | .unknown =>
    -- hold everything; remember when the unknown run began if an interval is open
    if condition.intervalOpen then
      ({ condition with unknownSince := some (condition.unknownSince.getD now) }, none)
    else (condition, none)
  | .removed =>
    let next := { condition with unknownSince := none, firstSeen := none, clearSince := none }
    if condition.active then
      ({ next with active := false, transitionAt := some now }, some .resolve)
    else (next, none)

/-! ## Held pages -/

inductive PageDecision where
  | send
  | defer
  deriving DecidableEq

/-- The largest `i64`. -/
def i64Max : Int := 2 ^ 63 - 1

/-- `window_until`: the end of the remediation window. -/
def windowUntil (firstSeen : Option Int) (windowSeconds : Int) : Option Int :=
  firstSeen.map fun first => min (first + windowSeconds) i64Max

/-- `page_decision`: whether a page-class condition's page goes out now. -/
def pageDecision (policy : ResponsePolicy) (windowUntil : Option Int) (observation : Observation)
    (now : Int) : PageDecision :=
  match policy, windowUntil with
  | .autoRemediateThenPage, some until' =>
    if now ≥ until' ∧ (observation = .present ∨ observation = .unknown) then .send else .defer
  | _, _ => .send

/-! ## Retained intents -/

inductive Operation where
  /-- submission of a new intent file -/
  | submit
  /-- submission of an already written file -/
  | submitAgain
  /-- resubmission of the newest retained record -/
  | resubmit
  /-- a trigger NQ never retained, before the resolve that replaced it -/
  | submitBeforeResolve
  deriving DecidableEq

/-- `follow_up`: whether a retained intent still needs work, and whether it waits for the
resend interval. -/
def followUp (last : LastIntent) (condition : ConditionState) (config : Config) :
    Option (Operation × Bool) :=
  let relevant := match last.action with
    | .trigger => condition.active
    | .resolve => !condition.active
  if relevant = false then none
  else if (last.outcome = "unknown" ∨ last.outcome = "command_error") ∧
      last.notificationId = none then some (.submitAgain, false)
  else if last.outcome = "accepted" then none
  else if last.notificationId = none then none
  -- a deliberate refusal (no network) is final until network is enabled
  else if config.routes.delivers last.schema = false then none
  else if last.schema = .v2 then some (.resubmit, true)
  -- a new event only after a definite non-delivery
  else if last.outcome = "failed" ∨ last.outcome = "refused" then some (.submit, true)
  else none

/-! ## What the inputs observed -/

/-- Observations by condition id; a condition two inputs feed is not evaluated. -/
structure Gathered where
  observed : ExtTreeMap Text Observed
  /-- the condition and the two labels -/
  collisions : List (Text × Text × Text)

def Gathered.add (gathered : Gathered) (item : Observed) : Gathered :=
  match gathered.observed[item.key.id]? with
  | none => { gathered with observed := gathered.observed.insert item.key.id item }
  | some existing =>
    if existing.inputLabel = item.inputLabel then gathered
    else
      { observed :=
          gathered.observed.insert item.key.id { existing with observation := .unknown }
        collisions := gathered.collisions ++
          [(item.key.id, existing.inputLabel, item.inputLabel)] }

def gather (items : List Observed) : Gathered := items.foldl Gathered.add ⟨∅, []⟩

/-- Both inputs of a collision are faulty. -/
def faultCollision (reports : List InputReport) (collision : Text × Text × Text) :
    List InputReport :=
  reports.map fun report =>
    if report.label = collision.2.1 ∨ report.label = collision.2.2 then
      report.fault .unrecognised .notCurrent (Text.ofString "condition " ++ collision.1 ++
        " is fed by inputs " ++ collision.2.1 ++ " and " ++ collision.2.2 ++ "; rename one")
    else report

/-- The first report with a label is faulted. -/
def faultFirst (label : Text) (message : Text) : List InputReport → List InputReport
  | [] => []
  | report :: rest =>
    if report.label = label then report.fault .unreported .notCurrent message :: rest
    else report :: faultFirst label message rest

/-- An open condition that a current input no longer reports makes that input faulty. -/
def faultUnreported (config : Config) (observed : ExtTreeMap Text Observed)
    (currentLabels : List Text) (reports : List InputReport) (entry : Text × ConditionState) :
    List InputReport :=
  let (id, condition) := entry
  if condition.active = false ∨ (observed[id]?).isSome ∨ condition.key.rule = inputUnavailable ∨
      condition.inputLabel ∉ currentLabels then reports
  else
    match ruleFor config.effectiveRules condition.key.rule with
    | none => reports
    | some rule =>
      if rule.enabled = false ∨ config.hasInput rule.rule.input = false then reports
      else faultFirst condition.inputLabel (Text.ofString "open condition " ++ id ++
        " is no longer reported; recovery not observed") reports

/-- The key of a fault class of an input. -/
def faultKey (site : Text) (report : InputReport) (cause : FaultClass) :
    Except Text ConditionKey :=
  ConditionKey.new site report.kind.component inputUnavailable
    (some (report.label ++ "." ++ cause.text))

/-- What a fault class of an input observes: a class the input is not showing now is clear
only when the input is `ok`. -/
def faultObservation (report : InputReport) (cause : FaultClass) : Observation :=
  if cause ∈ report.causes then .present
  else if report.status = .ok then .clear
  else .unknown

def observeFault (site : Text) (report : InputReport) (observed : ExtTreeMap Text Observed)
    (cause : FaultClass) : ExtTreeMap Text Observed :=
  -- a stale host-posture CURRENT is `host-posture-unknown`
  if report.kind = .hostPosture ∧ cause = .stale then observed
  else
    match faultKey site report cause with
    | .error _ => observed
    | .ok key => observed.insertIfNew key.id
        { key, inputLabel := report.label, observation := faultObservation report cause }

/-- What a pass knows after reading: observations by condition id and final reports. -/
structure Readout where
  observed : ExtTreeMap Text Observed
  reports : List InputReport

/-- The first half of `evaluate`: from the readings to observations and final reports. -/
def readout (config : Config) (conditions : ExtTreeMap Text ConditionState) (read : InputsRead) :
    Readout :=
  let gathered := gather read.observed
  let reports := gathered.collisions.foldl faultCollision read.reports
  let currentLabels :=
    (reports.filter fun report => report.status ≠ .unavailable).map InputReport.label
  let reports := conditions.toList.foldl
    (faultUnreported config gathered.observed currentLabels) reports
  let observed :=
    if (ruleFor config.effectiveRules inputUnavailable).any EffectiveRule.enabled then
      reports.foldl (fun observed report =>
        inputCauses.foldl (observeFault config.site report) observed) gathered.observed
    else gathered.observed
  { observed, reports }

/-! ## Reconciling conditions -/

/-- A condition first observed in this pass. -/
def ConditionState.fresh (item : Observed) : ConditionState :=
  { key := item.key
    ruleVersion := ((rule item.key.rule).map Rule.version).getD 0
    inputLabel := item.inputLabel
    firstSeen := none, lastSeen := none, clearSince := none, unknownSince := none
    active := false, transitionAt := none
    lastIntent := .none, pendingTrigger := .none, pageDeferred := false }

/-- The last report with a label, as a map built from the reports in order gives it. -/
def statusOf (reports : List InputReport) (label : Text) : Option InputStatus :=
  (reports.reverse.find? fun report => report.label = label).map InputReport.status

/-- The observation of a condition in this pass. -/
def observationOf (config : Config) (reports : List InputReport) (item : Option Observed)
    (condition : ConditionState) : Observation :=
  match item with
  | some item => item.observation
  | none =>
    if condition.key.rule = inputUnavailable then .removed
    else
      match ruleFor config.effectiveRules condition.key.rule with
      | none => .removed
      | some rule =>
        if rule.enabled = true ∧ config.hasInput rule.rule.input = true then
          match statusOf reports condition.inputLabel with
          -- absence is not recovery
          | some _ => .unknown
          | none =>
            -- the label names the condition: removing it is a configuration removal
            if condition.key.targetClass = some condition.inputLabel then .removed
            -- a relabel is not a removal
            else .unknown
        else .removed

structure Reconciled where
  condition : ConditionState
  transition : Option (Action × ResolveReason)
  /-- the held page is due -/
  pageDue : Bool

/-- The input that reports a condition can be relabelled; follow it. -/
def ConditionState.relabelled (condition : ConditionState) (item : Option Observed) :
    ConditionState :=
  match item with
  | some item => { condition with inputLabel := item.inputLabel }
  | none => condition

/-- The persistence bound of a condition's rule. -/
def persistenceOf (config : Config) (condition : ConditionState) : Int :=
  ((ruleFor config.effectiveRules condition.key.rule).map EffectiveRule.persistenceSeconds).getD 0

/-- The end of a condition's remediation window, if it has one. -/
def remediationUntil (config : Config) (key : ConditionKey) (firstSeen : Option Int) :
    Option Int :=
  (config.responsePolicy key.rule key.targetClass).2.bind (windowUntil firstSeen)

/-- Whether the page of a triggered condition goes out now. -/
def pageNow (config : Config) (now : Int) (observation : Observation)
    (condition : ConditionState) : PageDecision :=
  pageDecision (config.responsePolicy condition.key.rule condition.key.targetClass).1
    (remediationUntil config condition.key condition.firstSeen) observation now

/-- Why a transition of a condition was decided, from the condition before it. -/
def resolveReason (config : Config) (now : Int) (observation : Observation)
    (condition : ConditionState) : ResolveReason :=
  if observation = .removed then .noLongerEvaluated
  -- held page never sent and the clear began inside the window
  else if condition.pageDeferred = true ∧
      ((remediationUntil config condition.key condition.firstSeen).any fun until' =>
        condition.clearSince.getD now < until') = true then .recoveredWithinWindow
  else .recovered

/-- One condition through one pass, up to the planning of its intents. -/
def reconcile (config : Config) (now : Int) (reports : List InputReport) (item : Option Observed)
    (condition : ConditionState) : Reconciled :=
  let before := condition.relabelled item
  let observation := observationOf config reports item before
  let stepped := step before observation (persistenceOf config before) now
  match stepped.2 with
  | some action =>
    let deferred := match action with
      | .resolve => false
      -- the trigger's notice goes out now; its page may wait
      | .trigger =>
        ((ruleFor config.effectiveRules before.key.rule).any fun rule => rule.class' == .page) &&
          decide (pageNow config now observation stepped.1 = .defer)
    { condition := { stepped.1 with pageDeferred := deferred }
      transition := some (action, resolveReason config now observation before)
      pageDue := false }
  | none =>
    if stepped.1.active = true ∧ stepped.1.pageDeferred = true ∧
        pageNow config now observation stepped.1 = .send then
      { condition := { stepped.1 with pageDeferred := false }
        transition := none, pageDue := true }
    else { condition := stepped.1, transition := none, pageDue := false }

/-- The conditions a pass looks at: those observed and those in the state, in order. -/
def passIds (observed : ExtTreeMap Text Observed) (conditions : ExtTreeMap Text ConditionState) :
    List Text :=
  sortDedup (observed.keys ++ conditions.keys)

/-- Every condition through one pass. -/
def reconcileAll (config : Config) (now : Int) (readout : Readout)
    (conditions : ExtTreeMap Text ConditionState) : List (Text × Reconciled) :=
  (passIds readout.observed conditions).filterMap fun id =>
    let item := readout.observed[id]?
    -- new conditions come from observations
    (conditions[id]? <|> item.map ConditionState.fresh).map fun condition =>
      (id, reconcile config now readout.reports item condition)

/-! ## Planning intents -/

structure Planned where
  conditionId : Text
  role : Role
  action : Action
  operation : Operation
  retryOf : Option Text

/-- An intent file this pass writes. -/
structure Written where
  conditionId : Text
  role : Role
  intent : Intent

def Written.file (written : Written) : Text :=
  intentFileName written.intent.stableEventId written.role

/-- One condition's share of the planning: its new state, the files to write, the plan. -/
structure Share where
  condition : ConditionState
  written : List Written
  plan : List Planned

/-- A decision to plan intents for. -/
structure Work where
  conditionId : Text
  action : Action
  reason : ResolveReason
  /-- the held page of an active condition goes out now -/
  pageOnly : Bool

/-- The roles a decision goes to, with their routes. -/
def workRoles (config : Config) (rule : EffectiveRule) (condition : ConditionState) (work : Work) :
    List (Role × Text) :=
  let page := config.routes.pageRoute.toList.map fun route => (Role.page, route)
  match work.action with
  | .trigger =>
    if work.pageOnly then page
    else
      (if rule.class' = .page ∧ condition.pageDeferred = false then page else []) ++
        [(Role.notice, config.routes.noticeRoute)]
  | .resolve =>
    let roles := condition.lastIntent.entries.map fun entry => (entry.1, entry.2.route)
    if roles.isEmpty then [(Role.notice, config.routes.noticeRoute)] else roles

/-- The stable event and the transition of a decision. -/
def workIdentity (now : Int) (condition : ConditionState) (work : Work) : Text × Text :=
  let stableEventId := eventId condition.key work.action now
  let transitionId :=
    if work.pageOnly then eventId condition.key .trigger (condition.transitionAt.getD now)
    else stableEventId
  (stableEventId, transitionId)

/-- The intent of a decision for one role. -/
def workIntent (config : Config) (rule : EffectiveRule) (now : Int) (condition : ConditionState)
    (work : Work) (role : Role) (route : Text) : Intent :=
  let (stableEventId, transitionId) := workIdentity now condition work
  match role with
  | .page => intentV2 stableEventId transitionId work.action route
  | .notice => intentV1 rule stableEventId transitionId work.action work.reason route
      config.routes.noticeTransport.destinationLabel

/-- The record of an intent just written. -/
def workRecord (config : Config) (now : Int) (condition : ConditionState) (work : Work)
    (role : Role) (route : Text) : LastIntent :=
  let (stableEventId, transitionId) := workIdentity now condition work
  let schema := match role with
    | .page => IntentSchema.v2
    | .notice => .v1
  { stableEventId, transitionId, action := work.action, route, schema
    notificationId := none, outcome := "unknown"
    network := config.routes.delivers schema, attemptedAt := now
    intentFile := intentFileName stableEventId role }

/-- A new record takes its slot; a trigger NQ did not retain is kept to go first. -/
def ConditionState.record (condition : ConditionState) (role : Role) (last : LastIntent) :
    ConditionState :=
  let previous := condition.lastIntent.get role
  let condition := { condition with lastIntent := condition.lastIntent.set role (some last) }
  match previous with
  | none => condition
  | some previous =>
    if previous.action = .trigger ∧ previous.notificationId = none then
      { condition with pendingTrigger := condition.pendingTrigger.set role (some previous) }
    else condition

/-- Plan the intents of one decision. -/
def planWork (config : Config) (rule : EffectiveRule) (now : Int) (work : Work)
    (condition : ConditionState) : Share :=
  let roles := workRoles config rule condition work
  { condition := roles.foldl (fun next entry =>
      next.record entry.1 (workRecord config now condition work entry.1 entry.2)) condition
    written := roles.map fun entry =>
      ⟨work.conditionId, entry.1, workIntent config rule now condition work entry.1 entry.2⟩
    plan := roles.map fun entry => ⟨work.conditionId, entry.1, work.action, .submit, none⟩ }

/-- How a follow-up goes on: the new record, the file it writes and its plan entry. -/
structure FollowedUp where
  last : LastIntent
  written : Option Intent
  operation : Operation
  retryOf : Option Text

/-- `last` after a follow-up is planned. -/
def LastIntent.retried (last : LastIntent) (config : Config) (now : Int) : LastIntent :=
  { last with
    outcome := "unknown", network := config.routes.delivers last.schema, attemptedAt := now }

/-- The follow-up of one retained intent. -/
def followUpRole (config : Config) (now : Int) (files : ExtTreeMap Text Intent)
    (condition : ConditionState) (role : Role) (last : LastIntent) : Option FollowedUp :=
  match followUp last condition config with
  | none => none
  | some (operation, waits) =>
    let interval :=
      if operation = .resubmit then pageResendSeconds else resendIntervalSeconds
    if waits = true ∧ now - last.attemptedAt < interval then none
    else
      let stableEventId := eventId condition.key last.action now
      let file := files[last.intentFile]?
      match (if last.schema = .v2 then
          file.filter fun prior => prior.responseClass ≠ some .page else none) with
      -- retained before intents carried a response class: rendered again as a page
      | some prior =>
        let fresh := { prior.withEventId stableEventId with responseClass := some .page }
        some
          { last := ({ last with
              intentFile := intentFileName stableEventId role, stableEventId,
              notificationId := none } : LastIntent).retried config now
            written := some fresh, operation := .submit, retryOf := none }
      | none =>
        if operation = .submitAgain then
          some { last := last.retried config now, written := none,
                 operation, retryOf := none }
        else
          match file with
          -- a new record for the same condition: same bytes, new event id
          | some prior =>
            some
              { last := ({ last with
                  intentFile := intentFileName stableEventId role, stableEventId,
                  notificationId := none } : LastIntent).retried config now
                written := some (prior.withEventId stableEventId)
                operation := if operation = .resubmit ∧ last.notificationId = none
                  then .submitAgain else operation
                retryOf := last.notificationId }
          | none =>
            -- a page resubmission needs only NQ's record id
            if operation = .resubmit then
              some
                { last := ({ last with
                    stableEventId, notificationId := none } : LastIntent).retried config now
                  written := none
                  operation := if last.notificationId = none then .submitAgain else operation
                  retryOf := last.notificationId }
            else none

/-- The follow-ups of one condition, role by role. -/
def followUpsFrom (config : Config) (now : Int) (id : Text) (snapshot : ConditionState) :
    List Role → ExtTreeMap Text Intent → Share → Share
  | [], _, share => share
  | role :: rest, files, share =>
    match (snapshot.lastIntent.get role).bind
        (followUpRole config now files snapshot role) with
    | none => followUpsFrom config now id snapshot rest files share
    | some next =>
      let written := next.written.toList.map fun intent => (⟨id, role, intent⟩ : Written)
      followUpsFrom config now id snapshot rest
        (written.foldl (fun files written => files.insert written.file written.intent) files)
        { condition := { share.condition with
            lastIntent := share.condition.lastIntent.set role (some next.last) }
          written := share.written ++ written
          plan := share.plan ++
            [⟨id, role, next.last.action, next.operation, next.retryOf⟩] }

def planFollowUps (config : Config) (now : Int) (id : Text) (files : ExtTreeMap Text Intent)
    (condition : ConditionState) : Share :=
  followUpsFrom config now id condition [.notice, .page] files ⟨condition, [], []⟩

/-- What the planning has come to. -/
structure Planning where
  conditions : ExtTreeMap Text ConditionState
  files : ExtTreeMap Text Intent
  written : List Written
  plan : List Planned

def Planning.take (planning : Planning) (id : Text) (share : Share) : Planning :=
  { conditions := planning.conditions.insert id share.condition
    files := share.written.foldl
      (fun files written => files.insert written.file written.intent) planning.files
    written := planning.written ++ share.written
    plan := planning.plan ++ share.plan }

/-- Plan the intents of one decision, if its rule is still in the registry. -/
def Planning.work (config : Config) (now : Int) (planning : Planning) (work : Work) : Planning :=
  match planning.conditions[work.conditionId]? with
  | none => planning
  | some condition =>
    match ruleFor config.effectiveRules condition.key.rule with
    | none => planning
    | some rule => planning.take work.conditionId (planWork config rule now work condition)

/-- Plan the follow-ups of a condition that got no intent in this pass. -/
def Planning.followUps (config : Config) (now : Int) (transitioned : List Text)
    (planning : Planning) (id : Text) : Planning :=
  if id ∈ transitioned then planning
  else
    match planning.conditions[id]? with
    | none => planning
    | some condition =>
      planning.take id (planFollowUps config now id planning.files condition)

/-- Triggers that go before the resolve that replaced them. -/
def pendingPlan (conditions : ExtTreeMap Text ConditionState) : List Planned :=
  conditions.toList.flatMap fun entry =>
    entry.2.pendingTrigger.entries.map fun pending =>
      ⟨entry.1, pending.1, .trigger, .submitBeforeResolve, none⟩

/-- Triggers before resolves; within each, condition order. -/
def Planned.rank (planned : Planned) : Bool × (Text × Nat) :=
  (planned.action == .resolve, planned.conditionId,
    match planned.role with
    | .notice => 0
    | .page => 1)

def planBefore (left right : Planned) : Prop :=
  (compare left.rank right.rank).isLE = true

instance : DecidableRel planBefore := fun left right =>
  inferInstanceAs (Decidable ((compare left.rank right.rank).isLE = true))

/-- The decisions of a pass that intents are planned for: transitions, then held pages. -/
def workOf (reconciled : List (Text × Reconciled)) : List Work :=
  reconciled.filterMap (fun entry => entry.2.transition.map fun transition =>
      ⟨entry.1, transition.1, transition.2, false⟩) ++
    reconciled.filterMap fun entry =>
      if entry.2.pageDue then some ⟨entry.1, .trigger, .recovered, true⟩ else none

/-- Everything a pass plans, before it saves anything. -/
def planAll (config : Config) (now : Int) (files : ExtTreeMap Text Intent)
    (reconciled : List (Text × Reconciled)) : Planning :=
  let conditions := ExtTreeMap.ofList
    (reconciled.map fun entry => (entry.1, entry.2.condition))
  let work := workOf reconciled
  let planning := work.foldl (Planning.work config now) ⟨conditions, files, [], []⟩
  let planning := planning.conditions.keys.foldl
    (Planning.followUps config now (work.map Work.conditionId)) planning
  { planning with
    plan := (planning.plan ++ pendingPlan planning.conditions).insertionSort planBefore }

/-! ## Submission -/

/-- What `nq notification` answers. -/
structure SubmitOutcome where
  notificationId : Option Text
  /-- NQ's `delivery_state`, or `command_error` -/
  outcome : Text
  deriving DecidableEq

/-- The command NQ is called with. -/
inductive NqCommand where
  | submit (file route : Text)
  | deliverLocal (file route : Text)
  | resubmit (notificationId stableEventId : Text)
  deriving DecidableEq

/-- One submission attempt. -/
structure Submission where
  conditionId : Text
  role : Role
  action : Action
  operation : Operation
  stableEventId : Text
  transitionId : Text
  command : NqCommand
  deriving DecidableEq

/-- One effect of a pass on the outside. -/
inductive Effect where
  | writeIntent (written : Written)
  | saveState (state : State)
  | submit (submission : Submission) (answer : SubmitOutcome)
  | removeIntent (file : Text)

/-- The slots a planned submission reads and updates. -/
def Operation.slots (operation : Operation) (condition : ConditionState) : Slots :=
  if operation = .submitBeforeResolve then condition.pendingTrigger else condition.lastIntent

def submission (config : Config) (item : Planned) (last : LastIntent) : Submission :=
  { conditionId := item.conditionId, role := item.role, action := item.action
    operation := item.operation, stableEventId := last.stableEventId
    transitionId := last.transitionId
    command := match item.operation, item.retryOf with
      | .resubmit, some origin => .resubmit origin last.stableEventId
      | _, _ =>
        if config.routes.local last.schema then .deliverLocal last.intentFile last.route
        else .submit last.intentFile last.route }

/-- A record after NQ answered. -/
def LastIntent.answered (last : LastIntent) (answer : SubmitOutcome) (now : Int) : LastIntent :=
  { last with
    outcome := answer.outcome, attemptedAt := now
    notificationId := answer.notificationId <|> last.notificationId }

/-- A condition after NQ answered: a pending trigger is settled by the attempt. -/
def ConditionState.answered (condition : ConditionState) (item : Planned) (last : LastIntent)
    (answer : SubmitOutcome) (now : Int) : ConditionState :=
  if item.operation = .submitBeforeResolve then
    { condition with pendingTrigger := condition.pendingTrigger.set item.role none }
  else
    { condition with
      lastIntent := condition.lastIntent.set item.role (some (last.answered answer now)) }

/-- The submission loop: each attempt is followed by a save of the whole state. -/
def submitAll (config : Config) (now : Int) (answers : Nat → SubmitOutcome) :
    Nat → List Planned → State → List Effect × State
  | _, [], state => ([], state)
  | index, item :: rest, state =>
    match state.conditions[item.conditionId]? with
    | none => submitAll config now answers (index + 1) rest state
    | some condition =>
      match (item.operation.slots condition).get item.role with
      | none => submitAll config now answers (index + 1) rest state
      | some last =>
        let answer := answers index
        let answered := condition.answered item last answer now
        let next :=
          { state with conditions := state.conditions.insert item.conditionId answered }
        let later := submitAll config now answers (index + 1) rest next
        (.submit (submission config item last) answer :: .saveState next :: later.1,
          later.2)

/-- Whether a condition is still needed after a pass. -/
def ConditionState.kept (config : Config) (condition : ConditionState) : Bool :=
  condition.active || condition.firstSeen.isSome ||
    condition.lastIntent.entries.any (fun entry => (followUp entry.2 condition config).isSome) ||
    !condition.pendingTrigger.isEmpty

/-- The intent files a state refers to. -/
def State.intentFiles (state : State) : List Text :=
  state.conditions.values.flatMap fun condition =>
    (condition.lastIntent.entries ++ condition.pendingTrigger.entries).map fun entry =>
      entry.2.intentFile

/-- `prune_intents`: files the state does not refer to. -/
def pruned (files : ExtTreeMap Text Intent) (state : State) : List Text :=
  files.keys.filter fun file =>
    (Text.ofString ".json").bytes.isSuffixOf file.bytes && decide (file ∉ state.intentFiles)

/-! ## The pass -/

/-- What is on disk: the state file and the intent files. -/
structure Disk where
  state : Option State
  intents : ExtTreeMap Text Intent

/-- What a pass decided and did. -/
structure Pass where
  reports : List InputReport
  decided : List (Text × Action × ResolveReason)
  /-- conditions whose held page goes out -/
  pagesDue : List Text
  plan : List Planned
  effects : List Effect
  /-- the state after the last save -/
  state : State

/-- The remembered watcher rosters: a roster that was read replaces all others. -/
def rostersAfter (read : InputsRead) (state : State) : ExtTreeMap Text (ExtTreeMap Text Int) :=
  match read.nqWatchers with
  | some (label, roster) => (∅ : ExtTreeMap _ _).insert label roster
  | none => state.nqWatchers

/-- What a pass is given. -/
structure PassInput where
  config : Config
  now : Int
  readings : Source → Reading
  answers : Nat → SubmitOutcome

namespace PassInput

/-- Observations and final reports. -/
def readout (input : PassInput) (state : State) : Readout :=
  Attention.readout input.config state.conditions (readAll input.config input.readings)

/-- The conditions after reconciling. -/
def reconciled (input : PassInput) (state : State) : List (Text × Reconciled) :=
  reconcileAll input.config input.now (input.readout state) state.conditions

/-- The planning of a pass over the files on disk. -/
def planning (input : PassInput) (state : State) (files : ExtTreeMap Text Intent) : Planning :=
  planAll input.config input.now files (input.reconciled state)

/-- The state with the decisions and written intents, saved before any submission. -/
def saved (input : PassInput) (state : State) (files : ExtTreeMap Text Intent) : State :=
  { state with
    conditions := (input.planning state files).conditions
    nqWatchers := rostersAfter (readAll input.config input.readings) state
    updatedAt := input.now }

/-- The submissions and what they leave. -/
def submitted (input : PassInput) (state : State) (files : ExtTreeMap Text Intent) :
    List Effect × State :=
  submitAll input.config input.now input.answers 0 (input.planning state files).plan
    (input.saved state files)

/-- The state after the pass. -/
def final (input : PassInput) (state : State) (files : ExtTreeMap Text Intent) : State :=
  { (input.submitted state files).2 with
    conditions := (input.submitted state files).2.conditions.filter
      fun _ condition => condition.kept input.config
    updatedAt := input.now }

/-- The pass of a state and the files on disk. -/
def pass (input : PassInput) (state : State) (files : ExtTreeMap Text Intent) : Pass :=
  { reports := (input.readout state).reports
    decided := (input.reconciled state).filterMap fun entry =>
      entry.2.transition.map fun transition => (entry.1, transition)
    pagesDue := ((input.reconciled state).filter fun entry => entry.2.pageDue).map Prod.fst
    plan := (input.planning state files).plan
    effects := (input.planning state files).written.map .writeIntent ++
      .saveState (input.saved state files) :: (input.submitted state files).1 ++
      .saveState (input.final state files) ::
        (pruned (input.planning state files).files (input.final state files)).map .removeIntent
    state := input.final state files }

/-- `evaluate`. -/
def evaluate (input : PassInput) (disk : Disk) : Except Refusal Pass := do
  let state ← State.load disk.state input.config.site
  refuseIf (decide (input.now < state.updatedAt)) (.clockMovedBackwards input.now state.updatedAt)
  pure (input.pass state disk.intents)

end PassInput

/-! ## Effects on the disk -/

def Disk.apply (disk : Disk) : Effect → Disk
  | .writeIntent written =>
    { disk with intents := disk.intents.insert written.file written.intent }
  | .saveState state => { disk with state := some state }
  | .submit _ _ => disk
  | .removeIntent file => { disk with intents := disk.intents.erase file }

/-- The disk after some effects. -/
def Disk.after (disk : Disk) (effects : List Effect) : Disk := effects.foldl Disk.apply disk

end ConstellationMonitor.Attention
