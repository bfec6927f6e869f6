/-
  Attention/Config.lean --- the evaluator's configuration, its validation, and the rules
  after the configuration's overrides.
-/
import ConstellationMonitor.Attention.Condition

namespace ConstellationMonitor.Attention

open Foundation
open Std (ExtTreeMap)

/-! ## Values -/

/-- `Path::is_absolute`. -/
def isAbsolute (path : Text) : Bool := path.bytes.head? == some 0x2f

/-- The components of a path: what stands between slashes, without empty parts and `.`. -/
def pathComponents (path : Text) : List (List UInt8) :=
  (path.bytes.splitOn 0x2f).filter fun part => part != [] && part != [0x2e]

/-- `Path::file_name().is_none()`: the path names no file. -/
def namesNoFile (path : Text) : Bool :=
  match (pathComponents path).getLast? with
  | none => true
  | some last => last == [0x2e, 0x2e]

/-- Whether encoded text contains white space. -/
def bytesHaveWhitespace : List UInt8 → Bool
  | [] => false
  | byte :: rest =>
    (decide (0x09 ≤ byte) && decide (byte ≤ 0x0d)) || byte == 0x20 ||
      (byte == 0xc2 && (rest.head? == some 0x85 || rest.head? == some 0xa0)) ||
      (byte == 0xe1 && rest.take 2 == [0x9a, 0x80]) ||
      (byte == 0xe2 && (match rest with
        | 0x80 :: last :: _ => (decide (0x80 ≤ last) && decide (last ≤ 0x8a)) ||
            last == 0xa8 || last == 0xa9 || last == 0xaf
        | 0x81 :: last :: _ => last == 0x9f
        | _ => false)) ||
      (byte == 0xe3 && rest.take 2 == [0x80, 0x80]) ||
      bytesHaveWhitespace rest

def maxThresholdSeconds : Int := 7 * 24 * 3600

def minWindowSeconds : Int := 60

def maxWindowSeconds : Int := 600

/-- `LOCAL_ROUTE_MAX`. -/
def localRouteMax : Nat := 128

/-- The schema of an intent: `v1` for notices, `v2` for pages. -/
inductive IntentSchema where
  | v1
  | v2
  deriving DecidableEq

/-! ## The configuration -/

structure RemediationTarget where
  rule : Text
  targetClass : Text
  policy : ResponsePolicy
  windowSeconds : Int

structure Runbooks where
  cartographyUrl : Option Text
  monitorUrl : Option Text

structure NqProgram where
  program : Text
  config : Text

inductive NoticeTransport where
  | slack
  | discord
  | localFile
  deriving DecidableEq

/-- `NoticeTransport::destination_label`. -/
def NoticeTransport.destinationLabel : NoticeTransport → Text
  | .slack => "slack"
  | .discord => "discord"
  | .localFile => "local-inbox"

structure Routes where
  noticeRoute : Text
  noticeTransport : NoticeTransport
  pageRoute : Option Text
  networkEnabled : Bool

/-- `Routes::local`: whether intents of the schema go to the local inbox. -/
def Routes.local (routes : Routes) (schema : IntentSchema) : Bool :=
  routes.noticeTransport == .localFile && schema == .v1

/-- `Routes::delivers`: whether a submission of the schema can deliver. -/
def Routes.delivers (routes : Routes) (schema : IntentSchema) : Bool :=
  routes.networkEnabled || routes.local schema

structure HostPostureInput where
  label : Text
  publicationRoot : Text

inductive NqStatusSource where
  | statusExport
  | evaluationHistory
  deriving DecidableEq

structure NqStatusInput where
  label : Text
  source : NqStatusSource
  windowRecords : Nat
  command : Option (List Text)
  path : Option Text
  maxAgeSeconds : Int
  staleAfterSeconds : Int

structure NightshiftInput where
  label : Text
  storePath : Text

structure SavedCheckInput where
  reference : Text
  command : Option (List Text)
  path : Option Text
  maxAgeSeconds : Int

structure Inputs where
  hostPosture : List HostPostureInput
  nqStatus : Option NqStatusInput
  nightshift : Option NightshiftInput
  savedChecks : List SavedCheckInput

structure RuleOverride where
  enabled : Option Bool
  thresholdSeconds : Option Int
  class' : Option Class

structure Config where
  schema : Text
  site : Text
  statePath : Text
  commandTimeoutSeconds : Nat
  runbooks : Runbooks
  nq : NqProgram
  routes : Routes
  inputs : Inputs
  rules : ExtTreeMap Text RuleOverride
  targets : List RemediationTarget

/-! ## Validation -/

def absolute (label path : Text) : Except Text Unit :=
  refuseIf (!isAbsolute path) (label ++ " must be an absolute path")

def routeReference (label value : Text) : Except Text Unit :=
  refuseIf (value.isEmpty || decide (value.length > 256) || value.hasControl)
    (label ++ " must be 1..=256 non-control bytes")

def source (label : Text) (command : Option (List Text)) (path : Option Text) :
    Except Text Unit :=
  match command, path with
  | some argv, none =>
    match argv with
    | [] => .error (label ++ ".command must not be empty")
    | program :: _ => refuseIf (!isAbsolute program || decide (argv.length > 32)) (label ++
        ".command must start with an absolute program and have at most 32 arguments")
  | none, some path => absolute (label ++ ".path") path
  | _, _ => .error (label ++ " needs exactly one of command or path")

def age (label : Text) (value : Int) : Except Text Unit :=
  refuseIf (!(decide (1 ≤ value) && decide (value ≤ maxThresholdSeconds)))
    (label ++ " must be 1..=604800")

/-- The `label` closure of `validate`: a token, used once. -/
def admitLabel (labels : List Text) (label : Text) : Except Text (List Text) := do
  validateToken "input label" label 34
  refuseIf (decide (label ∈ labels)) ("input label " ++ quoted label ++ " is used twice")
  pure (label :: labels)

def validateRunbook (url : Text) : Except Text Unit :=
  refuseIf (!((Text.ofString "https://").bytes.isPrefixOf url.bytes) ||
      decide (url.length > 900) || url.bytes.contains 0x23 || url.hasControl ||
      bytesHaveWhitespace url.bytes)
    "runbook URLs must be https, without a fragment, at most 900 bytes"

def validateOverride (id : Text) (value : RuleOverride) : Except Text Unit :=
  match rule id with
  | none => .error ("unknown rule " ++ quoted id)
  | some rule => do
    refuseIf (rule.disabled.isSome && value.enabled == some true)
      ("rule " ++ id ++ " cannot be enabled: " ++ rule.disabled.getD "")
    refuseIf (value.class' == some .page && rule.responseClass != .page)
      ("rule " ++ id ++ " may not page: its response class is " ++
        (match rule.responseClass with
          | .informational => "informational"
          | .attention => "attention"
          | .page => "page"))
    match value.thresholdSeconds with
    | some threshold => age ("rules." ++ id ++ ".threshold_seconds") threshold
    | none => pure ()

def validateTarget (targets : List (Text × Text)) (target : RemediationTarget) :
    Except Text (List (Text × Text)) :=
  match rule target.rule with
  | none => .error ("remediation target names unknown rule " ++ quoted target.rule)
  | some rule => do
    refuseIf (decide (rule.id ∉ remediationRules) || rule.responseClass != .page)
      ("rule " ++ rule.id ++ " cannot carry remediation targets (only " ++
        Text.join ", " remediationRules ++ ")")
    validateToken "remediation target_class" target.targetClass 48
    refuseIf (target.policy != .autoRemediateThenPage) ("remediation target " ++
      target.targetClass ++
      " policy must be auto_remediate_then_page (observe_only is the default)")
    refuseIf (!(decide (minWindowSeconds ≤ target.windowSeconds) &&
        decide (target.windowSeconds ≤ maxWindowSeconds)))
      ("remediation target " ++ target.targetClass ++ " window_seconds must be 60..=600")
    refuseIf (decide ((target.rule, target.targetClass) ∈ targets))
      ("remediation target " ++ target.rule ++ " " ++ target.targetClass ++ " is listed twice")
    pure ((target.rule, target.targetClass) :: targets)

def configSchema : Text := "constellation.attention_config.v1"

def validateHostPosture (labels : List Text) (input : HostPostureInput) :
    Except Text (List Text) := do
  let labels ← admitLabel labels input.label
  absolute "host_posture.publication_root" input.publicationRoot
  pure labels

def validateNqStatus (labels : List Text) (input : NqStatusInput) : Except Text (List Text) := do
  let labels ← admitLabel labels input.label
  source "nq_status" input.command input.path
  age "nq_status.max_age_seconds" input.maxAgeSeconds
  age "nq_status.stale_after_seconds" input.staleAfterSeconds
  refuseIf (input.source == .evaluationHistory && input.command.isNone)
    "nq_status source evaluation_history needs a command (the nq argv up to --json)"
  refuseIf (input.source == .evaluationHistory &&
      !(decide (50 ≤ input.windowRecords) && decide (input.windowRecords ≤ 5000)))
    "nq_status.window_records must be 50..=5000"
  pure labels

def validateNightshift (labels : List Text) (input : NightshiftInput) :
    Except Text (List Text) := do
  let labels ← admitLabel labels input.label
  absolute "nightshift.store_path" input.storePath
  pure labels

def validateSavedCheck (labels : List Text) (input : SavedCheckInput) :
    Except Text (List Text) := do
  let labels ← admitLabel labels input.reference
  source "saved_checks" input.command input.path
  age "saved_checks.max_age_seconds" input.maxAgeSeconds
  pure labels

/-- The inputs of a configuration, in the order `validate` and `read_all` visit them. -/
def validateInputs (inputs : Inputs) : Except Text (List Text) := do
  let labels ← inputs.hostPosture.foldlM validateHostPosture []
  let labels ← inputs.nqStatus.toList.foldlM validateNqStatus labels
  let labels ← inputs.nightshift.toList.foldlM validateNightshift labels
  inputs.savedChecks.foldlM validateSavedCheck labels

def validateRoutes (routes : Routes) : Except Text Unit := do
  routeReference "routes.notice_route" routes.noticeRoute
  refuseIf (routes.noticeTransport == .localFile &&
      decide (routes.noticeRoute.length > localRouteMax))
    "a local_file notice_route must be at most 128 bytes so its rendered message fits NQ's 4 KiB limit"
  match routes.pageRoute with
  | some page => do
    routeReference "routes.page_route" page
    refuseIf (decide (page = routes.noticeRoute))
      "page_route and notice_route must be different NQ routes"
  | none => pure ()

namespace Config

/-- `Config::validate`. -/
def validate (config : Config) : Except Text Unit := do
  refuseIf (decide (config.schema ≠ configSchema)) ("schema must be " ++ configSchema)
  validateToken "site" config.site 64
  absolute "state_path" config.statePath
  refuseIf (namesNoFile config.statePath) "state_path must name a file"
  refuseIf (!(decide (1 ≤ config.commandTimeoutSeconds) &&
      decide (config.commandTimeoutSeconds ≤ 600)))
    "command_timeout_seconds must be 1..=600"
  forM (config.runbooks.cartographyUrl.toList ++ config.runbooks.monitorUrl.toList)
    validateRunbook
  absolute "nq.program" config.nq.program
  absolute "nq.config" config.nq.config
  validateRoutes config.routes
  let _ ← validateInputs config.inputs
  forM config.rules.toList fun entry => validateOverride entry.1 entry.2
  let _ ← config.targets.foldlM validateTarget []
  pure ()

end Config

/-! ## Effective rules -/

/-- A rule after applying the configuration's bounded overrides. -/
structure EffectiveRule where
  rule : Rule
  enabled : Bool
  class' : Class
  thresholdSeconds : Int

/-- `EffectiveRule::persistence_seconds`. -/
def EffectiveRule.persistenceSeconds (rule : EffectiveRule) : Int :=
  match rule.rule.thresholdMeaning with
  | .persistence => rule.thresholdSeconds
  | .age => rule.rule.fixedPersistenceSeconds

namespace Config

/-- `Config::effective_rules`, for one rule of the registry. -/
def effective (config : Config) (rule : Rule) : EffectiveRule :=
  let value : RuleOverride :=
    config.rules[rule.id]?.getD { enabled := none, thresholdSeconds := none, class' := none }
  { rule,
    enabled := rule.disabled.isNone && value.enabled.getD true,
    class' := value.class'.getD rule.defaultClass,
    thresholdSeconds := value.thresholdSeconds.getD rule.defaultThresholdSeconds }

/-- `Config::effective_rules`. -/
def effectiveRules (config : Config) : List EffectiveRule :=
  Attention.rules.map config.effective

/-- `Config::remediation_target`. -/
def remediationTarget (config : Config) (rule : Text) (targetClass : Option Text) :
    Option RemediationTarget :=
  config.targets.find? fun target =>
    target.rule = rule && decide (some target.targetClass = targetClass)

/-- `Config::response_policy`: a condition's effective response policy and window. -/
def responsePolicy (config : Config) (rule : Text) (targetClass : Option Text) :
    ResponsePolicy × Option Int :=
  match config.remediationTarget rule targetClass with
  | none => (((Attention.rule rule).map Rule.responsePolicy).getD .observeOnly, none)
  | some target => (target.policy, some target.windowSeconds)

/-- `Config::has_input`. -/
def hasInput (config : Config) : InputKind → Bool
  | .hostPosture => !config.inputs.hostPosture.isEmpty
  | .nqStatus => config.inputs.nqStatus.isSome
  | .hostPostureOrNqStatus => !config.inputs.hostPosture.isEmpty || config.inputs.nqStatus.isSome
  | .nightshift => config.inputs.nightshift.isSome
  | .savedCheck => !config.inputs.savedChecks.isEmpty
  | .evaluator => true
  | .notDeployed => false

end Config

/-- `rule_for`. -/
def ruleFor (rules : List EffectiveRule) (id : Text) : Option EffectiveRule :=
  rules.find? fun rule => rule.rule.id = id

/-- The effective form of a registry rule is found under its id. -/
theorem ruleFor_effectiveRules (config : Config) (id : Text) :
    ruleFor config.effectiveRules id = (rule id).map config.effective := by
  unfold ruleFor Config.effectiveRules rule
  rw [List.find?_map]
  rfl

end ConstellationMonitor.Attention
