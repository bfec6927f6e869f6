/-
  Attention/Inputs.lean --- what the configured inputs say in one pass.

  The readers turn documents of other programs into a status, fault classes and
  three-valued observations.  What a document says is a parameter here (`Reading`); how the
  readings of all inputs are put together is the evaluator's own and is modelled.
-/
import ConstellationMonitor.Attention.Config

namespace ConstellationMonitor.Attention

open Foundation
open Std (ExtTreeMap)

inductive Observation where
  /-- the rule's underlying state holds now -/
  | present
  /-- current qualified state says it does not hold -/
  | clear
  /-- no current qualified state -/
  | unknown
  /-- the rule, its input kind or the input label was removed from the configuration -/
  | removed
  deriving DecidableEq

inductive InputStatus where
  | ok
  | notCurrent
  | unavailable
  deriving DecidableEq

/-- The kinds of input a configuration can name. -/
inductive SourceKind where
  | hostPosture
  | nqStatus
  | nightshift
  | savedCheck
  deriving DecidableEq

/-- The component an input's own availability is reported under. -/
def SourceKind.component : SourceKind → Text
  | .hostPosture => "host_posture"
  | .nqStatus => "nq"
  | .nightshift => "nightshift"
  | .savedCheck => "nq"

/-- A configured input: its kind and its label. -/
structure Source where
  kind : SourceKind
  label : Text
  deriving DecidableEq

/-- The configured inputs, in reading order. -/
def Inputs.sources (inputs : Inputs) : List Source :=
  inputs.hostPosture.map (fun input => ⟨.hostPosture, input.label⟩) ++
    inputs.nqStatus.toList.map (fun input => ⟨.nqStatus, input.label⟩) ++
    inputs.nightshift.toList.map (fun input => ⟨.nightshift, input.label⟩) ++
    inputs.savedChecks.map (fun input => ⟨.savedCheck, input.reference⟩)

/-- Fault classes of an input, each keyed separately. -/
inductive FaultClass where
  | unreadable
  | stale
  | unrecognised
  | untargetable
  | indeterminate
  | unreported
  | empty
  deriving DecidableEq

def FaultClass.text : FaultClass → Text
  | .unreadable => "unreadable"
  | .stale => "stale"
  | .unrecognised => "unrecognised"
  | .untargetable => "untargetable"
  | .indeterminate => "indeterminate"
  | .unreported => "unreported"
  | .empty => "empty"

/-- `INPUT_CAUSES`. -/
def inputCauses : List FaultClass :=
  [.unreadable, .stale, .unrecognised, .untargetable, .indeterminate, .unreported, .empty]

/-- The rules whose state an input reports. -/
inductive SourceRule where
  | hostPostureUnknown
  | hostDisk
  | nqNoFreshAcquisition
  | serviceDown
  | memoryPressure
  | nightshiftRecurrenceMissing
  | sqliteHealth
  deriving DecidableEq

def SourceRule.id : SourceRule → Text
  | .hostPostureUnknown => "host-posture-unknown"
  | .hostDisk => "host-disk"
  | .nqNoFreshAcquisition => "nq-no-fresh-acquisition"
  | .serviceDown => "service-down"
  | .memoryPressure => "memory-pressure"
  | .nightshiftRecurrenceMissing => "nightshift-recurrence-missing"
  | .sqliteHealth => "sqlite-health"

/-- The component a reader files a rule under. -/
def SourceRule.component : SourceRule → Text
  | .hostPostureUnknown => "host_posture"
  | .hostDisk => "host_posture"
  | .nqNoFreshAcquisition => "nq"
  | .serviceDown => "service"
  | .memoryPressure => "host_posture"
  | .nightshiftRecurrenceMissing => "nightshift"
  | .sqliteHealth => "nq"

/-- Which reader reports a rule. -/
def SourceKind.reports : SourceKind → SourceRule → Bool
  | .hostPosture, .hostPostureUnknown => true
  | .hostPosture, .hostDisk => true
  | .hostPosture, .nqNoFreshAcquisition => true
  | .nqStatus, .serviceDown => true
  | .nqStatus, .hostDisk => true
  | .nqStatus, .memoryPressure => true
  | .nightshift, .nightshiftRecurrenceMissing => true
  | .savedCheck, .sqliteHealth => true
  | _, _ => false

structure Observed where
  key : ConditionKey
  inputLabel : Text
  observation : Observation

structure InputReport where
  label : Text
  kind : SourceKind
  status : InputStatus
  error : Option Text
  causes : List FaultClass

/-- `InputReport::fault`: record a fault class, the worse of the two statuses, and the
message. -/
def InputReport.fault (report : InputReport) (cause : FaultClass) (status : InputStatus)
    (message : Text) : InputReport :=
  { report with
    causes := if cause ∈ report.causes then report.causes else report.causes ++ [cause]
    status := if report.status = .ok ∨ status = .unavailable then status else report.status
    error := some (match report.error with
      | some error => if error.isEmpty then message else error ++ "; " ++ message
      | none => message) }

/-- One observation a reader has for a rule. -/
structure Push where
  rule : SourceRule
  targetClass : Option Text
  observation : Observation

/-- What reading one input gave. -/
structure Reading where
  status : InputStatus
  error : Option Text
  causes : List FaultClass
  pushes : List Push
  /-- evaluation-history mode: the updated watcher roster -/
  roster : Option (ExtTreeMap Text Int)

structure InputsRead where
  reports : List InputReport
  observed : List Observed
  nqWatchers : Option (Text × ExtTreeMap Text Int)

/-- A report without a fault class gets the one its status stands for. -/
def InputReport.completed (report : InputReport) : InputReport :=
  if report.causes.isEmpty then
    match report.status with
    | .unavailable => { report with causes := [.unreadable] }
    | .notCurrent => { report with causes := [.stale] }
    | .ok => report
  else report

/-- `push`: an observation of an enabled rule under a valid key. -/
def push (config : Config) (source : Source) (item : Push) : Option Observed :=
  match ruleFor config.effectiveRules item.rule.id with
  | none => none
  | some rule =>
    if rule.enabled then
      match ConditionKey.new config.site item.rule.component item.rule.id item.targetClass with
      | .ok key => some { key, inputLabel := source.label, observation := item.observation }
      | .error _ => none
    else none

/-- `read_all`. -/
def readAll (config : Config) (readings : Source → Reading) : InputsRead :=
  let sources := config.inputs.sources
  { reports := sources.map fun source =>
      let reading := readings source
      InputReport.completed
        { label := source.label, kind := source.kind, status := reading.status,
          error := reading.error, causes := reading.causes }
    observed := sources.flatMap fun source =>
      ((readings source).pushes.filter fun item => source.kind.reports item.rule).filterMap
        (push config source)
    nqWatchers := (sources.find? fun source => source.kind = .nqStatus).bind fun source =>
      (readings source).roster.map fun roster => (source.label, roster) }

/-! ## What the reports say -/

/-- A report that is not `ok` names a fault class. -/
def InputReport.Explained (report : InputReport) : Prop :=
  report.status ≠ .ok → report.causes ≠ []

theorem completed_explained (report : InputReport) : report.completed.Explained := by
  intro hstatus
  unfold InputReport.completed at hstatus ⊢
  split
  · rename_i hempty
    rw [if_pos hempty] at hstatus
    cases hreport : report.status <;> simp_all
  · rename_i hfull
    simpa using hfull

theorem fault_explained (report : InputReport) (cause : FaultClass) (status : InputStatus)
    (message : Text) : (report.fault cause status message).Explained := by
  intro _
  unfold InputReport.fault
  by_cases hmem : cause ∈ report.causes
  · simpa [hmem] using List.ne_nil_of_mem hmem
  · simp [hmem]

@[simp] theorem completed_label (report : InputReport) : report.completed.label = report.label := by
  unfold InputReport.completed
  split
  · cases report.status <;> rfl
  · rfl

@[simp] theorem completed_kind (report : InputReport) : report.completed.kind = report.kind := by
  unfold InputReport.completed
  split
  · cases report.status <;> rfl
  · rfl

/-- Every configured input has one report, in order. -/
theorem readAll_sources (config : Config) (readings : Source → Reading) :
    (readAll config readings).reports.map (fun report => (⟨report.kind, report.label⟩ : Source)) =
      config.inputs.sources := by
  simp [readAll, Function.comp_def]

/-- What an input observed is filed under a valid key of the site, for a rule an input of
its kind reports. -/
theorem mem_readAll_observed {config : Config} {readings : Source → Reading} {item : Observed}
    (h : item ∈ (readAll config readings).observed) :
    ∃ source ∈ config.inputs.sources, ∃ rule : SourceRule, source.kind.reports rule = true ∧
      item.inputLabel = source.label ∧ item.key.rule = rule.id ∧
      ∃ targetClass, ConditionKey.new config.site rule.component rule.id targetClass =
        .ok item.key := by
  simp only [readAll, List.mem_flatMap, List.mem_filterMap, List.mem_filter] at h
  obtain ⟨source, hsource, pushed, ⟨_, hreports⟩, hpush⟩ := h
  unfold push at hpush
  split at hpush
  · cases hpush
  · split at hpush
    · split at hpush
      · rename_i key hkey
        obtain rfl : item = _ := (Option.some.inj hpush).symm
        obtain ⟨_, _, _, _, rfl⟩ := (new_eq_ok _ _ _ _ _).mp hkey
        exact ⟨source, hsource, pushed.rule, hreports, rfl, rfl, pushed.targetClass, hkey⟩
      · cases hpush
    · cases hpush

end ConstellationMonitor.Attention
