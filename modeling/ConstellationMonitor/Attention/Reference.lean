/-
  Attention/Reference.lean --- a small deployment, after the fixtures of
  `constellation-attention/tests/evaluator.rs`: one site, a notice and a page route, and the
  inputs a statement needs.
-/
import ConstellationMonitor.Attention.Engine

namespace ConstellationMonitor.Attention.Reference

open Foundation Attention
open Std (ExtTreeMap)

def routes : Routes :=
  { noticeRoute := "ops-slack", noticeTransport := .slack, pageRoute := some "ops-pagerduty"
    networkEnabled := true }

def hostPosture : HostPostureInput := { label := "root", publicationRoot := "/var/lib/status" }

def nqStatus : NqStatusInput :=
  { label := "nq", source := .statusExport, windowRecords := 300, command := none
    path := some "/run/nq/status.json", maxAgeSeconds := 300, staleAfterSeconds := 180 }

def config (inputs : Inputs) (targets : List RemediationTarget) : Config :=
  { schema := configSchema, site := "lab", statePath := "/var/lib/attention/state.json"
    commandTimeoutSeconds := 90, runbooks := ⟨none, none⟩
    nq := { program := "/usr/bin/nq", config := "/etc/nq/nqd-ops.toml" }
    routes, inputs, rules := ∅, targets }

/-- The NQ status input alone. -/
def nqOnly : Inputs :=
  { hostPosture := [], nqStatus := some nqStatus, nightshift := none, savedChecks := [] }

/-- One host-posture input alone. -/
def hostOnly : Inputs :=
  { hostPosture := [hostPosture], nqStatus := none, nightshift := none, savedChecks := [] }

/-- A host-posture input and the NQ status input. -/
def both : Inputs :=
  { hostPosture := [hostPosture], nqStatus := some nqStatus, nightshift := none, savedChecks := [] }

/-- An input that was read and is current. -/
def current (pushes : List Push) : Reading :=
  { status := .ok, error := none, causes := [], pushes, roster := none }

/-- NQ accepts every submission. -/
def accepting : Nat → SubmitOutcome := fun _ => ⟨some "n-1", "accepted"⟩

end ConstellationMonitor.Attention.Reference
