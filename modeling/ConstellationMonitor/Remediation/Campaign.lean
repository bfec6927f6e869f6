/-
  Remediation/Campaign.lean --- retiring the prior campaign of the governed loop.

  AG's campaign store is the program counter.  Before an episode opens, the consumer reads
  AG's snapshot and moves the files of the prior campaign away, unless its authority is spent
  and not settled.
-/
import ConstellationMonitor.Remediation.Outside

namespace ConstellationMonitor.Remediation

open Foundation

/-! ## Snapshots -/

/-- `program_counter`: the one name under `state`. -/
def programCounter (snapshot : Json) : Option Text :=
  match (snapshot.get "state").bind Json.asObject with
  | some [(name, _)] => some name
  | _ => none

/-- `program_counter(..).unwrap_or_default()`. -/
def counterOr (snapshot : Json) : Text := (programCounter snapshot).getD ""

theorem programCounter_of_counterOr {snapshot : Json} {counter : Text}
    (h : counterOr snapshot = counter) (hcounter : counter ≠ "") :
    programCounter snapshot = some counter := by
  unfold counterOr at h
  cases hread : programCounter snapshot with
  | some read => rw [← h, hread, Option.getD_some]
  | none =>
    rw [hread, Option.getD_none] at h
    exact absurd h.symm hcounter

/-- `UNRESOLVED`: authority is spent but not settled. -/
def unresolved : List Text := ["authorization_consumed", "dispatched", "reconciliation_required"]

/-! ## Bookkeeping -/

/-- Read the clock and append to the journal. -/
def event (name token : Text) : Act (Except Text Unit) := do
  let _ ← now
  journal name token

/-! ## Retiring the prior campaign -/

/-- Move the listed files of the campaign to the archive. -/
def moveFiles (name : Text) : List (Except Text Text) → Act (Except Text Unit)
  | [] => pure (.ok ())
  | .error error :: _ => pure (.error error)
  | .ok file :: rest =>
    if name.bytes.isPrefixOf file.bytes then do
      let moved : Except Text Unit ← Dialogue.question (Ask.moveToArchive file)
      match moved with
      | .error error => pure (.error error)
      | .ok () => moveFiles name rest
    else moveFiles name rest

/-- Create the archive directory and move the campaign's files there. -/
def archive (config : Config) : Act (Except Text Unit) := do
  let time ← now
  let created : Except Text Unit ← Dialogue.question (Ask.createArchive time)
  match created with
  | .error error => pure (.error error)
  | .ok () => do
    let listed : Except Text (List (Except Text Text)) ← Dialogue.question Ask.listCampaign
    match listed with
    | .error error => pure (.error error)
    | .ok entries => moveFiles config.databaseName entries

/-- `retire_prior_campaign`: archive the previous campaign, or refuse. -/
def retirePriorCampaign (config : Config) : Act (Except Text Unit) := do
  if ← databaseExists then do
    match ← agStatus with
    | .error _ => pure (.error "prior_campaign_unreadable")
    | .ok snapshot =>
      if counterOr snapshot ∈ unresolved then pure (.error "prior_campaign_unresolved")
      else do
        match ← archive config with
        | .error _ => pure (.error "prior_campaign_unarchivable")
        | .ok () => do
          let _ ← event "campaign_archived" (counterOr snapshot)
          pure (.ok ())
  else pure (.ok ())

/-! ## What the helpers ask

Everything but AG's status reads, journals or prepares files.  Each helper is shown once to
ask nothing else. -/

/-- Questions that read, journal or prepare files. -/
def Ask.Neutral : Ask → Prop
  | .agStatus => False
  | _ => True

/-- The step asks only neutral questions. -/
abbrev Quiet {α : Type} (act : Act α) : Prop := Dialogue.Within Ask.Neutral act

theorem quiet_now : Quiet now := .question trivial

theorem quiet_event (name token : Text) : Quiet (event name token) :=
  quiet_now.bind fun _ => .question trivial

theorem quiet_moveFiles (name : Text) (entries : List (Except Text Text)) :
    Quiet (moveFiles name entries) := by
  induction entries with
  | nil => exact .done _
  | cons entry rest ih =>
    cases entry with
    | error error => exact .done _
    | ok file =>
      refine .ite (.bind (.question trivial) fun moved => ?_) ih
      cases moved with
      | error error => exact .done _
      | ok _ => exact ih

theorem quiet_archive (config : Config) : Quiet (archive config) := by
  refine quiet_now.bind fun time => .bind (.question trivial) fun created => ?_
  cases created with
  | error error => exact .done _
  | ok _ =>
    refine .bind (.question trivial) fun listed => ?_
    cases listed with
    | error error => exact .done _
    | ok entries => exact quiet_moveFiles config.databaseName entries

end ConstellationMonitor.Remediation
