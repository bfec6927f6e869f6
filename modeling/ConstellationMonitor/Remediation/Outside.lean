/-
  Remediation/Outside.lean --- what retiring a prior campaign asks of the outside: the clock,
  the journal, the campaign's files, and the governed loop's own program.

  The governed loop (AG) is another program: nothing is said about its answers here.
-/
import ConstellationMonitor.Foundation.Dialogue
import ConstellationMonitor.Foundation.Json

namespace ConstellationMonitor.Remediation

open Foundation

/-- The part of the configuration that the archiving of campaigns reads. -/
structure Config where
  /-- file name of the campaign database -/
  databaseName : Text

/-- A command that did not succeed. -/
structure Failure where
  /-- exit code, if the command ended by itself -/
  code : Option Int
  message : Text

/-! ## Questions -/

inductive Ask where
  /-- `now_ms` -/
  | clock
  /-- append to the journal -/
  | journal (event token : Text)
  | databaseExists
  /-- create the directory the campaign files are moved to -/
  | createArchive (nowMs : Nat)
  /-- list the directory of the campaign database -/
  | listCampaign
  | moveToArchive (file : Text)
  /-- `ag-loopctl status` -/
  | agStatus

/-- The kind of answer each question gets. -/
def Answer : Ask → Type
  | .clock => Nat
  | .journal _ _ => Except Text Unit
  | .databaseExists => Bool
  | .createArchive _ => Except Text Unit
  | .listCampaign => Except Text (List (Except Text Text))
  | .moveToArchive _ => Except Text Unit
  | .agStatus => Except Failure Json

/-- A step of a pass: it asks, and goes on with what it is told. -/
abbrev Act (α : Type) : Type := Dialogue Answer α

/-- `now_ms`. -/
def now : Act Nat := Dialogue.question Ask.clock

def journal (event token : Text) : Act (Except Text Unit) :=
  Dialogue.question (Ask.journal event token)

def databaseExists : Act Bool := Dialogue.question Ask.databaseExists

/-- `ag-loopctl status`. -/
def agStatus : Act (Except Failure Json) := Dialogue.question Ask.agStatus

end ConstellationMonitor.Remediation
