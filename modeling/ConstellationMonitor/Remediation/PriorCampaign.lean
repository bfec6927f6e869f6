/-
  Remediation/PriorCampaign.lean --- when a prior campaign is retired.

  Before an episode opens, the files of the previous campaign are moved away.  Whether that
  may be done is read off AG's snapshot by a list of program counters at which it may not, so
  a snapshot without a program counter is one at which it may.
-/
import ConstellationMonitor.Remediation.Campaign

namespace ConstellationMonitor.Remediation

open Foundation

/-- Some file of the campaign is asked to be moved. -/
def Moves (exchanges : List (Exchange Answer)) : Prop :=
  ∃ exchange ∈ exchanges, ∃ file, exchange.question = .moveToArchive file

/-- The prior campaign does not stand in the way of a new episode. -/
def Retired (result : Option (Except Text Unit)) : Prop := result = some (.ok ())

/-- The campaign database is there and AG answers its status with `answer`. -/
def Finds (answer : Except Failure Json) : Exchange Answer → Prop
  | ⟨.databaseExists, found⟩ => found = true
  | ⟨.agStatus, given⟩ => given = answer
  | _ => True

/-- A snapshot whose program counter is not on the list. -/
def Unlisted (answer : Except Failure Json) : Prop :=
  ∃ snapshot, answer = .ok snapshot ∧ counterOr snapshot ∉ unresolved

/-- Files are moved only after an unlisted snapshot. -/
def retiring (answer : Except Failure Json) : Protocol Answer Unit where
  next _ _ := ()
  rely _ exchange := Finds answer exchange
  guarantee _ exchange := (∃ file, exchange.question = .moveToArchive file) → Unlisted answer

/-- Once the snapshot is unlisted, whatever is neutral may be asked. -/
theorem keeps_of_unlisted {α : Type} {answer : Except Failure Json} (hunlisted : Unlisted answer)
    {act : Act α} (h : Quiet act) : act.Keeps (retiring answer) () fun _ _ => Unlisted answer :=
  h.keeps (fun _ => Unlisted answer) hunlisted fun _ _ _ _ _ => ⟨fun _ => hunlisted, hunlisted⟩

/-- Files are moved, and the campaign counts as retired, only on an unlisted snapshot. -/
theorem retirePriorCampaign_keeps (answer : Except Failure Json) (config : Config) :
    (retirePriorCampaign config).Keeps (retiring answer) ()
      fun value _ => value = .ok () → Unlisted answer := by
  refine Dialogue.keeps_question.mpr fun found hfound => ?_
  obtain rfl : found = true := hfound
  refine ⟨fun ⟨_, h⟩ => Ask.noConfusion h, ?_⟩
  rw [if_pos rfl]
  refine Dialogue.keeps_question.mpr fun given hgiven => ?_
  obtain rfl : given = answer := hgiven
  refine ⟨fun ⟨_, h⟩ => Ask.noConfusion h, ?_⟩
  cases given with
  | error failure =>
    intro h
    cases h
  | ok snapshot =>
    rw [Dialogue.keeps_ite]
    refine ⟨fun _ h => (by cases h), fun hlisted => ?_⟩
    have hunlisted : Unlisted (.ok snapshot) := ⟨snapshot, rfl, hlisted⟩
    refine (keeps_of_unlisted hunlisted ((quiet_archive config).bind fun moved => ?_)).mono
      fun _ _ _ _ => hunlisted
    cases moved with
    | error error => exact .done _
    | ok _ => exact (quiet_event _ _).bind fun _ => .done _

/-- The run in which the campaign's one file is moved. -/
def archivingRun (config : Config) (snapshot : Json) : List (Exchange Answer) :=
  [⟨.databaseExists, true⟩, ⟨.agStatus, (.ok snapshot : Except Failure Json)⟩,
    ⟨.clock, (0 : Nat)⟩, ⟨.createArchive 0, (.ok () : Except Text Unit)⟩,
    ⟨.listCampaign, (.ok [.ok config.databaseName] : Except Text (List (Except Text Text)))⟩,
    ⟨.moveToArchive config.databaseName, (.ok () : Except Text Unit)⟩, ⟨.clock, (0 : Nat)⟩,
    ⟨.journal "campaign_archived" (counterOr snapshot), (.ok () : Except Text Unit)⟩]

/-- An unlisted snapshot is enough to retire the campaign. -/
theorem retire_of_unlisted {snapshot : Json} (hlisted : counterOr snapshot ∉ unresolved)
    (config : Config) :
    (retirePriorCampaign config).Follows (archivingRun config snapshot) (some (.ok ())) := by
  refine .ask (.ask ?_)
  dsimp only [Dialogue.bind]
  rw [if_neg hlisted]
  refine .ask (.ask (.ask ?_))
  dsimp only [Dialogue.bind, moveFiles]
  rw [if_pos (by simp)]
  exact .ask (.ask (.ask (.done _)))

theorem archivingRun_finds (config : Config) (snapshot : Json) :
    ∀ exchange ∈ archivingRun config snapshot, Finds (.ok snapshot) exchange := by
  simp only [archivingRun, Finds, List.forall_mem_cons, true_and]
  exact ⟨rfl, rfl, by simp⟩

/-- A listed counter was read off the snapshot. -/
theorem programCounter_of_listed {snapshot : Json} (h : counterOr snapshot ∈ unresolved) :
    programCounter snapshot = some (counterOr snapshot) := by
  refine programCounter_of_counterOr rfl ?_
  rintro hempty
  rw [hempty] at h
  exact absurd h (by decide)

/-- For whatever program counters are called known, the listed ones among them: with the
database there and AG's status answered with `answer`, files are moved or the campaign counts
as retired only at a known counter that is not listed, exactly if `answer` is an error or a
snapshot with a known counter. -/
theorem retire_requires_counter_iff (config : Config) (known : Text → Prop)
    (hknown : ∀ counter ∈ unresolved, known counter) (answer : Except Failure Json) :
    (∀ exchanges result, (retirePriorCampaign config).Follows exchanges result →
      (∀ exchange ∈ exchanges, Finds answer exchange) → Moves exchanges ∨ Retired result →
      ∃ snapshot counter, answer = .ok snapshot ∧ programCounter snapshot = some counter ∧
        known counter ∧ counter ∉ unresolved) ↔ ∀ snapshot, answer = .ok snapshot →
        ∃ counter, programCounter snapshot = some counter ∧ known counter := by
  constructor
  · rintro h snapshot rfl
    by_cases hlisted : counterOr snapshot ∈ unresolved
    · exact ⟨_, programCounter_of_listed hlisted, hknown _ hlisted⟩
    · obtain ⟨found, counter, hfound, hcounter, hcounterKnown, _⟩ := h _ _
        (retire_of_unlisted hlisted config) (archivingRun_finds config snapshot)
        (.inr rfl)
      cases hfound
      exact ⟨counter, hcounter, hcounterKnown⟩
  · intro h exchanges result hrun hfinds hretired
    have hrely : (retiring answer).Along (retiring answer).rely () exchanges :=
      (retiring answer).along_of_forall fun before exchange later hsplit =>
        hfinds exchange (by rw [hsplit]; simp)
    obtain ⟨halong, hend⟩ := (retirePriorCampaign_keeps answer config).along hrun hrely
    have hunlisted : Unlisted answer := by
      rcases hretired with ⟨exchange, hmem, hfile⟩ | rfl
      · obtain ⟨before, later, rfl⟩ := List.append_of_mem hmem
        exact Protocol.Along.at _ halong hfile
      · exact hend _ rfl rfl
    obtain ⟨snapshot, rfl, hlisted⟩ := hunlisted
    obtain ⟨counter, hcounter, hcounterKnown⟩ := h snapshot rfl
    refine ⟨snapshot, counter, rfl, hcounter, hcounterKnown, ?_⟩
    simpa [counterOr, hcounter] using hlisted

namespace Reference

def config : Config := ⟨"campaign.db"⟩

/-- The program counters `drive` knows. -/
def counters : List Text :=
  ["observation_required", "proposal_recorded", "standing_required",
    "admissible_pending_authorization", "authorization_consumed", "dispatched",
    "reconciliation_required", "settled_observation_required", "halted", "completed"]

/-- The snapshot of a completed campaign. -/
def completedSnapshot : Json := .object [("state", .object [("completed", .object [])])]

/-- A completed campaign is retired on its program counter. -/
theorem retire_requires_counter_completed :
    programCounter completedSnapshot = some (Text.ofString "completed") ∧
      ∀ exchanges result, (retirePriorCampaign config).Follows exchanges result →
        (∀ exchange ∈ exchanges, Finds (.ok completedSnapshot) exchange) →
        Moves exchanges ∨ Retired result →
        ∃ snapshot counter, (.ok completedSnapshot : Except Failure Json) = .ok snapshot ∧
          programCounter snapshot = some counter ∧ counter ∈ counters ∧ counter ∉ unresolved := by
  have hcounter : programCounter completedSnapshot = some (Text.ofString "completed") := by decide
  refine ⟨hcounter, (retire_requires_counter_iff config (· ∈ counters) (by decide)
    (.ok completedSnapshot)).mpr ?_⟩
  rintro snapshot ⟨rfl⟩
  exact ⟨_, hcounter, by decide⟩

/-- A snapshot without any program counter lets the campaign's files be moved and a new episode
open. -/
theorem nameless_snapshot_retired : programCounter (.object []) = none ∧
      ∃ exchanges result, (retirePriorCampaign config).Follows exchanges result ∧
        (∀ exchange ∈ exchanges, Finds (.ok (.object [])) exchange) ∧
        Moves exchanges ∧ Retired result := by
  refine ⟨rfl, archivingRun config (.object []), _, retire_of_unlisted (by decide) config,
    archivingRun_finds config (.object []), ⟨⟨.moveToArchive config.databaseName,
      (.ok () : Except Text Unit)⟩, ?_, config.databaseName, rfl⟩, rfl⟩
  simp [archivingRun]

end Reference

end ConstellationMonitor.Remediation
