/-
  Evaluation/Reference.lean --- a small evaluator for statements about fixed inputs: one
  subject, one observation profile, observers of one signal, and runs given as lists of
  operations.
-/
import ConstellationMonitor.Evaluation.Runs
import ConstellationMonitor.Foundation.Wire

namespace ConstellationMonitor.Evaluation

open Foundation ConstellationMonitor.Types
open Std (ExtTreeMap)

/-! ## Runs as lists of operations -/

/-- The evaluator after a list of operations, if each of them was performed. -/
def afterAll (platform : Platform) (operations : List EvaluatorOperation) (evaluator : Evaluator) :
    Option Evaluator :=
  operations.foldlM (fun evaluator operation =>
    (operation.run platform evaluator).toOption.map Prod.snd) evaluator

theorem reached_of_afterAll {platform : Platform} {operations : List EvaluatorOperation}
    {first last : Evaluator} (h : afterAll platform operations first = some last)
    (reached : Reached platform first) : Reached platform last := by
  refine foldlM_keeps_some _ (fun start operation next hround hstart => ?_) h reached
  obtain ⟨⟨output, _⟩, hrun, rfl⟩ := Option.map_eq_some_iff.mp hround
  exact .step hstart (toOption_eq_some.mp hrun)

namespace Reference

/-- The bytes read as one number; the leading one keeps leading zeros apart. -/
def foldBytes : List UInt8 → Nat → Nat
  | [], number => number
  | byte :: rest, number => foldBytes rest (Nat.add (Nat.mul number 257) byte.toNat)

/-- A hash of 32 bytes that can be evaluated. -/
def sha256 : Sha256 where
  hash bytes := beBytes 32 (foldBytes bytes 1)
  length_hash bytes := length_beBytes 32 (foldBytes bytes 1)

/-- A digest with a name. -/
def digest (name : Text) : DigestV1 := digestParts sha256 name []

def platform : Platform where
  sha256 := sha256
  displayF64 _ := "0.2"
  custodyJson _ := []
  acceptanceReceiptJson _ := []
  lifecycleFactBodyJson _ := []

/-! ## Policies and pulses -/

def profile : ObservationProfileIdV1 := ⟨"profile", 1, digest "profile"⟩

/-- One observer of load, valid for at most 100 ms. -/
def policy (generation : Text) (tolerances : ExtTreeMap Text Float64) : ReliancePolicyV1 where
  schemaVersion := 1
  subject := "subject"
  scope := "host"
  consumer := "display"
  generation := ⟨generation⟩
  observationPolicyGeneration := "o1"
  observationProfile := profile
  requiredCoverage := ["load"]
  minimumObservers := 1
  maximumValidityMs := 100
  requireVerifiedAuthentication := true
  coherenceTolerances := tolerances
  observerFailureDomains := ∅
  escalation := none

/-- A frame that reports a load, before it is sealed. -/
def unsealed (observer : Text) (sequence : Nat) (load : Float64) : PulseFrameV1 where
  schemaVersion := 1
  subject := "subject"
  subjectIncarnation := "i1"
  observer := ⟨observer⟩
  observerIncarnation := "b1"
  sequence := sequence
  observerMonotonicNs := sequence
  validityMs := 100
  profile := profile
  observationPolicyGeneration := "o1"
  coverage := ⟨["load"], ["load"]⟩
  signals := [⟨"load", load, "ratio", .observed⟩]
  observationDigest := digest "unsealed"
  authentication := .mac "fixture" "key" "tag"

/-- A pulse that arrives without delay. -/
def pulse (observer : Text) (sequence : Nat) (load : Float64) (arrivalAt : Nat)
    (disposition : ArrivalDispositionV1) : ReceivedPulseV1 where
  frame := (unsealed observer sequence load).sealed sha256
  receiver :=
    { schemaVersion := 1
      receiver := "receiver"
      receiverIncarnation := "r1"
      clockId := "clock"
      arrivalMonotonicMs := arrivalAt
      disposition := disposition
      sequenceGap := none
      transportPath := "loopback"
      transportObservedDelayMs := some 0
      authentication := .verified "fixture" "observer" }

/-- Taking a pulse in at the time it arrives. -/
def arrival (observer : Text) (sequence : Nat) (load : Float64) (arrivalAt : Nat)
    (disposition : ArrivalDispositionV1) : EvaluatorOperation :=
  .call (.ingest (pulse observer sequence load arrivalAt disposition)) arrivalAt

/-- The evaluator of a policy after a list of operations. -/
def runs (policy : ReliancePolicyV1) (operations : List EvaluatorOperation) :
    Option Evaluator :=
  (Evaluator.new policy "receiver" "r1" "clock" "i1").toOption.bind
    (afterAll platform operations)

theorem reached_of_runs {policy : ReliancePolicyV1} {operations : List EvaluatorOperation}
    {evaluator : Evaluator} (h : runs policy operations = some evaluator) :
    Reached platform evaluator := by
  obtain ⟨first, hfirst, hafter⟩ := Option.bind_eq_some_iff.mp h
  exact reached_of_afterAll hafter (.new (toOption_eq_some.mp hfirst))

/-- A new evaluator. -/
def fresh : Evaluator := .initial (policy "p1" ∅) "receiver" "r1" "clock" "i1"

theorem new_fresh : Evaluator.new (policy "p1" ∅) "receiver" "r1" "clock" "i1" = .ok fresh := by
  have hvalid : (policy "p1" ∅).validate = .ok () := by decide +kernel
  simp only [Evaluator.new, check_bind_eq_ok, mapError_eq_ok]
  exact ⟨hvalid, by decide +kernel, by decide +kernel, by decide +kernel, by decide +kernel, rfl⟩

/-- The evaluator after a run that passes a test. -/
def runsTo (policy : ReliancePolicyV1) (operations : List EvaluatorOperation)
    (test : Evaluator → Bool) : Option Evaluator :=
  (runs policy operations).filter test

theorem runsTo_get {policy : ReliancePolicyV1} {operations : List EvaluatorOperation}
    {test : Evaluator → Bool} (h : (runsTo policy operations test).isSome = true) :
    Reached platform ((runsTo policy operations test).get h) ∧
      test ((runsTo policy operations test).get h) = true := by
  have hget := (Option.some_get h).symm
  obtain ⟨hrun, htest⟩ := Option.filter_eq_some_iff.mp hget
  exact ⟨reached_of_runs hrun, htest⟩

end Reference

end ConstellationMonitor.Evaluation
