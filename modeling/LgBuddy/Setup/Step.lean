import LgBuddy.Settings.ConfigEnv
import LgBuddy.Settings.Intent
import LgBuddy.Setup.Snapshot

/-!
# LgBuddy — setup steps

The steps of setup and what they answer, from `setup.rs`, `setup/flow.rs` and
`setup/assessment.rs`. The same answers are used for inspection and execution.

* `StepResponse` — what a step answers, with the recovery facts that go with it;
* `SetupAssessment` — one inspection of all steps;
* `SetupSnapshot.fromAssessment` — what the daemon publishes of it.
-/

namespace LgBuddy

structure PairingRequest where
  address : Ipv4Addr
  mac : MacAddress
  input : HdmiInput
  deriving DecidableEq

structure StepFailure where
  presentation : UserFacingError
  diagnostic : String
  recovery : SetupRecovery
  retryable : Bool
  deriving DecidableEq

/-- A revision is the SHA-256 digest of the configuration that was read. -/
inductive StepInput where
  | correctTv (address mac : String) (input : HdmiInput) (revision : List UInt8)
  | updatePreference (revision : List UInt8)
  | pairing (saved : Option PairingRequest)
  | buildDependencies (explanation : String)
  deriving DecidableEq

inductive StepResponse where
  | complete
  | notApplicable
  | inputRequired (input : StepInput)
  | actionRequired (explanation : String) (requiresAuthorization : Bool)
  | running (message : String) (cancelable : Bool)
  | cancelled
  | blocked (failure : StepFailure)
  | failed (failure : StepFailure)
  deriving DecidableEq

def SetupRecovery.needsAttention (recovery : SetupRecovery) : Bool := recovery.cause ≠ .busy

def StepResponse.recovery : StepResponse → Option SetupRecovery
  | .complete | .notApplicable => none
  | .inputRequired (.correctTv _ _ _ _) | .inputRequired (.updatePreference _) =>
    some ⟨.invalidConfiguration, .userInput, .correctConfiguration⟩
  | .inputRequired _ => some ⟨.inputRequired, .userInput, .provideInput⟩
  | .actionRequired _ _ => some ⟨.missingIntegration, .localSetup, .repair⟩
  | .failed error | .blocked error => some error.recovery
  | .running _ _ => some ⟨.busy, .localSetup, .wait⟩
  | .cancelled => some ⟨.unverified, .localSetup, .recheck⟩

def satisfied : StepResponse → Bool
  | .complete | .notApplicable => true
  | _ => false

def StepResponse.isActionRequired : StepResponse → Bool
  | .actionRequired _ _ => true
  | _ => false

inductive SetupStep where
  | pairing
  | services
  | plasma
  deriving DecidableEq, Repr

/-- One answer for each step, in the order in which steps are executed. -/
structure StepResponses where
  pairing : StepResponse
  services : StepResponse
  plasma : StepResponse
  deriving DecidableEq

namespace StepResponses

def get (steps : StepResponses) : SetupStep → StepResponse
  | .pairing => steps.pairing
  | .services => steps.services
  | .plasma => steps.plasma

def set (steps : StepResponses) (response : StepResponse) : SetupStep → StepResponses
  | .pairing => { steps with pairing := response }
  | .services => { steps with services := response }
  | .plasma => { steps with plasma := response }

def toList (steps : StepResponses) : List (SetupStep × StepResponse) :=
  [(.pairing, steps.pairing), (.services, steps.services), (.plasma, steps.plasma)]

def allSatisfied (steps : StepResponses) : Bool := steps.toList.all fun item => satisfied item.2

@[simp] theorem get_set_self (steps : StepResponses) (response : StepResponse) (step : SetupStep) :
    (steps.set response step).get step = response := by
  cases step <;> rfl

end StepResponses

/-! ## Assessments -/

structure SetupAssessment where
  steps : StepResponses
  deriving DecidableEq

def SetupAssessment.status (assessment : SetupAssessment) : SetupStatus :=
  if assessment.steps.allSatisfied then .complete else .incomplete

def StepFailure.reason (error : StepFailure) : String :=
  error.presentation.summary ++ " " ++ error.presentation.detail

/-- The reason for a requirement, and whether something can be done about it here. -/
def StepResponse.requirementReason : StepResponse → Option (String × Bool)
  | .inputRequired (.correctTv _ _ _ _) => some ("Correct the saved TV details.", true)
  | .inputRequired (.updatePreference _) => some ("Choose a valid update-check preference.", true)
  | .complete | .notApplicable => none
  | .inputRequired (.pairing _) => some ("Complete TV details and pairing.", true)
  | .inputRequired (.buildDependencies explanation) => some (explanation, true)
  | .actionRequired explanation _ => some (explanation, true)
  | .failed error | .blocked error => some (error.reason, false)
  | .running _ _ | .cancelled => some ("Setup has not been verified.", false)

def SetupStep.name : SetupStep → String
  | .pairing => "pairing"
  | .services => "services"
  | .plasma => "plasma"

def setupRequirement (item : SetupStep × StepResponse) : Option SetupRequirement := do
  let recovery ← item.2.recovery
  let (reason, actionable) ← item.2.requirementReason
  return {
    step := item.1.name
    reason := reason
    actionable := actionable
    needsAttention := recovery.needsAttention
    recovery := recovery }

/-- Instance, revision and config are filled in by whoever publishes it. -/
def SetupSnapshot.fromAssessment : Except StepFailure SetupAssessment → SetupSnapshot
  | .ok assessment =>
    { instanceName := ""
      revision := 0
      config := ""
      status := assessment.status
      requirements := assessment.steps.toList.filterMap setupRequirement }
  | .error error =>
    { instanceName := ""
      revision := 0
      config := ""
      status := .incomplete
      requirements := [{
        step := "assessment"
        reason := error.reason
        actionable := false
        needsAttention := error.recovery.needsAttention
        recovery := error.recovery }] }

/-- Only a daemon that has not probed yet is unchecked. -/
theorem SetupSnapshot.fromAssessment_status (result : Except StepFailure SetupAssessment) :
    (SetupSnapshot.fromAssessment result).status ≠ .unchecked := by
  cases result with
  | error error => nofun
  | ok assessment =>
    show assessment.status ≠ .unchecked
    unfold SetupAssessment.status
    split
    · nofun
    · nofun

end LgBuddy
