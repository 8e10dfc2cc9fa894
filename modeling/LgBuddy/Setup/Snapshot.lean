import Mathlib.Init

/-!
# LgBuddy — the published state of setup

`SetupSnapshot` of `setup/published.rs`, with the recovery facts of `setup/recovery.rs` that its
requirements carry.
-/

namespace LgBuddy

/-! ## Recovery facts -/

inductive RecoveryCause where
  | inputRequired
  | invalidConfiguration
  | invalidEnvironment
  | missingIntegration
  | missingPayload
  | authorizationDenied
  | verifierUnavailable
  | incompatibleState
  | temporaryFailure
  | managedInstallation
  | unsupportedInstallation
  | busy
  | unverified
  | unknown
  deriving DecidableEq, Repr

inductive RepairBoundary where
  | userInput
  | localSetup
  | sessionService
  | installation
  | systemConfiguration
  | unknown
  deriving DecidableEq, Repr

inductive RecoveryAction where
  | provideInput
  | correctConfiguration
  | repair
  | retry
  | restartSession
  | repairExternally
  | recheck
  | wait
  | unknown
  deriving DecidableEq, Repr

/-- The default is that nothing is known. -/
structure SetupRecovery where
  cause : RecoveryCause := .unknown
  boundary : RepairBoundary := .unknown
  action : RecoveryAction := .unknown
  deriving DecidableEq, Repr

def RecoveryCause.warrantsNotification : RecoveryCause → Bool
  | .inputRequired | .invalidConfiguration | .invalidEnvironment | .missingIntegration
  | .missingPayload | .authorizationDenied | .incompatibleState | .managedInstallation => true
  | .verifierUnavailable | .temporaryFailure | .unsupportedInstallation | .busy | .unverified
  | .unknown => false

def SetupRecovery.warrantsNotification (recovery : SetupRecovery) : Bool :=
  recovery.cause.warrantsNotification && recovery.action ≠ .unknown && recovery.action ≠ .wait

/-! ## Snapshots -/

inductive SetupStatus where
  | unchecked
  | incomplete
  | complete
  deriving DecidableEq, Repr

structure SetupRequirement where
  step : String
  reason : String
  actionable : Bool
  needsAttention : Bool
  recovery : SetupRecovery
  deriving DecidableEq, Repr

/-- `instanceName` tells apart the daemons that have published. -/
structure SetupSnapshot where
  instanceName : String
  revision : Nat
  config : String
  status : SetupStatus
  requirements : List SetupRequirement
  deriving DecidableEq, Repr

end LgBuddy
