import Mathlib.Init

/-!
# LgBuddy — policy outcomes

`policy.rs`: what a policy has decided, as data. An outcome lists the actions selected, the
reasons for not acting, the marker transitions to apply and the diagnostics; outcomes of
consecutive decisions are merged.
-/

namespace LgBuddy

inductive ActionKind where
  | tvScreenBlank
  | tvScreenRestore
  | tvPowerOffFallback
  | tvTimedIdlePowerOff
  | tvInputRestore
  | wakeOnLan
  | tvSystemSleepPowerOff
  | tvSystemResumeRestore
  | tvStartupRestore
  | tvShutdownPowerOff
  | brightnessUi
  deriving DecidableEq, Repr

inductive DecisionReasonCode where
  | runtimeEvent
  | manualRequest
  | configDisabled
  | inputMismatch
  | markerMissing
  | restorePolicyDenied
  | duplicateSystemSleepAttempt
  | runtimePhaseIneligible
  | runtimePhaseUnknown
  | transportFailure
  | notApplicable
  | other
  deriving DecidableEq, Repr

/-- `DecisionReason::new` leaves the detail out. -/
structure DecisionReason where
  code : DecisionReasonCode
  detail : Option String := none
  deriving DecidableEq, Repr

structure ActionDecision where
  kind : ActionKind
  reason : DecisionReason
  deriving DecidableEq, Repr

structure NoActionDecision where
  reason : DecisionReason
  deriving DecidableEq, Repr

inductive StateMarker where
  | sessionScreenOwnership
  | systemScreenOwnership
  | systemSleepAttempt
  deriving DecidableEq, Repr

inductive TransitionReasonCode where
  | actionSelected
  | restoreCompleted
  | configDisabled
  | inputMismatch
  | markerMissing
  | duplicateSystemSleepAttempt
  | runtimePhaseIneligible
  | transportFailure
  | startupBoot
  | other
  deriving DecidableEq, Repr

structure TransitionReason where
  code : TransitionReasonCode
  detail : Option String := none
  deriving DecidableEq, Repr

inductive StateTransition where
  | createMarker (marker : StateMarker) (reason : TransitionReason)
  | clearMarker (marker : StateMarker) (reason : TransitionReason)
  | preserveMarker (marker : StateMarker) (reason : TransitionReason)
  deriving DecidableEq, Repr

inductive DiagnosticLevel where
  | info
  | warning
  | error
  deriving DecidableEq, Repr

structure Diagnostic where
  level : DiagnosticLevel
  message : String
  deriving DecidableEq, Repr

def Diagnostic.info (message : String) : Diagnostic := ⟨.info, message⟩

def Diagnostic.warning (message : String) : Diagnostic := ⟨.warning, message⟩

/-- `PolicyOutcome::new` is the empty outcome. -/
structure PolicyOutcome where
  actions : List ActionDecision := []
  noActions : List NoActionDecision := []
  stateTransitions : List StateTransition := []
  diagnostics : List Diagnostic := []
  deriving DecidableEq, Repr

namespace PolicyOutcome

def withAction (o : PolicyOutcome) (kind : ActionKind) (reason : DecisionReason) :
    PolicyOutcome :=
  { o with actions := o.actions ++ [⟨kind, reason⟩] }

def withNoAction (o : PolicyOutcome) (reason : DecisionReason) : PolicyOutcome :=
  { o with noActions := o.noActions ++ [⟨reason⟩] }

def withStateTransition (o : PolicyOutcome) (transition : StateTransition) : PolicyOutcome :=
  { o with stateTransitions := o.stateTransitions ++ [transition] }

def withDiagnostic (o : PolicyOutcome) (diagnostic : Diagnostic) : PolicyOutcome :=
  { o with diagnostics := o.diagnostics ++ [diagnostic] }

def merge (o other : PolicyOutcome) : PolicyOutcome where
  actions := o.actions ++ other.actions
  noActions := o.noActions ++ other.noActions
  stateTransitions := o.stateTransitions ++ other.stateTransitions
  diagnostics := o.diagnostics ++ other.diagnostics

/-- An action of this kind has been selected. -/
def selects (o : PolicyOutcome) (kind : ActionKind) : Bool := o.actions.any (·.kind = kind)

@[simp] theorem selects_merge (o other : PolicyOutcome) (kind : ActionKind) :
    (o.merge other).selects kind = (o.selects kind || other.selects kind) := by
  simp [selects, merge]

end PolicyOutcome

end LgBuddy
