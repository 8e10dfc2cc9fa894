import LgBuddy.Machine.Program
import LgBuddy.Release.Identity

/-!
# LgBuddy — installing a prepared update

`install_prepared_update_with` of `update_install.rs`, written against an `UpdateInstallRuntime`,
a progress callback and the cell that it shares with whoever may cancel it.

* `CancellationState` — the cell, changed by compare-exchange only;
* `InstallCall`, `InstallReply` — the operations on the cell and the methods of the runtime;
* `cancel`, `ensureActive`, `claimInstallerBoundary` — `UpdateInstallCancellation`;
* `installPreparedUpdateWith` — the run.
-/

namespace LgBuddy

open Program

/-! ## Data -/

/-- `AtomicU8`: active, claimed by the installer, or cancelled. -/
inductive CancellationState where
  | active
  | claimed
  | cancelled
  deriving DecidableEq, Repr

inductive UpdateInstallStage where
  | initialPreflight
  | discovering
  | resolving
  | offered
  | acquiring
  | candidatePreflight
  | installing
  | verifyingInstalled
  deriving DecidableEq, Repr

/-- `runtime` stands for every error that only the methods of the runtime make. -/
inductive UpdateInstallError where
  | cancelled
  | channelChanged (prepared current : UpdateChannel)
  | targetChanged (confirmed acquired : ReleaseIdentity)
  | installedIdentityMismatch (expected observed : ReleaseIdentity)
  | runtime (message : String)
  deriving DecidableEq, Repr

/-- A release offer whose identity was resolved before the user confirms it. -/
structure PreparedUpdateInstall where
  release : ReleaseInfo
  target : ReleaseIdentity
  channel : UpdateChannel
  deriving DecidableEq, Repr

structure InstalledUpdate where
  identity : ReleaseIdentity
  guiIdentity : ReleaseIdentity
  runtimePath : String
  guiPath : String
  deriving DecidableEq, Repr

/-- `BundleView`: what a runtime acquires. -/
class BundleView (β : Type) where
  identity : β → ReleaseIdentity

/-! ## Calls -/

inductive InstallCall (β : Type) where
  -- the shared cell
  | load
  | compareExchange (current new : CancellationState)
  -- the runtime
  | currentChannel
  | acquire (release : ReleaseInfo)
  | recheckInstalledState
  | candidatePreflight (bundle : β)
  | runInstaller (bundle : β)
  | installedUpdate (expected : ReleaseIdentity)
  -- the caller: it is told the stage, and in the end the result
  | progress (stage : UpdateInstallStage)
  | returns (result : Except UpdateInstallError InstalledUpdate)

@[reducible] def InstallReply {β : Type} : InstallCall β → Type
  | .load => CancellationState
  | .compareExchange _ _ => Bool
  | .currentChannel => Except UpdateInstallError UpdateChannel
  | .acquire _ => Except UpdateInstallError β
  | .recheckInstalledState | .candidatePreflight _ | .runInstaller _ =>
    Except UpdateInstallError Unit
  | .installedUpdate _ => Except UpdateInstallError InstalledUpdate
  | .progress _ | .returns _ => Unit

abbrev InstallM (β : Type) := ExceptT UpdateInstallError (Program (InstallCall β) InstallReply)

variable {β : Type}

namespace InstallM

def ask (c : InstallCall β) : InstallM β (InstallReply c) := ExceptT.lift (perform c)

/-- `?` on a call of the runtime. -/
def orThrow {α : Type} (p : Program (InstallCall β) InstallReply (Except UpdateInstallError α)) :
    InstallM β α := ExceptT.mk p

end InstallM

open InstallM

/-! ## The cell -/

/-- Request cancellation: false once it was requested or the installer boundary is claimed. -/
def cancel : Program (InstallCall β) InstallReply Bool :=
  perform (InstallCall.compareExchange .active .cancelled)

def ensureActive : InstallM β Unit := do
  if (← ask .load) = .cancelled then throw .cancelled

/-- The point of no cancellation, claimed right before the installer is run. -/
def claimInstallerBoundary : InstallM β Unit := do
  if ← ask (InstallCall.compareExchange .active .claimed) then return
  throw .cancelled

/-! ## The run -/

/-- Both installed binaries are what was verified. -/
def verifyInstalledUpdate (identity : ReleaseIdentity) (installed : InstalledUpdate) :
    InstallM β InstalledUpdate := do
  if installed.identity ≠ identity then
    throw (.installedIdentityMismatch identity installed.identity)
  if installed.guiIdentity ≠ identity.gui then
    throw (.installedIdentityMismatch identity.gui installed.guiIdentity)
  return installed

def installPreparedUpdateWith [BundleView β] (prepared : PreparedUpdateInstall) :
    InstallM β InstalledUpdate := do
  ensureActive
  let currentChannel ← orThrow (perform InstallCall.currentChannel)
  if currentChannel ≠ prepared.channel then
    throw (.channelChanged prepared.channel currentChannel)
  ensureActive
  ask (.progress .acquiring)
  ensureActive
  let bundle ← orThrow (perform (InstallCall.acquire prepared.release))
  ensureActive
  if BundleView.identity bundle ≠ prepared.target then
    throw (.targetChanged prepared.target (BundleView.identity bundle))
  -- the installed layout may have changed while the confirmation was held
  orThrow (perform InstallCall.recheckInstalledState)
  ensureActive
  ask (.progress .candidatePreflight)
  ensureActive
  orThrow (perform (InstallCall.candidatePreflight bundle))
  ensureActive
  claimInstallerBoundary
  ask (.progress .installing)
  orThrow (perform (InstallCall.runInstaller bundle))
  ask (.progress .verifyingInstalled)
  let installed ← orThrow (perform (InstallCall.installedUpdate (BundleView.identity bundle)))
  verifyInstalledUpdate (BundleView.identity bundle) installed

end LgBuddy
