import LgBuddy.Release.Identity

/-!
# LgBuddy — what a user asks of the Settings view

The vocabulary that the Settings view and the update flow share.

* `BehaviorSetting`, `SettingsIntent` — of `settings_view.rs`;
* `SettingsAction`, `UserFacingError` — what is shown, and what a click on it asks for;
* `InstallationOwnership`, `UpdateCheckReport` — who may update this installation, and to what.
-/

namespace LgBuddy

inductive BehaviorSetting where
  | screenBackend
  | screenIdleBlank
  | screenHonorIdleInhibitors
  | screenIdleTimeout
  | screenRestorePolicy
  | systemSleepWakePolicy
  | updatesAutoCheck
  | updatesChannel
  deriving DecidableEq, Repr

inductive SettingsIntent where
  | completeSetup
  | retry
  | refresh
  | checkForUpdates
  | prepareUpdateInstall
  | confirmUpdateInstall
  | cancelUpdateInstall
  | relaunchUpdatedApplication
  | setEnabled (setting : BehaviorSetting) (enabled : Bool)
  | commit (setting : BehaviorSetting) (value : String)
  | reset (setting : BehaviorSetting)
  | retryApply (setting : BehaviorSetting)
  deriving DecidableEq, Repr

structure SettingsAction where
  label : String
  enabled : Bool
  intent : SettingsIntent
  deriving DecidableEq, Repr

structure UserFacingError where
  summary : String
  detail : String
  deriving DecidableEq, Repr

/-! ## Updates -/

inductive PackageFamily where
  | dpkg
  | rpm
  | pacman
  deriving DecidableEq, Repr

inductive InstallationOwnership where
  | nixStore
  | bundle
  | package (family : PackageFamily)
  | unknown
  deriving DecidableEq, Repr

/-- LG Buddy neither checks nor installs for these. -/
def InstallationOwnership.externallyUpdated : InstallationOwnership → Bool
  | .nixStore | .package .pacman => true
  | _ => false

/-- Update availability on the checked channel, without an installation target. -/
structure UpdateCheckReport where
  installedVersion : String
  channel : UpdateChannel
  updateAvailable : Bool
  warning : Option String
  installationOwnership : InstallationOwnership
  deriving DecidableEq, Repr

end LgBuddy
