import LgBuddy.Machine.Mealy
import LgBuddy.Machine.Program
import LgBuddy.Machine.Interleaving
import LgBuddy.Machine.Flight
import LgBuddy.Machine.Exactly
import LgBuddy.Machine.Fallible
import LgBuddy.Text.Str
import LgBuddy.Text.Json
import LgBuddy.Text.Cut
import LgBuddy.Text.Utf8
import LgBuddy.Text.Decimal
import LgBuddy.Text.Semver
import LgBuddy.Session.Inactivity
import LgBuddy.Session.InactivityRun
import LgBuddy.Session.InactivitySafety
import LgBuddy.Session.InactivityOrder
import LgBuddy.Session.Bus
import LgBuddy.Session.Activity
import LgBuddy.Session.Coalescing
import LgBuddy.Inhibition.Gate
import LgBuddy.Inhibition.Safety
import LgBuddy.Inhibition.GnomeWatch
import LgBuddy.Inhibition.GnomeSafety
import LgBuddy.Policy
import LgBuddy.Tv
import LgBuddy.Lifecycle.Calls
import LgBuddy.Lifecycle.Suspend
import LgBuddy.Lifecycle.Rails
import LgBuddy.Lifecycle.RailStages
import LgBuddy.Lifecycle.RailSafety
import LgBuddy.Lifecycle.Outcome
import LgBuddy.Lifecycle.Resume
import LgBuddy.Lifecycle.ResumeSafety
import LgBuddy.Lifecycle.Monitor
import LgBuddy.Lifecycle.Inhibitor
import LgBuddy.Lifecycle.Cycles
import LgBuddy.Lifecycle.LockObserver
import LgBuddy.Lifecycle.LockSafety
import LgBuddy.Release.Identity
import LgBuddy.Update.Install
import LgBuddy.Update.Boundary
import LgBuddy.Settings.Intent
import LgBuddy.Update.FailureDetails
import LgBuddy.Update.Flow
import LgBuddy.Update.FlowRun
import LgBuddy.Update.FlowSafety
import LgBuddy.Settings.Presentation
import LgBuddy.Settings.View
import LgBuddy.Settings.Queue
import LgBuddy.Screen.Handlers
import LgBuddy.Screen.Marker
import LgBuddy.Screen.Ownership
import LgBuddy.WebOs.Frame
import LgBuddy.WebOs.Client
import LgBuddy.WebOs.Correlation
import LgBuddy.WebOs.Authentication
import LgBuddy.WebOs.Responses
import LgBuddy.WebOs.Adapter
import LgBuddy.WebOs.Exchanges
import LgBuddy.WebOs.Sessions
import LgBuddy.WebOs.Verdicts
import LgBuddy.Settings.EditOrder
import LgBuddy.Pairing.Disk
import LgBuddy.Pairing.Token
import LgBuddy.Pairing.Replacing
import LgBuddy.Pairing.Publication
import LgBuddy.Settings.ConfigEnv
import LgBuddy.Settings.Newest
import LgBuddy.Setup.Snapshot
import LgBuddy.Setup.Attention
import LgBuddy.Setup.AttentionSafety
import LgBuddy.Setup.Step
import LgBuddy.Setup.Published
import LgBuddy.Setup.Health
import LgBuddy.Setup.Verification
import LgBuddy.Setup.Flow
import LgBuddy.Setup.FlowSafety
import LgBuddy.Overview.Presentation
import LgBuddy.Overview.Application
import LgBuddy.Overview.Run
import LgBuddy.Overview.Settling
import LgBuddy.Update.Check
import LgBuddy.Update.Notifications
import LgBuddy.Release.Acquisition
import LgBuddy.Release.Checksum
import LgBuddy.Release.Manifest
import LgBuddy.Release.Embedded
import LgBuddy.Release.EmbeddedSafety
import LgBuddy.Release.Extraction
import LgBuddy.Update.InstallerOutput
import LgBuddy.Update.FailureDetailsSafety
import LgBuddy.Text.Keyed
import LgBuddy.Text.Ascii
import LgBuddy.Settings.RuntimeConfig
import LgBuddy.Pairing.Unpair
import LgBuddy.Settings.ConfigLines
import LgBuddy.Pairing.Forgetting
import LgBuddy.Pairing.UnpairSafety
import LgBuddy.Settings.Registry
import LgBuddy.Settings.Declarations
import LgBuddy.Settings.Store
import LgBuddy.Settings.Values
import LgBuddy.Settings.MacGrammar
import LgBuddy.Settings.Editing
import LgBuddy.Settings.StoreRun
import LgBuddy.Settings.MutationLaw
import LgBuddy.Machine.Table
import LgBuddy.Machine.I64
import LgBuddy.Inhibition.PullSources
import LgBuddy.Sources.Dpms
import LgBuddy.Gamepad.Activity
import LgBuddy.Gamepad.Detection
import LgBuddy.Sources.GnomeMonitor
import LgBuddy.Sources.Wayland
import LgBuddy.Text.Path
import LgBuddy.Machine.Judgment
import LgBuddy.Preflight.Observation
import LgBuddy.Preflight.PathSafety
import LgBuddy.Preflight.PathJudgment
import LgBuddy.Preflight.ConfigOverride
import LgBuddy.Text.Pair
import LgBuddy.Preflight.PackageOwnership
import LgBuddy.Preflight.DpkgRecords
import LgBuddy.Preflight.OwnershipSafety
import LgBuddy.Preflight.Installer
import LgBuddy.Preflight.InstallerJudgment
import LgBuddy.Preflight.InstallerSafety
import LgBuddy.Machine.Gregorian
import LgBuddy.Diagnostics.Timestamp
import LgBuddy.Text.Lines
import LgBuddy.Diagnostics.Report
import LgBuddy.Diagnostics.Journal
import LgBuddy.Diagnostics.Redaction
import LgBuddy.Diagnostics.ReportSafety
import LgBuddy.Gamepad.RefreshSafety
import LgBuddy.Machine.Scripted
import LgBuddy.NativeUpdate.Plan
import LgBuddy.NativeUpdate.PlanSafety
import LgBuddy.NativeUpdate.Rpm
import LgBuddy.NativeUpdate.RpmSafety
import LgBuddy.Release.Acquire
import LgBuddy.Release.AcquireSafety
import LgBuddy.NativeUpdate.Receive
