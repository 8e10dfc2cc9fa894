import LgBuddy.Text.Semver

/-!
# LgBuddy — releases and their identity

The records of `updates.rs` and `release_bundle.rs` that say which release is meant.

* `UpdateChannel` — where a version is offered;
* `ReleaseAsset`, `ReleaseInfo` — what GitHub says about a release;
* `ReleaseIdentity` — what a verified bundle or an installed binary is.
-/

namespace LgBuddy

inductive UpdateChannel where
  | stable
  | prerelease
  deriving DecidableEq, Repr

def UpdateChannel.asStr : UpdateChannel → String
  | .stable => "stable"
  | .prerelease => "prerelease"

structure ReleaseAsset where
  id : Nat
  name : String
  state : String
  size : Nat
  digest : Option String
  apiUrl : String
  downloadUrl : String
  deriving DecidableEq, Repr

structure ReleaseInfo where
  version : Version
  channel : UpdateChannel
  url : String
  tagName : String
  assets : List ReleaseAsset
  deriving DecidableEq, Repr

structure ReleaseIdentity where
  releaseTag : String
  version : Version
  channel : UpdateChannel
  target : String
  commit : String
  deriving DecidableEq, Repr

/-- `RELEASE_TARGET`: the runtime binary. -/
def releaseTarget : String := "x86_64-unknown-linux-musl"

/-- `GUI_TARGET`: the GUI binary. -/
def guiTarget : String := "x86_64-unknown-linux-gnu"

/-- The GUI binary of the same release. -/
def ReleaseIdentity.gui (identity : ReleaseIdentity) : ReleaseIdentity :=
  { identity with target := guiTarget }

end LgBuddy
