import IconAssets.Text.Basic

/-!
# Platforms

The platforms the catalog compiler knows, and the target it compiles for.
-/

namespace IconAssets

namespace Platform

/-- A known platform. -/
structure Spec where
  /-- The platform's name. -/
  name : Text
  /-- The variable that sets the platform's deployment target. -/
  setting : Text
  /-- The deployment target when that variable is not set. -/
  version : Text
  deriving DecidableEq, Repr

/-- The known platforms, in the order in which they are looked for in an SDK name. -/
def known : List Spec :=
  [⟨"iphonesimulator".toList, "IPHONEOS_DEPLOYMENT_TARGET".toList, "15.0".toList⟩,
   ⟨"iphoneos".toList, "IPHONEOS_DEPLOYMENT_TARGET".toList, "15.0".toList⟩,
   ⟨"appletvsimulator".toList, "TVOS_DEPLOYMENT_TARGET".toList, "15.0".toList⟩,
   ⟨"appletvos".toList, "TVOS_DEPLOYMENT_TARGET".toList, "15.0".toList⟩,
   ⟨"watchsimulator".toList, "WATCHOS_DEPLOYMENT_TARGET".toList, "8.0".toList⟩,
   ⟨"watchos".toList, "WATCHOS_DEPLOYMENT_TARGET".toList, "8.0".toList⟩,
   ⟨"xrsimulator".toList, "XROS_DEPLOYMENT_TARGET".toList, "1.0".toList⟩,
   ⟨"xros".toList, "XROS_DEPLOYMENT_TARGET".toList, "1.0".toList⟩,
   ⟨"macosx".toList, "MACOSX_DEPLOYMENT_TARGET".toList, "12.0".toList⟩]

/-- The platform of hosts that have none of their own. -/
def fallbackName : Text := "macosx".toList

/-- The deployment target of unknown platforms. -/
def fallbackVersion : Text := "12.0".toList

/-- The known platform of a given name. -/
def spec? (name : Text) : Option Spec := known.find? fun s => s.name = name

/-- The first known platform whose name occurs in an SDK name, letter case aside. -/
def specInSdk? (sdk : Text) : Option Spec :=
  known.find? fun s => Text.occursIn s.name (Text.lowerAscii sdk)

/-- The host systems that are platforms: the system, its platform, and the platform of its
simulator. -/
def hosts : List (Text × Text × Text) :=
  [("ios".toList, "iphoneos".toList, "iphonesimulator".toList),
   ("tvos".toList, "appletvos".toList, "appletvsimulator".toList),
   ("watchos".toList, "watchos".toList, "watchsimulator".toList),
   ("visionos".toList, "xros".toList, "xrsimulator".toList)]

/-- The platform of a host system, which may be running as a simulator. -/
def ofHost (system : Text) (simulator : Bool) : Text :=
  match hosts.lookup system with
  | some (device, simulated) => if simulator then simulated else device
  | none => fallbackName

/-- What the catalog compiler compiles for. -/
structure Target where
  platform : Text
  deploymentTarget : Text
  deriving DecidableEq, Repr

/-- The platform and the deployment target with a space in between. -/
def Target.display (t : Target) : Text := t.platform ++ ' ' :: t.deploymentTarget

end Platform

/-!
## Finding the target

The platform and the deployment target are each found by going down a list of sources: an
override, variables of the build environment, and a built-in answer.  A blank text counts as
absent everywhere, and an answer is given as it was found, not trimmed.

Each answer comes with the names of the variables that were looked up for it, in order.
-/

/-- The variables of a process: the value of each variable that is set. -/
abbrev Environment := Text → Option Text

namespace Platform

/-- An answer and the variables that were looked up to find it. -/
structure Resolved (α : Type) where
  value : α
  lookups : List Text
  deriving DecidableEq, Repr

/-- A text that is not blank. -/
def present? (t : Option Text) : Option Text := t.filter fun v => !Text.isAllBlank v

/-- The exact name of the platform. -/
def nameVariable : Text := "PLATFORM_NAME".toList

/-- A name that holds the name of the platform somewhere. -/
def sdkVariable : Text := "SDK_NAME".toList

/-- Set inside a simulator. -/
def simulatorVariable : Text := "SIMULATOR_DEVICE_NAME".toList

/-- The variables that are looked up. -/
def consulted : List Text :=
  [nameVariable, sdkVariable, simulatorVariable] ++ known.map (·.setting)

/-- The system that runs this program. -/
def hostSystem : Text := "linux".toList

/-- The value of a variable, unless it is blank. -/
def valueOf? (env : Environment) (name : Text) : Option Text := present? (env name)

/-- The platform of this host. -/
def resolveHost (env : Environment) : Resolved Text :=
  ⟨ofHost hostSystem (valueOf? env simulatorVariable).isSome, [simulatorVariable]⟩

/-- The platform: the override, else the named platform, else the known platform that the SDK
name holds, else the host's. -/
def resolvePlatform (env : Environment) (override : Option Text) : Resolved Text :=
  match present? override with
  | some name => ⟨name, []⟩
  | none =>
    match valueOf? env nameVariable with
    | some name => ⟨name, [nameVariable]⟩
    | none =>
      match (valueOf? env sdkVariable).bind specInSdk? with
      | some spec => ⟨spec.name, [nameVariable, sdkVariable]⟩
      | none =>
        let host := resolveHost env
        ⟨host.value, nameVariable :: sdkVariable :: host.lookups⟩

/-- The deployment target: the override, else the platform's variable, else the platform's
version. -/
def resolveDeployment (env : Environment) (platform : Text) (override : Option Text) :
    Resolved Text :=
  match present? override with
  | some version => ⟨version, []⟩
  | none =>
    match spec? platform with
    | none => ⟨fallbackVersion, []⟩
    | some spec => ⟨(valueOf? env spec.setting).getD spec.version, [spec.setting]⟩

/-- The target: the platform first, then the deployment target of that platform. -/
def resolve (env : Environment) (platform deployment : Option Text) : Resolved Target :=
  let p := resolvePlatform env platform
  let d := resolveDeployment env p.value deployment
  ⟨⟨p.value, d.value⟩, p.lookups ++ d.lookups⟩

end Platform

end IconAssets
