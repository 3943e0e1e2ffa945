import LocaleStaging.Host
import LocaleStaging.SortedMap

namespace LocaleStaging

inductive DeviceCall where
  | now
  | isInstalled (package : String) (user : UserId)
  | installedPackages (user : UserId)
  | locales (package : String) (user : UserId)
  | setLocales (package : String) (user : UserId) (locales : LocaleList)
  | dataChanged (key : String)
deriving DecidableEq

def DeviceCall.localePackage? : DeviceCall → Option String
  | locales package _ => some package
  | setLocales package _ _ => some package
  | _ => none

inductive Outage where
  | fails (detail : String)
  | panics (message : String)
deriving DecidableEq, Repr

structure Device where
  clock : Int64
  installed : SortedMap UserId (List String)
  live : SortedMap UserId (SortedMap String LocaleList)
  calls : List DeviceCall
  /-- Which calls go wrong, given the calls before them. -/
  outage? : List DeviceCall → DeviceCall → Option Outage

namespace Device

def new (clock : Int64) : Device := ⟨clock, ∅, ∅, [], fun _ _ => none⟩

def packagesOf (device : Device) (user : UserId) : List String :=
  (device.installed.get? user).getD []

def liveOf (device : Device) (user : UserId) (package : String) : Option LocaleList :=
  (device.live.get? user).bind fun preferences => preferences.get? package

def setLive (device : Device) (user : UserId) (package : String) (locales : LocaleList) : Device :=
  let preferences := (device.live.get? user).getD ∅
  { device with live := device.live.insert user (preferences.insert package locales) }

def install (device : Device) (package : String) (user : UserId) : Device :=
  let packages := device.packagesOf user
  if package ∈ packages then device
  else { device with installed := device.installed.insert user (packages ++ [package]) }

def uninstall (device : Device) (package : String) (user : UserId) : Device :=
  { device with installed := device.installed.insert user ((device.packagesOf user).erase package) }

def call {α : Type} (made : DeviceCall) (answer : Option String → HostCall Device α) :
    HostCall Device α := fun device =>
  let noted := { device with calls := device.calls ++ [made] }
  match device.outage? device.calls made with
  | some (.panics message) => (.error ⟨message⟩, noted)
  | some (.fails detail) => answer (some detail) noted
  | none => answer none noted

instance : Host Device where
  now := call .now fun _ => return (← get).clock
  isInstalled package user := call (.isInstalled package user) fun _ =>
    return (← get).packagesOf user |>.contains package
  installedPackages user := call (.installedPackages user) fun _ => return (← get).packagesOf user
  locales package user := call (.locales package user) fun
    | some detail => return .error (.remote detail)
    | none => return .ok (((← get).liveOf user package).getD .empty)
  setLocales package user locales := call (.setLocales package user locales) fun
    | some detail => return .error (.remote detail)
    | none => do
      modify fun device => device.setLive user package locales
      return .ok ()
  dataChanged key := call (.dataChanged key) fun _ => return ()

structure PackageOutage where
  queryFails : Bool
  settingFails : Bool
  queryPanics : Bool
  settingPanics : Bool
deriving DecidableEq, Repr

/-- How a call about a package goes wrong. A panic comes before a failure. -/
def PackageOutage.outage? (modes : PackageOutage) (package : String) : DeviceCall → Option Outage
  | .locales .. =>
    if modes.queryPanics then some (.panics ("get of " ++ package ++ " panicked"))
    else if modes.queryFails then some (.fails (package ++ " is unreachable"))
    else none
  | .setLocales .. =>
    if modes.settingPanics then some (.panics ("set of " ++ package ++ " panicked"))
    else if modes.settingFails then some (.fails (package ++ " is unreachable"))
    else none
  | _ => none

def breakPackage (device : Device) (package : String) (modes : PackageOutage) : Device :=
  { device with outage? := fun earlier made =>
      if made.localePackage? = some package then modes.outage? package made
      else device.outage? earlier made }

end Device
end LocaleStaging
