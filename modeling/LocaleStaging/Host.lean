import LocaleStaging.LocaleList
import LocaleStaging.User

namespace LocaleStaging

structure Panic where
  message : String
deriving DecidableEq, Repr

inductive HostFault where
  | remote (detail : String)
deriving DecidableEq, Repr

def HostFault.message : HostFault → String
  | remote detail => "remote call to host failed: " ++ detail

/-- A call of a device, which may change it also when it panics. -/
abbrev HostCall (η α : Type) := ExceptT Panic (StateM η) α

class Host (η : Type) where
  /-- Milliseconds since the epoch. -/
  now : HostCall η Int64
  isInstalled : String → UserId → HostCall η Bool
  installedPackages : UserId → HostCall η (List String)
  /-- The locales that a user chose for a package, none if it follows the system. -/
  locales : String → UserId → HostCall η (Except HostFault LocaleList)
  setLocales : String → UserId → LocaleList → HostCall η (Except HostFault Unit)
  dataChanged : String → HostCall η Unit

end LocaleStaging
