import LocaleStaging.Text.Quoted
import LocaleStaging.User

namespace LocaleStaging

inductive Event where
  | packageAdded (package : String) (uid : UInt32)
  | packageDataCleared (package : String) (uid : UInt32)
  | packageRemoved (package : String) (uid : UInt32)
  | userRemoved (user : UserId)
deriving DecidableEq, Repr

namespace Event

def packageDetails (package : String) (uid : UInt32) : String :=
  " \x7b package_name: " ++ Quoted.text package ++ ", uid: " ++ toString uid ++ " \x7d"

def details : Event → String
  | packageAdded package uid => "PackageAdded" ++ packageDetails package uid
  | packageDataCleared package uid => "PackageDataCleared" ++ packageDetails package uid
  | packageRemoved package uid => "PackageRemoved" ++ packageDetails package uid
  | userRemoved user => "UserRemoved \x7b user_id: " ++ toString user ++ " \x7d"

end Event
end LocaleStaging
