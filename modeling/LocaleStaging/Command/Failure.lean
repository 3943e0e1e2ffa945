import LocaleStaging.Document.Basic
import LocaleStaging.Settings.Basic
import LocaleStaging.Storage.StoreError

namespace LocaleStaging

inductive Failure where
  | noHome
  | noSettings (path : Path) (error : Settings.Error)
  | store (error : StoreError)
  | unreadable (path : Path) (cause : IoFault)
  | undecodable (path : Path) (fault : Document.Fault)
deriving DecidableEq, Repr

def Failure.causes : Failure → List String
  | noHome => [Environment.noHomeMessage]
  | noSettings path error => ("cannot load configuration from " ++ path.quoted) :: error.causes
  | store error => error.causes
  | unreadable path cause => ["cannot read " ++ path.quoted, cause.message]
  | undecodable path fault => ("cannot decode " ++ path.quoted) :: fault.causes

end LocaleStaging
