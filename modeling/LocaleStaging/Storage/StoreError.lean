import LocaleStaging.Storage.IoFault
import LocaleStaging.Storage.Path

namespace LocaleStaging

inductive StoreAction where
  | createDirectory
  | readDirectory
  | read
  | write
  | commit
  | delete
deriving DecidableEq, Repr

def StoreAction.name : StoreAction → String
  | createDirectory => "CreateDir"
  | readDirectory => "ReadDir"
  | read => "Read"
  | write => "Write"
  | commit => "Commit"
  | delete => "Delete"

def StoreAction.failure : StoreAction → String
  | createDirectory => "failed to create staging directory at "
  | readDirectory => "failed to list staging directory at "
  | read => "failed to read stage file at "
  | write => "failed to write temporary stage file at "
  | commit => "failed to commit stage file at "
  | delete => "failed to delete stage file at "

structure StoreError where
  action : StoreAction
  cause : IoFault
  path : Path
deriving DecidableEq, Repr

namespace StoreError

def message (error : StoreError) : String := error.action.failure ++ error.path.quoted

def details (error : StoreError) : String :=
  error.action.name ++ " \x7b source: " ++ error.cause.details ++ ", path: " ++
    error.path.quoted ++ " \x7d"

def causes (error : StoreError) : List String := [error.message, error.cause.message]

end StoreError
end LocaleStaging
