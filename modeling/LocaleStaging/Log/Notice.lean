import LocaleStaging.Document.Basic
import LocaleStaging.Event
import LocaleStaging.Host
import LocaleStaging.Log.Level
import LocaleStaging.Span
import LocaleStaging.Staging.FileName
import LocaleStaging.Storage.StoreError

namespace LocaleStaging

inductive Rejection where
  | name (fault : StageFile.NameFault)
  | unreadable
  | empty
deriving DecidableEq, Repr

def Rejection.message : Rejection → String
  | name fault => fault.message
  | unreadable => "Could not read file"
  | empty => "No pending packages"

def hang (width : Nat) (text : String) : String :=
  String.ofList <| text.toList.flatMap fun c =>
    if c = '\n' then '\n' :: List.replicate width ' ' else [c]

/-- An error with what led to it. Causes stand below it, with numbers if there are several. -/
def report : List String → String
  | [] => ""
  | [error] => error
  | [error, cause] => error ++ "\n\nCaused by:\n    " ++ hang 4 cause
  | error :: causes =>
    let lines := causes.zipIdx.map fun (cause, index) =>
      "\n    " ++ toString index ++ ": " ++ hang 7 cause
    error ++ "\n\nCaused by:" ++ String.join lines

inductive Notice where
  -- the store of stage files
  | committed (path : Path)
  -- staged records
  | scanFailed (error : StoreError)
  | loaded (file : String) (user : UserId)
  | discardFailed (file : String) (error : StoreError)
  | discarded (file : String) (reason : Rejection)
  | readFailed (error : StoreError)
  | undecodable (path : Path) (fault : Document.Fault)
  | written (user : UserId)
  | writeFailed (user : UserId) (error : StoreError)
  | deleteFailed (user : UserId) (error : StoreError)
  | expired (user : UserId)
  -- backup
  | collected (package : String) (locales : LocaleList)
  | queryFailed (package : String) (fault : HostFault)
  | nothingToBackUp (user : UserId)
  -- restore
  | noPayload (user : UserId)
  | badPayload (fault : Document.Fault)
  | staged (package tags : String)
  | stagedAll (user : UserId) (count : Nat)
  | kept (package : String) (locales : LocaleList)
  | checkFailed (package : String) (fault : HostFault)
  | restored (package : String) (locales : LocaleList)
  | restoreFailed (package : String) (fault : HostFault)
  -- events
  | notInstalled (package : String) (user : UserId)
  | dataCleared (package : String) (uid : UInt32)
  | packageRemoved (package : String) (uid : UInt32)
  | userDropped (user : UserId)
  | handling (event : Event)
  | handlerPanicked (panic : Panic)
  | workerStopped
  -- commands
  | discardedOnLoad (path : Path) (reason : Rejection)
  | noStagedData (directory : Path)
  | nothingExpired (retention : Span)
  | noRecord (user : UserId)
  | failed (causes : List String)
deriving DecidableEq

namespace Notice

def level : Notice → Level
  | committed .. | loaded .. | written .. | collected .. | nothingToBackUp .. | staged .. | kept ..
  | dataCleared .. | packageRemoved .. | handling .. | workerStopped => .debug
  | expired .. | stagedAll .. | restored .. | userDropped .. | noStagedData .. | nothingExpired .. =>
    .info
  | discarded .. | discardedOnLoad .. | noRecord .. => .warn
  | scanFailed .. | discardFailed .. | readFailed .. | undecodable .. | writeFailed ..
  | deleteFailed .. | queryFailed .. | noPayload .. | badPayload .. | checkFailed ..
  | restoreFailed .. | notInstalled .. | handlerPanicked .. | failed .. => .error

def target : Notice → String
  | committed .. => "locale_backup::store"
  | scanFailed .. | loaded .. | discardFailed .. | discarded .. | readFailed .. | undecodable ..
  | written .. | writeFailed .. | deleteFailed .. | expired .. => "locale_backup::stage"
  | handling .. | handlerPanicked .. | workerStopped => "locale_backup::monitor"
  | discardedOnLoad .. | noStagedData .. | nothingExpired .. | noRecord .. | failed .. =>
    "locale_backup"
  | _ => "locale_backup::helper"

def message (describe : StoreError → String) : Notice → String
  | committed path => "committed stage file " ++ path.quoted
  | scanFailed error => "cannot scan staging directory: " ++ describe error
  | loaded file user => "loaded stage file " ++ file ++ " for user " ++ toString user
  | discardFailed file error => "cannot delete " ++ file ++ ": " ++ describe error
  | discarded file reason => "Deleted " ++ file ++ ". Reason: " ++ reason.message ++ "."
  | readFailed error => "could not read stage file: " ++ describe error
  | undecodable path fault =>
    "could not parse stage file " ++ path.quoted ++ ": " ++ fault.message
  | written user => "stage file written for user " ++ toString user
  | writeFailed user error =>
    "could not write stage file for user " ++ toString user ++ ": " ++ describe error
  | deleteFailed user error =>
    "could not delete stage file for user " ++ toString user ++ ": " ++ describe error
  | expired user => "staged data for user " ++ toString user ++ " expired"
  | collected package locales =>
    "add package=" ++ package ++ " locales=" ++ locales.toTags ++ " to backup payload"
  | queryFailed package fault =>
    "could not get locales for package " ++ package ++ ": " ++ fault.message
  | nothingToBackUp user => "no locale overrides to back up for user " ++ toString user
  | noPayload user => "no payload to restore for user " ++ toString user
  | badPayload fault => "could not parse restore payload: " ++ fault.message
  | staged package tags =>
    "stage locales=" ++ tags ++ " package=" ++ package ++ " for lazy restore"
  | stagedAll user count =>
    "restore for user " ++ toString user ++ " staged " ++ toString count ++ " package(s)"
  | kept package locales =>
    "keep locales=" ++ locales.toTags ++ " set by user for package=" ++ package
  | checkFailed package fault =>
    "could not check current locales of " ++ package ++ " before restoring: " ++ fault.message
  | restored package locales => "restored locales=" ++ locales.toTags ++ " for package=" ++ package
  | restoreFailed package fault =>
    "could not restore locales for " ++ package ++ ": " ++ fault.message
  | notInstalled package user =>
    package ++ " not installed for user " ++ toString user ++
      ", could not restore locales from stage file"
  | dataCleared package uid => "package " ++ package ++ " data cleared for uid " ++ toString uid
  | packageRemoved package uid => "package " ++ package ++ " removed for uid " ++ toString uid
  | userDropped user => "dropped staged data of removed user " ++ toString user
  | handling event => "handle " ++ event.details
  | handlerPanicked panic =>
    "exception while handling platform event: task # panicked with message " ++
      Quoted.text panic.message
  | workerStopped => "platform event channel closed, worker stopped"
  | discardedOnLoad path reason =>
    path.quoted ++ " is deleted on next load. Reason: " ++ reason.message ++ "."
  | noStagedData directory => "no staged data in " ++ directory.quoted
  | nothingExpired retention => "no staged data older than " ++ retention.message
  | noRecord user => "user " ++ toString user ++ " has no staged data"
  | failed causes => report causes

end Notice

inductive Emission where
  | notice (notice : Notice)
  | line (text : String)
deriving DecidableEq

end LocaleStaging
