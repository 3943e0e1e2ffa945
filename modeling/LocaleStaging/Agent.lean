import LocaleStaging.Staging.Table

/-!
The backup agent: builds backup payloads from live preferences, takes in restored payloads, and
applies what was staged when a package is installed.

A restored preference never replaces one that the user has set: the live preference is looked at
first, and if it is not empty the restored one is dropped. Nothing here reports a failure to the
caller. Failures are put out as notices, and the agent goes on without the data. A panic of the
device ends the operation that met it, and what was done before stays done.
-/

namespace LocaleStaging

structure Agent (η φ : Type) where
  host : η
  table : StagedTable
  workspace : Workspace φ

/-- An operation of an agent. Its changes stay also when it panics. -/
abbrev Operation (η φ α : Type) := ExceptT Panic (StateM (Agent η φ)) α

namespace Agent

def backupKey : String := "android"

variable {η φ α : Type} [Host η] [FileSystem φ]

def call (made : HostCall η α) : Operation η φ α := fun agent =>
  let (answer, host) := made agent.host
  (answer, { agent with host })

def note (notice : Notice) : Operation η φ Unit := fun agent =>
  (.ok (), { agent with workspace := (Work.note notice agent.workspace).2 })

def onTable (work : StagedTable → Work φ (α × StagedTable)) : Operation η φ α := fun agent =>
  let ((answer, table), workspace) := work agent.table agent.workspace
  (.ok answer, { agent with table, workspace })

def changeTable (work : StagedTable → Work φ StagedTable) : Operation η φ Unit :=
  onTable fun table => return ((), ← work table)

def sweepExpired : Operation η φ (List UserId) := do
  let now ← call Host.now
  onTable fun table => table.sweep now

/-- Adds the preference of a package to those that are backed up. One that is empty or cannot be
read is left out. -/
def collect (user : UserId) (collected : Preferences) (package : String) :
    Operation η φ Preferences := do
  match ← call (Host.locales package user) with
  | .error fault =>
    note (.queryFailed package fault)
    return collected
  | .ok locales =>
    if locales.isEmpty then return collected
    note (.collected package locales)
    return collected.insert package locales.toTags

def backup (user : UserId) : Operation η φ (Option Bytes) := do
  let _ ← sweepExpired
  let packages ← call (Host.installedPackages user)
  let collected ← packages.foldlM (collect user) ∅
  if collected.isEmpty then
    note (.nothingToBackUp user)
    return none
  return some (Document.encode ⟨none, collected⟩)

/-- Applies a restored preference, unless the user has set one. -/
def applyRestored (package tags : String) (user : UserId) : Operation η φ Unit := do
  match ← call (Host.locales package user) with
  | .ok current =>
    unless current.isEmpty do
      note (.kept package current)
      return
  | .error fault => note (.checkFailed package fault)
  let locales := LocaleList.ofTags tags
  match ← call (Host.setLocales package user locales) with
  | .ok () => note (.restored package locales)
  | .error fault => note (.restoreFailed package fault)

def ingest (user : UserId) (pending : Preferences) (restored : String × String) :
    Operation η φ Preferences := do
  if ← call (Host.isInstalled restored.1 user) then
    applyRestored restored.1 restored.2 user
    return pending
  note (.staged restored.1 restored.2)
  return pending.insert restored.1 restored.2

def readPayload (payload : Bytes) : Operation η φ Preferences :=
  match Document.decode payload with
  | .ok document => return document.preferences
  | .error fault => do
    note (.badPayload fault)
    return ∅

/-- Takes in a restored payload. What has to wait takes the place of what waited for the user
before. Without a payload nothing happens. -/
def restore (payload : Option Bytes) (user : UserId) : Operation η φ Unit := do
  match payload with
  | none => note (.noPayload user)
  | some payload =>
    let restored ← readPayload payload
    let now ← call Host.now
    let pending ← restored.toList.foldlM (ingest user) ∅
    note (.stagedAll user pending.size)
    changeTable fun table => (table.insert user ⟨now, pending⟩).persist user

def packageAdded (package : String) (uid : UInt32) : Operation η φ Unit := do
  let user := userOf uid
  match (← get).table.get? user with
  | none => return
  | some record =>
    unless ← call (Host.isInstalled package user) do
      note (.notInstalled package user)
      return
    match record.pending.get? package with
    | none => return
    | some tags =>
      applyRestored package tags user
      changeTable fun table =>
        (table.update user fun record =>
          { record with pending := record.pending.erase package }).persist user

def notifyBackup : Operation η φ Unit := call (Host.dataChanged backupKey)

def packageDataCleared (package : String) (uid : UInt32) : Operation η φ Unit := do
  note (.dataCleared package uid)
  notifyBackup

def packageRemoved (package : String) (uid : UInt32) : Operation η φ Unit := do
  note (.packageRemoved package uid)
  notifyBackup

def userRemoved (user : UserId) : Operation η φ Unit := do
  let dropped ← onTable fun table => table.remove user
  if dropped.isSome then note (.userDropped user)

def handle : Event → Operation η φ Unit
  | .packageAdded package uid => packageAdded package uid
  | .packageDataCleared package uid => packageDataCleared package uid
  | .packageRemoved package uid => packageRemoved package uid
  | .userRemoved user => userRemoved user

end Agent
end LocaleStaging
