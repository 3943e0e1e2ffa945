import LocaleStaging.Document.Writer
import LocaleStaging.Staging.Inspection

/-!
The table of staged records. The table in memory is what counts, and each change is written through
to the stage files. A failure to write is put out, and leaves the stage file behind until the next
write for that user.
-/

namespace LocaleStaging

structure StagedTable where
  store : StageStore
  retention : Span
  records : SortedMap UserId StagedRecord
deriving DecidableEq

namespace StagedTable

variable {φ : Type} [FileSystem φ]

def loadEntry (table : StagedTable) (entry : StageEntry) : Work φ StagedTable := do
  let file := Utf8.decodeLossy entry.name
  match ← entry.inspect with
  | .ok (user, record) =>
    Work.note (.loaded file user)
    return { table with records := table.records.insert user record }
  | .error reason =>
    match ← StageStore.removeEntry entry with
    | .error error => Work.note (.discardFailed file error)
    | .ok () => Work.note (.discarded file reason)
    return table

def loadEntries (table : StagedTable) : List StageEntry → Work φ StagedTable
  | [] => return table
  | entry :: rest => do (← table.loadEntry entry).loadEntries rest

/-- Loads the records in a store. A directory that cannot be listed counts as empty. -/
def load (store : StageStore) (retention : Span) : Work φ StagedTable := do
  let table : StagedTable := ⟨store, retention, ∅⟩
  match ← store.entries with
  | .ok entries => table.loadEntries entries
  | .error error =>
    Work.note (.scanFailed error)
    return table

def openAt (directory : Path) (retention : Span) : Work φ (Except StoreError StagedTable) := do
  match ← StageStore.openAt directory with
  | .error error => return .error error
  | .ok store => return .ok (← load store retention)

def contains (table : StagedTable) (user : UserId) : Bool := table.records.contains user

def get? (table : StagedTable) (user : UserId) : Option StagedRecord := table.records.get? user

/-- Gives a user a record, in memory only. -/
def insert (table : StagedTable) (user : UserId) (record : StagedRecord) : StagedTable :=
  { table with records := table.records.insert user record }

def update (table : StagedTable) (user : UserId) (change : StagedRecord → StagedRecord) :
    StagedTable :=
  match table.get? user with
  | none => table
  | some record => table.insert user (change record)

def remove (table : StagedTable) (user : UserId) : Work φ (Option StagedRecord × StagedTable) := do
  match ← table.store.delete user with
  | .error error => Work.note (.deleteFailed user error)
  | .ok () => pure ()
  return (table.get? user, { table with records := table.records.erase user })

/-- Writes the record of a user to the store. A record without pending packages is removed. -/
def persist (table : StagedTable) (user : UserId) : Work φ StagedTable := do
  match table.get? user with
  | none => return table
  | some record =>
    if record.pending.isEmpty then
      return (← table.remove user).2
    match ← table.store.write user (Document.encode record.document) with
    | .ok () => Work.note (.written user)
    | .error error => Work.note (.writeFailed user error)
    return table

def expiredUsers (table : StagedTable) (now : Int64) : List UserId :=
  (table.records.toList.filter fun entry => entry.2.isExpired now table.retention).map Prod.fst

def removeExpired (table : StagedTable) : List UserId → Work φ StagedTable
  | [] => return table
  | user :: rest => do
    Work.note (.expired user)
    (← table.remove user).2.removeExpired rest

def sweep (table : StagedTable) (now : Int64) : Work φ (List UserId × StagedTable) := do
  let users := table.expiredUsers now
  return (users, ← table.removeExpired users)

end StagedTable
end LocaleStaging
