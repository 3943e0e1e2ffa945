import LocaleStaging.Document.Reader
import LocaleStaging.Staging.Record
import LocaleStaging.Storage.StageStore

namespace LocaleStaging

def Document.record? (document : Document) : Option StagedRecord :=
  document.created.map fun created => ⟨created, document.preferences⟩

namespace StageEntry

variable {φ : Type} [FileSystem φ]

/-- The record in an entry. Why there is none is put out, unless the entry is gone or gives no
time. -/
def readRecord (entry : StageEntry) : Work φ (Option StagedRecord) := do
  match ← StageStore.readEntry entry with
  | .error error =>
    Work.note (.readFailed error)
    return none
  | .ok none => return none
  | .ok (some content) =>
    match Document.decode content with
    | .error fault =>
      Work.note (.undecodable entry.path fault)
      return none
    | .ok document => return document.record?

def inspect (entry : StageEntry) : Work φ (Except Rejection (UserId × StagedRecord)) := do
  match entry.user with
  | .error fault => return .error (.name fault)
  | .ok user =>
    match ← entry.readRecord with
    | none => return .error .unreadable
    | some record =>
      if record.pending.isEmpty then return .error .empty else return .ok (user, record)

end StageEntry
end LocaleStaging
