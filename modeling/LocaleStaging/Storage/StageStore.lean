import LocaleStaging.Staging.FileName
import LocaleStaging.Storage.Workspace

/-!
The store of stage files: one file for each user with staged preferences, all in one directory. A
file is written beside its place and then moved there, so a reader finds the old content or the
new one and never a part of either. A file that a writer has left behind has a name of its own
kind, and is found as an entry that belongs to no user.
-/

namespace LocaleStaging

structure StageStore where
  directory : Path
deriving DecidableEq, Repr

structure StageEntry where
  path : Path
  name : Bytes
  user : Except StageFile.NameFault UserId

namespace StageStore

variable {φ : Type} [FileSystem φ]

/-- Opens a staging directory, and creates it if it is missing. Something that already has its
name is left as it is. -/
def openAt (directory : Path) : Work φ (Except StoreError StageStore) := do
  match ← Work.change fun files => FileSystem.createDirectories files directory with
  | .ok () => return .ok ⟨directory⟩
  | .error cause => return .error ⟨.createDirectory, cause, directory⟩

def pathFor (store : StageStore) (user : UserId) : Path :=
  store.directory.join (Utf8.encode (StageFile.name user))

def temporaryPathFor (store : StageStore) (user : UserId) : Path :=
  (store.pathFor user).withName (Utf8.encode (StageFile.name user ++ ".tmp"))

def readAt (path : Path) : Work φ (Except StoreError (Option Bytes)) := do
  match ← Work.look fun files => FileSystem.readFile files path with
  | .ok content => return .ok (some content)
  | .error .notFound => return .ok none
  | .error cause => return .error ⟨.read, cause, path⟩

def removeAt (path : Path) : Work φ (Except StoreError Unit) := do
  match ← Work.change fun files => FileSystem.removeFile files path with
  | .ok () | .error .notFound => return .ok ()
  | .error cause => return .error ⟨.delete, cause, path⟩

def read (store : StageStore) (user : UserId) : Work φ (Except StoreError (Option Bytes)) :=
  readAt (store.pathFor user)

def delete (store : StageStore) (user : UserId) : Work φ (Except StoreError Unit) :=
  removeAt (store.pathFor user)

/-- Gives the stage file of a user a new content. If that fails, what was written beside it is
removed again. -/
def write (store : StageStore) (user : UserId) (content : Bytes) :
    Work φ (Except StoreError Unit) := do
  let path := store.pathFor user
  let temporary := store.temporaryPathFor user
  match ← Work.change fun files => FileSystem.writeFile files temporary content with
  | .error cause =>
    let _ ← Work.change fun files => FileSystem.removeFile files temporary
    return .error ⟨.write, cause, temporary⟩
  | .ok () =>
    match ← Work.change fun files => FileSystem.rename files temporary path with
    | .error cause =>
      let _ ← Work.change fun files => FileSystem.removeFile files temporary
      return .error ⟨.commit, cause, path⟩
    | .ok () =>
      Work.note (.committed path)
      return .ok ()

def userOfOctets (name : Bytes) : Except StageFile.NameFault UserId :=
  match Utf8.decode? name with
  | none => .error .unrecognized
  | some text => StageFile.userOfName text

def entry (store : StageStore) (name : Bytes) : StageEntry :=
  ⟨store.directory.join name, name, userOfOctets name⟩

/-- What is in the staging directory, in the order of names. A directory that is missing has
nothing in it. -/
def entries (store : StageStore) : Work φ (Except StoreError (List StageEntry)) := do
  match ← Work.look fun files => FileSystem.readDirectory files store.directory with
  | .ok names =>
    return .ok <| (names.mergeSort fun earlier later => (compare earlier later).isLE).map store.entry
  | .error .notFound => return .ok []
  | .error cause => return .error ⟨.readDirectory, cause, store.directory⟩

def readEntry (found : StageEntry) : Work φ (Except StoreError (Option Bytes)) := readAt found.path

def removeEntry (found : StageEntry) : Work φ (Except StoreError Unit) := removeAt found.path

end StageStore
end LocaleStaging
