import LocaleStaging.Proofs.Staging.Blind

/-!
# What is done to the staged records

A request changes the staged records and their files by one deed at most. The table that a deed leaves
does not depend on any files (`Deed.fst_work`), and what it does to the files does not depend on what was
put out before (`Deed.blind`). Where files can be written and removed, a deed leaves files that can be told
in advance (`Deed.yields`).
-/

namespace LocaleStaging

open StageStore (deleted stageLocation temporaryLocation)
open StagedTable (keepFile freshFiles)

inductive Deed where
  | nothing
  | keep (user : UserId) (record : StagedRecord)
  | remove (user : UserId)
  | sweep (now : Int64)

namespace Deed

def work {φ : Type} [FileSystem φ] (table : StagedTable) : Deed → Work φ StagedTable
  | nothing => return table
  | keep user record => (table.insert user record).persist user
  | remove user => return (← table.remove user).2
  | sweep now => return (← table.sweep now).2

def left (table : StagedTable) : Deed → StagedTable
  | nothing => table
  | keep user record => table.keep user record
  | remove user => table.without user
  | sweep now => table.fresh now

section Left
variable {φ : Type} [FileSystem φ]

theorem fst_work (deed : Deed) (table : StagedTable) (workspace : Workspace φ) :
    (deed.work table workspace).1 = deed.left table := by
  cases deed with
  | nothing => rfl
  | keep user record => exact StagedTable.fst_persist_insert table user record workspace
  | remove user => exact congrArg Prod.snd (StagedTable.fst_remove table user workspace)
  | sweep now => exact congrArg Prod.snd (StagedTable.fst_sweep table now workspace)

theorem blind (deed : Deed) (table : StagedTable) :
    Work.Blind (deed.work table : Work φ StagedTable) := by
  cases deed with
  | nothing => exact Work.Blind.pure table
  | keep user record => exact StagedTable.blind_persist _ user
  | remove user =>
      exact Work.Blind.bind (StagedTable.blind_remove table user) fun _ => Work.Blind.pure _
  | sweep now => exact Work.Blind.bind (StagedTable.blind_sweep table now) fun _ => Work.Blind.pure _

theorem exists_emits (deed : Deed) (table : StagedTable) (files : φ) :
    ∃ after put, Work.Emits (deed.work table) files (deed.left table) after put := by
  obtain ⟨answer, after, put, emits⟩ := deed.blind table files
  obtain rfl : answer = deed.left table := by
    rw [← deed.fst_work table ⟨files, []⟩, emits]
  exact ⟨after, put, emits⟩

theorem store_left (deed : Deed) (table : StagedTable) : (deed.left table).store = table.store := by
  cases deed with
  | nothing => rfl
  | keep user record => exact StagedTable.store_keep table user record
  | remove user => rfl
  | sweep now => exact StagedTable.store_fresh table now

theorem retention_left (deed : Deed) (table : StagedTable) :
    (deed.left table).retention = table.retention := by
  cases deed with
  | nothing => rfl
  | keep user record => exact StagedTable.retention_keep table user record
  | remove user => rfl
  | sweep now => exact StagedTable.retention_fresh table now

end Left

/-! ## Where files can be written and removed -/

variable {table : StagedTable} {files : FileTree} {location : Location}

def leftFiles (table : StagedTable) (files : FileTree) (location : Location) : Deed → FileTree
  | nothing => files
  | keep user record => keepFile files location user record
  | remove user => deleted files location user
  | sweep now => freshFiles table now files location

theorem yields (deed : Deed) (sound : table.store.Sound files location) :
    Yields Workspace.files (deed.work table) files (deed.left table)
      (deed.leftFiles table files location) := by
  cases deed with
  | nothing => exact Yields.pure table files
  | keep user record =>
      exact StagedTable.yields_persist_insert (sound.reaches user) (sound.clear user) record
  | remove user =>
      exact Yields.bind (StagedTable.yields_remove (sound.reaches user) (sound.clear user))
        (Yields.pure _ _)
  | sweep now => exact Yields.bind (StagedTable.yields_sweep sound now) (Yields.pure _ _)

theorem sound_left (deed : Deed) (sound : table.store.Sound files location) :
    (deed.left table).store.Sound (deed.leftFiles table files location) location := by
  rw [store_left]
  cases deed with
  | nothing => exact sound
  | keep user record => exact StagedTable.sound_keepFile sound user record
  | remove user => exact sound.deleted user
  | sweep now => exact StagedTable.sound_freshFiles sound now

def Filled : Deed → Prop
  | keep _ record => record.document.Filled
  | _ => True

theorem inStep_left {deed : Deed} (filled : deed.Filled)
    (inStep : StagedTable.InStep table files location) :
    StagedTable.InStep (deed.left table) (deed.leftFiles table files location) location := by
  cases deed with
  | nothing => exact inStep
  | keep user record => exact StagedTable.inStep_keep inStep filled user
  | remove user => exact StagedTable.inStep_without inStep user
  | sweep now => exact StagedTable.inStep_fresh inStep now

end Deed
end LocaleStaging
