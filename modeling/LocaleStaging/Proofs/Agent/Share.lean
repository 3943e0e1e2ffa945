import LocaleStaging.Proofs.Agent.Deed
import LocaleStaging.Proofs.Agent.Standing
import LocaleStaging.Proofs.Host

/-!
# The share of one user

All users are kept in one table and one directory. The share of a user is what an agent has of this user
alone: the live preferences and applications on its device, the staged record, and what is at the two
places for the files of the user, where nothing of another user is. What a deed leaves of a share can be
told from the share (`Deed.on`), and a deed for one user leaves the shares of others as they were.
-/

namespace LocaleStaging

open StageStore (Sound written deleted stageLocation temporaryLocation)
open StagedTable (stageNode keepFile freshFiles)

@[ext] structure Share where
  live : String → LocaleList
  applications : List String
  record : Option StagedRecord
  stage : Option Node
  temporary : Option Node

namespace Share

def cleared (share : Share) : Share := { share with record := none, stage := none }

def holding (share : Share) (record : StagedRecord) : Share :=
  { share with record := some record, stage := some (stageNode record), temporary := none }

end Share

def Unowned (location place : Location) : Prop :=
  ∀ user, place ≠ stageLocation location user ∧ place ≠ temporaryLocation location user

def Standing.share {η : Type} [Host η] [LawfulHost η] (location : Location) (user : UserId)
    (standing : Standing η FileTree) : Share where
  live := (LawfulHost.view standing.host).live user
  applications := (LawfulHost.view standing.host).applications user
  record := standing.table.get? user
  stage := standing.files.node? (stageLocation location user)
  temporary := standing.files.node? (temporaryLocation location user)

namespace Deed

variable {table : StagedTable} {files : FileTree} {location : Location}

theorem node?_leftFiles (deed : Deed) (table : StagedTable) (files : FileTree) {place : Location}
    (unowned : Unowned location place) :
    (deed.leftFiles table files location).node? place = files.node? place := by
  have removed (files : FileTree) (user : UserId) :
      (deleted files location user).node? place = files.node? place :=
    (StageStore.node?_deleted user place).trans (if_neg (unowned user).1)
  cases deed with
  | nothing => rfl
  | keep user record =>
      exact StagedTable.node?_keepFile_of_ne files (unowned user).1 (unowned user).2 record
  | remove user => exact removed files user
  | sweep now =>
      simp only [leftFiles, freshFiles]
      induction table.expiredUsers now generalizing files with
      | nil => rfl
      | cons user users ih => exact (ih _).trans (removed files user)

def on (retention : Span) (user : UserId) (share : Share) : Deed → Share
  | nothing => share
  | keep owner record =>
    if owner = user then if record.pending.isEmpty then share.cleared else share.holding record
    else share
  | remove owner => if owner = user then share.cleared else share
  | sweep now =>
    if share.record.any fun record => record.isExpired now retention then share.cleared else share

end Deed

section Shares
variable {η : Type} [Host η] [LawfulHost η] (host : η) (location : Location)

theorem share_without (table : StagedTable) (files : FileTree) (owner user : UserId) :
    Standing.share location user ⟨host, table.without owner, deleted files location owner⟩ =
      if owner = user then (Standing.share location user ⟨host, table, files⟩).cleared
      else Standing.share location user ⟨host, table, files⟩ := by
  have aside : (deleted files location owner).node? (temporaryLocation location user) =
      files.node? (temporaryLocation location user) := by
    rw [StageStore.node?_deleted, if_neg (StageStore.temporaryLocation_ne_stageLocation _ _ _)]
  by_cases same : owner = user
  · subst same
    rw [if_pos rfl]
    refine Share.ext rfl rfl ?_ ?_ aside
    · exact (StagedTable.get?_without table owner owner).trans (if_pos rfl)
    · exact (StageStore.node?_deleted owner _).trans (if_pos rfl)
  · rw [if_neg same]
    refine Share.ext rfl rfl ?_ ?_ aside
    · exact (StagedTable.get?_without table owner user).trans (if_neg (Ne.symm same))
    · exact (StageStore.node?_deleted owner _).trans
        (if_neg fun there => same (StageStore.stageLocation_injective there).symm)

theorem share_insert (table : StagedTable) (files : FileTree) (owner user : UserId)
    (record : StagedRecord) :
    Standing.share location user ⟨host, table.insert owner record,
        written files location owner (Document.encode record.document)⟩ =
      if owner = user then (Standing.share location user ⟨host, table, files⟩).holding record
      else Standing.share location user ⟨host, table, files⟩ := by
  have apart := StageStore.temporaryLocation_ne_stageLocation location
  by_cases same : owner = user
  · subst same
    rw [if_pos rfl]
    refine Share.ext rfl rfl ?_ ?_ ?_
    · exact (StagedTable.get?_insert table owner owner record).trans (if_pos rfl)
    · exact (StageStore.node?_written owner _ _).trans (if_pos rfl)
    · exact ((StageStore.node?_written owner _ _).trans (if_neg (apart owner owner))).trans (if_pos rfl)
  · rw [if_neg same]
    refine Share.ext rfl rfl ?_ ?_ ?_
    · exact (StagedTable.get?_insert table owner user record).trans (if_neg (Ne.symm same))
    · refine (StageStore.node?_written owner _ _).trans ?_
      rw [if_neg fun there => same (StageStore.stageLocation_injective there).symm,
        if_neg (apart owner user).symm]
      rfl
    · refine (StageStore.node?_written owner _ _).trans ?_
      rw [if_neg (apart user owner),
        if_neg fun there => same (StageStore.temporaryLocation_injective there).symm]
      rfl

theorem share_withoutAll (table : StagedTable) (files : FileTree) (users : List UserId)
    (user : UserId) :
    Standing.share location user
        ⟨host, users.foldl StagedTable.without table, users.foldl (deleted · location) files⟩ =
      if user ∈ users then (Standing.share location user ⟨host, table, files⟩).cleared
      else Standing.share location user ⟨host, table, files⟩ := by
  induction users generalizing table files with
  | nil => rfl
  | cons owner users ih =>
      rw [List.foldl_cons, List.foldl_cons, ih, share_without]
      by_cases same : owner = user
      · -- Clearing a share again changes nothing.
        subst same
        rw [if_pos rfl, if_pos List.mem_cons_self]
        exact ite_self _
      · simp only [same, if_false, List.mem_cons, Ne.symm same, false_or]

end Shares

namespace Deed

variable {η : Type} [Host η]

def after (location : Location) (before : Standing η FileTree) (deed : Deed) : Standing η FileTree where
  host := before.host
  table := deed.left before.table
  files := deed.leftFiles before.table before.files location

theorem share_after [LawfulHost η] (deed : Deed) (before : Standing η FileTree) (location : Location)
    (user : UserId) : (deed.after location before).share location user =
      deed.on before.table.retention user (before.share location user) := by
  cases deed with
  | nothing => rfl
  | keep owner record =>
      simp only [after, left, leftFiles, on]
      cases bare : record.pending.isEmpty with
      | true =>
          simp only [StagedTable.keep, keepFile, bare, if_true]
          exact share_without before.host location before.table before.files owner user
      | false =>
          simp only [StagedTable.keep, keepFile, bare, Bool.false_eq_true, if_false]
          exact share_insert before.host location before.table before.files owner user record
  | remove owner => exact share_without before.host location before.table before.files owner user
  | sweep now =>
      -- A sweep removes one record after the other, and the user's own is expired or not.
      refine (share_withoutAll before.host location before.table before.files _ user).trans ?_
      exact if_congr (StagedTable.mem_expiredUsers before.table now user) rfl rfl

def ForOthers (user : UserId) : Deed → Prop
  | nothing => True
  | keep owner _ => owner ≠ user
  | remove owner => owner ≠ user
  | sweep _ => False

theorem on_of_forOthers {deed : Deed} {user : UserId} (others : deed.ForOthers user) (retention : Span)
    (share : Share) : deed.on retention user share = share := by
  cases deed with
  | nothing => rfl
  | keep owner record => exact if_neg others
  | remove owner => exact if_neg others
  | sweep now => exact others.elim

end Deed
end LocaleStaging
