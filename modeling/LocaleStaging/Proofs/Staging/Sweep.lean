import LocaleStaging.Proofs.Staging.Blind
import LocaleStaging.Proofs.Staging.Expiry
import Mathlib.Data.List.Nodup
import Mathlib.Data.List.Perm.Basic

namespace LocaleStaging

/-! ## Expiry and the clock -/

theorem StagedRecord.isExpired_of_le {record : StagedRecord} {now later : Int64} {retention : Span}
    (le : now ≤ later) (expired : record.isExpired now retention = true) :
    record.isExpired later retention = true :=
  isExpired_mono (Int64.le_refl record.created) le (Nat.le_refl retention.nanoseconds) expired

namespace StagedTable

open LocaleStaging.StageStore (stageLocation deleted)

variable {table : StagedTable}

theorem increasing_expiredUsers (table : StagedTable) (now : Int64) :
    (table.expiredUsers now).Pairwise (· < ·) := by
  refine List.Pairwise.map Prod.fst ?_ (table.records.increasing.filter _)
  intro earlier later below
  exact compareOfLessAndEq_eq_lt.1 below

theorem nodup_expiredUsers (table : StagedTable) (now : Int64) : (table.expiredUsers now).Nodup := by
  refine (increasing_expiredUsers table now).imp ?_
  intro earlier later below
  exact UInt32.ne_of_lt below

theorem mem_expiredUsers_iff (table : StagedTable) (now : Int64) (user : UserId) :
    user ∈ table.expiredUsers now ↔
      ∃ record, table.get? user = some record ∧ record.isExpired now table.retention = true := by
  rw [mem_expiredUsers, Option.any_eq_true]

theorem expiredUsers_mono {now later : Int64} (le : now ≤ later) {user : UserId}
    (expired : user ∈ table.expiredUsers now) : user ∈ table.expiredUsers later := by
  obtain ⟨record, found, old⟩ := (mem_expiredUsers_iff table now user).1 expired
  exact (mem_expiredUsers_iff table later user).2 ⟨record, found, StagedRecord.isExpired_of_le le old⟩

theorem mem_expiredUsers_fresh {now later : Int64} {user : UserId} :
    user ∈ (table.fresh now).expiredUsers later ↔
      user ∉ table.expiredUsers now ∧ user ∈ table.expiredUsers later := by
  rw [mem_expiredUsers_iff, retention_fresh, fresh, get?_withoutAll, mem_expiredUsers_iff table later]
  by_cases swept : user ∈ table.expiredUsers now
  · simp [swept]
  · simp [swept]

/-! ## Sweeps one after the other -/

variable {φ : Type} [FileSystem φ]

def sweepAll (table : StagedTable) : List Int64 → Work φ (List (List UserId) × StagedTable)
  | [] => return ([], table)
  | now :: rest => do
    let (users, table) ← table.sweep now
    let (later, table) ← table.sweepAll rest
    return (users :: later, table)

def sweptUsers (table : StagedTable) : List Int64 → List (List UserId)
  | [] => []
  | now :: rest => table.expiredUsers now :: (table.fresh now).sweptUsers rest

theorem mem_sweptUsers {times : List Int64} {user : UserId} :
    user ∈ (table.sweptUsers times).flatten ↔ ∃ time ∈ times, user ∈ table.expiredUsers time := by
  induction times generalizing table with
  | nil => simp [sweptUsers]
  | cons now times ih =>
      rw [sweptUsers, List.flatten_cons, List.mem_append, ih]
      simp only [mem_expiredUsers_fresh, List.mem_cons, exists_eq_or_imp]
      by_cases swept : user ∈ table.expiredUsers now
      · simp [swept]
      · simp [swept]

theorem nodup_sweptUsers (table : StagedTable) (times : List Int64) :
    (table.sweptUsers times).flatten.Nodup := by
  induction times generalizing table with
  | nil => exact List.nodup_nil
  | cons now times ih =>
      refine List.nodup_append.2 ⟨nodup_expiredUsers table now, ih (table.fresh now), ?_⟩
      rintro user swept _ again rfl
      obtain ⟨time, _, expired⟩ := mem_sweptUsers.1 again
      exact (mem_expiredUsers_fresh.1 expired).1 swept

theorem sweptUsers_perm (table : StagedTable) {times : List Int64} {latest : Int64} (listed : latest ∈ times)
    (bound : ∀ time ∈ times, time ≤ latest) :
    (table.sweptUsers times).flatten.Perm (table.expiredUsers latest) := by
  refine (List.perm_ext_iff_of_nodup (nodup_sweptUsers table times)
    (nodup_expiredUsers table latest)).2 fun user => mem_sweptUsers.trans ?_
  constructor
  · rintro ⟨time, member, expired⟩
    exact expiredUsers_mono (bound time member) expired
  · intro expired
    exact ⟨latest, listed, expired⟩

theorem withoutAll_perm {first second : List UserId} (permuted : first.Perm second)
    (table : StagedTable) : first.foldl without table = second.foldl without table := by
  refine permuted.foldl_eq' ?_ table
  intro one _ two _ table
  refine ext_get? rfl rfl fun user => ?_
  simp only [get?_without]
  split <;> simp

theorem deletedAll_perm {first second : List UserId} (permuted : first.Perm second)
    (location : Location) (files : FileTree) :
    first.foldl (deleted · location) files = second.foldl (deleted · location) files := by
  refine permuted.foldl_eq' ?_ files
  intro one _ two _ files
  exact FileTree.drop_comm files _ _

theorem fst_sweepAll (table : StagedTable) (times : List Int64) (workspace : Workspace φ) :
    (table.sweepAll times workspace).1 =
      (table.sweptUsers times, (table.sweptUsers times).flatten.foldl without table) := by
  induction times generalizing table workspace with
  | nil => rfl
  | cons now times ih =>
      have run : (table.sweepAll (now :: times) workspace).1 =
          ((table.sweep now workspace).1.1 :: ((table.sweep now workspace).1.2.sweepAll times
              (table.sweep now workspace).2).1.1,
            ((table.sweep now workspace).1.2.sweepAll times (table.sweep now workspace).2).1.2) := rfl
      rw [run, ih, fst_sweep, sweptUsers, List.flatten_cons, List.foldl_append]
      rfl

section Files
variable {files : FileTree} {location : Location}

theorem Removable.deletedAll {users : List UserId} {store : StageStore} {other : UserId}
    (removable : ∀ user ∈ users, Removable store files location user)
    (others : Removable store files location other) :
    Removable store (users.foldl (StageStore.deleted · location) files) location other := by
  induction users generalizing files with
  | nil => exact others
  | cons user users ih =>
      have first := removable user List.mem_cons_self
      refine ih (fun next member => first.deleted (removable next (List.mem_cons_of_mem user member))) ?_
      exact first.deleted others

theorem yields_sweepAll {times : List Int64}
    (removable : ∀ user ∈ (table.sweptUsers times).flatten, Removable table.store files location user) :
    Yields Workspace.files (table.sweepAll times) files
      (table.sweptUsers times, (table.sweptUsers times).flatten.foldl without table)
      ((table.sweptUsers times).flatten.foldl (deleted · location) files) := by
  induction times generalizing table files with
  | nil => exact Yields.pure _ _
  | cons now times ih =>
      simp only [sweptUsers, List.flatten_cons, List.mem_append] at removable
      have now_removable (user : UserId) (member : user ∈ table.expiredUsers now) :=
        removable user (.inl member)
      have later_removable (user : UserId) (member : user ∈ ((table.fresh now).sweptUsers times).flatten) :
          Removable (table.fresh now).store (freshFiles table now files location) location user := by
        rw [store_fresh]
        exact Removable.deletedAll now_removable (removable user (.inr member))
      simp only [sweptUsers, List.flatten_cons, List.foldl_append]
      exact Yields.bind (yields_sweep_of_removable now_removable)
        (Yields.bind (ih later_removable) (Yields.pure _ _))

theorem node?_deletedAll (files : FileTree) (location : Location) (users : List UserId)
    (place : Location) :
    (users.foldl (deleted · location) files).node? place =
      if ∃ user ∈ users, place = stageLocation location user then none else files.node? place := by
  induction users generalizing files with
  | nil => simp
  | cons user users ih =>
      rw [List.foldl_cons, ih, StageStore.node?_deleted]
      by_cases here : place = stageLocation location user
      · simp [here]
      · simp [here]

end Files

structure Swept (table : StagedTable) (now : Int64) (users : List UserId) (after : StagedTable) :
    Prop where
  ordered : users.Pairwise (· < ·)
  expired : ∀ user, user ∈ users ↔
    ∃ record, table.get? user = some record ∧ record.isExpired now table.retention = true
  others : ∀ user, after.get? user = if user ∈ users then none else table.get? user
  store : after.store = table.store
  retention : after.retention = table.retention

theorem swept_fresh (table : StagedTable) (now : Int64) :
    Swept table now (table.expiredUsers now) (table.fresh now) :=
  ⟨increasing_expiredUsers table now, mem_expiredUsers_iff table now, get?_withoutAll table _,
    store_fresh table now, retention_fresh table now⟩

theorem expiredUsers_fresh_of_le (table : StagedTable) {now earlier : Int64} (le : earlier ≤ now) :
    (table.fresh now).expiredUsers earlier = [] := by
  refine List.eq_nil_iff_forall_not_mem.2 fun user expired => ?_
  obtain ⟨fresh, old⟩ := mem_expiredUsers_fresh.1 expired
  exact fresh (expiredUsers_mono le old)

/-- A sweep gives the users whose records are expired, in order, and removes these records and, if they
can be deleted, the stage files of these users. Sweeps at several times, in any order, leave what one
sweep at the latest of them leaves, and give the same users, each once. A sweep at the same time or an
earlier one then does nothing. -/
theorem sweep_exact (table : StagedTable) :
    (∀ {φ : Type} [FileSystem φ] (workspace : Workspace φ),
      (∀ now, Swept table now (table.sweep now workspace).1.1 (table.sweep now workspace).1.2) ∧
      (∀ times latest, latest ∈ times → (∀ time ∈ times, time ≤ latest) →
        (table.sweepAll times workspace).1.1.flatten.Perm (table.sweep latest workspace).1.1 ∧
          (table.sweepAll times workspace).1.2 = (table.sweep latest workspace).1.2) ∧
      ∀ now earlier, earlier ≤ now →
        let once := table.sweep now workspace
        (once.1.2.sweep earlier once.2).1 = ([], once.1.2) ∧
          (once.1.2.sweep earlier once.2).2.files = once.2.files) ∧
    ∀ (workspace : Workspace FileTree) (location : Location) (now : Int64),
      (∀ user ∈ (table.sweep now workspace).1.1,
        Removable table.store workspace.files location user) →
      (∀ place, (table.sweep now workspace).2.files.node? place =
        if ∃ user ∈ (table.sweep now workspace).1.1, place = stageLocation location user then none
        else workspace.files.node? place) ∧
      ∀ times, now ∈ times → (∀ time ∈ times, time ≤ now) →
        (table.sweepAll times workspace).2.files = (table.sweep now workspace).2.files := by
  constructor
  · intro φ _ workspace
    refine ⟨?_, ?_, ?_⟩
    · intro now
      rw [fst_sweep]
      exact swept_fresh table now
    · intro times latest listed bound
      have permuted := sweptUsers_perm table listed bound
      rw [fst_sweepAll, fst_sweep]
      exact ⟨permuted, withoutAll_perm permuted table⟩
    · intro now earlier le once
      have swept : once.1 = (table.expiredUsers now, table.fresh now) := fst_sweep table now workspace
      have bare := expiredUsers_fresh_of_le table le
      have idle : (table.fresh now).sweep earlier once.2 = (([], table.fresh now), once.2) := by
        unfold sweep
        simp only [bare]
        rfl
      rw [swept, idle]
      exact ⟨rfl, rfl⟩
  · intro workspace location now removable
    rw [fst_sweep] at removable
    obtain ⟨_, left⟩ := yields_sweep_of_removable removable workspace rfl
    rw [left, fst_sweep]
    refine ⟨node?_deletedAll workspace.files location (table.expiredUsers now), ?_⟩
    intro times listed bound
    have permuted := sweptUsers_perm table listed bound
    have removable_all (user : UserId) (member : user ∈ (table.sweptUsers times).flatten) :=
      removable user (permuted.subset member)
    obtain ⟨_, left_all⟩ := yields_sweepAll removable_all workspace rfl
    exact left_all.trans (deletedAll_perm permuted location workspace.files)

def early : StagedRecord := ⟨1000, SortedMap.ofList [("com.a", "de")]⟩

def late : StagedRecord := ⟨3000, SortedMap.ofList [("com.b", "ja")]⟩

def twoRecords : StagedTable :=
  ⟨⟨Path.ofString "stage"⟩, ⟨1, 0⟩, SortedMap.ofList [(4, late), (1, early)]⟩

def twoStages : FileTree :=
  keepFile (keepFile StageStore.emptyStage [Utf8.encode "stage"] 4 late) [Utf8.encode "stage"] 1 early

theorem removable_twoStages (user : UserId) :
    Removable twoRecords.store twoStages [Utf8.encode "stage"] user := by
  have sound : twoRecords.store.Sound StageStore.emptyStage [Utf8.encode "stage"] :=
    ⟨StageStore.ready_emptyStage.reaches, StageStore.clear_emptyStage⟩
  exact removable_of_sound (sound_keepFile (sound_keepFile sound 4 late) 1 early) user

theorem sweep_exact_backwards :
    (twoRecords.sweep 2500 ⟨twoStages, []⟩).1.1 = [1] ∧
      (twoRecords.sweepAll [500, 2500, 2400] ⟨twoStages, []⟩).1.2 =
        (twoRecords.sweep 2500 ⟨twoStages, []⟩).1.2 ∧
      (twoRecords.sweepAll [500, 2500, 2400] ⟨twoStages, []⟩).2.files =
        (twoRecords.sweep 2500 ⟨twoStages, []⟩).2.files := by
  obtain ⟨memory, disk⟩ := sweep_exact twoRecords
  have latest : ∀ time ∈ [500, 2500, 2400], time ≤ (2500 : Int64) := by
    intro time member
    simp only [List.mem_cons, List.not_mem_nil, or_false] at member
    rcases member with rfl | rfl | rfl <;> decide
  obtain ⟨_, collapse, _⟩ := memory (⟨twoStages, []⟩ : Workspace FileTree)
  obtain ⟨_, files⟩ := disk ⟨twoStages, []⟩ [Utf8.encode "stage"] 2500 fun user _ =>
    removable_twoStages user
  refine ⟨by decide +kernel, (collapse _ 2500 (by decide) latest).2, files _ (by decide) latest⟩

end StagedTable
end LocaleStaging
