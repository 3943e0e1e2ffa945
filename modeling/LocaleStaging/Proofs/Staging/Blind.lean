import LocaleStaging.Proofs.Staging.Table

namespace LocaleStaging

variable {φ α β : Type}

namespace Work

def Blind (work : Work φ α) : Prop :=
  ∀ files, ∃ answer after put, Emits work files answer after put

theorem Blind.pure (value : α) : Blind (Pure.pure value : Work φ α) :=
  fun files => ⟨value, files, [], Emits.pure value files⟩

theorem Blind.bind {work : Work φ α} {next : α → Work φ β} (first : Blind work)
    (later : ∀ value, Blind (next value)) : Blind (work >>= next) := by
  intro files
  obtain ⟨value, middle, _, given⟩ := first files
  obtain ⟨answer, after, _, done⟩ := later value middle
  exact ⟨answer, after, _, given.bind done⟩

theorem fst_bind {work : Work φ α} {next : α → Work φ β} {answer : β}
    (settled : ∀ value after, (next value after).1 = answer) (workspace : Workspace φ) :
    ((work >>= next) workspace).1 = answer :=
  settled (work workspace).1 (work workspace).2

theorem blind_note (notice : Notice) : Blind (note notice : Work φ Unit) :=
  fun files => ⟨(), files, _, Emits.note notice files⟩

theorem blind_change (work : φ → α × φ) : Blind (change work) :=
  fun _ => ⟨_, _, _, Emits.change rfl⟩

end Work

open Work (Blind)

variable [FileSystem φ]

namespace StageStore

theorem blind_removeAt (path : Path) : Blind (removeAt path : Work φ (Except StoreError Unit)) := by
  refine Blind.bind (Work.blind_change _) ?_
  intro answer
  match answer with
  | .ok () => exact Blind.pure _
  | .error cause => cases cause <;> exact Blind.pure _

theorem blind_write (store : StageStore) (user : UserId) (content : Bytes) :
    Blind (store.write user content : Work φ (Except StoreError Unit)) := by
  refine Blind.bind (Work.blind_change _) ?_
  intro beside
  cases beside with
  | error cause => exact Blind.bind (Work.blind_change _) fun _ => Blind.pure _
  | ok done =>
      refine Blind.bind (Work.blind_change _) ?_
      intro moved
      cases moved with
      | error cause => exact Blind.bind (Work.blind_change _) fun _ => Blind.pure _
      | ok done => exact Blind.bind (Work.blind_note _) fun _ => Blind.pure _

end StageStore

namespace StagedTable

/-! ## The same whatever was put out -/

theorem blind_remove (table : StagedTable) (user : UserId) :
    Blind (table.remove user : Work φ (Option StagedRecord × StagedTable)) := by
  refine Blind.bind (StageStore.blind_removeAt _) ?_
  intro answer
  cases answer with
  | error error => exact Blind.bind (Work.blind_note _) fun _ => Blind.pure _
  | ok done => exact Blind.pure _

theorem blind_persist (table : StagedTable) (user : UserId) :
    Blind (table.persist user : Work φ StagedTable) := by
  unfold persist
  cases table.get? user with
  | none => exact Blind.pure table
  | some record =>
      cases bare : record.pending.isEmpty with
      | true =>
          simp only [bare, if_true]
          exact Blind.bind (blind_remove table user) fun _ => Blind.pure _
      | false =>
          simp only [bare, Bool.false_eq_true, if_false]
          refine Blind.bind (StageStore.blind_write _ _ _) ?_
          intro answer
          cases answer with
          | error error => exact Blind.bind (Work.blind_note _) fun _ => Blind.pure _
          | ok done => exact Blind.bind (Work.blind_note _) fun _ => Blind.pure _

theorem blind_removeExpired (table : StagedTable) (users : List UserId) :
    Blind (table.removeExpired users : Work φ StagedTable) := by
  induction users generalizing table with
  | nil => exact Blind.pure table
  | cons user users ih =>
      refine Blind.bind (Work.blind_note _) ?_
      intro _
      exact Blind.bind (blind_remove table user) fun removed => ih removed.2

theorem blind_sweep (table : StagedTable) (now : Int64) :
    Blind (table.sweep now : Work φ (List UserId × StagedTable)) :=
  Blind.bind (blind_removeExpired table _) fun _ => Blind.pure _

/-! ## The table that is left -/

theorem fst_remove (table : StagedTable) (user : UserId) (workspace : Workspace φ) :
    (table.remove user workspace).1 = (table.get? user, table.without user) := by
  unfold remove
  apply Work.fst_bind
  intro deleted after
  cases deleted <;> rfl

theorem fst_persist_insert (table : StagedTable) (user : UserId) (record : StagedRecord)
    (workspace : Workspace φ) :
    ((table.insert user record).persist user workspace).1 = table.keep user record := by
  have found : (table.insert user record).get? user = some record := by
    rw [get?_insert, if_pos rfl]
  unfold persist keep
  simp only [found]
  cases bare : record.pending.isEmpty with
  | true =>
      simp only [if_true]
      have removed := congrArg Prod.snd (fst_remove (table.insert user record) user workspace)
      exact removed.trans (without_insert table user record)
  | false =>
      simp only [Bool.false_eq_true, if_false]
      apply Work.fst_bind
      intro written after
      cases written <;> rfl

theorem fst_removeExpired (table : StagedTable) (users : List UserId) (workspace : Workspace φ) :
    (table.removeExpired users workspace).1 = users.foldl without table := by
  induction users generalizing table workspace with
  | nil => rfl
  | cons user users ih =>
      have run : table.removeExpired (user :: users) workspace =
          ((table.remove user (Work.note (.expired user) workspace).2).1.2).removeExpired users
            (table.remove user (Work.note (.expired user) workspace).2).2 := rfl
      rw [run, ih, fst_remove]
      rfl

theorem fst_sweep (table : StagedTable) (now : Int64) (workspace : Workspace φ) :
    (table.sweep now workspace).1 = (table.expiredUsers now, table.fresh now) :=
  congrArg (Prod.mk _) (fst_removeExpired table (table.expiredUsers now) workspace)

end StagedTable
end LocaleStaging
