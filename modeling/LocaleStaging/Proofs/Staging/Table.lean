import LocaleStaging.Proofs.Staging.Load

namespace LocaleStaging.StagedTable

open LocaleStaging.StageStore (Ready Reaches Clear stageLocation temporaryLocation written deleted)

def stageNode (record : StagedRecord) : Node := .file (Document.encode record.document)

structure Lasting (record : StagedRecord) : Prop where
  listed : record.pending.isEmpty = false
  filled : record.document.Filled

structure InStep (table : StagedTable) (files : FileTree) (location : Location) : Prop where
  ready : table.store.Ready files location
  lasting : ∀ user record, table.get? user = some record → Lasting record
  stored : ∀ user, files.node? (stageLocation location user) = (table.get? user).map stageNode
  alone : ∀ other, location <+: other → other ≠ location → files.node? other ≠ none →
    ∃ user, other = stageLocation location user

theorem InStep.clear {table : StagedTable} {files : FileTree} {location : Location}
    (inStep : InStep table files location) (user : UserId) : Clear files location user := by
  constructor
  · rw [inStep.stored user]
    cases table.get? user <;> simp [stageNode]
  · intro there
    obtain ⟨other, same⟩ := inStep.alone (temporaryLocation location user)
      (List.prefix_append location _) (by simp [temporaryLocation]) (by simp [there])
    exact StageStore.temporaryLocation_ne_stageLocation location user other same

theorem InStep.sound {table : StagedTable} {files : FileTree} {location : Location}
    (inStep : InStep table files location) : table.store.Sound files location :=
  ⟨inStep.ready.reaches, inStep.clear⟩

theorem ext_get? {left right : StagedTable} (store : left.store = right.store)
    (retention : left.retention = right.retention)
    (same : ∀ user, left.get? user = right.get? user) : left = right := by
  obtain ⟨_, _, kept⟩ := left
  obtain ⟨_, _, records⟩ := right
  obtain rfl : _ = _ := store
  obtain rfl : _ = _ := retention
  congr 1
  exact SortedMap.ext_get? same

/-! ## Removing a record -/

def without (table : StagedTable) (user : UserId) : StagedTable :=
  { table with records := table.records.erase user }

theorem get?_without (table : StagedTable) (user other : UserId) :
    (table.without user).get? other = if other = user then none else table.get? other := by
  by_cases same : other = user
  · subst same
    rw [if_pos rfl]
    exact SortedMap.get?_erase_self table.records other
  · rw [if_neg same]
    exact SortedMap.get?_erase_of_ne table.records same

section Operations
variable {table : StagedTable} {files : FileTree} {location : Location}

theorem yields_remove {user : UserId} (reaches : table.store.Reaches files location user)
    (clear : Clear files location user) :
    Yields Workspace.files (table.remove user) files (table.get? user, table.without user)
      (deleted files location user) :=
  Yields.bind (StageStore.yields_delete reaches clear) (Yields.pure _ _)

theorem inStep_without (inStep : InStep table files location) (user : UserId) :
    InStep (table.without user) (deleted files location user) location := by
  refine ⟨inStep.ready.of_keeps (StageStore.keeps_deleted (inStep.clear user)), ?_, ?_, ?_⟩
  · intro other record found
    rw [get?_without] at found
    split at found
    next => cases found
    next => exact inStep.lasting other record found
  · intro other
    rw [StageStore.node?_deleted, get?_without]
    by_cases same : other = user
    · subst same
      rw [if_pos rfl, if_pos rfl]
      rfl
    · rw [if_neg same, if_neg (mt StageStore.stageLocation_injective same)]
      exact inStep.stored other
  · intro other inside deeper there
    rw [StageStore.node?_deleted] at there
    split at there
    next => exact absurd rfl there
    next => exact inStep.alone other inside deeper there

/-! ## Staging a record -/

/-- A table in which a record was staged. One that nothing waits in is not kept. -/
def keep (table : StagedTable) (user : UserId) (record : StagedRecord) : StagedTable :=
  if record.pending.isEmpty then table.without user else table.insert user record

def keepFile (files : FileTree) (location : Location) (user : UserId) (record : StagedRecord) :
    FileTree :=
  if record.pending.isEmpty then deleted files location user
  else written files location user (Document.encode record.document)

theorem get?_keep (table : StagedTable) (user other : UserId) (record : StagedRecord) :
    (table.keep user record).get? other =
      if other = user then if record.pending.isEmpty then none else some record
      else table.get? other := by
  unfold keep
  split
  next => exact get?_without table user other
  next => exact get?_insert table user other record

theorem of_get?_keep {user other : UserId} {record found : StagedRecord}
    (listed : (table.keep user record).get? other = some found) :
    other = user ∧ found = record ∨ other ≠ user ∧ table.get? other = some found := by
  rw [get?_keep] at listed
  split at listed
  next same =>
    split at listed
    next => cases listed
    next =>
      cases listed
      exact .inl ⟨same, rfl⟩
  next apart => exact .inr ⟨apart, listed⟩

def waiting? (table : StagedTable) (user : UserId) (package : String) : Option String :=
  (table.get? user).bind fun record => record.pending.get? package

theorem waiting?_keep (table : StagedTable) (user other : UserId)
    (record : StagedRecord) (package : String) :
    (table.keep user record).waiting? other package =
      if other = user then record.pending.get? package else table.waiting? other package := by
  rw [waiting?, get?_keep]
  split
  next =>
    split
    next bare =>
      rw [SortedMap.isEmpty_iff.1 bare]
      rfl
    next => rfl
  next => rfl

theorem store_keep (table : StagedTable) (user : UserId) (record : StagedRecord) :
    (table.keep user record).store = table.store := by
  unfold keep
  split <;> rfl

theorem retention_keep (table : StagedTable) (user : UserId) (record : StagedRecord) :
    (table.keep user record).retention = table.retention := by
  unfold keep
  split <;> rfl

theorem without_insert (table : StagedTable) (user : UserId) (record : StagedRecord) :
    (table.insert user record).without user = table.without user := by
  refine ext_get? rfl rfl ?_
  intro other
  rw [get?_without, get?_without, get?_insert]
  split <;> rfl

theorem keep_keep (table : StagedTable) (user : UserId) (first second : StagedRecord) :
    (table.keep user first).keep user second = table.keep user second := by
  refine ext_get? ?_ ?_ ?_
  · rw [store_keep, store_keep, store_keep]
  · rw [retention_keep, retention_keep, retention_keep]
  · intro other
    rw [get?_keep, get?_keep, get?_keep]
    split <;> rfl

theorem yields_persist_insert {user : UserId} (reaches : table.store.Reaches files location user)
    (clear : Clear files location user) (record : StagedRecord) :
    Yields Workspace.files ((table.insert user record).persist user) files
      (table.keep user record) (keepFile files location user record) := by
  have found : (table.insert user record).get? user = some record := by
    rw [get?_insert, if_pos rfl]
  rw [persist, found]
  cases bare : record.pending.isEmpty with
  | true =>
      simp only [keep, keepFile, bare, if_true]
      have removed := @yields_remove (table.insert user record) _ _ _ reaches clear
      rw [without_insert] at removed
      exact Yields.bind removed (Yields.pure _ _)
  | false =>
      simp only [keep, keepFile, bare, Bool.false_eq_true, if_false]
      refine Yields.bind (StageStore.yields_write reaches clear _) ?_
      exact Yields.bind (Work.yields_note _ _) (Yields.pure _ _)

theorem keeps_keepFile {user : UserId} (clear : Clear files location user) (record : StagedRecord) :
    FileTree.Keeps files (keepFile files location user record) := by
  unfold keepFile
  split
  next => exact StageStore.keeps_deleted clear
  next => exact StageStore.keeps_written clear _

theorem node?_keepFile (files : FileTree) (location : Location) (user : UserId)
    (record : StagedRecord) :
    (keepFile files location user record).node? (stageLocation location user) =
      if record.pending.isEmpty then none else some (stageNode record) := by
  unfold keepFile
  split
  next => rw [StageStore.node?_deleted, if_pos rfl]
  next =>
    rw [StageStore.node?_written, if_pos rfl]
    rfl

theorem node?_keepFile_of_ne (files : FileTree) {user : UserId} {other : Location}
    (apart : other ≠ stageLocation location user)
    (aside : other ≠ temporaryLocation location user) (record : StagedRecord) :
    (keepFile files location user record).node? other = files.node? other := by
  unfold keepFile
  split
  next => rw [StageStore.node?_deleted, if_neg apart]
  next => rw [StageStore.node?_written, if_neg apart, if_neg aside]

theorem node?_keepFile_eq_ite (files : FileTree) (user : UserId) (record : StagedRecord)
    (place : Location) :
    (keepFile files location user record).node? place =
      if place = stageLocation location user then
        if record.pending.isEmpty then none else some (stageNode record)
      else if place = temporaryLocation location user ∧ record.pending.isEmpty = false then none
      else files.node? place := by
  by_cases here : place = stageLocation location user
  · rw [here, node?_keepFile, if_pos rfl]
  · rw [if_neg here]
    unfold keepFile
    cases bare : record.pending.isEmpty with
    | true => simp [StageStore.node?_deleted, here]
    | false => simp [StageStore.node?_written, here]

theorem node?_keepFile_keepFile (files : FileTree) (user : UserId) (record : StagedRecord)
    (place : Location) :
    (keepFile (keepFile files location user record) location user record).node? place =
      (keepFile files location user record).node? place := by
  simp only [node?_keepFile_eq_ite]
  split
  next => rfl
  next => split <;> rfl

theorem clear_keepFile {user : UserId} (clear : Clear files location user) (record : StagedRecord) :
    Clear (keepFile files location user record) location user := by
  have apart := StageStore.temporaryLocation_ne_stageLocation location user user
  constructor
  · rw [node?_keepFile]
    split
    next => simp
    next => simp [stageNode]
  · unfold keepFile
    split
    next =>
      rw [StageStore.node?_deleted, if_neg apart]
      exact clear.temporary
    next =>
      rw [StageStore.node?_written, if_neg apart, if_pos rfl]
      simp

theorem sound_keepFile (sound : table.store.Sound files location) (user : UserId)
    (record : StagedRecord) : table.store.Sound (keepFile files location user record) location := by
  unfold keepFile
  split
  next => exact sound.deleted user
  next => exact sound.written user _

theorem inStep_insert (inStep : InStep table files location) {record : StagedRecord}
    (lasting : Lasting record) (user : UserId) :
    InStep (table.insert user record)
      (written files location user (Document.encode record.document)) location := by
  refine ⟨inStep.ready.of_keeps (StageStore.keeps_written (inStep.clear user) _), ?_, ?_, ?_⟩
  · intro other found_record found
    rw [get?_insert] at found
    split at found
    next =>
      cases found
      exact lasting
    next => exact inStep.lasting other found_record found
  · intro other
    rw [StageStore.node?_written, get?_insert]
    by_cases same : other = user
    · subst same
      rw [if_pos rfl, if_pos rfl]
      rfl
    · have apart := (StageStore.temporaryLocation_ne_stageLocation location user other).symm
      rw [if_neg same, if_neg (mt StageStore.stageLocation_injective same), if_neg apart]
      exact inStep.stored other
  · intro other inside deeper there
    rw [StageStore.node?_written] at there
    split at there
    next same => exact ⟨user, same⟩
    split at there
    next => exact absurd rfl there
    next => exact inStep.alone other inside deeper there

theorem inStep_keep (inStep : InStep table files location) {record : StagedRecord}
    (filled : record.document.Filled) (user : UserId) :
    InStep (table.keep user record) (keepFile files location user record) location := by
  cases bare : record.pending.isEmpty with
  | true =>
      simp only [keep, keepFile, bare, if_true]
      exact inStep_without inStep user
  | false =>
      simp only [keep, keepFile, bare, Bool.false_eq_true, if_false]
      exact inStep_insert inStep ⟨bare, filled⟩ user

/-! ## Sweeping -/

structure Removable (store : StageStore) (files : FileTree) (location : Location) (user : UserId) :
    Prop where
  leads : files.Leads (store.pathFor user) location (Utf8.encode (StageFile.name user))
  free : files.node? (stageLocation location user) ≠ some .directory

theorem Removable.deleted {store : StageStore} {user other : UserId}
    (removable : Removable store files location user) (others : Removable store files location other) :
    Removable store (StageStore.deleted files location user) location other := by
  refine ⟨others.leads.of_keeps (FileTree.keeps_drop removable.free), ?_⟩
  rw [StageStore.node?_deleted]
  split
  next => simp
  next => exact others.free

theorem removable_of_sound (sound : table.store.Sound files location) (user : UserId) :
    Removable table.store files location user :=
  ⟨StageStore.leads_pathFor (sound.reaches user), (sound.clear user).stage⟩

theorem yields_removeExpired {users : List UserId}
    (removable : ∀ user ∈ users, Removable table.store files location user) :
    Yields Workspace.files (table.removeExpired users) files (users.foldl without table)
      (users.foldl (deleted · location) files) := by
  induction users generalizing table files with
  | nil => exact Yields.pure _ _
  | cons user users ih =>
      have first := removable user List.mem_cons_self
      have deleting := StageStore.yields_delete_of_leads first.leads first.free
      refine Yields.bind (Work.yields_note _ _) ?_
      refine Yields.bind (Yields.bind deleting (Yields.pure _ _)) ?_
      exact @ih (table.without user) _ fun other member =>
        first.deleted (removable other (List.mem_cons_of_mem user member))

def fresh (table : StagedTable) (now : Int64) : StagedTable :=
  (table.expiredUsers now).foldl without table

def freshFiles (table : StagedTable) (now : Int64) (files : FileTree) (location : Location) :
    FileTree :=
  (table.expiredUsers now).foldl (deleted · location) files

theorem yields_sweep_of_removable {now : Int64}
    (removable : ∀ user ∈ table.expiredUsers now, Removable table.store files location user) :
    Yields Workspace.files (table.sweep now) files (table.expiredUsers now, table.fresh now)
      (freshFiles table now files location) :=
  Yields.bind (yields_removeExpired removable) (Yields.pure _ _)

theorem yields_sweep (sound : table.store.Sound files location) (now : Int64) :
    Yields Workspace.files (table.sweep now) files (table.expiredUsers now, table.fresh now)
      (freshFiles table now files location) :=
  yields_sweep_of_removable fun user _ => removable_of_sound sound user

theorem get?_withoutAll (table : StagedTable) (users : List UserId) (user : UserId) :
    (users.foldl without table).get? user = if user ∈ users then none else table.get? user := by
  induction users generalizing table with
  | nil => rfl
  | cons first users ih =>
      rw [List.foldl_cons, ih, get?_without]
      by_cases same : user = first
      · simp [same]
      · simp [same]

theorem get?_fresh (table : StagedTable) (now : Int64) (user : UserId) :
    (table.fresh now).get? user = table.get? user ∨ (table.fresh now).get? user = none := by
  rw [fresh, get?_withoutAll]
  split
  next => exact .inr rfl
  next => exact .inl rfl

theorem mem_expiredUsers (table : StagedTable) (now : Int64) (user : UserId) :
    user ∈ table.expiredUsers now ↔
      (table.get? user).any (fun record => record.isExpired now table.retention) = true := by
  simp only [expiredUsers, List.mem_map, List.mem_filter, Prod.exists, exists_and_right,
    exists_eq_right, Option.any_eq_true]
  exact exists_congr fun record => and_congr_left fun _ => SortedMap.get?_eq_some_iff.symm

theorem store_fresh (table : StagedTable) (now : Int64) : (table.fresh now).store = table.store := by
  unfold fresh
  induction table.expiredUsers now generalizing table with
  | nil => rfl
  | cons user users ih => exact ih (table.without user)

theorem retention_fresh (table : StagedTable) (now : Int64) :
    (table.fresh now).retention = table.retention := by
  unfold fresh
  induction table.expiredUsers now generalizing table with
  | nil => rfl
  | cons user users ih => exact ih (table.without user)

theorem sound_freshFiles (sound : table.store.Sound files location) (now : Int64) :
    table.store.Sound (freshFiles table now files location) location := by
  unfold freshFiles
  induction table.expiredUsers now generalizing files with
  | nil => exact sound
  | cons user users ih => exact ih (sound.deleted user)

theorem inStep_fresh (inStep : InStep table files location) (now : Int64) :
    InStep (table.fresh now) (freshFiles table now files location) location := by
  unfold fresh freshFiles
  induction table.expiredUsers now generalizing table files with
  | nil => exact inStep
  | cons user users ih => exact ih (inStep_without inStep user)

/-! ## Loading -/

theorem Lasting.decode {record : StagedRecord} (lasting : Lasting record) :
    Document.decode (Document.encode record.document) = .ok record.document := by
  rw [Document.decode_encode_eq lasting.listed, Document.withoutBlanks_of_filled lasting.filled]

theorem accepted?_of_stageNode {name : Bytes} {user : UserId} {record : StagedRecord}
    (lasting : Lasting record) (owned : StageStore.userOfOctets name = .ok user)
    (there : files.node? (location ++ [name]) = some (stageNode record)) :
    accepted? files location name = some (user, record) := by
  have read : recordAt? files location name = some record := by
    rw [recordAt?, there]
    simp only [stageNode, lasting.decode]
    rfl
  rw [accepted?, owned, read]
  simp [Option.filter, lasting.listed]

theorem name_of_inStep (inStep : InStep table files location) {name : Bytes}
    (there : files.node? (location ++ [name]) ≠ none) :
    ∃ user record, name = Utf8.encode (StageFile.name user) ∧ table.get? user = some record ∧
      accepted? files location name = some (user, record) := by
  obtain ⟨user, same⟩ := inStep.alone (location ++ [name]) (List.prefix_append location _)
    (by simp) there
  obtain rfl : name = Utf8.encode (StageFile.name user) :=
    (List.cons.inj (List.append_cancel_left same)).1
  have stored := inStep.stored user
  cases found : table.get? user with
  | none =>
      rw [found] at stored
      exact absurd stored there
  | some record =>
      rw [found] at stored
      exact ⟨user, record, rfl, found,
        accepted?_of_stageNode (inStep.lasting user record found)
          (StageFile.userOfOctets_name user) stored⟩

theorem rejects_of_inStep (inStep : InStep table files location) (name : Bytes) :
    rejects files location name = false := by
  rw [Bool.eq_false_iff]
  intro refused
  obtain ⟨refused, content, there⟩ := file_of_rejects files location name refused
  have present : files.node? (location ++ [name]) ≠ none := by simp [there]
  obtain ⟨user, record, _, _, accepted⟩ := name_of_inStep inStep present
  rw [refused] at accepted
  cases accepted

theorem latest_iff_of_inStep (inStep : InStep table files location) (user : UserId)
    (record : StagedRecord) :
    (∃ name, Latest files location user name record) ↔ table.get? user = some record := by
  constructor
  · rintro ⟨name, accepted, _⟩
    obtain ⟨owner, kept, _, found, same⟩ := name_of_inStep inStep (exists_of_accepted? accepted)
    rw [accepted] at same
    cases same
    exact found
  · intro found
    have stored := inStep.stored user
    rw [found] at stored
    have accepted := accepted?_of_stageNode (inStep.lasting user record found)
      (StageFile.userOfOctets_name user) stored
    refine ⟨_, accepted, ?_⟩
    intro other kept again
    obtain ⟨owner, _, rfl, _, same⟩ := name_of_inStep inStep (exists_of_accepted? again)
    rw [again] at same
    cases same
    exact Std.ReflCmp.isLE_rfl

theorem load_of_inStep (inStep : InStep table files location) :
    Yields Workspace.files (load table.store table.retention) files table files := by
  have addressable (name : Bytes) (there : files.node? (location ++ [name]) ≠ none) :
      Addressable table.store name := by
    obtain ⟨user, _, rfl, _, _⟩ := name_of_inStep inStep there
    exact ⟨StageFile.isFileName_name user, (inStep.ready.reaches user).stage_fits⟩
  obtain ⟨after, left, done, store, retention, loaded⟩ :=
    yields_load inStep.ready.finds addressable table.retention
  obtain rfl : left = files := loaded.untouched (rejects_of_inStep inStep)
  have same : after = table := by
    refine ext_get? store retention ?_
    intro user
    ext record
    exact (loaded.records user record).trans (latest_iff_of_inStep inStep user record)
  rw [same] at done
  exact done

theorem openAt_of_inStep (inStep : InStep table files location) :
    Yields Workspace.files (openAt table.store.directory table.retention) files (.ok table) files :=
  Yields.bind (StageStore.yields_openAt inStep.ready.finds)
    (Yields.bind (load_of_inStep inStep) (Yields.pure _ _))

/-! ## What is on the disk -/

theorem InStep.get?_iff (inStep : InStep table files location) (user : UserId)
    (record : StagedRecord) :
    table.get? user = some record ↔
      ∃ content, files.readFile (table.store.pathFor user) = .ok content ∧
        Document.decode content = .ok record.document := by
  have leads := StageStore.leads_pathFor (inStep.ready.reaches user)
  have there := inStep.stored user
  cases found : table.get? user with
  | none =>
      rw [found] at there
      have absent := FileTree.readFile_of_absent leads there
      simp [absent]
  | some kept =>
      rw [found] at there
      have read := FileTree.readFile_of_leads leads there
      have decoded := (inStep.lasting user kept found).decode
      constructor
      · intro same
        cases same
        exact ⟨_, read, decoded⟩
      · rintro ⟨content, again, same⟩
        rw [read] at again
        cases again
        rw [decoded] at same
        have documents := congrArg Document.record? (Except.ok.inj same)
        exact documents

end Operations
end LocaleStaging.StagedTable
