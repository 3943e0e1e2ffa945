import LocaleStaging.Proofs.Staging.Durability
import LocaleStaging.Proofs.Storage.Listed

namespace LocaleStaging

/-! ## Directories listed in any order -/

section Listed
open LocaleStaging.Listed (Mirrors mirrors_note mirrors_readAt mirrors_removeAt)
variable {order : ListingOrder}

theorem StageEntry.mirrors_readRecord (entry : StageEntry) :
    Mirrors (entry.readRecord : Work (Listed order) _) entry.readRecord := by
  refine Mirrors.bind (mirrors_readAt entry.path) ?_
  intro found
  cases found with
  | error error => exact Mirrors.bind (mirrors_note _) fun _ => Mirrors.pure none
  | ok found =>
      cases found with
      | none => exact Mirrors.pure none
      | some content =>
          cases decoded : Document.decode content with
          | error fault =>
              simp only [decoded]
              exact Mirrors.bind (mirrors_note _) fun _ => Mirrors.pure none
          | ok document =>
              simp only [decoded]
              exact Mirrors.pure document.record?

theorem StageEntry.mirrors_inspect (entry : StageEntry) :
    Mirrors (entry.inspect : Work (Listed order) _) entry.inspect := by
  unfold StageEntry.inspect
  cases entry.user with
  | error fault => exact Mirrors.pure _
  | ok user =>
      refine Mirrors.bind entry.mirrors_readRecord ?_
      intro found
      cases found with
      | none => exact Mirrors.pure _
      | some record =>
          by_cases bare : record.pending.isEmpty = true
          · simp only [bare, if_true]
            exact Mirrors.pure _
          · simp only [bare]
            exact Mirrors.pure _

theorem StagedTable.mirrors_loadEntry (table : StagedTable) (entry : StageEntry) :
    Mirrors (table.loadEntry entry : Work (Listed order) _) (table.loadEntry entry) := by
  refine Mirrors.bind entry.mirrors_inspect ?_
  intro inspected
  cases inspected with
  | ok accepted => exact Mirrors.bind (mirrors_note _) fun _ => Mirrors.pure _
  | error reason =>
      refine Mirrors.bind (mirrors_removeAt entry.path) ?_
      intro removed
      cases removed <;> exact Mirrors.bind (mirrors_note _) fun _ => Mirrors.pure table

theorem StagedTable.mirrors_loadEntries (table : StagedTable) (entries : List StageEntry) :
    Mirrors (table.loadEntries entries : Work (Listed order) _) (table.loadEntries entries) := by
  induction entries generalizing table with
  | nil => exact Mirrors.pure table
  | cons entry rest ih => exact Mirrors.bind (table.mirrors_loadEntry entry) ih

theorem StagedTable.mirrors_load (store : StageStore) (retention : Span) :
    Mirrors (load store retention : Work (Listed order) _) (load store retention) := by
  refine Mirrors.bind (Listed.mirrors_entries store) ?_
  intro listed
  cases listed with
  | ok entries => exact StagedTable.mirrors_loadEntries _ entries
  | error error => exact Mirrors.bind (mirrors_note _) fun _ => Mirrors.pure _

end Listed

namespace StagedTable

open LocaleStaging.FileTree (Finds)

section Directory
variable {store : StageStore} {files others left later : FileTree} {location : Location}
  {table again : StagedTable}

theorem Loaded.node?_name (loaded : Loaded files location table left) (name : Bytes) :
    left.node? (location ++ [name]) =
      if rejects files location name then none else files.node? (location ++ [name]) := by
  split
  next refused => exact loaded.gone name refused
  next kept =>
    apply loaded.kept
    intro other refused here
    rw [(List.cons.inj (List.append_cancel_left here)).1] at kept
    exact kept refused

theorem Loaded.not_rejects (loaded : Loaded files location table left) (name : Bytes) :
    rejects left location name = false := by
  have there := loaded.node?_name name
  rw [Bool.eq_false_iff]
  intro refused
  obtain ⟨unaccepted, content, held⟩ := file_of_rejects left location name refused
  rw [accepted?_of_loaded loaded] at unaccepted
  rw [held] at there
  split at there
  next => cases there
  next kept => exact kept (by rw [rejects, ← there, unaccepted]; rfl)

theorem Loaded.addressable (loaded : Loaded files location table left)
    (addressable : ∀ name, files.node? (location ++ [name]) ≠ none → Addressable store name)
    (name : Bytes) (there : left.node? (location ++ [name]) ≠ none) : Addressable store name := by
  rw [loaded.node?_name] at there
  split at there
  next => exact absurd rfl there
  next => exact addressable name there

theorem eq_of_loaded (loaded : Loaded files location table left)
    (reloaded : Loaded others location again later)
    (same : ∀ name, accepted? others location name = accepted? files location name)
    (store : again.store = table.store) (retention : again.retention = table.retention) :
    again = table := by
  apply ext_get? store retention
  intro user
  have accepted (name : Bytes) (record : StagedRecord) :
      accepted? others location name = some (user, record) ↔
        accepted? files location name = some (user, record) := by rw [same name]
  ext record
  rw [reloaded.records, loaded.records]
  simp only [latest_congr accepted]

theorem Loaded.yields_again (loaded : Loaded files location table left)
    (finds : files.Finds store.directory location)
    (addressable : ∀ name, files.node? (location ++ [name]) ≠ none → Addressable store name)
    (stored : table.store = store) :
    Yields Workspace.files (load store table.retention) left table left := by
  obtain ⟨again, later, reloading, stored_again, retained, reloaded⟩ :=
    yields_load (finds.of_keeps loaded.keeps) (loaded.addressable addressable) table.retention
  have same := eq_of_loaded loaded reloaded (accepted?_of_loaded loaded)
    (stored_again.trans stored.symm) retained
  rw [same, reloaded.untouched loaded.not_rejects] at reloading
  exact reloading

end Directory

/-- Loading gives each user the record of the last accepted file, and removes just the files that are
not accepted. It gives the same for every order of listing, when it is done again, and for every
directory with the same accepted files. -/
theorem load_filters {store : StageStore} {files : FileTree} {location : Location}
    (finds : files.Finds store.directory location)
    (addressable : ∀ name, files.node? (location ++ [name]) ≠ none → Addressable store name)
    (retention : Span) :
    ∃ table left, Loaded files location table left ∧
      (∀ order, Yields Listed.treeOf (load store retention : Work (Listed order) _) files table left) ∧
      (∀ order, Yields Listed.treeOf (load store retention : Work (Listed order) _) left table left) ∧
      ∀ others : FileTree, others.Finds store.directory location →
        (∀ name, others.node? (location ++ [name]) ≠ none → Addressable store name) →
        (∀ name, accepted? others location name = accepted? files location name) →
        ∃ later, ∀ order,
          Yields Listed.treeOf (load store retention : Work (Listed order) _) others table later := by
  obtain ⟨table, left, loading, stored, retained, loaded⟩ := yields_load finds addressable retention
  have listed (order : ListingOrder) :
      Listed.Mirrors (load store retention : Work (Listed order) _) (load store retention) :=
    mirrors_load store retention
  refine ⟨table, left, loaded, fun order => (listed order).yields loading, ?_, ?_⟩
  · intro order
    have again := loaded.yields_again finds addressable stored
    rw [retained] at again
    exact (listed order).yields again
  · intro others finds_others addressable_others same
    obtain ⟨again, later, reloading, stored_again, retained_again, reloaded⟩ :=
      yields_load finds_others addressable_others retention
    rw [eq_of_loaded loaded reloaded same (stored_again.trans stored.symm)
      (retained_again.trans retained.symm)] at reloading
    exact ⟨later, fun order => (listed order).yields reloading⟩

def clutteredStage : FileTree :=
  (((StageStore.emptyStage.put [Utf8.encode "stage", Utf8.encode "staged_locales_7.xml"]
    (stageNode ⟨8, SortedMap.ofList [("a", "b")]⟩)).put
      [Utf8.encode "stage", Utf8.encode "staged_locales_7.xml.tmp"] (.file [60])).put
        [Utf8.encode "stage", [0xFF]] (.file [])).put
          [Utf8.encode "stage", Utf8.encode "old"] .directory

theorem node?_clutteredStage (name : Bytes) :
    clutteredStage.node? ([Utf8.encode "stage"] ++ [name]) =
      if name = Utf8.encode "old" then some .directory
      else if name = [0xFF] then some (.file [])
      else if name = Utf8.encode "staged_locales_7.xml.tmp" then some (.file [60])
      else if name = Utf8.encode "staged_locales_7.xml" then
        some (stageNode ⟨8, SortedMap.ofList [("a", "b")]⟩)
      else none := by
  rw [clutteredStage, FileTree.node?_put _ (by simp), FileTree.node?_put _ (by simp),
    FileTree.node?_put _ (by simp), FileTree.node?_put _ (by simp),
    StageStore.node?_emptyStage]
  simp

theorem named_clutteredStage {name : Bytes}
    (there : clutteredStage.node? ([Utf8.encode "stage"] ++ [name]) ≠ none) :
    name = Utf8.encode "old" ∨ name = [0xFF] ∨ name = Utf8.encode "staged_locales_7.xml.tmp" ∨
      name = Utf8.encode "staged_locales_7.xml" := by
  rw [node?_clutteredStage] at there
  grind

theorem load_filters_clutteredStage :
    ∃ table left, Yields Listed.treeOf
        (load ⟨Path.ofString "stage"⟩ ⟨0, 0⟩ : Work (Listed .reversed) _) clutteredStage table left ∧
      table.get? 7 = some ⟨8, SortedMap.ofList [("a", "b")]⟩ ∧
      left.node? ([Utf8.encode "stage"] ++ [Utf8.encode "staged_locales_7.xml.tmp"]) = none ∧
      left.node? ([Utf8.encode "stage"] ++ [[0xFF]]) = none ∧
      left.node? ([Utf8.encode "stage"] ++ [Utf8.encode "old"]) = some .directory := by
  have finds : clutteredStage.Finds (Path.ofString "stage") [Utf8.encode "stage"] :=
    ⟨by decide +kernel, by decide +kernel⟩
  have addressable (name : Bytes)
      (there : clutteredStage.node? ([Utf8.encode "stage"] ++ [name]) ≠ none) :
      Addressable ⟨Path.ofString "stage"⟩ name := by
    rcases named_clutteredStage there with rfl | rfl | rfl | rfl <;>
      exact ⟨⟨⟨by decide, by decide, by decide, by decide⟩, by decide, by decide⟩, by decide⟩
  have accepted : accepted? clutteredStage [Utf8.encode "stage"]
      (Utf8.encode "staged_locales_7.xml") = some (7, ⟨8, SortedMap.ofList [("a", "b")]⟩) := by
    decide +kernel
  have refused : rejects clutteredStage [Utf8.encode "stage"]
      (Utf8.encode "staged_locales_7.xml.tmp") = true := by decide +kernel
  have refused_foreign : rejects clutteredStage [Utf8.encode "stage"] [0xFF] = true := by
    decide +kernel
  have kept : rejects clutteredStage [Utf8.encode "stage"] (Utf8.encode "old") = false := by
    decide +kernel
  obtain ⟨table, left, loaded, loading, _, _⟩ :=
    @load_filters ⟨Path.ofString "stage"⟩ clutteredStage _ finds addressable ⟨0, 0⟩
  refine ⟨table, left, loading .reversed, ?_, loaded.gone _ refused, loaded.gone _ refused_foreign, ?_⟩
  · refine (loaded.records 7 _).2 ⟨_, accepted, ?_⟩
    intro other record found
    rcases named_clutteredStage (exists_of_accepted? found) with rfl | rfl | rfl | rfl
    · decide
    · cases (file_of_rejects _ _ _ refused_foreign).1.symm.trans found
    · cases (file_of_rejects _ _ _ refused).1.symm.trans found
    · exact Std.ReflCmp.isLE_rfl
  · rw [loaded.node?_name, kept, node?_clutteredStage]
    rfl

/-! ## Paths that are too long -/

section Lost
variable {files : FileTree} {fault : IoFault}

theorem yields_readAt_of_lost {path : Path} (lost : files.Lost path fault) :
    ∃ answer, (∀ content, answer ≠ .ok (some content)) ∧
      Yields Workspace.files (StageStore.readAt path) files answer files := by
  have unread : FileSystem.readFile files path = .error fault := by
    simp only [FileSystem.readFile, FileTree.readFile, FileTree.find_of_lost lost]
  have look := Work.yields_look (fun files : FileTree => FileSystem.readFile files path) files
  rw [unread] at look
  cases fault <;> exact ⟨_, by simp, Yields.bind look (Yields.pure _ files)⟩

theorem yields_removeAt_of_lost {path : Path} (lost : files.Lost path fault) :
    ∃ answer, Yields Workspace.files (StageStore.removeAt path) files answer files := by
  have unchanged := FileTree.removeFile_of_lost lost
  cases fault <;> exact ⟨_, Yields.bind (Work.yields_change unchanged) (Yields.pure _ files)⟩

theorem yields_loadEntry_of_lost {entry : StageEntry} (lost : files.Lost entry.path fault)
    (table : StagedTable) : Yields Workspace.files (table.loadEntry entry) files table files := by
  have read : Yields Workspace.files entry.readRecord files none files := by
    obtain ⟨answer, unread, read⟩ := yields_readAt_of_lost lost
    refine Yields.bind read ?_
    cases answer with
    | error error => exact Yields.bind (Work.yields_note _ files) (Yields.pure none files)
    | ok found =>
        cases found with
        | none => exact Yields.pure none files
        | some content => exact absurd rfl (unread content)
  obtain ⟨reason, inspected⟩ : ∃ reason,
      Yields Workspace.files entry.inspect files (.error reason) files := by
    unfold StageEntry.inspect
    cases entry.user with
    | error fault => exact ⟨_, Yields.pure _ files⟩
    | ok user => exact ⟨_, Yields.bind read (Yields.pure _ files)⟩
  obtain ⟨answer, removed⟩ := yields_removeAt_of_lost lost
  refine Yields.bind inspected (Yields.bind removed ?_)
  cases answer with
  | error error => exact Yields.bind (Work.yields_note _ files) (Yields.pure table files)
  | ok done => exact Yields.bind (Work.yields_note _ files) (Yields.pure table files)

end Lost

theorem yields_loadEntries_of_lost {store : StageStore} {files : FileTree} {names : List Bytes}
    (lost : ∀ name ∈ names, ∃ fault, files.Lost (store.directory.join name) fault)
    (table : StagedTable) :
    Yields Workspace.files (table.loadEntries (names.map store.entry)) files table files := by
  induction names with
  | nil => exact Yields.pure table files
  | cons name names ih =>
      obtain ⟨fault, first⟩ := lost name List.mem_cons_self
      exact Yields.bind (yields_loadEntry_of_lost first table)
        (ih fun other member => lost other (List.mem_cons_of_mem name member))

def strayStage : FileTree :=
  StageStore.emptyStage.put [Utf8.encode "stage", Utf8.encode "stray"] (.file [])

theorem load_crowdedPath :
    strayStage.Finds StageStore.crowdedPath [Utf8.encode "stage"] ∧
      rejects strayStage [Utf8.encode "stage"] (Utf8.encode "stray") = true ∧
      ∃ table, Yields Workspace.files (load ⟨StageStore.crowdedPath⟩ ⟨0, 0⟩) strayStage table
        strayStage := by
  have finds : strayStage.Finds StageStore.crowdedPath [Utf8.encode "stage"] := by
    apply StageStore.finds_crowdedPath.of_keeps
    apply FileTree.keeps_put
    rw [show StageStore.emptyStage.node? [Utf8.encode "stage", Utf8.encode "stray"] = none from
      StageStore.node?_emptyStage (Utf8.encode "stray")]
    simp
  refine ⟨finds, by decide +kernel, ?_⟩
  obtain ⟨names, listed, members, _⟩ := @StageStore.yields_entries ⟨StageStore.crowdedPath⟩ _ _ finds
  have lost (name : Bytes) (member : name ∈ names) :
      ∃ fault, strayStage.Lost (StageStore.crowdedPath.join name) fault := by
    have there := (members name).1 member
    have stray : name = Utf8.encode "stray" := by
      rw [strayStage, FileTree.node?_put _ (List.cons_ne_nil _ _)] at there
      split at there
      next same => exact (List.cons.inj (List.append_cancel_left same)).1
      next =>
        rw [StageStore.node?_emptyStage] at there
        exact absurd rfl there
    rw [stray]
    obtain ⟨fault, barred⟩ := @StageStore.exists_barred_crowdedPath (Utf8.encode "stray")
      ⟨by decide, by decide, by decide, by decide⟩
    exact ⟨fault, FileTree.lost_of_barred _ barred⟩
  exact ⟨_, Yields.bind listed (yields_loadEntries_of_lost lost _)⟩

end StagedTable
end LocaleStaging
