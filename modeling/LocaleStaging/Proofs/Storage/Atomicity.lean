import LocaleStaging.Proofs.Storage.StageStore

/-!
# Writing a stage file, whatever is in the way

A stage file is written in full or not at all, in every file tree: the directory may be missing or be
a file, and directories may stand at the path of the file or at that of the file written beside it.
The two paths lead to one directory, if they lead anywhere (`leads_pathFor_or_barred`), so that there
are three ways in which writing ends (`WriteEnd`). A path that is too long leads nowhere, even in a
directory with nothing in the way (`write_crowdedPath`).
-/

namespace LocaleStaging.StageStore

open LocaleStaging.FileTree (Ends)

/-- The path of the directory that stage files are in. Names in no directory are looked up in the one
in which relative paths start. -/
def place (store : StageStore) : Path :=
  if store.directory.octets = [] then ⟨Path.dot⟩ else store.directory

structure Fits (store : StageStore) (user : UserId) : Prop where
  stage : (store.pathFor user).octets.length ≤ FileTree.pathLimit
  temporary : (store.temporaryPathFor user).octets.length ≤ FileTree.pathLimit

/-! ## Where the paths of a user lead -/

section Paths
variable {files : FileTree} {location : Location}

theorem finds_place_iff {store : StageStore} :
    files.Finds store.place location ↔ FileTree.checkPath store.place = .ok store.place.names ∧
      files.Opens (files.start store.directory) store.directory.names location := by
  rw [FileTree.finds_iff, place]
  split
  next bare =>
    obtain ⟨⟨octets⟩⟩ := store
    obtain rfl : octets = [] := bare
    exact and_congr_right fun _ => @FileTree.opens_append_dots files _ location [] 1
  next => rfl

theorem no_zero_of_place {store : StageStore} (finds : files.Finds store.place location) :
    (0 : UInt8) ∉ store.directory.octets := by
  have no_zero := finds.checked.1
  rw [place] at no_zero
  split at no_zero
  next bare =>
    rw [bare]
    exact List.not_mem_nil
  next => exact no_zero

theorem leads_pathFor_of_place {store : StageStore} {user : UserId}
    (finds : files.Finds store.place location) (fits : store.Fits user) :
    files.Leads (store.pathFor user) location (Utf8.encode (StageFile.name user)) := by
  have opens := (finds_place_iff.1 finds).2
  exact FileTree.leads_of_walk opens.walked opens.isDirectory (StageFile.isFileName_name user)
    (no_zero_of_place finds) fits.stage

theorem leads_temporaryPathFor_of_place {store : StageStore} {user : UserId}
    (finds : files.Finds store.place location) (fits : store.Fits user) :
    files.Leads (store.temporaryPathFor user) location
      (Utf8.encode (StageFile.name user ++ ".tmp")) := by
  obtain ⟨parent, count, beside, absolute, start, names⟩ := exists_parent store user
  have opens := (finds_place_iff.1 finds).2
  have fits_beside := fits.temporary
  rw [names, FileTree.opens_append_dots, ← files.start_of_isAbsolute absolute] at opens
  rw [beside] at fits_beside ⊢
  exact FileTree.leads_of_walk opens.walked opens.isDirectory (StageFile.isFileName_temporary user)
    (fun member => no_zero_of_place finds (start.subset member)) fits_beside

theorem finds_place_of_leads {store : StageStore} {user : UserId}
    (leads : files.Leads (store.pathFor user) location (Utf8.encode (StageFile.name user))) :
    files.Finds store.place location := by
  obtain ⟨checked, opens⟩ := (FileTree.leads_iff (ends_pathFor store user)).1 leads
  obtain ⟨no_zero, short, _, _⟩ := FileTree.checkPath_ok checked
  have start : store.directory.octets <+: (store.pathFor user).octets :=
    Path.prefix_join (StageFile.isFileName_name user).toIsName
  rw [start_pathFor] at opens
  refine finds_place_iff.2 ⟨?_, opens⟩
  rw [place]
  split
  next => rfl
  next filled =>
    exact FileTree.checkPath_of_names (fun member => no_zero (start.subset member))
      (Nat.le_trans start.length_le short) filled

theorem leads_pathFor_or_barred {store : StageStore} {user : UserId}
    (leads : files.Leads (store.temporaryPathFor user) location
      (Utf8.encode (StageFile.name user ++ ".tmp"))) :
    files.Leads (store.pathFor user) location (Utf8.encode (StageFile.name user)) ∨
      ∃ fault, FileTree.checkPath (store.pathFor user) = .error fault := by
  obtain ⟨before, ends, same⟩ := exists_ends_temporaryPathFor store user
  have opens := (same files location).1 (leads.opens ends)
  cases checked : FileTree.checkPath (store.pathFor user) with
  | error fault => exact .inr ⟨fault, rfl⟩
  | ok names =>
      rw [(FileTree.checkPath_ok checked).2.2.2] at checked
      rw [← start_pathFor store user] at opens
      exact .inl ((FileTree.leads_iff (ends_pathFor store user)).2 ⟨checked, opens⟩)

end Paths

/-! ## How writing ends -/

inductive Blocked (files : FileTree) (path : Path) : Prop where
  | directory (there : files.isDirectory path = true)
  | lost {fault : IoFault} (lost : files.Lost path fault)

theorem not_blocked {files : FileTree} {path : Path} {location : Location} {name : Bytes}
    (leads : files.Leads path location name) (free : ¬files.isDirectory path) :
    ¬Blocked files path := by
  intro blocked
  cases blocked with
  | directory there => exact free there
  | lost lost => cases leads.located.symm.trans lost.located

inductive WriteEnd (store : StageStore) (files : FileTree) (user : UserId) (content : Bytes) :
    Except StoreError Unit → FileTree → Prop where
  | unwritten (cause : IoFault) (blocked : Blocked files (store.temporaryPathFor user)) :
      WriteEnd store files user content (.error ⟨.write, cause, store.temporaryPathFor user⟩) files
  | uncommitted (cause : IoFault) (location : Location)
      (leads : files.Leads (store.temporaryPathFor user) location
        (Utf8.encode (StageFile.name user ++ ".tmp")))
      (free : files.node? (temporaryLocation location user) ≠ some .directory)
      (blocked : Blocked files (store.pathFor user)) :
      WriteEnd store files user content (.error ⟨.commit, cause, store.pathFor user⟩)
        (files.drop (temporaryLocation location user))
  | committed (location : Location)
      (leads_temporary : files.Leads (store.temporaryPathFor user) location
        (Utf8.encode (StageFile.name user ++ ".tmp")))
      (leads : files.Leads (store.pathFor user) location (Utf8.encode (StageFile.name user)))
      (clear : Clear files location user) :
      WriteEnd store files user content (.ok ()) (written files location user content)

theorem exists_writeEnd (store : StageStore) (files : FileTree) (user : UserId) (content : Bytes) :
    ∃ answer after, Yields Workspace.files (store.write user content) files answer after ∧
      WriteEnd store files user content answer after := by
  obtain ⟨before, ends, _⟩ := exists_ends_temporaryPathFor store user
  rcases FileTree.leads_or_lost files ends with ⟨location, leads⟩ | ⟨fault, lost⟩
  · by_cases taken : files.node? (temporaryLocation location user) = some .directory
    · have wrote := FileTree.writeFile_of_directory leads content taken
      have cleared := FileTree.removeFile_of_directory leads taken
      refine ⟨_, _, Yields.bind (Work.yields_change wrote)
        (Yields.bind (Work.yields_change cleared) (Yields.pure _ _)), .unwritten _ (.directory ?_)⟩
      exact FileTree.isDirectory_iff.2 ⟨_, leads.located, taken⟩
    · have keeps := FileTree.keeps_put taken (.file content)
      have wrote := FileTree.writeFile_of_leads leads content taken
      have there : (files.put (temporaryLocation location user) (.file content)).node?
          (temporaryLocation location user) = some (.file content) := by
        rw [FileTree.node?_put _ (temporaryLocation_ne_nil location user), if_pos rfl]
      -- Whatever keeps the file from being moved, it is removed again.
      have uncommitted (cause : IoFault) (blocked : Blocked files (store.pathFor user))
          (moved : (files.put (temporaryLocation location user) (.file content)).rename
            (store.temporaryPathFor user) (store.pathFor user) =
              (.error cause, files.put (temporaryLocation location user) (.file content))) :
          ∃ answer after, Yields Workspace.files (store.write user content) files answer after ∧
            WriteEnd store files user content answer after := by
        have cleared := FileTree.removeFile_of_leads (leads.of_keeps keeps) there
        rw [← temporaryLocation, FileTree.drop_put] at cleared
        exact ⟨_, _, Yields.bind (Work.yields_change wrote) (Yields.bind (Work.yields_change moved)
          (Yields.bind (Work.yields_change cleared) (Yields.pure _ _))),
          .uncommitted cause location leads taken blocked⟩
      rcases leads_pathFor_or_barred leads with leads_stage | ⟨fault, barred⟩
      · by_cases taken_stage : files.node? (stageLocation location user) = some .directory
        · refine uncommitted _ (.directory (FileTree.isDirectory_iff.2 ⟨_, leads_stage.located,
            taken_stage⟩)) (FileTree.rename_to_directory (leads.of_keeps keeps)
              (leads_stage.of_keeps keeps) there ?_)
          exact keeps.directory _ taken_stage
        · have clear : Clear files location user := ⟨taken_stage, taken⟩
          exact ⟨_, _, yields_write_of_leads leads leads_stage clear content,
            .committed location leads leads_stage clear⟩
      · have lost := FileTree.lost_of_barred files barred
        exact uncommitted fault (.lost lost) (FileTree.rename_to_lost (leads.of_keeps keeps)
          (FileTree.lost_of_barred _ barred) there)
  · have wrote := FileTree.writeFile_of_lost lost content
    have cleared := FileTree.removeFile_of_lost lost
    exact ⟨_, _, Yields.bind (Work.yields_change wrote)
      (Yields.bind (Work.yields_change cleared) (Yields.pure _ _)), .unwritten fault (.lost lost)⟩

section WriteEnd
variable {store : StageStore} {files after : FileTree} {user : UserId} {content : Bytes}
  {answer : Except StoreError Unit}

theorem WriteEnd.ok_iff (ended : WriteEnd store files user content answer after) :
    answer = .ok () ↔ store.Fits user ∧ files.isDirectory store.place ∧
      ¬files.isDirectory (store.pathFor user) ∧ ¬files.isDirectory (store.temporaryPathFor user) := by
  cases ended with
  | unwritten cause blocked =>
      refine iff_of_false (by simp) ?_
      rintro ⟨fits, found, _, free⟩
      obtain ⟨location, finds⟩ := FileTree.isDirectory_iff.1 found
      exact absurd blocked (not_blocked (leads_temporaryPathFor_of_place finds fits) free)
  | uncommitted cause location leads free blocked =>
      refine iff_of_false (by simp) ?_
      rintro ⟨fits, found, free_stage, _⟩
      obtain ⟨location, finds⟩ := FileTree.isDirectory_iff.1 found
      exact absurd blocked (not_blocked (leads_pathFor_of_place finds fits) free_stage)
  | committed location leads_temporary leads clear =>
      obtain ⟨before, ends, _⟩ := exists_ends_temporaryPathFor store user
      have fits : store.Fits user :=
        ⟨(FileTree.checkPath_ok ((FileTree.leads_iff (ends_pathFor store user)).1 leads).1).2.1,
          (FileTree.checkPath_ok ((FileTree.leads_iff ends).1 leads_temporary).1).2.1⟩
      exact iff_of_true rfl ⟨fits, FileTree.isDirectory_iff.2 ⟨location, finds_place_of_leads leads⟩,
        FileTree.not_isDirectory_of_leads leads clear.stage,
        FileTree.not_isDirectory_of_leads leads_temporary clear.temporary⟩

theorem WriteEnd.readFile_pathFor (ended : WriteEnd store files user content (.ok ()) after) :
    after.readFile (store.pathFor user) = .ok content := by
  cases ended with
  | committed location leads_temporary leads clear =>
      apply FileTree.readFile_of_leads (leads.of_keeps (keeps_written clear content))
      rw [← stageLocation, node?_written, if_pos rfl]

theorem WriteEnd.find_pathFor {error : StoreError}
    (ended : WriteEnd store files user content (.error error) after) :
    after.find (store.pathFor user) = files.find (store.pathFor user) := by
  cases ended with
  | unwritten cause blocked => rfl
  | uncommitted cause location leads free blocked =>
      rcases leads_pathFor_or_barred leads with leads_stage | ⟨fault, barred⟩
      · have same : (files.drop (temporaryLocation location user)).node? (stageLocation location user) =
            files.node? (stageLocation location user) := by
          rw [FileTree.node?_drop _ (temporaryLocation_ne_nil location user), if_neg]
          exact (temporaryLocation_ne_stageLocation location user user).symm
        have kept := leads_stage.of_keeps (FileTree.keeps_drop free)
        rw [stageLocation] at same
        simp only [FileTree.find, kept.located, leads_stage.located, same]
      · rw [FileTree.find_of_lost (FileTree.lost_of_barred _ barred),
          FileTree.find_of_lost (FileTree.lost_of_barred _ barred)]

/-- No file is left beside the stage file, not even one that was there before. -/
theorem WriteEnd.readFile_temporaryPathFor (ended : WriteEnd store files user content answer after)
    (left : Bytes) : after.readFile (store.temporaryPathFor user) ≠ .ok left := by
  have gone {location : Location} {tree : FileTree}
      (leads : tree.Leads (store.temporaryPathFor user) location
        (Utf8.encode (StageFile.name user ++ ".tmp")))
      (absent : tree.node? (temporaryLocation location user) = none) :
      tree.readFile (store.temporaryPathFor user) ≠ .ok left := by
    rw [FileTree.readFile_of_absent leads absent]
    simp
  cases ended with
  | unwritten cause blocked =>
      cases blocked with
      | directory there =>
          obtain ⟨location, located, directory⟩ := FileTree.isDirectory_iff.1 there
          simp [FileTree.readFile, FileTree.find, located, directory]
      | lost lost => simp [FileTree.readFile, FileTree.find_of_lost lost]
  | uncommitted cause location leads free blocked =>
      apply gone (leads.of_keeps (FileTree.keeps_drop free))
      rw [FileTree.node?_drop _ (temporaryLocation_ne_nil location user), if_pos rfl]
  | committed location leads_temporary leads clear =>
      apply gone (leads_temporary.of_keeps (keeps_written clear content))
      rw [node?_written, if_neg (temporaryLocation_ne_stageLocation location user user), if_pos rfl]

theorem WriteEnd.node?_elsewhere (ended : WriteEnd store files user content answer after)
    {other : Location} (beside : files.locate (store.temporaryPathFor user) ≠ .ok other)
    (apart : files.locate (store.pathFor user) ≠ .ok other) :
    after.node? other = files.node? other := by
  cases ended with
  | unwritten cause blocked => rfl
  | uncommitted cause location leads free blocked =>
      rw [FileTree.node?_drop _ (temporaryLocation_ne_nil location user), if_neg]
      rintro rfl
      exact beside leads.located
  | committed location leads_temporary leads clear =>
      rw [node?_written, if_neg, if_neg]
      · rintro rfl
        exact beside leads_temporary.located
      · rintro rfl
        exact apart leads.located

end WriteEnd

/-- What is promised of an attempt to write a stage file: it succeeds just if nothing is in its way,
and changes nothing but the stage file, and what was left beside it by another attempt. -/
structure Atomic (store : StageStore) (files : FileTree) (user : UserId) (content : Bytes)
    (answer : Except StoreError Unit) (after : FileTree) : Prop where
  ok_iff : answer = .ok () ↔ store.Fits user ∧ files.isDirectory store.place ∧
    ¬files.isDirectory (store.pathFor user) ∧ ¬files.isDirectory (store.temporaryPathFor user)
  written : answer = .ok () → after.readFile (store.pathFor user) = .ok content
  failed : ∀ error, answer = .error error → (error.action = .write ∨ error.action = .commit) ∧
    after.find (store.pathFor user) = files.find (store.pathFor user)
  nothing_beside : ∀ left, after.readFile (store.temporaryPathFor user) ≠ .ok left
  elsewhere : ∀ other, files.locate (store.temporaryPathFor user) ≠ .ok other →
    files.locate (store.pathFor user) ≠ .ok other → after.node? other = files.node? other
  working : after.working = files.working

/-- A stage file is written in full or not at all, whatever is in the file tree. -/
theorem write_atomic (store : StageStore) (files : FileTree) (user : UserId) (content : Bytes) :
    ∃ answer after, Yields Workspace.files (store.write user content) files answer after ∧
      Atomic store files user content answer after := by
  obtain ⟨answer, after, yields, ended⟩ := exists_writeEnd store files user content
  refine ⟨answer, after, yields, ended.ok_iff, ?_, ?_, ended.readFile_temporaryPathFor,
    fun other => ended.node?_elsewhere, ?_⟩
  · rintro rfl
    exact ended.readFile_pathFor
  · rintro error rfl
    refine ⟨?_, ended.find_pathFor⟩
    cases ended with
    | unwritten cause blocked => exact .inl rfl
    | uncommitted cause location leads free blocked => exact .inr rfl
  · cases ended <;> rfl

/-! ## Paths that are too long -/

theorem exists_error_of_not_fits {store : StageStore} {user : UserId} (crowded : ¬store.Fits user)
    (files : FileTree) (content : Bytes) :
    ∃ error after, Yields Workspace.files (store.write user content) files (.error error) after := by
  obtain ⟨answer, after, yields, ended⟩ := exists_writeEnd store files user content
  cases answer with
  | error error => exact ⟨error, after, yields⟩
  | ok done => exact absurd (ended.ok_iff.1 rfl).1 crowded

theorem not_fits_crowdedPath (user : UserId) : ¬Fits ⟨crowdedPath⟩ user := by
  intro fits
  obtain ⟨fault, barred⟩ := exists_barred_crowdedPath (StageFile.isFileName_name user).toIsName
  have checked := FileTree.checkPath_join (StageFile.isFileName_name user)
    finds_crowdedPath.checked.1 fits.stage
  cases barred.symm.trans checked

theorem write_crowdedPath :
    emptyStage.isDirectory (place ⟨crowdedPath⟩) ∧
      ¬emptyStage.isDirectory (pathFor ⟨crowdedPath⟩ 7) ∧
      ¬emptyStage.isDirectory (temporaryPathFor ⟨crowdedPath⟩ 7) ∧
      ∃ error after,
        Yields Workspace.files (write ⟨crowdedPath⟩ 7 [1]) emptyStage (.error error) after := by
  have free {name : Bytes} (other : name ≠ Utf8.encode "stage") (location : Location) :
      emptyStage.node? (location ++ [name]) ≠ some .directory := by
    rw [emptyStage, FileTree.node?_put _ (List.cons_ne_nil _ _), if_neg]
    · rw [FileTree.node?_of_ne_nil _ (FileTree.concat_ne_nil location name)]
      intro there
      cases there
    · intro same
      exact other (List.singleton_inj.1 ((List.append_eq_singleton_iff.1 same).resolve_right (by simp)).2)
  obtain ⟨before, ends, _⟩ := exists_ends_temporaryPathFor ⟨crowdedPath⟩ 7
  refine ⟨?_, FileTree.not_isDirectory_of_ends (ends_pathFor _ 7) (free (by decide)),
    FileTree.not_isDirectory_of_ends ends (free (by decide)),
    exists_error_of_not_fits (not_fits_crowdedPath 7) emptyStage [1]⟩
  rw [place, if_neg finds_crowdedPath.checked.2]
  exact FileTree.isDirectory_iff.2 ⟨_, finds_crowdedPath⟩

end LocaleStaging.StageStore
