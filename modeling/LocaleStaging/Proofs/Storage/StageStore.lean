import LocaleStaging.Proofs.Staging.FileName
import LocaleStaging.Proofs.Storage.Workspace

namespace LocaleStaging.StageStore

open LocaleStaging.FileTree (Ends Finds Leads Keeps concat_ne_nil)

def stageLocation (location : Location) (user : UserId) : Location :=
  location ++ [Utf8.encode (StageFile.name user)]

def temporaryLocation (location : Location) (user : UserId) : Location :=
  location ++ [Utf8.encode (StageFile.name user ++ ".tmp")]

theorem stageLocation_ne_nil (location : Location) (user : UserId) :
    stageLocation location user ≠ [] :=
  concat_ne_nil _ _

theorem temporaryLocation_ne_nil (location : Location) (user : UserId) :
    temporaryLocation location user ≠ [] :=
  concat_ne_nil _ _

theorem stageLocation_injective {location : Location} {first second : UserId}
    (same : stageLocation location first = stageLocation location second) : first = second := by
  have names := List.append_cancel_left same
  exact StageFile.octets_injective (List.cons.inj names).1

theorem temporaryLocation_injective {location : Location} {first second : UserId}
    (same : temporaryLocation location first = temporaryLocation location second) :
    first = second := by
  have names := List.append_cancel_left same
  exact StageFile.temporary_injective (List.cons.inj names).1

theorem temporaryLocation_ne_stageLocation (location : Location) (user other : UserId) :
    temporaryLocation location user ≠ stageLocation location other := by
  intro same
  have names := List.append_cancel_left same
  exact StageFile.temporary_ne_name user other (List.cons.inj names).1

/-! ## The paths of a user -/

theorem ends_pathFor (store : StageStore) (user : UserId) :
    Ends (store.pathFor user) store.directory.names (Utf8.encode (StageFile.name user)) :=
  FileTree.ends_join (StageFile.isFileName_name user) store.directory

theorem start_pathFor (store : StageStore) (user : UserId) (files : FileTree) :
    files.start (store.pathFor user) = files.start store.directory :=
  files.start_of_isAbsolute (Path.isAbsolute_join (StageFile.isFileName_name user).toIsName)

theorem exists_parent (store : StageStore) (user : UserId) :
    ∃ (parent : Path) (count : Nat), store.temporaryPathFor user =
        parent.join (Utf8.encode (StageFile.name user ++ ".tmp")) ∧
      parent.isAbsolute = store.directory.isAbsolute ∧
      parent.octets <+: store.directory.octets ∧
      store.directory.names = parent.names ++ List.replicate count Path.dot := by
  obtain ⟨parent, count, found, absolute, start, names⟩ :=
    Path.parent?_join store.directory (StageFile.isFileName_name user).toIsName
  refine ⟨parent, count, ?_, absolute, start, names⟩
  rw [temporaryPathFor, pathFor, Path.withName, found]

theorem exists_ends_temporaryPathFor (store : StageStore) (user : UserId) :
    ∃ before, Ends (store.temporaryPathFor user) before
        (Utf8.encode (StageFile.name user ++ ".tmp")) ∧
      ∀ files : FileTree, ∀ location,
        files.Opens (files.start (store.temporaryPathFor user)) before location ↔
          files.Opens (files.start store.directory) store.directory.names location := by
  obtain ⟨parent, count, beside, absolute, _, names⟩ := exists_parent store user
  have isFileName := StageFile.isFileName_temporary user
  refine ⟨parent.names, ?_, ?_⟩
  · rw [beside]
    exact FileTree.ends_join isFileName parent
  · intro files location
    rw [beside, names, FileTree.opens_append_dots,
      files.start_of_isAbsolute (Path.isAbsolute_join isFileName.toIsName),
      files.start_of_isAbsolute absolute]

theorem temporaryPathFor_ne_pathFor (store : StageStore) (first second : UserId) :
    store.temporaryPathFor first ≠ store.pathFor second := by
  intro same
  obtain ⟨before, ends, _⟩ := exists_ends_temporaryPathFor store first
  have last := congrArg List.getLast? (congrArg Path.names same)
  rw [ends.names, (ends_pathFor store second).names, List.getLast?_concat, List.getLast?_concat] at last
  exact StageFile.temporary_ne_name first second (Option.some.inj last)

/-! ## Directories of a store -/

/-- A store whose directory is there, with a path that leaves room for the names of stage files. -/
structure Ready (store : StageStore) (files : FileTree) (location : Location) : Prop where
  finds : files.Finds store.directory location
  room : store.directory.octets.length + 34 ≤ FileTree.pathLimit

structure Reaches (store : StageStore) (files : FileTree) (location : Location) (user : UserId) :
    Prop where
  finds : files.Finds store.directory location
  stage_fits : (store.pathFor user).octets.length ≤ FileTree.pathLimit
  temporary_fits : (store.temporaryPathFor user).octets.length ≤ FileTree.pathLimit

structure Clear (files : FileTree) (location : Location) (user : UserId) : Prop where
  stage : files.node? (stageLocation location user) ≠ some .directory
  temporary : files.node? (temporaryLocation location user) ≠ some .directory

section Operations
variable {store : StageStore} {files : FileTree} {location : Location}

theorem Ready.of_keeps {after : FileTree} (keeps : Keeps files after)
    (ready : store.Ready files location) : store.Ready after location :=
  ⟨ready.finds.of_keeps keeps, ready.room⟩

theorem Ready.reaches (ready : store.Ready files location) (user : UserId) :
    store.Reaches files location user := by
  have room := ready.room
  have isName := (StageFile.isFileName_name user).toIsName
  refine ⟨ready.finds, ?_, ?_⟩
  · have length := Path.length_join store.directory isName
    have short := StageFile.length_name_le user
    rw [pathFor]
    omega
  · have length := Path.length_withName_join store.directory isName
      (StageFile.isFileName_temporary user).toIsName
    have short := StageFile.length_temporary_le user
    rw [temporaryPathFor, pathFor]
    omega

theorem Reaches.of_keeps {after : FileTree} {user : UserId} (keeps : Keeps files after)
    (reaches : store.Reaches files location user) : store.Reaches after location user :=
  ⟨reaches.finds.of_keeps keeps, reaches.stage_fits, reaches.temporary_fits⟩

theorem leads_pathFor {user : UserId} (reaches : store.Reaches files location user) :
    files.Leads (store.pathFor user) location (Utf8.encode (StageFile.name user)) :=
  FileTree.leads_join reaches.finds (StageFile.isFileName_name user) reaches.stage_fits

theorem leads_temporaryPathFor {user : UserId} (reaches : store.Reaches files location user) :
    files.Leads (store.temporaryPathFor user) location
      (Utf8.encode (StageFile.name user ++ ".tmp")) :=
  FileTree.leads_withName reaches.finds (StageFile.isFileName_name user).toIsName
    (StageFile.isFileName_temporary user) reaches.temporary_fits

theorem yields_openAt {directory : Path} (finds : files.Finds directory location) :
    Yields Workspace.files (openAt directory) files (.ok ⟨directory⟩) files :=
  Yields.bind (Work.yields_change (FileTree.createDirectories_of_finds finds)) (Yields.pure _ files)

/-! ## Reading -/

theorem yields_readAt {path : Path} {name content : Bytes}
    (leads : files.Leads path location name)
    (there : files.node? (location ++ [name]) = some (.file content)) :
    Yields Workspace.files (readAt path) files (.ok (some content)) files := by
  refine Yields.bind (Work.yields_look _ files) ?_
  rw [show FileSystem.readFile files path = .ok content from FileTree.readFile_of_leads leads there]
  exact Yields.pure _ files

theorem pairwise_sorted (names : List Bytes) :
    (names.mergeSort fun earlier later => (compare earlier later).isLE).Pairwise
      fun earlier later => (compare earlier later).isLE := by
  apply List.pairwise_mergeSort
  · intro first second third left right
    exact Std.TransCmp.isLE_trans left right
  · intro first second
    have turned : compare second first = (compare first second).swap := Std.OrientedCmp.eq_swap
    rw [turned]
    cases compare first second <;> rfl

theorem yields_entries (finds : files.Finds store.directory location) :
    ∃ names : List Bytes, Yields Workspace.files store.entries files (.ok (names.map store.entry)) files ∧
      (∀ name, name ∈ names ↔ files.node? (location ++ [name]) ≠ none) ∧ names.Nodup ∧
      names.Pairwise fun earlier later => (compare earlier later).isLE := by
  obtain ⟨names, listed, distinct, members⟩ := FileTree.readDirectory_of_finds finds
  refine ⟨names.mergeSort fun earlier later => (compare earlier later).isLE, ?_, ?_, ?_,
    pairwise_sorted names⟩
  · refine Yields.bind (Work.yields_look _ files) ?_
    rw [show FileSystem.readDirectory files store.directory = .ok names from listed]
    exact Yields.pure _ files
  · intro name
    rw [List.mem_mergeSort]
    exact members name
  · exact (List.mergeSort_perm names _).nodup_iff.2 distinct

/-! ## Writing and deleting -/

def written (files : FileTree) (location : Location) (user : UserId) (content : Bytes) : FileTree :=
  (files.drop (temporaryLocation location user)).put (stageLocation location user) (.file content)

def deleted (files : FileTree) (location : Location) (user : UserId) : FileTree :=
  files.drop (stageLocation location user)

theorem node?_written (user : UserId) (content : Bytes) (other : Location) :
    (written files location user content).node? other =
      if other = stageLocation location user then some (.file content)
      else if other = temporaryLocation location user then none
      else files.node? other := by
  rw [written, FileTree.node?_put _ (stageLocation_ne_nil location user),
    FileTree.node?_drop _ (temporaryLocation_ne_nil location user)]

theorem node?_deleted (user : UserId) (other : Location) :
    (deleted files location user).node? other =
      if other = stageLocation location user then none else files.node? other :=
  FileTree.node?_drop _ (stageLocation_ne_nil location user) other

theorem keeps_written {user : UserId} (clear : Clear files location user) (content : Bytes) :
    Keeps files (written files location user content) := by
  refine Keeps.trans (FileTree.keeps_drop clear.temporary) (FileTree.keeps_put ?_ _)
  rw [FileTree.node?_drop _ (temporaryLocation_ne_nil location user)]
  split
  next => simp
  next => exact clear.stage

theorem keeps_deleted {user : UserId} (clear : Clear files location user) :
    Keeps files (deleted files location user) :=
  FileTree.keeps_drop clear.stage

theorem yields_write_of_leads {user : UserId}
    (leads_temporary : files.Leads (store.temporaryPathFor user) location
      (Utf8.encode (StageFile.name user ++ ".tmp")))
    (leads : files.Leads (store.pathFor user) location (Utf8.encode (StageFile.name user)))
    (clear : Clear files location user) (content : Bytes) :
    Yields Workspace.files (store.write user content) files (.ok ())
      (written files location user content) := by
  have there := FileTree.node?_put files (temporaryLocation_ne_nil location user) (.file content)
  have keeps := FileTree.keeps_put clear.temporary (.file content)
  have free : (files.put (temporaryLocation location user) (.file content)).node?
      (stageLocation location user) ≠ some .directory := by
    rw [there, if_neg (temporaryLocation_ne_stageLocation location user user).symm]
    exact clear.stage
  -- The content is written to a file beside the stage file, which is then moved over it.
  have beside := FileTree.writeFile_of_leads leads_temporary content clear.temporary
  have moved : (files.put (temporaryLocation location user) (.file content)).rename
      (store.temporaryPathFor user) (store.pathFor user) =
      (.ok (), written files location user content) := by
    rw [written, ← FileTree.drop_put files (temporaryLocation location user) (.file content)]
    exact FileTree.rename_of_leads (leads_temporary.of_keeps keeps) (leads.of_keeps keeps)
      ((there _).trans (if_pos rfl)) free
  refine Yields.bind (Work.yields_change beside) ?_
  refine Yields.bind (Work.yields_change moved) ?_
  exact Yields.bind (Work.yields_note _ _) (Yields.pure _ _)

theorem yields_write {user : UserId} (reaches : store.Reaches files location user)
    (clear : Clear files location user) (content : Bytes) :
    Yields Workspace.files (store.write user content) files (.ok ())
      (written files location user content) :=
  yields_write_of_leads (leads_temporaryPathFor reaches) (leads_pathFor reaches) clear content

theorem yields_delete_of_leads {user : UserId}
    (leads : files.Leads (store.pathFor user) location (Utf8.encode (StageFile.name user)))
    (free : files.node? (stageLocation location user) ≠ some .directory) :
    Yields Workspace.files (store.delete user) files (.ok ()) (deleted files location user) := by
  cases there : files.node? (stageLocation location user) with
  | none =>
      have gone := FileTree.removeFile_of_absent leads there
      rw [deleted, FileTree.drop_of_node?_eq_none there]
      exact Yields.bind (Work.yields_change gone) (Yields.pure _ _)
  | some node =>
      cases node with
      | directory => exact absurd there free
      | file content =>
          have gone := FileTree.removeFile_of_leads leads there
          exact Yields.bind (Work.yields_change gone) (Yields.pure _ _)

theorem yields_delete {user : UserId} (reaches : store.Reaches files location user)
    (clear : Clear files location user) :
    Yields Workspace.files (store.delete user) files (.ok ()) (deleted files location user) :=
  yields_delete_of_leads (leads_pathFor reaches) clear.stage

structure Sound (store : StageStore) (files : FileTree) (location : Location) : Prop where
  reaches : ∀ user, store.Reaches files location user
  clear : ∀ user, Clear files location user

theorem Sound.deleted (sound : store.Sound files location) (user : UserId) :
    store.Sound (deleted files location user) location := by
  refine ⟨fun owner => (sound.reaches owner).of_keeps (keeps_deleted (sound.clear user)), ?_⟩
  intro owner
  constructor
  · rw [node?_deleted]
    split
    next => simp
    next => exact (sound.clear owner).stage
  · rw [node?_deleted]
    split
    next => simp
    next => exact (sound.clear owner).temporary

theorem Sound.written (sound : store.Sound files location) (user : UserId) (content : Bytes) :
    store.Sound (written files location user content) location := by
  refine ⟨fun owner => (sound.reaches owner).of_keeps (keeps_written (sound.clear user) content), ?_⟩
  intro owner
  constructor
  · rw [node?_written]
    split
    next => simp
    next =>
      split
      next => simp
      next => exact (sound.clear owner).stage
  · rw [node?_written]
    split
    next => simp
    next =>
      split
      next => simp
      next => exact (sound.clear owner).temporary

end Operations

/-! ## An empty directory -/

def emptyStage : FileTree := FileTree.put ⟨∅, []⟩ [Utf8.encode "stage"] .directory

theorem finds_emptyStage : emptyStage.Finds (Path.ofString "stage") [Utf8.encode "stage"] :=
  ⟨by rfl, by rfl⟩

theorem bare_emptyStage (other : Location) (inside : [Utf8.encode "stage"] <+: other)
    (deeper : other ≠ [Utf8.encode "stage"]) : emptyStage.node? other = none := by
  rw [emptyStage, FileTree.node?_put _ (List.cons_ne_nil _ _), if_neg deeper,
    FileTree.node?_of_ne_nil]
  · rfl
  · rintro rfl
    exact absurd inside (by simp)

theorem node?_emptyStage (name : Bytes) :
    emptyStage.node? ([Utf8.encode "stage"] ++ [name]) = none :=
  bare_emptyStage _ (List.prefix_append _ _) (by simp)

theorem ready_emptyStage :
    Ready ⟨Path.ofString "stage"⟩ emptyStage [Utf8.encode "stage"] :=
  ⟨finds_emptyStage, by decide⟩

theorem clear_emptyStage (user : UserId) : Clear emptyStage [Utf8.encode "stage"] user := by
  constructor
  · rw [stageLocation, node?_emptyStage]
    simp
  · rw [temporaryLocation, node?_emptyStage]
    simp

/-! ## A path with no room for names -/

def crowdedPath : Path := ⟨List.replicate 4090 Path.slash ++ Utf8.encode "stage"⟩

theorem finds_crowdedPath : emptyStage.Finds crowdedPath [Utf8.encode "stage"] := by
  have names : crowdedPath.names = (Path.ofString "stage").names := Path.names_slashes_append 4090 _
  have start (path : Path) : emptyStage.start path = [] := by
    unfold FileTree.start
    split <;> rfl
  have opens := (FileTree.finds_iff.1 finds_emptyStage).2
  rw [start, ← names, ← start crowdedPath] at opens
  refine FileTree.finds_iff.2 ⟨FileTree.checkPath_of_names ?_ ?_ ?_, opens⟩
  · rw [crowdedPath, List.mem_append, List.mem_replicate]
    decide
  · rw [crowdedPath, List.length_append, List.length_replicate]
    decide
  · rw [crowdedPath]
    exact List.append_ne_nil_of_right_ne_nil _ (by decide)

theorem exists_barred_crowdedPath {name : Bytes} (isName : Path.IsName name) :
    ∃ fault, FileTree.checkPath (crowdedPath.join name) = .error fault := by
  apply FileTree.exists_barred
  have long : crowdedPath.octets.length = 4095 := by
    rw [crowdedPath, List.length_append, List.length_replicate]
    rfl
  have longer := Path.le_length_join crowdedPath isName
  have filled := List.length_pos_iff.2 isName.ne_empty
  rw [FileTree.pathLimit]
  omega

end LocaleStaging.StageStore
