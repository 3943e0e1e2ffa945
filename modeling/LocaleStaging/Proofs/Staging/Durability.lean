import LocaleStaging.Proofs.Staging.NameOrder
import LocaleStaging.Proofs.Staging.Table

/-!
# What a later load finds

A user can have several accepted files, for zeros before the number in a name do not change its user,
but only one of them is removed and written. So a user who was removed is gone after a later load only
if there was no other file (`durable_iff`). A record that was written lasts, for its file comes after the
other ones of its user, but the other ones of user zero come after it.
-/

namespace LocaleStaging.StagedTable

open LocaleStaging.FileTree (Finds Keeps)
open LocaleStaging.StageFile (octetsWithZeros octetsWithZeros_zero userOfOctets_eq_ok_iff)
open LocaleStaging.StageStore (Reaches Clear stageLocation temporaryLocation written deleted)

structure Flat (store : StageStore) (files : FileTree) (location : Location) : Prop where
  finds : files.Finds store.directory location
  regular : ∀ name, files.node? (location ++ [name]) ≠ some .directory
  addressable : ∀ name, files.node? (location ++ [name]) ≠ none → Addressable store name

section Directory
variable {store : StageStore} {files after : FileTree} {location : Location} {user : UserId}

theorem Flat.clear (flat : Flat store files location) (user : UserId) : Clear files location user :=
  ⟨flat.regular _, flat.regular _⟩

theorem Flat.of_loaded (flat : Flat store files location) {table : StagedTable}
    (loaded : Loaded files location table after) : Flat store after location := by
  have same (name : Bytes) : after.node? (location ++ [name]) = none ∨
      after.node? (location ++ [name]) = files.node? (location ++ [name]) := by
    by_cases refused : rejects files location name
    · exact .inl (loaded.gone name refused)
    · refine .inr (loaded.kept _ ?_)
      intro other refused_other here
      rw [(List.cons.inj (List.append_cancel_left here)).1] at refused
      exact refused refused_other
  refine ⟨flat.finds.of_keeps loaded.keeps, ?_, ?_⟩
  · intro name there
    rcases same name with absent | kept
    · rw [absent] at there
      cases there
    · exact flat.regular name (kept ▸ there)
  · intro name there
    rcases same name with absent | kept
    · exact absurd absent there
    · exact flat.addressable name (kept ▸ there)

theorem Flat.deleted (flat : Flat store files location) (user : UserId) :
    Flat store (deleted files location user) location := by
  refine ⟨flat.finds.of_keeps (StageStore.keeps_deleted (flat.clear user)), ?_, ?_⟩
  · intro name there
    rw [StageStore.node?_deleted] at there
    split at there
    next => cases there
    next => exact flat.regular name there
  · intro name there
    rw [StageStore.node?_deleted] at there
    split at there
    next => exact absurd rfl there
    next => exact flat.addressable name there

theorem Flat.written (flat : Flat store files location)
    (reaches : store.Reaches files location user) (content : Bytes) :
    Flat store (written files location user content) location := by
  refine ⟨flat.finds.of_keeps (StageStore.keeps_written (flat.clear user) content), ?_, ?_⟩
  · intro name there
    rw [StageStore.node?_written] at there
    split at there
    next => cases there
    split at there
    next => cases there
    next => exact flat.regular name there
  · intro name there
    rw [StageStore.node?_written] at there
    split at there
    next same =>
      rw [(List.cons.inj (List.append_cancel_left same)).1]
      exact ⟨StageFile.isFileName_name user, reaches.stage_fits⟩
    split at there
    next => exact absurd rfl there
    next => exact flat.addressable name there

theorem accepted?_of_loaded {table : StagedTable} (loaded : Loaded files location table after)
    (name : Bytes) : accepted? after location name = accepted? files location name := by
  by_cases refused : rejects files location name
  · rw [(file_of_rejects files location name refused).1]
    apply accepted?_of_no_file
    simp [loaded.gone name refused]
  · apply accepted?_congr
    apply loaded.kept
    intro other refused_other here
    rw [(List.cons.inj (List.append_cancel_left here)).1] at refused
    exact refused refused_other

theorem owner_of_accepted? {name : Bytes} {zeros : Nat} {owner : UserId} {record : StagedRecord}
    (named : name = octetsWithZeros zeros user)
    (accepted : accepted? files location name = some (owner, record)) : owner = user := by
  have owned := userOfOctets_of_accepted? accepted
  rw [userOfOctets_eq_ok_iff.2 ⟨zeros, named⟩] at owned
  cases owned
  rfl

/-! ## Changing one stage file -/

def SameBeside (files after : FileTree) (location : Location) (user : UserId) : Prop :=
  ∀ name, name ≠ octetsWithZeros 0 user →
    accepted? after location name = accepted? files location name

theorem sameBeside_deleted (user : UserId) :
    SameBeside files (deleted files location user) location user := by
  intro name other
  apply accepted?_congr
  rw [StageStore.node?_deleted, if_neg]
  intro same
  rw [octetsWithZeros_zero] at other
  exact other (List.cons.inj (List.append_cancel_left same)).1

theorem sameBeside_written (user : UserId) (content : Bytes) :
    SameBeside files (written files location user content) location user := by
  intro name other
  by_cases beside : name = Utf8.encode (StageFile.name user ++ ".tmp")
  · -- The name of the file beside the stage file belongs to nobody.
    have refused (tree : FileTree) : accepted? tree location name = none := by
      cases accepted : accepted? tree location name with
      | none => rfl
      | some owned =>
          obtain ⟨zeros, named⟩ := userOfOctets_eq_ok_iff.1 (userOfOctets_of_accepted? accepted)
          rw [beside] at named
          exact absurd named (StageFile.temporary_ne_octetsWithZeros user _ zeros)
    rw [refused, refused]
  · apply accepted?_congr
    rw [StageStore.node?_written, if_neg, if_neg]
    · intro same
      exact beside (List.cons.inj (List.append_cancel_left same)).1
    · intro same
      rw [octetsWithZeros_zero] at other
      exact other (List.cons.inj (List.append_cancel_left same)).1

theorem SameBeside.accepted (same : SameBeside files after location user) {other : UserId}
    (apart : other ≠ user) (name : Bytes) (record : StagedRecord) :
    accepted? after location name = some (other, record) ↔
      accepted? files location name = some (other, record) := by
  by_cases here : name = octetsWithZeros 0 user
  · constructor
    · intro accepted
      exact absurd (owner_of_accepted? here accepted) apart
    · intro accepted
      exact absurd (owner_of_accepted? here accepted) apart
  · rw [same name here]

theorem latest_congr {other : UserId}
    (same : ∀ name record, accepted? after location name = some (other, record) ↔
      accepted? files location name = some (other, record)) (name : Bytes) (record : StagedRecord) :
    Latest after location other name record ↔ Latest files location other name record := by
  constructor
  · rintro ⟨accepted, last⟩
    exact ⟨(same name record).1 accepted, fun found kept there =>
      last found kept ((same found kept).2 there)⟩
  · rintro ⟨accepted, last⟩
    exact ⟨(same name record).2 accepted, fun found kept there =>
      last found kept ((same found kept).1 there)⟩

theorem SameBeside.get? {table again : StagedTable} {left later : FileTree}
    (same : SameBeside files after location user) (loaded : Loaded files location table left)
    (reloaded : Loaded after location again later) {other : UserId} (apart : other ≠ user) :
    again.get? other = table.get? other := by
  ext record
  rw [reloaded.records, loaded.records]
  simp only [latest_congr (same.accepted apart)]

theorem SameBeside.of_loaded {table : StagedTable} {left : FileTree}
    (loaded : Loaded files location table left) (same : SameBeside left after location user) :
    SameBeside files after location user := by
  intro name other
  rw [same name other, accepted?_of_loaded loaded]

/-! ## The files that a removal leaves -/

theorem get?_again_of_deleted {again : StagedTable} {later : FileTree}
    (same : SameBeside files after location user)
    (gone : after.node? (stageLocation location user) = none)
    (reloaded : Loaded after location again later) :
    again.get? user = none ↔
      ∀ zeros, accepted? files location (octetsWithZeros (zeros + 1) user) = none := by
  constructor
  · intro absent zeros
    have other : octetsWithZeros (zeros + 1) user ≠ octetsWithZeros 0 user :=
      StageFile.octetsWithZeros_succ_ne zeros user
    rw [← same _ other]
    cases accepted : accepted? after location (octetsWithZeros (zeros + 1) user) with
    | none => rfl
    | some owned =>
        obtain ⟨owner, record⟩ := owned
        obtain rfl := owner_of_accepted? rfl accepted
        exact absurd absent (reloaded.found _ _ _ accepted)
  · intro refused
    cases found : again.get? user with
    | none => rfl
    | some record =>
        obtain ⟨name, accepted, _⟩ := (reloaded.records user record).1 found
        obtain ⟨zeros, named⟩ := userOfOctets_eq_ok_iff.1 (userOfOctets_of_accepted? accepted)
        cases zeros with
        | zero =>
            rw [octetsWithZeros_zero] at named
            rw [named] at accepted
            exact absurd gone (exists_of_accepted? accepted)
        | succ zeros =>
            rw [named, same _ (StageFile.octetsWithZeros_succ_ne zeros user), refused] at accepted
            cases accepted

/-! ## The files that an update leaves -/

theorem latest_of_written {record : StagedRecord} (other : user ≠ 0)
    (accepted : accepted? after location (octetsWithZeros 0 user) = some (user, record)) :
    Latest after location user (octetsWithZeros 0 user) record := by
  refine ⟨accepted, ?_⟩
  intro name kept found
  obtain ⟨zeros, rfl⟩ := userOfOctets_eq_ok_iff.1 (userOfOctets_of_accepted? found)
  cases zeros with
  | zero => exact Std.ReflCmp.isLE_rfl
  | succ zeros => simp [StageFile.compare_octetsWithZeros_of_ne_zero other zeros]

theorem get?_again_of_written {again : StagedTable} {later : FileTree} {record : StagedRecord}
    (same : SameBeside files after location user)
    (accepted : accepted? after location (octetsWithZeros 0 user) = some (user, record))
    (reloaded : Loaded after location again later) :
    again.get? user = some record ↔ (user = 0 → ∀ name kept,
      Latest (deleted files location user) location user name kept → kept = record) := by
  -- Beside the stage file, what is accepted is what is accepted without it.
  have beside (name : Bytes) (other : name ≠ octetsWithZeros 0 user) :
      accepted? (deleted files location user) location name = accepted? after location name := by
    rw [sameBeside_deleted user name other, same name other]
  have still (name : Bytes) {kept : StagedRecord}
      (there : accepted? (deleted files location user) location name = some (user, kept)) :
      accepted? after location name = some (user, kept) := by
    rw [← beside name]
    · exact there
    · rintro rfl
      refine exists_of_accepted? there ?_
      rw [StageStore.node?_deleted, if_pos (by rw [octetsWithZeros_zero, stageLocation])]
  constructor
  · rintro found rfl name kept ⟨there, last⟩
    have latest : Latest after location 0 name kept := by
      refine ⟨still name there, ?_⟩
      intro other again_kept found_other
      by_cases here : other = octetsWithZeros 0 0
      · obtain ⟨zeros, named⟩ := userOfOctets_eq_ok_iff.1 (userOfOctets_of_accepted? there)
        rw [here, named]
        cases zeros with
        | zero => exact Std.ReflCmp.isLE_rfl
        | succ zeros =>
            rw [Std.OrientedCmp.lt_of_gt (StageFile.compare_octetsWithZeros_zero zeros)]
            rfl
      · exact last other again_kept ((beside other here).trans found_other)
    have held := (reloaded.records 0 kept).2 ⟨name, latest⟩
    rw [found] at held
    exact (Option.some.inj held).symm
  · intro agree
    cases found : again.get? user with
    | none => exact absurd found (reloaded.found _ _ _ accepted)
    | some kept =>
        obtain ⟨name, there, last⟩ := (reloaded.records user kept).1 found
        by_cases here : name = octetsWithZeros 0 user
        · rw [here, accepted] at there
          cases there
          rfl
        · by_cases zero : user = 0
          · have latest : Latest (deleted files location user) location user name kept := by
              refine ⟨(beside name here).trans there, ?_⟩
              intro other again_kept found_other
              exact last other again_kept (still other found_other)
            rw [agree zero name kept latest]
          · have held := (reloaded.records user record).2 ⟨_, latest_of_written zero accepted⟩
            rw [found] at held
            exact held

end Directory

/-! ## Removal and update -/

theorem durable_iff {store : StageStore} {files : FileTree} {location : Location} {user : UserId}
    (flat : Flat store files location) (reaches : store.Reaches files location user)
    (retention : Span) :
    ∃ table left, Yields Workspace.files (load store retention) files table left ∧
      (∃ after again later,
        Yields Workspace.files (table.remove user) left (table.get? user, table.without user) after ∧
        Yields Workspace.files (load store retention) after again later ∧
        (again.get? user = none ↔
          ∀ zeros, accepted? files location (octetsWithZeros (zeros + 1) user) = none) ∧
        ∀ other, other ≠ user → again.get? other = table.get? other) ∧
      ∀ record, Lasting record → ∃ after again later,
        Yields Workspace.files ((table.insert user record).persist user) left
          (table.insert user record) after ∧
        Yields Workspace.files (load store retention) after again later ∧
        (again.get? user = some record ↔ (user = 0 → ∀ name kept,
          Latest (deleted files location user) location user name kept → kept = record)) ∧
        ∀ other, other ≠ user → again.get? other = table.get? other := by
  obtain ⟨table, left, loading, stored, _, loaded⟩ :=
    yields_load flat.finds flat.addressable retention
  subst stored
  have flat_left := flat.of_loaded loaded
  have reaches_left := reaches.of_keeps loaded.keeps
  refine ⟨table, left, loading, ?_, ?_⟩
  · have flat_after := flat_left.deleted user
    obtain ⟨again, later, reloading, _, _, reloaded⟩ :=
      yields_load flat_after.finds flat_after.addressable retention
    have same := SameBeside.of_loaded loaded (sameBeside_deleted user)
    have gone : (deleted left location user).node? (stageLocation location user) = none := by
      rw [StageStore.node?_deleted, if_pos rfl]
    refine ⟨_, again, later, yields_remove reaches_left (flat_left.clear user), reloading, ?_, ?_⟩
    · exact get?_again_of_deleted same gone reloaded
    · exact fun other apart => same.get? loaded reloaded apart
  · intro record lasting
    have flat_after := flat_left.written reaches_left (Document.encode record.document)
    obtain ⟨again, later, reloading, _, _, reloaded⟩ :=
      yields_load flat_after.finds flat_after.addressable retention
    have same := SameBeside.of_loaded loaded
      (sameBeside_written user (Document.encode record.document))
    have accepted : accepted? (written left location user (Document.encode record.document)) location
        (octetsWithZeros 0 user) = some (user, record) := by
      rw [octetsWithZeros_zero]
      apply accepted?_of_stageNode lasting (StageFile.userOfOctets_name user)
      rw [StageStore.node?_written, if_pos (by rw [stageLocation]), stageNode]
    have writing := yields_persist_insert reaches_left (flat_left.clear user) record
    simp only [keep, keepFile, lasting.listed, Bool.false_eq_true, if_false] at writing
    refine ⟨_, again, later, writing, reloading, ?_, ?_⟩
    · exact get?_again_of_written same accepted reloaded
    · exact fun other apart => same.get? loaded reloaded apart

def zerosStage : FileTree :=
  StageStore.emptyStage.put [Utf8.encode "stage", octetsWithZeros 2 7]
    (stageNode ⟨6, SortedMap.ofList [("a", "b")]⟩)

theorem node?_zerosStage (name : Bytes) :
    zerosStage.node? ([Utf8.encode "stage"] ++ [name]) =
      if name = octetsWithZeros 2 7 then some (stageNode ⟨6, SortedMap.ofList [("a", "b")]⟩)
      else none := by
  have bare := StageStore.bare_emptyStage ([Utf8.encode "stage"] ++ [name])
    (List.prefix_append _ _) (by simp)
  rw [zerosStage, FileTree.node?_put _ (by simp), bare]
  simp

theorem durable_iff_zerosStage :
    ∃ table left after again later,
      Yields Workspace.files (load ⟨Path.ofString "stage"⟩ ⟨0, 0⟩) zerosStage table left ∧
      Yields Workspace.files (table.remove 7) left (table.get? 7, table.without 7) after ∧
      Yields Workspace.files (load ⟨Path.ofString "stage"⟩ ⟨0, 0⟩) after again later ∧
      again.get? 7 ≠ none := by
  have keeps : Keeps StageStore.emptyStage zerosStage := by
    refine FileTree.keeps_put ?_ _
    have bare := StageStore.bare_emptyStage [Utf8.encode "stage", octetsWithZeros 2 7]
      (List.prefix_append [_] [_]) (by simp)
    simp [bare]
  have isFileName : FileTree.IsFileName (octetsWithZeros 2 7) := by
    refine ⟨⟨?_, ?_, ?_, ?_⟩, ?_, ?_⟩ <;> decide
  have flat : Flat ⟨Path.ofString "stage"⟩ zerosStage [Utf8.encode "stage"] := by
    refine ⟨StageStore.finds_emptyStage.of_keeps keeps, ?_, ?_⟩
    · intro name there
      rw [node?_zerosStage] at there
      split at there <;> simp [stageNode] at there
    · intro name there
      rw [node?_zerosStage] at there
      split at there
      next same =>
        rw [same]
        exact ⟨isFileName, by decide⟩
      next => exact absurd rfl there
  have lasting : Lasting ⟨6, SortedMap.ofList [("a", "b")]⟩ := by
    refine ⟨rfl, ?_⟩
    intro package member
    rw [List.mem_singleton.1 member]
    decide
  have accepted : accepted? zerosStage [Utf8.encode "stage"] (octetsWithZeros 2 7) =
      some (7, ⟨6, SortedMap.ofList [("a", "b")]⟩) := by
    apply accepted?_of_stageNode lasting (userOfOctets_eq_ok_iff.2 ⟨2, rfl⟩)
    rw [node?_zerosStage, if_pos rfl]
  obtain ⟨table, left, loading, ⟨after, again, later, removing, reloading, gone, _⟩, _⟩ :=
    durable_iff flat ((StageStore.ready_emptyStage.of_keeps keeps).reaches 7) ⟨0, 0⟩
  refine ⟨table, left, after, again, later, loading, removing, reloading, ?_⟩
  intro absent
  have refused := gone.1 absent 1
  rw [accepted] at refused
  cases refused

end LocaleStaging.StagedTable
