import LocaleStaging.Proofs.Storage.StageStore

/-!
# A disk that fails

A disk is a file tree of which each change can fail, depending on all changes before it. A change that
fails changes nothing, but that a file may hold a part of what was to be written. Whatever fails, a stage
file that is written or deleted is what it was, or what it was to be, and it is the latter if no error is
given back (`StageStore.Brings`).
-/

namespace LocaleStaging

inductive DiskCall where
  | write (path : Path) (content : Bytes)
  | rename (source target : Path)
  | remove (path : Path)
  | create (path : Path)
deriving DecidableEq

/-- How a change fails. No file that is there is reported missing. -/
structure DiskFault where
  cause : IoFault
  honest : cause ≠ .notFound
  part : Option Bytes

structure DiskExchange where
  call : DiskCall
  ended : Except IoFault Unit
deriving DecidableEq

structure Disk where
  tree : FileTree
  exchanges : List DiskExchange
  /-- Which changes fail, given those before them. -/
  fault? : List DiskExchange → DiskCall → Option DiskFault

namespace Disk

def ask (disk : Disk) (call : DiskCall) (done : Except IoFault Unit × FileTree)
    (failed : DiskFault → FileTree) : Except IoFault Unit × Disk :=
  match disk.fault? disk.exchanges call with
  | none => (done.1, { disk with
      tree := done.2
      exchanges := disk.exchanges ++ [⟨call, done.1⟩] })
  | some fault => (.error fault.cause, { disk with
      tree := failed fault
      exchanges := disk.exchanges ++ [⟨call, .error fault.cause⟩] })

theorem ask_of_honest {disk after : Disk} {call : DiskCall} {done : Except IoFault Unit × FileTree}
    {failed : DiskFault → FileTree} {answer : Except IoFault Unit}
    (asked : disk.ask call done failed = (answer, after))
    (honest : ∀ fault : DiskFault, .error fault.cause ≠ answer) :
    done.1 = answer ∧ after.tree = done.2 := by
  unfold ask at asked
  split at asked
  next =>
    obtain ⟨rfl, rfl⟩ := Prod.mk.inj asked
    exact ⟨rfl, rfl⟩
  next fault _ => exact absurd (Prod.mk.inj asked).1 (honest fault)

instance : FileSystem Disk where
  readFile disk path := disk.tree.readFile path
  readDirectory disk path := disk.tree.readDirectory path
  isDirectory disk path := disk.tree.isDirectory path
  writeFile disk path content := disk.ask (.write path content) (disk.tree.writeFile path content)
    fun fault =>
      match fault.part with
      | none => disk.tree
      | some part => (disk.tree.writeFile path part).2
  rename disk source target := disk.ask (.rename source target) (disk.tree.rename source target)
    fun _ => disk.tree
  removeFile disk path := disk.ask (.remove path) (disk.tree.removeFile path) fun _ => disk.tree
  createDirectory disk path := disk.ask (.create path) (disk.tree.createDirectory path)
    fun _ => disk.tree

end Disk

namespace FileTree

/-! ## Changes at a path, whatever comes of them -/

variable {tree : FileTree} {path : Path} {location : Location} {name : Bytes}

/-- A path leads to a place for a file in a directory, if it is not too long for a path. -/
def Aims (tree : FileTree) (path : Path) (location : Location) (name : Bytes) : Prop :=
  Leads tree path location name ∨ checkPath path = .error .nameTooLong

theorem aims_of_walk {directory : Path}
    (walked : tree.walk (tree.start directory) directory.names = .ok location)
    (isDirectory : tree.node? location = some .directory) (isFileName : IsFileName name)
    (no_zero : (0 : UInt8) ∉ directory.octets) :
    Aims tree (directory.join name) location name := by
  by_cases fits : (directory.join name).octets.length ≤ pathLimit
  · exact .inl (leads_of_walk walked isDirectory isFileName no_zero fits)
  · right
    have free := no_zero_join isFileName no_zero
    rw [checkPath, if_neg (by simpa using free), if_pos (Nat.lt_of_not_le fits)]

theorem aims_join {directory : Path} (finds : tree.Finds directory location)
    (isFileName : IsFileName name) : Aims tree (directory.join name) location name :=
  aims_of_walk finds.walk finds.isDirectory isFileName finds.checked.1

theorem aims_withName {directory : Path} {other : Bytes} (finds : tree.Finds directory location)
    (isName : Path.IsName name) (isFileName : IsFileName other) :
    Aims tree ((directory.join name).withName other) location other := by
  obtain ⟨parent, walked, found, start⟩ := finds.walk_parent isName
  rw [Path.withName, found]
  exact aims_of_walk walked finds.isDirectory isFileName
    fun member => finds.checked.1 (start.subset member)

theorem writeFile_of_aims (aims : Aims tree path location name) (content : Bytes) :
    (tree.node? (location ++ [name]) ≠ some .directory ∧
      tree.writeFile path content = (.ok (), tree.put (location ++ [name]) (.file content))) ∨
    ∃ fault, tree.writeFile path content = (.error fault, tree) := by
  rcases aims with leads | barred
  · by_cases taken : tree.node? (location ++ [name]) = some .directory
    · exact .inr ⟨_, writeFile_of_directory leads content taken⟩
    · exact .inl ⟨taken, writeFile_of_leads leads content taken⟩
  · exact .inr ⟨_, writeFile_of_lost (lost_of_barred tree barred) content⟩

theorem removeFile_of_aims (aims : Aims tree path location name) :
    (∃ content, tree.node? (location ++ [name]) = some (.file content) ∧
      tree.removeFile path = (.ok (), tree.drop (location ++ [name]))) ∨
    (tree.node? (location ++ [name]) = none ∧ tree.removeFile path = (.error .notFound, tree)) ∨
    ∃ fault, fault ≠ .notFound ∧ tree.removeFile path = (.error fault, tree) := by
  rcases aims with leads | barred
  · cases there : tree.node? (location ++ [name]) with
    | none => exact .inr (.inl ⟨rfl, removeFile_of_absent leads there⟩)
    | some node =>
        cases node with
        | directory => exact .inr (.inr ⟨_, by simp, removeFile_of_directory leads there⟩)
        | file content => exact .inl ⟨content, rfl, removeFile_of_leads leads there⟩
  · exact .inr (.inr ⟨.nameTooLong, by simp, removeFile_of_lost (lost_of_barred tree barred)⟩)

theorem rename_of_aims {target : Path} {last : Bytes} (source : Aims tree path location name)
    (aims : Aims tree target location last) :
    (∃ content, tree.node? (location ++ [name]) = some (.file content) ∧
      tree.node? (location ++ [last]) ≠ some .directory ∧
      tree.rename path target = (.ok (),
        (tree.drop (location ++ [name])).put (location ++ [last]) (.file content))) ∨
    ∃ fault, tree.rename path target = (.error fault, tree) := by
  rcases source with leads | barred
  · cases there : tree.node? (location ++ [name]) with
    | none =>
        right
        simp only [rename, find, leads.located, there]
        exact ⟨_, rfl⟩
    | some node =>
        rcases aims with leads_target | barred
        · cases node with
          | directory =>
              right
              rw [rename, find_of_leads leads there, leads_target.placed]
              exact ⟨_, rfl⟩
          | file content =>
              by_cases taken : tree.node? (location ++ [last]) = some .directory
              · exact .inr ⟨_, rename_to_directory leads leads_target there taken⟩
              · exact .inl ⟨content, rfl, taken, rename_of_leads leads leads_target there taken⟩
        · right
          rw [rename, find_of_leads leads there, findPlace, barred]
          exact ⟨_, rfl⟩
  · right
    rw [rename, find, locate, barred]
    exact ⟨_, rfl⟩

end FileTree

/-! ## Stage files on a disk that fails -/

namespace StageStore

open FileTree (Keeps Aims)

structure Lag (location : Location) (user : UserId) (goal : Option Node) (before after : FileTree) :
    Prop where
  keeps : Keeps before after
  lags : after.node? (stageLocation location user) = before.node? (stageLocation location user) ∨
    after.node? (stageLocation location user) = goal

section Lag
variable {store : StageStore} {location : Location} {user : UserId} {goal : Option Node}

theorem Lag.refl (tree : FileTree) : Lag location user goal tree tree :=
  ⟨⟨rfl, fun _ there => there⟩, .inl rfl⟩

theorem Lag.trans {first second third : FileTree} (left : Lag location user goal first second)
    (right : Lag location user goal second third) : Lag location user goal first third := by
  refine ⟨left.keeps.trans right.keeps, ?_⟩
  rcases right.lags with same | reached
  · rw [same]
    exact left.lags
  · exact .inr reached

theorem lag_of_ask {before after : Disk} {call : DiskCall} {done : Except IoFault Unit × FileTree}
    {failed : DiskFault → FileTree} {answer : Except IoFault Unit}
    (asked : before.ask call done failed = (answer, after))
    (lag : Lag location user goal before.tree done.2)
    (lag_failed : ∀ fault, Lag location user goal before.tree (failed fault)) :
    Lag location user goal before.tree after.tree := by
  unfold Disk.ask at asked
  split at asked
  next =>
    rw [← (Prod.mk.inj asked).2]
    exact lag
  next fault _ =>
    rw [← (Prod.mk.inj asked).2]
    exact lag_failed fault

theorem aims_pathFor {tree : FileTree} (finds : tree.Finds store.directory location)
    (owner : UserId) : Aims tree (store.pathFor owner) location (Utf8.encode (StageFile.name owner)) :=
  FileTree.aims_join finds (StageFile.isFileName_name owner)

theorem aims_temporaryPathFor {tree : FileTree} (finds : tree.Finds store.directory location)
    (owner : UserId) : Aims tree (store.temporaryPathFor owner) location
      (Utf8.encode (StageFile.name owner ++ ".tmp")) :=
  FileTree.aims_withName finds (StageFile.isFileName_name owner).toIsName
    (StageFile.isFileName_temporary owner)

/-! ## Changes beside a stage file -/

section Trees
variable {tree : FileTree} (finds : tree.Finds store.directory location) (owner : UserId)

include finds

theorem lag_writeBeside (content : Bytes) :
    Lag location user goal tree (tree.writeFile (store.temporaryPathFor owner) content).2 := by
  rcases FileTree.writeFile_of_aims (aims_temporaryPathFor finds owner) content with
    ⟨free, done⟩ | ⟨_, done⟩
  · rw [done]
    refine ⟨FileTree.keeps_put free _, .inl ?_⟩
    rw [FileTree.node?_put _ (FileTree.concat_ne_nil _ _), if_neg]
    exact (temporaryLocation_ne_stageLocation location owner user).symm
  · rw [done]
    exact Lag.refl tree

theorem lag_removeBeside :
    Lag location user goal tree (tree.removeFile (store.temporaryPathFor owner)).2 := by
  have beside := (temporaryLocation_ne_stageLocation location owner user).symm
  rcases FileTree.removeFile_of_aims (aims_temporaryPathFor finds owner) with
    ⟨content, there, done⟩ | ⟨_, done⟩ | ⟨_, _, done⟩
  · rw [done]
    refine ⟨FileTree.keeps_drop (by simp [there]), .inl ?_⟩
    rw [FileTree.node?_drop _ (FileTree.concat_ne_nil _ _)]
    exact if_neg beside
  · rw [done]
    exact Lag.refl tree
  · rw [done]
    exact Lag.refl tree

/-! ## Changes of a stage file -/

theorem lag_rename {content : Bytes} (meant : user = owner → goal = some (.file content))
    (there : tree.node? (temporaryLocation location owner) = some (.file content)) :
    Lag location user goal tree
      (tree.rename (store.temporaryPathFor owner) (store.pathFor owner)).2 := by
  rcases FileTree.rename_of_aims (aims_temporaryPathFor finds owner) (aims_pathFor finds owner) with
    ⟨found, held, free, done⟩ | ⟨fault, done⟩
  · obtain rfl : found = content := by
      rw [temporaryLocation, held] at there
      cases there
      rfl
    have beside : stageLocation location user ≠
        location ++ [Utf8.encode (StageFile.name owner ++ ".tmp")] :=
      (temporaryLocation_ne_stageLocation location owner user).symm
    rw [done]
    constructor
    · refine Keeps.trans (FileTree.keeps_drop (by simp [held])) (FileTree.keeps_put ?_ _)
      rw [FileTree.node?_drop _ (FileTree.concat_ne_nil _ _)]
      split
      next => simp
      next => exact free
    · rw [FileTree.node?_put _ (FileTree.concat_ne_nil _ _),
        FileTree.node?_drop _ (FileTree.concat_ne_nil _ _)]
      by_cases own : user = owner
      · subst own
        rw [stageLocation, if_pos rfl]
        exact .inr (meant rfl).symm
      · have apart : stageLocation location user ≠ location ++ [Utf8.encode (StageFile.name owner)] :=
          mt stageLocation_injective own
        rw [if_neg apart, if_neg beside]
        exact .inl rfl
  · rw [done]
    exact Lag.refl tree

theorem lag_removeFile (meant : user = owner → goal = none) :
    Lag location user goal tree (tree.removeFile (store.pathFor owner)).2 := by
  rcases FileTree.removeFile_of_aims (aims_pathFor finds owner) with
    ⟨content, there, done⟩ | ⟨absent, done⟩ | ⟨fault, honest, done⟩
  · rw [done]
    refine ⟨FileTree.keeps_drop (by simp [there]), ?_⟩
    rw [FileTree.node?_drop _ (FileTree.concat_ne_nil _ _)]
    by_cases own : user = owner
    · subst own
      rw [stageLocation, if_pos rfl]
      exact .inr (meant rfl).symm
    · rw [if_neg]
      · exact .inl rfl
      · exact mt stageLocation_injective own
  · rw [done]
    exact Lag.refl tree
  · rw [done]
    exact Lag.refl tree

end Trees

/-! ## What the store gives back -/

section Disks
variable {before after : Disk} {answer : Except IoFault Unit}
  (finds : before.tree.Finds store.directory location) (owner : UserId)

include finds

theorem lag_of_writeBeside {content : Bytes}
    (done : FileSystem.writeFile before (store.temporaryPathFor owner) content = (answer, after)) :
    Lag location user goal before.tree after.tree := by
  refine lag_of_ask done (lag_writeBeside finds owner content) fun fault => ?_
  cases fault.part with
  | none => exact Lag.refl before.tree
  | some part => exact lag_writeBeside finds owner part

theorem lag_of_removeBeside
    (done : FileSystem.removeFile before (store.temporaryPathFor owner) = (answer, after)) :
    Lag location user goal before.tree after.tree :=
  lag_of_ask done (lag_removeBeside finds owner) fun _ => Lag.refl before.tree

theorem lag_of_rename {content : Bytes} (meant : user = owner → goal = some (.file content))
    (there : before.tree.node? (temporaryLocation location owner) = some (.file content))
    (done : FileSystem.rename before (store.temporaryPathFor owner) (store.pathFor owner) =
      (answer, after)) : Lag location user goal before.tree after.tree :=
  lag_of_ask done (lag_rename finds owner meant there) fun _ => Lag.refl before.tree

theorem lag_of_removeFile (meant : user = owner → goal = none)
    (done : FileSystem.removeFile before (store.pathFor owner) = (answer, after)) :
    Lag location user goal before.tree after.tree :=
  lag_of_ask done (lag_removeFile finds owner meant) fun _ => Lag.refl before.tree

theorem node?_of_writeBeside {content : Bytes}
    (done : FileSystem.writeFile before (store.temporaryPathFor owner) content = (.ok (), after)) :
    after.tree.node? (temporaryLocation location owner) = some (.file content) := by
  obtain ⟨ended, tree⟩ := Disk.ask_of_honest done (by simp)
  rw [tree]
  rcases FileTree.writeFile_of_aims (aims_temporaryPathFor finds owner) content with
    ⟨free, wrote⟩ | ⟨fault, failed⟩
  · rw [wrote, FileTree.node?_put _ (FileTree.concat_ne_nil _ _), temporaryLocation, if_pos rfl]
  · rw [failed] at ended
    cases ended

theorem node?_of_rename {content : Bytes}
    (there : before.tree.node? (temporaryLocation location owner) = some (.file content))
    (done : FileSystem.rename before (store.temporaryPathFor owner) (store.pathFor owner) =
      (.ok (), after)) :
    after.tree.node? (stageLocation location owner) = some (.file content) := by
  obtain ⟨ended, tree⟩ := Disk.ask_of_honest done (by simp)
  rw [tree]
  rcases FileTree.rename_of_aims (aims_temporaryPathFor finds owner) (aims_pathFor finds owner) with
    ⟨found, held, _, moved⟩ | ⟨fault, failed⟩
  · rw [temporaryLocation, held] at there
    rw [moved, FileTree.node?_put _ (FileTree.concat_ne_nil _ _), stageLocation, if_pos rfl]
    exact there
  · rw [failed] at ended
    cases ended

theorem node?_of_removeFile
    (done : FileSystem.removeFile before (store.pathFor owner) = (answer, after))
    (gone : answer = .ok () ∨ answer = .error .notFound) :
    after.tree.node? (stageLocation location owner) = none := by
  have honest (fault : DiskFault) : .error fault.cause ≠ answer := by
    rcases gone with rfl | rfl
    · simp
    · exact fun same => fault.honest (Except.error.inj same)
  obtain ⟨ended, tree⟩ := Disk.ask_of_honest done honest
  rw [tree]
  rcases FileTree.removeFile_of_aims (aims_pathFor finds owner) with
    ⟨content, _, removed⟩ | ⟨absent, removed⟩ | ⟨fault, found, failed⟩
  · rw [removed, FileTree.node?_drop _ (FileTree.concat_ne_nil _ _), stageLocation, if_pos rfl]
  · rw [removed]
    exact absent
  · rw [failed] at ended
    rcases gone with rfl | rfl
    · cases ended
    · exact absurd (Except.error.inj ended) found

end Disks

/-- The stage file of one user is what it was or what it is meant to be, and the latter if no error was
given back. The files of others are as they were. -/
structure Brings (location : Location) (owner : UserId) (goal : Option Node)
    (answer : Except StoreError Unit) (before after : Disk) : Prop where
  lag : ∀ user meant, (user = owner → meant = goal) →
    Lag location user meant before.tree after.tree
  reached : answer = .ok () → after.tree.node? (stageLocation location owner) = goal

variable {before : Disk} (finds : before.tree.Finds store.directory location) (owner : UserId)

include finds

theorem exists_written (content : Bytes) :
    ∃ answer after put, Work.Emits (store.write owner content) before answer after put ∧
      put ⊆ [.notice (.committed (store.pathFor owner))] ∧
      Brings location owner (some (.file content)) answer before after := by
  cases wrote : FileSystem.writeFile before (store.temporaryPathFor owner) content with
  | mk written middle =>
      have first (user : UserId) (goal : Option Node) :
          Lag location user goal before.tree middle.tree := lag_of_writeBeside finds owner wrote
      have finds_middle := finds.of_keeps (first owner none).keeps
      cases written with
      | error cause =>
          cases cleaned : FileSystem.removeFile middle (store.temporaryPathFor owner) with
          | mk removed last =>
              refine ⟨.error ⟨.write, cause, store.temporaryPathFor owner⟩, last, [], ?_, by simp, ?_,
                by simp⟩
              · refine Work.Emits.bind (Work.Emits.change wrote) ?_
                exact Work.Emits.bind (Work.Emits.change cleaned) (Work.Emits.pure _ _)
              · exact fun user goal _ =>
                  (first user goal).trans (lag_of_removeBeside finds_middle owner cleaned)
      | ok done =>
          have there := node?_of_writeBeside finds owner wrote
          cases moved : FileSystem.rename middle (store.temporaryPathFor owner)
              (store.pathFor owner) with
          | mk renamed placed =>
              have second (user : UserId) (goal : Option Node)
                  (meant : user = owner → goal = some (.file content)) :
                  Lag location user goal middle.tree placed.tree :=
                lag_of_rename finds_middle owner meant there moved
              cases renamed with
              | error cause =>
                  have finds_placed := finds_middle.of_keeps (second owner _ fun _ => rfl).keeps
                  cases cleaned : FileSystem.removeFile placed (store.temporaryPathFor owner) with
                  | mk removed last =>
                      refine ⟨.error ⟨.commit, cause, store.pathFor owner⟩, last, [], ?_, by simp, ?_,
                        by simp⟩
                      · refine Work.Emits.bind (Work.Emits.change wrote) ?_
                        refine Work.Emits.bind (Work.Emits.change moved) ?_
                        exact Work.Emits.bind (Work.Emits.change cleaned) (Work.Emits.pure _ _)
                      · exact fun user goal meant => (first user goal).trans
                          ((second user goal meant).trans
                            (lag_of_removeBeside finds_placed owner cleaned))
              | ok done =>
                  refine ⟨.ok (), placed, [.notice (.committed (store.pathFor owner))], ?_, by simp,
                    ?_, ?_⟩
                  · refine Work.Emits.bind (Work.Emits.change wrote) ?_
                    refine Work.Emits.bind (Work.Emits.change moved) ?_
                    exact Work.Emits.bind (Work.Emits.note _ _) (Work.Emits.pure _ _)
                  · exact fun user goal meant => (first user goal).trans (second user goal meant)
                  · exact fun _ => node?_of_rename finds_middle owner there moved

theorem exists_deleted :
    ∃ answer after, Work.Emits (store.delete owner) before answer after [] ∧
      Brings location owner none answer before after := by
  cases removed : FileSystem.removeFile before (store.pathFor owner) with
  | mk answer after =>
      have lag (user : UserId) (goal : Option Node) (meant : user = owner → goal = none) :
          Lag location user goal before.tree after.tree := lag_of_removeFile finds owner meant removed
      have gone := fun ended => node?_of_removeFile finds owner removed ended
      cases answer with
      | ok done =>
          exact ⟨_, after, (Work.Emits.change removed).bind (Work.Emits.pure _ _), lag,
            fun _ => gone (.inl rfl)⟩
      | error cause =>
          cases cause with
          | notFound =>
              exact ⟨_, after, (Work.Emits.change removed).bind (Work.Emits.pure _ _), lag,
                fun _ => gone (.inr rfl)⟩
          | _ =>
              exact ⟨_, after, (Work.Emits.change removed).bind (Work.Emits.pure _ _), lag, by simp⟩

end Lag
end StageStore
end LocaleStaging
