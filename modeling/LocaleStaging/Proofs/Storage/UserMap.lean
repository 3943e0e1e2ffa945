import LocaleStaging.Proofs.Storage.Atomicity
import LocaleStaging.Proofs.Storage.Listed
import Mathlib.Data.Set.List

namespace LocaleStaging.StageStore

open LocaleStaging.FileTree (Finds)

/-! ## Calls and what they should answer -/

inductive StageCall where
  | write (user : UserId) (content : Bytes)
  | read (user : UserId)
  | delete (user : UserId)
  | entries

inductive StageReply where
  | done
  | content (found : Option Bytes)
  | listed (found : List StageEntry)

section Perform
variable {φ : Type} [FileSystem φ]

def perform (store : StageStore) : StageCall → Work φ (Except StoreError StageReply)
  | .write user content => return (← store.write user content).map fun _ => .done
  | .read user => return (← store.read user).map .content
  | .delete user => return (← store.delete user).map fun _ => .done
  | .entries => return (← store.entries).map .listed

def performAll (store : StageStore) : List StageCall → Work φ (List (Except StoreError StageReply))
  | [] => return []
  | call :: rest => do
    let answer ← store.perform call
    return answer :: (← store.performAll rest)

end Perform

def StageCall.Fits (store : StageStore) : StageCall → Prop
  | .write user _ => store.Fits user
  | .read user => (store.pathFor user).octets.length ≤ FileTree.pathLimit
  | .delete user => (store.pathFor user).octets.length ≤ FileTree.pathLimit
  | .entries => True

def StageCall.change? (user : UserId) : StageCall → Option (Option Bytes)
  | .write owner content => if user = owner then some (some content) else none
  | .delete owner => if user = owner then some none else none
  | .read _ => none
  | .entries => none

def kept (calls : List StageCall) (user : UserId) : Option Bytes :=
  ((calls.filterMap (StageCall.change? user)).getLast?).join

def stageEntry (store : StageStore) (user : UserId) : StageEntry :=
  ⟨store.pathFor user, Utf8.encode (StageFile.name user), .ok user⟩

@[simp]
theorem stageEntry_path (store : StageStore) (user : UserId) :
    (store.stageEntry user).path = store.pathFor user := by
  rw [stageEntry]

@[simp]
theorem stageEntry_name (store : StageStore) (user : UserId) :
    (store.stageEntry user).name = Utf8.encode (StageFile.name user) := by
  rw [stageEntry]

structure Lists (store : StageStore) (held : UserId → Option Bytes) (found : List StageEntry)
    (users : List UserId) : Prop where
  entries : found = users.map store.stageEntry
  held_iff : ∀ user, user ∈ users ↔ held user ≠ none
  once : users.Nodup
  sorted : found.Pairwise fun earlier later => compare earlier.name later.name = .lt
  not_temporary : ∀ entry ∈ found, ∀ owner, entry.path ≠ store.temporaryPathFor owner

inductive Agrees (store : StageStore) (held : UserId → Option Bytes) :
    StageCall → Except StoreError StageReply → Prop where
  | write (user : UserId) (content : Bytes) : Agrees store held (.write user content) (.ok .done)
  | read (user : UserId) : Agrees store held (.read user) (.ok (.content (held user)))
  | delete (user : UserId) : Agrees store held (.delete user) (.ok .done)
  | entries (found : List StageEntry) (users : List UserId) (lists : Lists store held found users) :
      Agrees store held .entries (.ok (.listed found))

theorem kept_concat (calls : List StageCall) (call : StageCall) (user : UserId) :
    kept (calls ++ [call]) user = (call.change? user).getD (kept calls user) := by
  rw [kept, List.filterMap_append, kept]
  cases changed : call.change? user with
  | none => simp [changed]
  | some content => simp [changed]

/-! ## What a call leaves -/

structure Holds (store : StageStore) (files : FileTree) (location : Location)
    (held : UserId → Option Bytes) : Prop where
  finds : files.Finds store.directory location
  stored : ∀ user, files.node? (stageLocation location user) = (held user).map Node.file
  alone : ∀ name, files.node? (location ++ [name]) ≠ none →
    ∃ user, name = Utf8.encode (StageFile.name user)

section Holds
variable {store : StageStore} {files : FileTree} {location : Location}
  {held : UserId → Option Bytes}

theorem holds_of_bare (finds : files.Finds store.directory location)
    (bare : ∀ name, files.node? (location ++ [name]) = none) :
    Holds store files location (kept []) :=
  ⟨finds, fun _ => bare _, fun name there => absurd (bare name) there⟩

theorem Holds.clear (holds : Holds store files location held) (user : UserId) :
    Clear files location user := by
  constructor
  · rw [holds.stored]
    cases held user <;> simp
  · intro there
    obtain ⟨owner, same⟩ := holds.alone (Utf8.encode (StageFile.name user ++ ".tmp"))
      (by rw [← temporaryLocation, there]; simp)
    exact StageFile.temporary_ne_name user owner same

theorem Holds.leads (holds : Holds store files location held) {user : UserId}
    (fits : (store.pathFor user).octets.length ≤ FileTree.pathLimit) :
    files.Leads (store.pathFor user) location (Utf8.encode (StageFile.name user)) :=
  FileTree.leads_join holds.finds (StageFile.isFileName_name user) fits

theorem Holds.congr (holds : Holds store files location held) {other : UserId → Option Bytes}
    (same : ∀ user, other user = held user) : Holds store files location other := by
  obtain rfl : other = held := funext same
  exact holds

theorem Holds.written (holds : Holds store files location held) (user : UserId) (content : Bytes) :
    Holds store (written files location user content) location
      fun other => if other = user then some content else held other := by
  refine ⟨holds.finds.of_keeps (keeps_written (holds.clear user) content), ?_, ?_⟩
  · intro other
    rw [node?_written]
    by_cases own : other = user
    · rw [if_pos (by rw [own]), if_pos own]
      rfl
    · rw [if_neg (mt stageLocation_injective own),
        if_neg (temporaryLocation_ne_stageLocation location user other).symm, if_neg own,
        holds.stored]
  · intro name there
    rw [node?_written] at there
    split at there
    next same => exact ⟨user, (List.cons.inj (List.append_cancel_left same)).1⟩
    split at there
    next => exact absurd rfl there
    next => exact holds.alone name there

theorem Holds.deleted (holds : Holds store files location held) (user : UserId) :
    Holds store (deleted files location user) location
      fun other => if other = user then none else held other := by
  refine ⟨holds.finds.of_keeps (keeps_deleted (holds.clear user)), ?_, ?_⟩
  · intro other
    rw [node?_deleted]
    by_cases own : other = user
    · rw [if_pos (by rw [own]), if_pos own]
      rfl
    · rw [if_neg (mt stageLocation_injective own), if_neg own, holds.stored]
  · intro name there
    rw [node?_deleted] at there
    split at there
    next => exact absurd rfl there
    next => exact holds.alone name there

theorem yields_read_of_holds (holds : Holds store files location held) {user : UserId}
    (fits : (store.pathFor user).octets.length ≤ FileTree.pathLimit) :
    Yields Workspace.files (store.read user) files (.ok (held user)) files := by
  have leads := holds.leads fits
  have stored := holds.stored user
  cases content : held user with
  | none =>
      rw [content] at stored
      refine Yields.bind (Work.yields_look _ files) ?_
      rw [show FileSystem.readFile files (store.pathFor user) = .error .notFound from
        FileTree.readFile_of_absent leads stored]
      exact Yields.pure _ files
  | some found =>
      rw [content] at stored
      exact yields_readAt leads stored

theorem entry_name (user : UserId) :
    store.entry (Utf8.encode (StageFile.name user)) = store.stageEntry user := by
  rw [entry, StageFile.userOfOctets_name, stageEntry, pathFor]

theorem lt_of_isLE {first second : Bytes} (below : (compare first second).isLE)
    (apart : first ≠ second) : compare first second = .lt := by
  cases compared : compare first second with
  | lt => rfl
  | eq => exact absurd (Std.LawfulEqOrd.eq_of_compare compared) apart
  | gt => simp [compared] at below

theorem yields_entries_of_holds (holds : Holds store files location held) :
    ∃ found users, Yields Workspace.files store.entries files (.ok found) files ∧
      Lists store held found users := by
  obtain ⟨names, listed, members, once, sorted⟩ := yields_entries holds.finds
  -- All names are those of stage files.
  obtain ⟨users, rfl⟩ : names ∈ Set.range (List.map fun user => Utf8.encode (StageFile.name user)) := by
    rw [Set.range_list_map]
    intro name member
    obtain ⟨user, same⟩ := holds.alone name ((members name).1 member)
    exact ⟨user, same.symm⟩
  have entries : (users.map fun user => Utf8.encode (StageFile.name user)).map store.entry =
      users.map store.stageEntry := by
    rw [List.map_map]
    exact List.map_congr_left fun user _ => entry_name user
  rw [entries] at listed
  refine ⟨_, users, listed, rfl, ?_, List.Nodup.of_map _ once, ?_, ?_⟩
  · intro user
    have named := members (Utf8.encode (StageFile.name user))
    rw [← stageLocation, holds.stored, List.mem_map] at named
    constructor
    · intro member absent
      exact named.1 ⟨user, member, rfl⟩ (by rw [absent]; rfl)
    · intro there
      obtain ⟨owner, member, same⟩ := named.2 (by simpa using there)
      rwa [← StageFile.octets_injective same]
  · have strict := (sorted.and once).imp fun both => lt_of_isLE both.1 both.2
    rw [List.pairwise_map] at strict ⊢
    simpa only [stageEntry_name] using strict
  · intro entry member owner
    obtain ⟨user, _, rfl⟩ := List.mem_map.1 member
    rw [stageEntry_path]
    exact (temporaryPathFor_ne_pathFor store owner user).symm

theorem perform_agrees {calls : List StageCall} (holds : Holds store files location (kept calls))
    {call : StageCall} (fits : call.Fits store) :
    ∃ answer after, Yields Workspace.files (store.perform call) files answer after ∧
      Agrees store (kept calls) call answer ∧
      Holds store after location (kept (calls ++ [call])) := by
  cases call with
  | write user content =>
      have reaches : store.Reaches files location user :=
        ⟨holds.finds, fits.stage, fits.temporary⟩
      have wrote := yields_write reaches (holds.clear user) content
      refine ⟨_, _, Yields.bind wrote (Yields.pure _ _), .write user content,
        (holds.written user content).congr ?_⟩
      intro other
      rw [kept_concat, StageCall.change?]
      split <;> rfl
  | read user =>
      refine ⟨_, _, Yields.bind (yields_read_of_holds holds fits) (Yields.pure _ _),
        .read user, holds.congr fun other => ?_⟩
      exact kept_concat calls _ other
  | delete user =>
      have deleted := yields_delete_of_leads (holds.leads fits) (holds.clear user).stage
      refine ⟨_, _, Yields.bind deleted (Yields.pure _ _), .delete user,
        (holds.deleted user).congr ?_⟩
      intro other
      rw [kept_concat, StageCall.change?]
      split <;> rfl
  | entries =>
      obtain ⟨found, users, listed, lists⟩ := yields_entries_of_holds holds
      refine ⟨_, _, Yields.bind listed (Yields.pure _ _), .entries found users lists,
        holds.congr fun other => ?_⟩
      exact kept_concat calls _ other

theorem performAll_agrees_of_holds {before calls : List StageCall}
    (holds : Holds store files location (kept before)) (fits : ∀ call ∈ calls, call.Fits store) :
    ∃ answers after, Yields Workspace.files (store.performAll calls) files answers after ∧
      answers.length = calls.length ∧
      ∀ index call, calls[index]? = some call → ∃ answer, answers[index]? = some answer ∧
        Agrees store (kept (before ++ calls.take index)) call answer := by
  induction calls generalizing before files with
  | nil => exact ⟨[], files, Yields.pure _ _, rfl, by simp⟩
  | cons call rest ih =>
      obtain ⟨answer, middle, first, agrees, held⟩ :=
        perform_agrees holds (fits call List.mem_cons_self)
      obtain ⟨answers, after, later, same, all_agree⟩ :=
        ih held fun other member => fits other (List.mem_cons_of_mem call member)
      refine ⟨answer :: answers, after, Yields.bind first (Yields.bind later (Yields.pure _ _)), ?_, ?_⟩
      · rw [List.length_cons, List.length_cons, same]
      · intro index made called
        cases index with
        | zero =>
            cases called
            rw [List.take_zero, List.append_nil]
            exact ⟨answer, rfl, agrees⟩
        | succ index =>
            have later_agrees := all_agree index made called
            rwa [List.append_assoc, List.singleton_append] at later_agrees

end Holds

/-! ## Directories listed in any order -/

section Listed
open LocaleStaging.Listed (Mirrors)
variable {order : ListingOrder}

theorem mirrors_perform (store : StageStore) (call : StageCall) :
    Mirrors (store.perform call : Work (Listed order) _) (store.perform call) := by
  cases call with
  | write user content =>
      exact Mirrors.bind (Listed.mirrors_write store user content) fun _ => Mirrors.pure _
  | read user => exact Mirrors.bind (Listed.mirrors_readAt _) fun _ => Mirrors.pure _
  | delete user => exact Mirrors.bind (Listed.mirrors_removeAt _) fun _ => Mirrors.pure _
  | entries => exact Mirrors.bind (Listed.mirrors_entries store) fun _ => Mirrors.pure _

theorem mirrors_performAll (store : StageStore) (calls : List StageCall) :
    Mirrors (store.performAll calls : Work (Listed order) _) (store.performAll calls) := by
  induction calls with
  | nil => exact Mirrors.pure _
  | cons call rest ih =>
      exact Mirrors.bind (mirrors_perform store call) fun _ => Mirrors.bind ih fun _ => Mirrors.pure _

/-- A store opened on an empty directory answers as a map from users to octets, in whatever order the
directory is listed. Only paths that are too long are in the way of a call. -/
theorem performAll_agrees {directory : Path} {files : FileTree} {location : Location}
    (finds : files.Finds directory location)
    (bare : ∀ name, files.node? (location ++ [name]) = none)
    {calls : List StageCall} (fits : ∀ call ∈ calls, call.Fits ⟨directory⟩) (order : ListingOrder) :
    Yields Listed.treeOf (openAt directory : Work (Listed order) _) files (.ok ⟨directory⟩) files ∧
      ∃ answers after,
        Yields Listed.treeOf (performAll ⟨directory⟩ calls : Work (Listed order) _) files answers after ∧
        answers.length = calls.length ∧
        ∀ index call, calls[index]? = some call → ∃ answer, answers[index]? = some answer ∧
          Agrees ⟨directory⟩ (kept (calls.take index)) call answer := by
  refine ⟨(Listed.mirrors_openAt directory).yields (yields_openAt finds), ?_⟩
  have holds : Holds ⟨directory⟩ files location (kept []) := holds_of_bare finds bare
  obtain ⟨answers, after, yields, same, all_agree⟩ := performAll_agrees_of_holds holds fits
  exact ⟨answers, after, (mirrors_performAll _ calls).yields yields, same, all_agree⟩

end Listed

theorem fits_emptyStage (call : StageCall) : call.Fits ⟨Path.ofString "stage"⟩ := by
  have reaches (user : UserId) := ready_emptyStage.reaches user
  cases call with
  | write user content => exact ⟨(reaches user).stage_fits, (reaches user).temporary_fits⟩
  | read user => exact (reaches user).stage_fits
  | delete user => exact (reaches user).stage_fits
  | entries => exact trivial

theorem performAll_agrees_twoUsers :
    ∃ answers after,
      Yields Listed.treeOf (performAll ⟨Path.ofString "stage"⟩
        [.write 3 [1], .write 20 [2], .delete 3, .read 3, .read 20] :
          Work (Listed .reversed) _) emptyStage answers after ∧
      answers[3]? = some (.ok (.content none)) ∧ answers[4]? = some (.ok (.content (some [2]))) := by
  obtain ⟨_, answers, after, yields, same, all_agree⟩ :=
    @performAll_agrees _ _ _ finds_emptyStage node?_emptyStage
      [.write 3 [1], .write 20 [2], .delete 3, .read 3, .read 20]
      (fun call _ => fits_emptyStage call) .reversed
  obtain ⟨third, answered, agrees⟩ := all_agree 3 (.read 3) rfl
  obtain ⟨fourth, answered_too, agrees_too⟩ := all_agree 4 (.read 20) rfl
  refine ⟨answers, after, yields, ?_, ?_⟩
  · rw [answered]
    cases agrees
    rfl
  · rw [answered_too]
    cases agrees_too
    rfl

theorem performAll_crowdedPath :
    emptyStage.Finds crowdedPath [Utf8.encode "stage"] ∧
      (∀ name, emptyStage.node? ([Utf8.encode "stage"] ++ [name]) = none) ∧
      Yields Workspace.files (openAt crowdedPath) emptyStage (.ok ⟨crowdedPath⟩) emptyStage ∧
      ∃ error after, Yields Workspace.files (performAll ⟨crowdedPath⟩ [.write 7 [1]]) emptyStage
        [.error error] after := by
  refine ⟨finds_crowdedPath, node?_emptyStage, yields_openAt finds_crowdedPath, ?_⟩
  obtain ⟨error, after, failed⟩ := exists_error_of_not_fits (not_fits_crowdedPath 7) emptyStage [1]
  exact ⟨error, after, Yields.bind (Yields.bind failed (Yields.pure _ _))
    (Yields.bind (Yields.pure _ _) (Yields.pure _ _))⟩

end LocaleStaging.StageStore
