import LocaleStaging.Proofs.Document.RoundTrip
import LocaleStaging.Proofs.Storage.StageStore
import LocaleStaging.Staging.Table
import Mathlib.Data.List.Induction

/-!
# Loading a directory

A file in the staging directory is accepted if its name belongs to a user and its content is a
document with a time and some package (`accepted?`). Loading gives each user the record of the last
accepted file in the order of names, and takes away the files that are not accepted (`yields_load`).
A directory among the entries stays where it is.
-/

namespace LocaleStaging.StagedTable

open LocaleStaging.FileTree (IsFileName Finds Leads Keeps concat_ne_nil)

def recordAt? (files : FileTree) (location : Location) (name : Bytes) : Option StagedRecord :=
  match files.node? (location ++ [name]) with
  | some (.file content) => (Document.decode content).toOption.bind Document.record?
  | _ => none

def accepted? (files : FileTree) (location : Location) (name : Bytes) :
    Option (UserId × StagedRecord) :=
  match StageStore.userOfOctets name with
  | .error _ => none
  | .ok user =>
    ((recordAt? files location name).filter fun record => !record.pending.isEmpty).map (user, ·)

section Accepted
variable {files after : FileTree} {location : Location} {name : Bytes} {user : UserId}
  {record : StagedRecord}

theorem accepted?_congr
    (same : after.node? (location ++ [name]) = files.node? (location ++ [name])) :
    accepted? after location name = accepted? files location name := by
  rw [accepted?, recordAt?, same, accepted?, recordAt?]

theorem recordAt?_of_no_file
    (no_file : ∀ content, files.node? (location ++ [name]) ≠ some (.file content)) :
    recordAt? files location name = none := by
  unfold recordAt?
  split
  next content there => exact absurd there (no_file content)
  next => rfl

theorem accepted?_of_no_file
    (no_file : ∀ content, files.node? (location ++ [name]) ≠ some (.file content)) :
    accepted? files location name = none := by
  unfold accepted?
  rw [recordAt?_of_no_file no_file]
  split <;> rfl

theorem userOfOctets_of_accepted? (accepted : accepted? files location name = some (user, record)) :
    StageStore.userOfOctets name = .ok user := by
  unfold accepted? at accepted
  split at accepted
  next => cases accepted
  next owner owned =>
    obtain ⟨_, _, same⟩ := Option.map_eq_some_iff.1 accepted
    cases same
    exact owned

end Accepted

/-! ## Taking in one entry -/

def takeIn (files : FileTree) (location : Location) (table : StagedTable) (name : Bytes) :
    StagedTable :=
  match accepted? files location name with
  | some (user, record) => table.insert user record
  | none => table

def rejects (files : FileTree) (location : Location) (name : Bytes) : Bool :=
  match files.node? (location ++ [name]) with
  | some (.file _) => (accepted? files location name).isNone
  | _ => false

def discard (location : Location) (files : FileTree) (name : Bytes) : FileTree :=
  if rejects files location name then files.drop (location ++ [name]) else files

section Entry
variable {store : StageStore} {files : FileTree} {location : Location} {name : Bytes}

theorem yields_readRecord (leads : Leads files (store.directory.join name) location name) :
    Yields Workspace.files (store.entry name).readRecord files (recordAt? files location name)
      files := by
  unfold StageEntry.readRecord StageStore.readEntry recordAt?
  rw [show (store.entry name).path = store.directory.join name from rfl]
  cases there : files.node? (location ++ [name]) with
  | none =>
      have absent : FileSystem.readFile files (store.directory.join name) = .error .notFound :=
        FileTree.readFile_of_absent leads there
      have read : Yields Workspace.files (StageStore.readAt (store.directory.join name)) files
          (.ok none) files := by
        refine Yields.bind (Work.yields_look _ files) ?_
        rw [absent]
        exact Yields.pure _ files
      exact Yields.bind read (Yields.pure none files)
  | some node =>
      cases node with
      | directory =>
          have barred : FileSystem.readFile files (store.directory.join name) =
              .error .isADirectory := FileTree.readFile_of_directory leads there
          have read : Yields Workspace.files (StageStore.readAt (store.directory.join name)) files
              (.error ⟨.read, .isADirectory, store.directory.join name⟩) files := by
            refine Yields.bind (Work.yields_look _ files) ?_
            rw [barred]
            exact Yields.pure _ files
          refine Yields.bind read ?_
          exact Yields.bind (Work.yields_note _ files) (Yields.pure none files)
      | file content =>
          refine Yields.bind (StageStore.yields_readAt leads there) ?_
          cases decoded : Document.decode content with
          | error fault =>
              simp only [decoded]
              exact Yields.bind (Work.yields_note _ files) (Yields.pure none files)
          | ok document =>
              simp only [decoded]
              exact Yields.pure document.record? files

theorem yields_inspect (leads : Leads files (store.directory.join name) location name) :
    ∃ answer, Yields Workspace.files (store.entry name).inspect files answer files ∧
      answer.toOption = accepted? files location name := by
  unfold StageEntry.inspect accepted?
  rw [show (store.entry name).user = StageStore.userOfOctets name from rfl]
  cases StageStore.userOfOctets name with
  | error fault => exact ⟨_, Yields.pure _ files, rfl⟩
  | ok user =>
      have read := yields_readRecord leads
      cases found : recordAt? files location name with
      | none =>
          rw [found] at read
          exact ⟨.error .unreadable, Yields.bind read (Yields.pure _ files), rfl⟩
      | some record =>
          rw [found] at read
          cases bare : record.pending.isEmpty with
          | true =>
              refine ⟨.error .empty, Yields.bind read ?_, by simp [Option.filter, bare, Except.toOption]⟩
              simp only [bare, if_true]
              exact Yields.pure _ files
          | false =>
              refine ⟨.ok (user, record), Yields.bind read ?_, by simp [Option.filter, bare, Except.toOption]⟩
              simp only [bare, Bool.false_eq_true, if_false]
              exact Yields.pure _ files

theorem yields_removeEntry (leads : Leads files (store.directory.join name) location name)
    (refused : accepted? files location name = none) :
    ∃ answer, Yields Workspace.files (StageStore.removeEntry (store.entry name)) files answer
      (discard location files name) := by
  unfold discard rejects
  cases there : files.node? (location ++ [name]) with
  | none =>
      have gone := FileTree.removeFile_of_absent leads there
      exact ⟨.ok (), Yields.bind (Work.yields_change gone) (Yields.pure _ _)⟩
  | some node =>
      cases node with
      | directory =>
          have barred := FileTree.removeFile_of_directory leads there
          exact ⟨_, Yields.bind (Work.yields_change barred) (Yields.pure _ _)⟩
      | file content =>
          have gone := FileTree.removeFile_of_leads leads there
          simp only [refused, Option.isNone_none, if_true]
          exact ⟨.ok (), Yields.bind (Work.yields_change gone) (Yields.pure _ _)⟩

theorem discard_of_accepted {accepted : UserId × StagedRecord}
    (found : accepted? files location name = some accepted) : discard location files name = files := by
  unfold discard rejects
  rw [found]
  cases files.node? (location ++ [name]) with
  | none => rfl
  | some node => cases node <;> rfl

theorem yields_takeIn (leads : Leads files (store.directory.join name) location name)
    (table : StagedTable) :
    Yields Workspace.files (table.loadEntry (store.entry name)) files
      (takeIn files location table name) (discard location files name) := by
  obtain ⟨answer, inspected, same⟩ := yields_inspect leads
  unfold loadEntry takeIn
  cases answer with
  | ok accepted =>
      have found : accepted? files location name = some accepted := same.symm
      rw [found, discard_of_accepted found]
      refine Yields.bind inspected ?_
      exact Yields.bind (Work.yields_note _ files) (Yields.pure _ files)
  | error reason =>
      have refused : accepted? files location name = none := same.symm
      obtain ⟨removed, done⟩ := yields_removeEntry leads refused
      rw [refused]
      refine Yields.bind inspected (Yields.bind done ?_)
      cases removed with
      | error fault => exact Yields.bind (Work.yields_note _ _) (Yields.pure table _)
      | ok done => exact Yields.bind (Work.yields_note _ _) (Yields.pure table _)

end Entry

/-! ## What one entry changes -/

section Step
variable (files : FileTree) (location : Location) (table : StagedTable) (name : Bytes)

theorem get?_insert (user other : UserId) (record : StagedRecord) :
    (table.insert user record).get? other =
      if other = user then some record else table.get? other := by
  by_cases same : other = user
  · subst same
    rw [if_pos rfl]
    exact SortedMap.get?_insert_self table.records other record
  · rw [if_neg same]
    exact SortedMap.get?_insert_of_ne table.records record same

theorem get?_takeIn (user : UserId) :
    (takeIn files location table name).get? user =
      match accepted? files location name with
      | some (owner, record) => if user = owner then some record else table.get? user
      | none => table.get? user := by
  unfold takeIn
  split
  next owner record found => exact get?_insert table owner user record
  next => rfl

theorem store_takeIn : (takeIn files location table name).store = table.store := by
  unfold takeIn
  split <;> rfl

theorem retention_takeIn : (takeIn files location table name).retention = table.retention := by
  unfold takeIn
  split <;> rfl

theorem file_of_rejects (refused : rejects files location name = true) :
    accepted? files location name = none ∧
      ∃ content, files.node? (location ++ [name]) = some (.file content) := by
  unfold rejects at refused
  cases there : files.node? (location ++ [name]) with
  | none => simp [there] at refused
  | some node =>
      cases node with
      | directory => simp [there] at refused
      | file content => exact ⟨by simpa [there] using refused, content, rfl⟩

theorem node?_discard (other : Location) :
    (discard location files name).node? other =
      if rejects files location name ∧ other = location ++ [name] then none
      else files.node? other := by
  unfold discard
  cases rejects files location name with
  | true => simp [FileTree.node?_drop files (concat_ne_nil location name)]
  | false => simp

theorem keeps_discard : Keeps files (discard location files name) := by
  unfold discard
  split
  next refused =>
    obtain ⟨_, content, there⟩ := file_of_rejects files location name refused
    exact FileTree.keeps_drop (by simp [there])
  next => exact ⟨rfl, fun _ directory => directory⟩

theorem accepted?_discard (other : Bytes) :
    accepted? (discard location files name) location other = accepted? files location other := by
  by_cases dropped : rejects files location name ∧ location ++ [other] = location ++ [name]
  · obtain ⟨refused, same⟩ := dropped
    obtain rfl : other = name := by simpa using same
    rw [(file_of_rejects files location other refused).1]
    apply accepted?_of_no_file
    simp [node?_discard, refused]
  · apply accepted?_congr
    rw [node?_discard, if_neg dropped]

theorem takeIn_discard :
    takeIn (discard location files name) location = takeIn files location := by
  funext table other
  rw [takeIn, accepted?_discard, takeIn]

theorem rejects_discard {other : Bytes} (apart : other ≠ name) :
    rejects (discard location files name) location other = rejects files location other := by
  have same : (discard location files name).node? (location ++ [other]) =
      files.node? (location ++ [other]) := by
    rw [node?_discard, if_neg]
    rintro ⟨_, same⟩
    exact apart (List.cons.inj (List.append_cancel_left same)).1
  rw [rejects, same, accepted?_discard, rejects]

end Step

/-! ## A whole directory -/

structure Addressable (store : StageStore) (name : Bytes) : Prop where
  isFileName : IsFileName name
  fits : (store.directory.join name).octets.length ≤ FileTree.pathLimit

structure Latest (files : FileTree) (location : Location) (user : UserId) (name : Bytes)
    (record : StagedRecord) : Prop where
  accepted : accepted? files location name = some (user, record)
  last : ∀ other kept, accepted? files location other = some (user, kept) →
    (compare other name).isLE

structure Loaded (files : FileTree) (location : Location) (table : StagedTable) (left : FileTree) :
    Prop where
  records : ∀ user record, table.get? user = some record ↔
    ∃ name, Latest files location user name record
  found : ∀ name user record, accepted? files location name = some (user, record) →
    table.get? user ≠ none
  keeps : Keeps files left
  gone : ∀ name, rejects files location name → left.node? (location ++ [name]) = none
  kept : ∀ other, (∀ name, rejects files location name → other ≠ location ++ [name]) →
    left.node? other = files.node? other
  untouched : (∀ name, rejects files location name = false) → left = files

section Directory
variable {store : StageStore} {files : FileTree} {location : Location}

theorem yields_loadEntries (finds : files.Finds store.directory location) {names : List Bytes}
    (addressable : ∀ name ∈ names, Addressable store name) (table : StagedTable) :
    Yields Workspace.files (table.loadEntries (names.map store.entry)) files
      (names.foldl (takeIn files location) table) (names.foldl (discard location) files) := by
  induction names generalizing files table with
  | nil => exact Yields.pure table files
  | cons name names ih =>
      obtain ⟨isFileName, fits⟩ := addressable name List.mem_cons_self
      have first := yields_takeIn (FileTree.leads_join finds isFileName fits) table
      have later := ih (finds.of_keeps (keeps_discard files location name))
        (fun other member => addressable other (List.mem_cons_of_mem _ member))
        (takeIn files location table name)
      rw [takeIn_discard] at later
      exact Yields.bind first later

theorem keeps_discardAll (names : List Bytes) : Keeps files (names.foldl (discard location) files) := by
  induction names generalizing files with
  | nil => exact ⟨rfl, fun _ directory => directory⟩
  | cons name names ih => exact Keeps.trans (keeps_discard files location name) ih

theorem node?_discardAll_of_kept (names : List Bytes) {other : Location}
    (kept : ∀ name, rejects files location name → other ≠ location ++ [name]) :
    (names.foldl (discard location) files).node? other = files.node? other := by
  induction names generalizing files with
  | nil => rfl
  | cons name names ih =>
      have same : (discard location files name).node? other = files.node? other := by
        rw [node?_discard, if_neg]
        rintro ⟨refused, here⟩
        exact kept name refused here
      refine (ih ?_).trans same
      intro found refused
      by_cases here : found = name
      · subst here
        rw [rejects, accepted?_discard, node?_discard] at refused
        split at refused
        next file there =>
          split at there
          next => cases there
          next => exact kept found (by rwa [rejects, there])
        next => cases refused
      · rw [rejects_discard _ _ _ here] at refused
        exact kept found refused

theorem node?_discardAll_of_rejects {names : List Bytes} {name : Bytes} (member : name ∈ names)
    (refused : rejects files location name) :
    (names.foldl (discard location) files).node? (location ++ [name]) = none := by
  induction names generalizing files with
  | nil => cases member
  | cons head names ih =>
      by_cases here : name = head
      · subst here
        have absent : (discard location files name).node? (location ++ [name]) = none := by
          rw [node?_discard, if_pos ⟨refused, rfl⟩]
        refine (node?_discardAll_of_kept names ?_).trans absent
        rintro other again same
        obtain ⟨_, content, there⟩ := file_of_rejects _ _ _ again
        rw [← same, absent] at there
        cases there
      · refine ih ((List.mem_cons.1 member).resolve_left here) ?_
        rw [rejects_discard _ _ _ here]
        exact refused

theorem discardAll_of_not_rejects (kept : ∀ name, rejects files location name = false)
    (names : List Bytes) : names.foldl (discard location) files = files := by
  induction names with
  | nil => rfl
  | cons name names ih =>
      have same : discard location files name = files := by simp [discard, kept name]
      rw [List.foldl_cons, same, ih]

theorem get?_takeInAll {names : List Bytes} {table : StagedTable}
    (sorted : names.Pairwise fun earlier later => (compare earlier later).isLE)
    (bare : ∀ user, table.get? user = none) (user : UserId) (record : StagedRecord) :
    (names.foldl (takeIn files location) table).get? user = some record ↔
      ∃ name ∈ names, accepted? files location name = some (user, record) ∧
        ∀ other ∈ names, ∀ kept, accepted? files location other = some (user, kept) →
          (compare other name).isLE := by
  induction names using List.reverseRecOn with
  | nil => simp [bare]
  | append_singleton names last ih =>
      obtain ⟨before, _, below⟩ := List.pairwise_append.1 sorted
      have below_last (name : Bytes) (member : name ∈ names ++ [last]) :
          (compare name last).isLE := by
        rcases List.mem_append.1 member with earlier | same
        · exact below name earlier last List.mem_cons_self
        · rw [List.mem_singleton.1 same]
          exact Std.ReflCmp.isLE_rfl
      rw [List.foldl_append, List.foldl_cons, List.foldl_nil, get?_takeIn]
      by_cases owned : ∃ kept, accepted? files location last = some (user, kept)
      · -- The last name decides.
        obtain ⟨kept, accepted⟩ := owned
        simp only [accepted, if_true]
        constructor
        · intro same
          cases same
          exact ⟨last, by simp, accepted, fun other member _ _ => below_last other member⟩
        · rintro ⟨name, member, found, latest⟩
          have above := latest last (by simp) kept accepted
          have same : name = last := Std.LawfulEqOrd.eq_of_compare
            (Std.OrientedCmp.isLE_antisymm (below_last name member) above)
          rw [same, accepted] at found
          cases found
          rfl
      · have other_owner : (match accepted? files location last with
            | some (owner, record) =>
              if user = owner then some record
              else (names.foldl (takeIn files location) table).get? user
            | none => (names.foldl (takeIn files location) table).get? user) =
            (names.foldl (takeIn files location) table).get? user := by
          split
          next owner kept found =>
            rw [if_neg]
            rintro rfl
            exact owned ⟨kept, found⟩
          next => rfl
        rw [other_owner, ih before]
        constructor
        · rintro ⟨name, member, found, latest⟩
          refine ⟨name, by simp [member], found, ?_⟩
          intro other member kept accepted
          rcases List.mem_append.1 member with earlier | same
          · exact latest other earlier kept accepted
          · rw [List.mem_singleton.1 same] at accepted
            exact absurd ⟨kept, accepted⟩ owned
        · rintro ⟨name, member, found, latest⟩
          rcases List.mem_append.1 member with earlier | same
          · exact ⟨name, earlier, found, fun other member => latest other (by simp [member])⟩
          · rw [List.mem_singleton.1 same] at found
            exact absurd ⟨record, found⟩ owned

theorem get?_takeInAll_ne_none {names : List Bytes} {name : Bytes} {user : UserId}
    {record : StagedRecord} (member : name ∈ names)
    (accepted : accepted? files location name = some (user, record)) (table : StagedTable) :
    (names.foldl (takeIn files location) table).get? user ≠ none := by
  induction names using List.reverseRecOn with
  | nil => cases member
  | append_singleton names last ih =>
      rw [List.foldl_append, List.foldl_cons, List.foldl_nil, get?_takeIn]
      rcases List.mem_append.1 member with earlier | same
      · split
        next =>
          split
          next => simp
          next => exact ih earlier
        next => exact ih earlier
      · rw [← List.mem_singleton.1 same, accepted]
        simp

theorem store_takeInAll (names : List Bytes) (table : StagedTable) :
    (names.foldl (takeIn files location) table).store = table.store := by
  induction names generalizing table with
  | nil => rfl
  | cons name names ih => exact (ih _).trans (store_takeIn files location table name)

theorem retention_takeInAll (names : List Bytes) (table : StagedTable) :
    (names.foldl (takeIn files location) table).retention = table.retention := by
  induction names generalizing table with
  | nil => rfl
  | cons name names ih => exact (ih _).trans (retention_takeIn files location table name)

theorem exists_of_accepted? {name : Bytes} {accepted : UserId × StagedRecord}
    (found : accepted? files location name = some accepted) :
    files.node? (location ++ [name]) ≠ none := by
  intro absent
  rw [accepted?_of_no_file (by simp [absent])] at found
  cases found

theorem yields_load (finds : files.Finds store.directory location)
    (addressable : ∀ name, files.node? (location ++ [name]) ≠ none → Addressable store name)
    (retention : Span) :
    ∃ table left, Yields Workspace.files (load store retention) files table left ∧
      table.store = store ∧ table.retention = retention ∧ Loaded files location table left := by
  obtain ⟨names, listed, members, _, sorted⟩ := StageStore.yields_entries finds
  have done := yields_loadEntries finds (fun name member => addressable name ((members name).1 member))
    ⟨store, retention, ∅⟩
  refine ⟨_, _, Yields.bind listed done, ?_, ?_, ?_⟩
  · exact store_takeInAll names _
  · exact retention_takeInAll names _
  · refine ⟨?_, ?_, keeps_discardAll names, ?_, ?_, ?_⟩
    · intro user record
      rw [get?_takeInAll sorted fun user => rfl]
      constructor
      · rintro ⟨name, _, accepted, last⟩
        exact ⟨name, accepted, fun other kept found =>
          last other ((members other).2 (exists_of_accepted? found)) kept found⟩
      · rintro ⟨name, accepted, last⟩
        exact ⟨name, (members name).2 (exists_of_accepted? accepted), accepted,
          fun other _ kept found => last other kept found⟩
    · intro name user record accepted
      exact get?_takeInAll_ne_none ((members name).2 (exists_of_accepted? accepted)) accepted _
    · intro name refused
      refine node?_discardAll_of_rejects ?_ refused
      obtain ⟨_, content, there⟩ := file_of_rejects files location name refused
      exact (members name).2 (by simp [there])
    · intro other kept
      exact node?_discardAll_of_kept names kept
    · intro kept
      exact discardAll_of_not_rejects kept names

end Directory

end LocaleStaging.StagedTable
