import LocaleStaging.Command.Run
import LocaleStaging.Proofs.Staging.Table
import Mathlib.Data.List.Pairwise

namespace LocaleStaging

open LocaleStaging.StagedTable (accepted? Addressable takeIn)

def Emission.line? : Emission → Option String
  | line text => some text
  | notice _ => none

def Emission.doomed? : Emission → Option Path
  | notice (.discardedOnLoad path _) => some path
  | _ => none

namespace Work

variable {φ α β : Type}

def Prints (work : Work φ α) (files : φ) (answer : α) (lines : List String) (doomed : List Path) :
    Prop :=
  ∀ output, ∃ added, work ⟨files, output⟩ = (answer, ⟨files, output ++ added⟩) ∧
    added.filterMap Emission.line? = lines ∧ added.filterMap Emission.doomed? = doomed

def Silent (work : Work φ α) : Prop :=
  ∀ workspace, ∃ added, (work workspace).2.output = workspace.output ++ added ∧
    added.filterMap Emission.line? = [] ∧ added.filterMap Emission.doomed? = []

namespace Silent

theorem of_same {work : Work φ α}
    (same : ∀ workspace, (work workspace).2.output = workspace.output) : Silent work :=
  fun workspace => ⟨[], (same workspace).trans (List.append_nil _).symm, rfl, rfl⟩

theorem pure (value : α) : Silent (Pure.pure value : Work φ α) := of_same fun _ => rfl

theorem bind {work : Work φ α} {next : α → Work φ β} (first : Silent work)
    (later : ∀ value, Silent (next value)) : Silent (work >>= next) := by
  intro workspace
  obtain ⟨early, output, no_lines, no_entries⟩ := first workspace
  obtain ⟨late, after, none_later, none_doomed⟩ := later (work workspace).1 (work workspace).2
  refine ⟨early ++ late, ?_, ?_, ?_⟩
  · rw [← List.append_assoc, ← output]
    exact after
  · rw [List.filterMap_append, no_lines, none_later]
    rfl
  · rw [List.filterMap_append, no_entries, none_doomed]
    rfl

theorem note {notice : Notice} (spares : (Emission.notice notice).doomed? = none) :
    Silent (Work.note notice : Work φ Unit) :=
  fun _ => ⟨[.notice notice], rfl, rfl, by rw [List.filterMap_cons, spares]; rfl⟩

theorem prints {work : Work φ α} (silent : Silent work) {files : φ} {answer : α}
    (yields : Yields Workspace.files work files answer files) : Prints work files answer [] [] := by
  intro output
  obtain ⟨added, put, no_lines, no_entries⟩ := silent ⟨files, output⟩
  obtain ⟨given, left⟩ := yields ⟨files, output⟩ rfl
  exact ⟨added, Prod.ext given (congrArg₂ Workspace.mk left put), no_lines, no_entries⟩

end Silent

namespace Prints

variable {files : φ} {answer : α}

theorem pure (value : α) : Prints (Pure.pure value : Work φ α) files value [] [] :=
  (Silent.pure value).prints (Yields.pure value files)

theorem bind {work : Work φ α} {next : α → Work φ β} {reply : β} {lines more : List String}
    {doomed others : List Path} (first : Prints work files answer lines doomed)
    (later : Prints (next answer) files reply more others) :
    Prints (work >>= next) files reply (lines ++ more) (doomed ++ others) := by
  intro output
  obtain ⟨early, ran, shown, reported⟩ := first output
  obtain ⟨late, ended, shown_later, reported_later⟩ := later (output ++ early)
  refine ⟨early ++ late, ?_, ?_, ?_⟩
  · have run : (work >>= next) ⟨files, output⟩ =
        next (work ⟨files, output⟩).1 (work ⟨files, output⟩).2 := rfl
    rw [run, ran, ended, List.append_assoc]
  · rw [List.filterMap_append, shown, shown_later]
  · rw [List.filterMap_append, reported, reported_later]

theorem after_quiet {work : Work φ α} {next : α → Work φ β} {reply : β} {lines : List String}
    {doomed : List Path} (first : Prints work files answer [] [])
    (later : Prints (next answer) files reply lines doomed) :
    Prints (work >>= next) files reply lines doomed :=
  bind first later

theorem note (notice : Notice) :
    Prints (Work.note notice) files () [] (Emission.notice notice).doomed?.toList := by
  intro output
  refine ⟨[.notice notice], rfl, rfl, ?_⟩
  cases doomed : (Emission.notice notice).doomed? <;> simp [doomed]

theorem printAll (texts : List String) : Prints (Work.printAll texts) files () texts [] := by
  intro output
  refine ⟨texts.map .line, rfl, ?_, ?_⟩
  · rw [List.filterMap_map]
    exact List.filterMap_some
  · rw [List.filterMap_map]
    exact List.filterMap_none texts

end Prints
end Work

open Work (Prints Silent)

/-! ## One entry -/

section Entry
variable {φ : Type} [FileSystem φ]

theorem silent_readRecord (entry : StageEntry) :
    Silent (entry.readRecord : Work φ (Option StagedRecord)) := by
  have reading : Silent (StageStore.readEntry entry : Work φ (Except StoreError (Option Bytes))) := by
    apply Silent.bind (Silent.of_same fun _ => rfl)
    intro answer
    cases answer with
    | ok content => exact Silent.pure _
    | error cause => cases cause <;> exact Silent.pure _
  apply Silent.bind reading
  intro answer
  cases answer with
  | error error => exact Silent.bind (Silent.note rfl) fun _ => Silent.pure _
  | ok found =>
      cases found with
      | none => exact Silent.pure _
      | some content =>
          cases decoded : Document.decode content with
          | error fault =>
              simp only [decoded]
              exact Silent.bind (Silent.note rfl) fun _ => Silent.pure _
          | ok document =>
              simp only [decoded]
              exact Silent.pure _

theorem silent_inspect (entry : StageEntry) :
    Silent (entry.inspect : Work φ (Except Rejection (UserId × StagedRecord))) := by
  unfold StageEntry.inspect
  cases entry.user with
  | error fault => exact Silent.pure _
  | ok user =>
      apply Silent.bind (silent_readRecord entry)
      intro found
      cases found with
      | none => exact Silent.pure _
      | some record =>
          cases bare : record.pending.isEmpty with
          | true =>
              simp only [bare, if_true]
              exact Silent.pure _
          | false =>
              simp only [bare, Bool.false_eq_true, if_false]
              exact Silent.pure _

end Entry

namespace Command

section Directory
variable {store : StageStore} {files : FileTree} {location : Location}

def allLines (shown : List (UserId × StagedRecord)) : List String :=
  shown.flatMap fun found => recordLines found.1 found.2

def refused (files : FileTree) (location : Location) (names : List Bytes) : List Bytes :=
  names.filter fun name => (accepted? files location name).isNone

theorem prints_showEntry {name : Bytes}
    (leads : FileTree.Leads files (store.directory.join name) location name) :
    ∃ shown, Prints (showEntry none (store.entry name)) files shown
      (allLines (accepted? files location name).toList)
      ((refused files location [name]).map store.directory.join) := by
  obtain ⟨answer, yields, same⟩ := StagedTable.yields_inspect leads
  have inspected := (silent_inspect (store.entry name)).prints yields
  rw [refused, List.filter_singleton, ← same]
  cases answer with
  | error reason =>
      refine ⟨false, Prints.after_quiet inspected ?_⟩
      exact Prints.bind (Prints.note _) (Prints.pure false)
  | ok found =>
      have printed : Prints (do
          Work.printAll (recordLines found.1 found.2)
          return true : Work FileTree Bool) files true (recordLines found.1 found.2 ++ []) [] :=
        Prints.bind (Prints.printAll _) (Prints.pure true)
      have lines : allLines [found] = recordLines found.1 found.2 ++ [] := rfl
      rw [Except.toOption, Option.toList_some, lines]
      exact ⟨true, Prints.after_quiet inspected printed⟩

theorem prints_showEntries (finds : files.Finds store.directory location) {names : List Bytes}
    (addressable : ∀ name ∈ names, Addressable store name) :
    ∃ shown, Prints (showEntries none (names.map store.entry)) files shown
      (allLines (names.filterMap (accepted? files location)))
      ((refused files location names).map store.directory.join) := by
  induction names with
  | nil => exact ⟨false, Prints.pure false⟩
  | cons name names ih =>
      obtain ⟨isFileName, fits⟩ := addressable name List.mem_cons_self
      obtain ⟨first, one⟩ := prints_showEntry (FileTree.leads_join finds isFileName fits)
      obtain ⟨others, rest⟩ := ih fun other member => addressable other (List.mem_cons_of_mem _ member)
      have lines : allLines ((name :: names).filterMap (accepted? files location)) =
          allLines (accepted? files location name).toList ++
            (allLines (names.filterMap (accepted? files location)) ++ []) := by
        cases found : accepted? files location name <;> simp [allLines, found]
      have doomed : (refused files location (name :: names)).map store.directory.join =
          (refused files location [name]).map store.directory.join ++
            ((refused files location names).map store.directory.join ++ []) := by
        rw [List.append_nil, ← List.map_append, refused, refused, refused, ← List.filter_append]
        rfl
      refine ⟨first || others, ?_⟩
      rw [lines, doomed]
      exact Prints.bind one (Prints.bind rest (Prints.pure (first || others)))

theorem prints_runList {directory : Path} (finds : files.Finds directory location)
    {names : List Bytes} (listed : Yields Workspace.files (StageStore.entries ⟨directory⟩) files
      (.ok (names.map (StageStore.entry ⟨directory⟩))) files)
    (addressable : ∀ name ∈ names, Addressable ⟨directory⟩ name) :
    Prints (runList directory none) files (.ok ())
      (allLines (names.filterMap (accepted? files location)))
      ((refused files location names).map directory.join) := by
  have opening : Silent (StageStore.openAt directory : Work FileTree (Except StoreError StageStore)) := by
    apply Silent.bind (Silent.of_same fun _ => rfl)
    intro answer
    cases answer with
    | ok done => exact Silent.pure _
    | error cause => exact Silent.pure _
  have listing : Silent (StageStore.entries ⟨directory⟩ :
      Work FileTree (Except StoreError (List StageEntry))) := by
    apply Silent.bind (Silent.of_same fun _ => rfl)
    intro answer
    cases answer with
    | ok names => exact Silent.pure _
    | error cause => cases cause <;> exact Silent.pure _
  have opened := opening.prints (StageStore.yields_openAt finds)
  have entries := listing.prints listed
  obtain ⟨shown, showing⟩ := prints_showEntries finds addressable
  have ended : Prints (do
      if !shown then Work.note (.noStagedData directory)
      return .ok () : Work FileTree (Except Failure Unit)) files (.ok ()) [] [] := by
    cases shown with
    | true => exact Prints.pure _
    | false => exact Prints.bind (Prints.note _) (Prints.pure _)
  rw [← List.append_nil (allLines _), ← List.append_nil (List.map _ _)]
  exact Prints.after_quiet opened (Prints.after_quiet entries (Prints.bind showing ended))

/-! ## Listing and loading -/

theorem foldl_takeIn (names : List Bytes) (table : StagedTable) :
    (names.foldl (takeIn files location) table).records =
      (names.filterMap (accepted? files location)).foldl
        (fun records found => records.insert found.1 found.2) table.records := by
  induction names generalizing table with
  | nil => rfl
  | cons name names ih =>
      rw [List.foldl_cons, ih, takeIn]
      cases found : accepted? files location name with
      | none => rw [List.filterMap_cons, found]
      | some accepted =>
          rw [List.filterMap_cons, found]
          rfl

theorem nodup_users_iff {names : List Bytes} (distinct : names.Nodup)
    (members : ∀ name, name ∈ names ↔ files.node? (location ++ [name]) ≠ none) :
    ((names.filterMap (accepted? files location)).map Prod.fst).Nodup ↔
      ∀ first second user earlier later, accepted? files location first = some (user, earlier) →
        accepted? files location second = some (user, later) → first = second := by
  rw [List.Nodup, List.pairwise_map, List.pairwise_filterMap]
  constructor
  · intro apart first second user earlier later one two
    by_contra different
    have symmetric : Std.Symm fun left right => ∀ found, accepted? files location left = some found →
        ∀ other, accepted? files location right = some other → found.1 ≠ other.1 :=
      ⟨fun left right unequal found one other two same => unequal other two found one same.symm⟩
    exact apart.forall ((members first).2 (StagedTable.exists_of_accepted? one))
      ((members second).2 (StagedTable.exists_of_accepted? two)) different _ one _ two rfl
  · intro single
    apply distinct.imp
    intro first second different found one other two same
    obtain ⟨user, earlier⟩ := found
    obtain ⟨owner, later⟩ := other
    obtain rfl : user = owner := same
    exact different (single first second user earlier later one two)

theorem join_mem_doomed_iff {directory : Path} {names : List Bytes}
    (addressable : ∀ name ∈ names, Addressable ⟨directory⟩ name) {name : Bytes}
    (member : name ∈ names) :
    directory.join name ∈ (refused files location names).map directory.join ↔
      accepted? files location name = none := by
  have isName (other : Bytes) (listed : other ∈ names) : Path.IsName other :=
    (addressable other listed).isFileName.toIsName
  rw [refused, List.mem_map]
  constructor
  · rintro ⟨other, listed, same⟩
    obtain ⟨among, bare⟩ := List.mem_filter.1 listed
    have names_eq := congrArg Path.names same
    rw [Path.names_join directory (isName other among),
      Path.names_join directory (isName name member),
      List.append_cancel_left_eq, List.singleton_inj] at names_eq
    rw [← names_eq]
    exact Option.isNone_iff_eq_none.1 bare
  · intro bare
    exact ⟨name, List.mem_filter.2 ⟨member, Option.isNone_iff_eq_none.2 bare⟩, rfl⟩

theorem removed_iff {table : StagedTable} {left : FileTree}
    (loaded : StagedTable.Loaded files location table left) {name : Bytes}
    (there : files.node? (location ++ [name]) ≠ none) :
    left.node? (location ++ [name]) = none ↔
      accepted? files location name = none ∧ files.node? (location ++ [name]) ≠ some .directory := by
  have refuses : StagedTable.rejects files location name = true ↔
      accepted? files location name = none ∧
        files.node? (location ++ [name]) ≠ some .directory := by
    unfold StagedTable.rejects
    cases found : files.node? (location ++ [name]) with
    | none => exact absurd found there
    | some node => cases node <;> simp
  rw [← refuses]
  constructor
  · intro gone
    by_contra stays
    have kept := loaded.kept (location ++ [name]) fun other refused same => by
      obtain rfl : name = other := by simpa using same
      exact stays refused
    rw [kept] at gone
    exact there gone
  · exact loaded.gone name

/-- A listing changes no file. Loading puts the records that it shows into the table, one after the other,
so what it shows is what the table holds just if no two files of one user are accepted. What loading takes
away are the entries that the listing reports, but for directories. -/
theorem list_eq_load_iff (directory : Path) (retention : Span)
    (finds : files.Finds directory location) (addressable : ∀ name,
      files.node? (location ++ [name]) ≠ none → Addressable ⟨directory⟩ name) :
    ∃ names table left, names.Nodup ∧
      (∀ name, name ∈ names ↔ files.node? (location ++ [name]) ≠ none) ∧
      Yields Workspace.files (StagedTable.openAt directory retention) files (.ok table) left ∧
      let shown := names.filterMap (accepted? files location)
      let doomed := (refused files location names).map directory.join
      Prints (runList directory none) files (.ok ()) (allLines shown) doomed ∧
      table.records = SortedMap.ofList shown ∧
      (shown.Perm table.records.toList ↔ ∀ first second user earlier later,
        accepted? files location first = some (user, earlier) →
          accepted? files location second = some (user, later) → first = second) ∧
      ∀ name ∈ names, left.node? (location ++ [name]) = none ↔
        directory.join name ∈ doomed ∧ files.node? (location ++ [name]) ≠ some .directory := by
  obtain ⟨names, listed, members, distinct, _⟩ :=
    @StageStore.yields_entries ⟨directory⟩ files location finds
  have addressed (name : Bytes) (member : name ∈ names) : Addressable ⟨directory⟩ name :=
    addressable name ((members name).1 member)
  obtain ⟨table, left, loading, _, _, loaded⟩ := StagedTable.yields_load finds addressable retention
  have opening : Yields Workspace.files (StagedTable.openAt directory retention) files (.ok table)
      left :=
    Yields.bind (StageStore.yields_openAt finds) (Yields.bind loading (Yields.pure _ left))
  have entered : table.records = SortedMap.ofList (names.filterMap (accepted? files location)) := by
    have entering : Yields Workspace.files (StagedTable.load ⟨directory⟩ retention) files
        (names.foldl (takeIn files location) ⟨⟨directory⟩, retention, ∅⟩)
        (names.foldl (StagedTable.discard location) files) :=
      Yields.bind listed (StagedTable.yields_loadEntries finds addressed _)
    rw [(Work.yields_unique loading entering).1, foldl_takeIn]
    rfl
  refine ⟨names, table, left, distinct, members, opening, prints_runList finds listed addressed,
    entered, ?_, ?_⟩
  · rw [entered, SortedMap.ofList_perm_iff]
    exact nodup_users_iff distinct members
  · intro name member
    rw [join_mem_doomed_iff addressed member]
    exact removed_iff loaded ((members name).1 member)

end Directory

open StagedTable (stageNode)

def mixedStage : FileTree :=
  ((StageStore.emptyStage.put [Utf8.encode "stage", Utf8.encode "staged_locales_007.xml"]
    (stageNode ⟨6, SortedMap.ofList [("a", "b")]⟩)).put
      [Utf8.encode "stage", Utf8.encode "staged_locales_7.xml"]
        (stageNode ⟨8, SortedMap.ofList [("c", "d")]⟩)).put
          [Utf8.encode "stage", Utf8.encode "old"] .directory

theorem node?_mixedStage (name : Bytes) :
    mixedStage.node? ([Utf8.encode "stage"] ++ [name]) =
      if name = Utf8.encode "old" then some .directory
      else if name = Utf8.encode "staged_locales_7.xml" then
        some (stageNode ⟨8, SortedMap.ofList [("c", "d")]⟩)
      else if name = Utf8.encode "staged_locales_007.xml" then
        some (stageNode ⟨6, SortedMap.ofList [("a", "b")]⟩)
      else none := by
  have bare := StageStore.bare_emptyStage ([Utf8.encode "stage"] ++ [name])
    (List.prefix_append _ _) (by simp)
  rw [mixedStage, FileTree.node?_put _ (by simp), FileTree.node?_put _ (by simp),
    FileTree.node?_put _ (by simp), bare]
  simp

theorem finds_mixedStage : mixedStage.Finds (Path.ofString "stage") [Utf8.encode "stage"] :=
  ⟨by decide +kernel, by decide +kernel⟩

theorem addressable_mixedStage (name : Bytes)
    (there : mixedStage.node? ([Utf8.encode "stage"] ++ [name]) ≠ none) :
    Addressable ⟨Path.ofString "stage"⟩ name := by
  have listed : name = Utf8.encode "old" ∨ name = Utf8.encode "staged_locales_7.xml" ∨
      name = Utf8.encode "staged_locales_007.xml" := by
    rw [node?_mixedStage] at there
    grind
  rcases listed with rfl | rfl | rfl <;>
    exact ⟨⟨⟨by decide, by decide, by decide, by decide⟩, by decide, by decide⟩, by decide⟩

theorem list_eq_load_iff_mixedStage :
    ∃ names table left,
      Yields Workspace.files (StagedTable.openAt (Path.ofString "stage") ⟨0, 0⟩) mixedStage
        (.ok table) left ∧
      let shown := names.filterMap (accepted? mixedStage [Utf8.encode "stage"])
      let doomed := (refused mixedStage [Utf8.encode "stage"] names).map (Path.ofString "stage").join
      Prints (runList (Path.ofString "stage") none) mixedStage (.ok ()) (allLines shown) doomed ∧
      ¬shown.Perm table.records.toList ∧
      (Path.ofString "stage").join (Utf8.encode "old") ∈ doomed ∧
      left.node? ([Utf8.encode "stage"] ++ [Utf8.encode "old"]) ≠ none := by
  obtain ⟨names, table, left, _, members, loading, printed, _, agree, removed⟩ :=
    list_eq_load_iff (Path.ofString "stage") ⟨0, 0⟩ finds_mixedStage addressable_mixedStage
  have there : mixedStage.node? ([Utf8.encode "stage"] ++ [Utf8.encode "old"]) =
      some .directory := (node?_mixedStage _).trans (if_pos rfl)
  have member : Utf8.encode "old" ∈ names := by
    rw [members, there]
    exact Option.some_ne_none _
  have bare : accepted? mixedStage [Utf8.encode "stage"] (Utf8.encode "old") = none := by
    decide +kernel
  refine ⟨names, table, left, loading, printed, ?_, ?_, ?_⟩
  · intro same
    have first : accepted? mixedStage [Utf8.encode "stage"] (Utf8.encode "staged_locales_007.xml") =
        some (7, ⟨6, SortedMap.ofList [("a", "b")]⟩) := by decide +kernel
    have second : accepted? mixedStage [Utf8.encode "stage"] (Utf8.encode "staged_locales_7.xml") =
        some (7, ⟨8, SortedMap.ofList [("c", "d")]⟩) := by decide +kernel
    exact absurd (agree.1 same _ _ 7 _ _ first second) (by decide)
  · apply List.mem_map.2
    exact ⟨_, List.mem_filter.2 ⟨member, Option.isNone_iff_eq_none.2 bare⟩, rfl⟩
  · intro gone
    exact ((removed _ member).1 gone).2 there

end Command
end LocaleStaging
