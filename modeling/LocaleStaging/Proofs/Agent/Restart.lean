import LocaleStaging.Device
import LocaleStaging.Proofs.Agent.Kept

namespace LocaleStaging

inductive Occurrence (η : Type) where
  | request (made : Request)
  | restart
  | elsewhere (change : η → η)

def Occurrence.isRestart {η : Type} : Occurrence η → Bool
  | restart => true
  | _ => false

namespace Agent

variable {η φ : Type} [Host η] [FileSystem φ]

/-- Starts an agent anew on a directory. If that cannot be opened, the old agent stays. -/
def restart (directory : Path) (retention : Span) : StateM (Agent η φ) Unit := fun agent =>
  match StagedTable.openAt directory retention agent.workspace with
  | (.ok table, workspace) => ((), { agent with table, workspace })
  | (.error _, workspace) => ((), { agent with workspace })

def live (directory : Path) (retention : Span) :
    List (Occurrence η) → StateM (Agent η φ) (List (Except Panic Reply))
  | [] => return []
  | .request made :: rest => do
    let reply ← (perform made).run
    return reply :: (← live directory retention rest)
  | .restart :: rest => do
    restart directory retention
    live directory retention rest
  | .elsewhere change :: rest => do
    modify fun agent => { agent with host := change agent.host }
    live directory retention rest

/-! ## What is on the disk -/

open LocaleStaging.StageStore (stageLocation)
open LocaleStaging.StagedTable (InStep)

structure WrittenThrough (table : StagedTable) (files : FileTree) (location : Location) : Prop where
  held : ∀ user record, table.get? user = some record ↔
    ∃ content, files.readFile (table.store.pathFor user) = .ok content ∧
      Document.decode content = .ok record.document
  waiting : ∀ user record, table.get? user = some record → record.pending.isEmpty = false
  nothing_else : ∀ other, location <+: other → other ≠ location → files.node? other ≠ none →
    ∃ user record, other = stageLocation location user ∧ table.get? user = some record

theorem writtenThrough_of_inStep {table : StagedTable} {files : FileTree} {location : Location}
    (inStep : InStep table files location) : WrittenThrough table files location := by
  refine ⟨inStep.get?_iff, ?_, ?_⟩
  · intro user record found
    exact (inStep.lasting user record found).listed
  · intro other inside deeper there
    obtain ⟨user, rfl⟩ := inStep.alone other inside deeper there
    rw [inStep.stored user] at there
    cases found : table.get? user with
    | none => simp [found] at there
    | some record => exact ⟨user, record, rfl, found⟩

theorem inStep_empty {directory : Path} {files : FileTree} {location : Location}
    (finds : files.Finds directory location)
    (room : directory.octets.length + 34 ≤ FileTree.pathLimit)
    (bare : ∀ other, location <+: other → other ≠ location → files.node? other = none)
    (retention : Span) : InStep ⟨⟨directory⟩, retention, ∅⟩ files location := by
  refine ⟨⟨finds, room⟩, ?_, ?_, ?_⟩
  · intro user record found
    cases found
  · intro user
    exact bare _ (List.prefix_append location _) (by simp [stageLocation])
  · intro other inside deeper there
    exact absurd (bare other inside deeper) there

/-! ## Runs with and without restarts -/

section Runs
variable {η : Type} [Host η] {directory : Path} {retention : Span} {location : Location}

omit [Host η] in
theorem yields_restart {before : Standing η FileTree}
    (kept : Kept directory retention location before) :
    Yields standing (restart directory retention) before () before := by
  rintro agent rfl
  have opened := StagedTable.openAt_of_inStep kept.inStep
  rw [kept.store, kept.retention] at opened
  obtain ⟨answer, left⟩ := opened agent.workspace rfl
  have given : (StagedTable.openAt directory retention agent.workspace).1 = .ok agent.table := answer
  have same : (StagedTable.openAt directory retention agent.workspace).2.files =
      agent.workspace.files := left
  refine ⟨rfl, ?_⟩
  unfold restart
  split
  next table workspace done =>
    rw [done] at given same
    cases given
    exact congrArg (Standing.mk agent.host agent.table) same
  next fault workspace done =>
    rw [done] at given
    cases given

theorem yields_live (occurrences : List (Occurrence η)) {before : Standing η FileTree}
    (kept : Kept directory retention location before) :
    ∃ replies after, Kept directory retention location after ∧
      Yields standing (live directory retention occurrences) before replies after ∧
      Yields standing (live directory retention (occurrences.filter (!·.isRestart))) before replies
        after := by
  induction occurrences generalizing before with
  | nil => exact ⟨[], before, kept, Yields.pure _ _, Yields.pure _ _⟩
  | cons occurrence occurrences ih =>
      cases occurrence with
      | request made =>
          obtain ⟨_, _, reply, middle, went⟩ := exists_went made before
          obtain ⟨replies, after, kept, whole, plain⟩ := ih (went.kept kept)
          exact ⟨reply :: replies, after, kept,
            Yields.bind went.gives (Yields.bind whole (Yields.pure _ _)),
            Yields.bind went.gives (Yields.bind plain (Yields.pure _ _))⟩
      | restart =>
          -- A restart gives back the standing it met, so both runs go on from the same one.
          obtain ⟨replies, after, kept_after, whole, plain⟩ := ih kept
          exact ⟨replies, after, kept_after, Yields.bind (yields_restart kept) whole, plain⟩
      | elsewhere change =>
          obtain ⟨replies, after, kept, whole, plain⟩ := ih (kept.with_host (change before.host))
          have changed : Yields standing
              (modify fun agent : Agent η FileTree => { agent with host := change agent.host })
              before () { before with host := change before.host } := by
            rintro agent rfl
            exact ⟨rfl, rfl⟩
          exact ⟨replies, after, kept, Yields.bind changed whole, Yields.bind changed plain⟩

omit [Host η] in
theorem exists_opened (retention : Span) {files : FileTree}
    (finds : files.Finds directory location)
    (room : directory.octets.length + 34 ≤ FileTree.pathLimit)
    (bare : ∀ other, location <+: other → other ≠ location → files.node? other = none)
    (host : η) (output : List Emission) :
    ∃ opened : Agent η FileTree,
      StagedTable.openAt directory retention ⟨files, output⟩ = (.ok opened.table, opened.workspace) ∧
      opened.standing = ⟨host, ⟨⟨directory⟩, retention, ∅⟩, files⟩ ∧
      Kept directory retention location opened.standing := by
  have inStep := inStep_empty finds room bare retention
  obtain ⟨answer, left⟩ := StagedTable.openAt_of_inStep inStep ⟨files, output⟩ rfl
  obtain ⟨opened, started, stands⟩ : ∃ opened : Agent η FileTree,
      StagedTable.openAt directory retention ⟨files, output⟩ = (.ok opened.table, opened.workspace) ∧
        opened.standing = ⟨host, ⟨⟨directory⟩, retention, ∅⟩, files⟩ :=
    ⟨⟨host, _, _⟩, Prod.ext answer rfl, congrArg (Standing.mk host _) left⟩
  refine ⟨opened, started, stands, ?_⟩
  rw [stands]
  exact ⟨rfl, rfl, inStep⟩

/-- An agent that starts on an empty directory, with a path that leaves room for the names of stage
files, has each record on the disk whatever happens, and nothing else is there. Started anew on the
directory, it has the same table. Restarts in between change no reply, no table, no file and nothing
of the device. -/
theorem restart_transparent (directory : Path) (retention : Span) {files : FileTree}
    {location : Location} (finds : files.Finds directory location)
    (room : directory.octets.length + 34 ≤ FileTree.pathLimit)
    (bare : ∀ other, location <+: other → other ≠ location → files.node? other = none)
    (host : η) (output : List Emission) :
    ∃ opened : Agent η FileTree,
      StagedTable.openAt directory retention ⟨files, output⟩ = (.ok opened.table, opened.workspace) ∧
      opened.host = host ∧ opened.table.records = ∅ ∧ opened.workspace.files = files ∧
      ∀ occurrences : List (Occurrence η),
        let ended := live directory retention occurrences opened
        let plain := live directory retention (occurrences.filter (!·.isRestart)) opened
        ended.2.table.store = ⟨directory⟩ ∧
        WrittenThrough ended.2.table ended.2.workspace.files location ∧
        (∃ output, StagedTable.openAt directory retention ended.2.workspace =
          (.ok ended.2.table, ⟨ended.2.workspace.files, output⟩)) ∧
        ended.1 = plain.1 ∧ ended.2.host = plain.2.host ∧ ended.2.table = plain.2.table ∧
        ended.2.workspace.files = plain.2.workspace.files := by
  obtain ⟨opened, started, stands, kept⟩ := exists_opened retention finds room bare host output
  refine ⟨opened, started, congrArg Standing.host stands,
    congrArg (StagedTable.records ∘ Standing.table) stands, congrArg Standing.files stands, ?_⟩
  intro occurrences ended plain
  obtain ⟨replies, after, kept_after, whole, without⟩ := yields_live occurrences kept
  obtain ⟨given, ends⟩ := whole opened rfl
  obtain ⟨plain_given, plain_ends⟩ := without opened rfl
  have same : ended.2.standing = plain.2.standing := ends.trans plain_ends.symm
  have kept_ended : Kept directory retention location ended.2.standing := by
    rw [ends]
    exact kept_after
  refine ⟨kept_ended.store, writtenThrough_of_inStep kept_ended.inStep, ?_,
    given.trans plain_given.symm, congrArg Standing.host same, congrArg Standing.table same,
    congrArg Standing.files same⟩
  have again := StagedTable.openAt_of_inStep kept_ended.inStep
  rw [kept_ended.store, kept_ended.retention] at again
  obtain ⟨table, unchanged⟩ := again ended.2.workspace rfl
  refine ⟨(StagedTable.openAt directory retention ended.2.workspace).2.output, Prod.ext table ?_⟩
  exact congrArg (Workspace.mk · _) unchanged

end Runs

def restartWhileWaiting : List (Occurrence Device) :=
  [.request (.restore (some (Document.encode ⟨none, SortedMap.ofList [("app", "en-US")]⟩)) 7),
    .restart, .elsewhere (·.install "app" 7), .request (.event (.packageAdded "app" 700001))]

theorem restart_transparent_whileWaiting :
    ∃ opened : Agent Device FileTree,
      StagedTable.openAt (Path.ofString "stage") ⟨259200, 0⟩ ⟨StageStore.emptyStage, []⟩ =
        (.ok opened.table, opened.workspace) ∧
      let ended := live (Path.ofString "stage") ⟨259200, 0⟩ restartWhileWaiting opened
      let plain := live (Path.ofString "stage") ⟨259200, 0⟩
        (restartWhileWaiting.filter (!·.isRestart)) opened
      WrittenThrough ended.2.table ended.2.workspace.files [Utf8.encode "stage"] ∧
        ended.2.host = plain.2.host := by
  obtain ⟨opened, started, _, _, _, all⟩ :=
    restart_transparent (Path.ofString "stage") ⟨259200, 0⟩ StageStore.finds_emptyStage (by decide)
      StageStore.bare_emptyStage (Device.new 1700000000000) []
  obtain ⟨_, written, _, _, host, _⟩ := all restartWhileWaiting
  exact ⟨opened, started, written, host⟩

end Agent
end LocaleStaging
