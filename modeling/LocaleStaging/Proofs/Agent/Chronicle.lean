import LocaleStaging.Proofs.Agent.Provenance
import LocaleStaging.Proofs.Agent.Restart

namespace LocaleStaging

inductive Follows : StagedTable → List Entry → StagedTable → Prop where
  | done (table : StagedTable) : Follows table [] table
  | step {table middle after : StagedTable} {entry : Entry} {entries : List Entry}
      (effect : Effect table entry middle) (rest : Follows middle entries after) :
      Follows table (entry :: entries) after

theorem timesSet_cons (package : String) (user : UserId) (entry : Entry) (entries : List Entry) :
    timesSet package user (entry :: entries) =
      countSettings package user entry.settings + timesSet package user entries := by
  rw [timesSet, List.flatMap_cons, countSettings, List.countP_append]
  rfl

theorem countP_cons_toNat {α : Type} (test : α → Bool) (head : α) (tail : List α) :
    (head :: tail).countP test = (test head).toNat + tail.countP test := by
  rw [List.countP_cons, Nat.add_comm]
  cases test head <;> rfl

theorem countP_interrupts_of_completed {entries : List Entry}
    (completed : ∀ entry ∈ entries, entry.completed) (package : String) (user : UserId) :
    entries.countP (Entry.interrupts package user) = 0 := by
  rw [List.countP_eq_zero]
  intro entry listed
  unfold Entry.interrupts
  split
  next => simp [completed entry listed]
  next => simp

namespace Follows
variable {table after : StagedTable} {entries : List Entry}

theorem provenance (follows : Follows table entries after) {past : List Entry}
    (known : Provenance past table) : Provenance (past ++ entries) after := by
  induction follows generalizing past with
  | done table => simpa using known
  | step effect rest ih =>
      have later := ih (effect.provenance known)
      rwa [List.append_assoc, List.singleton_append] at later

theorem sourced (follows : Follows table entries after) {past : List Entry}
    (known : Provenance past table) {earlier later : List Entry} {entry : Entry}
    (split : entries = earlier ++ entry :: later) : Sourced (past ++ earlier) entry := by
  induction follows generalizing past earlier with
  | done table => simp at split
  | step effect rest ih =>
      cases earlier with
      | nil =>
          cases split
          rw [List.append_nil]
          exact effect.sourced known
      | cons first earlier =>
          cases split
          have found := ih (effect.provenance known) rfl
          rwa [List.append_assoc, List.singleton_append] at found

theorem pays (follows : Follows table entries after) (package : String) (user : UserId) :
    timesSet package user entries + after.due package user ≤
      table.due package user + entries.countP (Entry.holds package user) +
        entries.countP (Entry.interrupts package user) := by
  induction follows with
  | done table => simp [timesSet, countSettings]
  | @step table middle after entry entries effect rest ih =>
      have here : countSettings package user entry.settings + middle.due package user ≤
          table.due package user + (entry.holds package user).toNat +
            (entry.interrupts package user).toNat := effect.pays package user
      rw [timesSet_cons, countP_cons_toNat, countP_cons_toNat]
      omega

theorem pays_since (follows : Follows table entries after) {user : UserId}
    {earlier later : List Entry} {source : Entry} (split : entries = earlier ++ source :: later)
    (renews : source.renews user) (package : String) :
    timesSet package user (source :: later) ≤
      (source :: later).countP (Entry.holds package user) +
        later.countP (Entry.interrupts package user) := by
  induction follows generalizing earlier with
  | done table => simp at split
  | @step table middle after entry entries effect rest ih =>
      cases earlier with
      | nil =>
          cases split
          have here : countSettings package user source.settings + middle.due package user ≤
              (source.holds package user).toNat := effect.pays_of_renews renews package
          have onwards := rest.pays package user
          rw [timesSet_cons, countP_cons_toNat]
          omega
      | cons first earlier =>
          cases split
          exact ih rfl

end Follows

/-! ## The chronicle of an agent -/

namespace Agent

def enter {η φ : Type} [Host η] [FileSystem φ] (made : Request) :
    StateM (Agent (Recorder η) φ) Entry := fun agent =>
  let (reply, after) := (perform made).run agent
  (⟨made, (Host.now agent.host.device).1, reply.isOk,
    after.host.settings.drop agent.host.settings.length⟩, after)

def chronicle {η φ : Type} [Host η] [FileSystem φ] (directory : Path) (retention : Span) :
    List (Occurrence η) → StateM (Agent (Recorder η) φ) (List Entry)
  | [] => return []
  | .request made :: rest => do
    let entry ← enter made
    return entry :: (← chronicle directory retention rest)
  | .restart :: rest => do
    restart directory retention
    chronicle directory retention rest
  | .elsewhere change :: rest => do
    modify fun agent => { agent with host := { agent.host with device := change agent.host.device } }
    chronicle directory retention rest

variable {η : Type} [Host η] {directory : Path} {retention : Span} {location : Location}
  {before : Standing (Recorder η) FileTree}

theorem yields_enter (kept : Kept directory retention location before) (made : Request) :
    ∃ entry after, Kept directory retention location after ∧
      Yields standing (enter made) before entry after ∧
      after.host.settings = before.host.settings ++ entry.settings ∧
      Effect before.table entry after.table := by
  obtain ⟨heard, deed, reply, after, went⟩ := exists_went made before
  have set := settings_of_hears went.hears
  refine ⟨⟨made, (Host.now before.host.device).1, reply.isOk, settingsHeard heard⟩, after,
    went.kept kept, ?_, set, ?_⟩
  · rintro agent rfl
    obtain ⟨answer, left⟩ := went.gives agent rfl
    have same : ((perform made).run agent).2.host.settings =
        agent.host.settings ++ settingsHeard heard := by
      rw [← show agent.standing.host = agent.host from rfl, ← set, ← left]
      rfl
    have entered : enter made agent = (⟨made, (Host.now agent.host.device).1,
        ((perform made).run agent).1.isOk,
        ((perform made).run agent).2.host.settings.drop agent.host.settings.length⟩,
        ((perform made).run agent).2) := rfl
    rw [entered, same, List.drop_left]
    refine ⟨?_, left⟩
    exact congrArg (fun reply : Except Panic Reply => Entry.mk made _ reply.isOk _) answer
  · rw [(went.stored kept.inStep.sound).1]
    refine .of_course went.course ?_
    rintro time later rfl
    exact went.hears.1.symm

theorem yields_chronicle (kept : Kept directory retention location before)
    (occurrences : List (Occurrence η)) :
    ∃ entries after, Kept directory retention location after ∧
      Yields standing (chronicle directory retention occurrences) before entries after ∧
      after.host.settings = before.host.settings ++ entries.flatMap Entry.settings ∧
      Follows before.table entries after.table := by
  induction occurrences generalizing before with
  | nil => exact ⟨[], before, kept, Yields.pure _ _, (List.append_nil _).symm, .done _⟩
  | cons occurrence occurrences ih =>
      cases occurrence with
      | request made =>
          obtain ⟨entry, middle, kept, entered, set, effect⟩ := yields_enter kept made
          obtain ⟨entries, after, kept, noted, more, follows⟩ := ih kept
          refine ⟨entry :: entries, after, kept, ?_, ?_, .step effect follows⟩
          · exact Yields.bind entered (Yields.bind noted (Yields.pure _ _))
          · rw [more, set, List.flatMap_cons, List.append_assoc]
      | restart =>
          obtain ⟨entries, after, kept_after, noted, set, follows⟩ := ih kept
          exact ⟨entries, after, kept_after, Yields.bind (yields_restart kept) noted, set, follows⟩
      | elsewhere change =>
          have changed : Yields standing (modify fun agent : Agent (Recorder η) FileTree =>
              { agent with host := { agent.host with device := change agent.host.device } }) before ()
              { before with host := { before.host with device := change before.host.device } } := by
            rintro agent rfl
            exact ⟨rfl, rfl⟩
          obtain ⟨entries, after, kept, noted, set, follows⟩ := ih (kept.with_host
            { before.host with device := change before.host.device })
          exact ⟨entries, after, kept, Yields.bind changed noted, set, follows⟩

/-- An agent starts on an empty directory, on any device, and anything may happen to both. Each record,
in the table and on the disk, is from the last restore of its user, and holds nothing that was not
restored then. Locales are set only to what was restored last, and those of a package at most once for
each restore that holds it, counted from the start or from any restore on. Only a panic of the device
while an arrived package is handled lets its preference be applied once more. -/
theorem restored_once_each (directory : Path) (retention : Span) {files : FileTree}
    {location : Location} (finds : files.Finds directory location)
    (room : directory.octets.length + 34 ≤ FileTree.pathLimit)
    (bare : ∀ other, location <+: other → other ≠ location → files.node? other = none)
    (device : η) (output : List Emission) :
    ∃ opened : Agent (Recorder η) FileTree,
      StagedTable.openAt directory retention ⟨files, output⟩ = (.ok opened.table, opened.workspace) ∧
      opened.host = ⟨device, []⟩ ∧ opened.table.records = ∅ ∧ opened.workspace.files = files ∧
      ∀ occurrences : List (Occurrence η),
        let entries := (chronicle directory retention occurrences opened).1
        let ended := (chronicle directory retention occurrences opened).2
        ended.host.settings = entries.flatMap Entry.settings ∧
        WrittenThrough ended.table ended.workspace.files location ∧
        (∀ user record, ended.table.get? user = some record → FromLatest entries user record) ∧
        (∀ earlier entry later, entries = earlier ++ entry :: later → Sourced earlier entry) ∧
        (∀ package user, timesSet package user entries ≤
          entries.countP (Entry.holds package user) +
            entries.countP (Entry.interrupts package user)) ∧
        (∀ earlier source later user, entries = earlier ++ source :: later → source.renews user →
          ∀ package, timesSet package user (source :: later) ≤
            (source :: later).countP (Entry.holds package user) +
              later.countP (Entry.interrupts package user)) ∧
        ((∀ entry ∈ entries, entry.completed) →
          ∀ package user, timesSet package user entries ≤
            entries.countP (Entry.holds package user)) := by
  obtain ⟨opened, started, stands, kept⟩ := exists_opened retention finds room bare
    (⟨device, []⟩ : Recorder η) output
  refine ⟨opened, started, congrArg Standing.host stands,
    congrArg (StagedTable.records ∘ Standing.table) stands, congrArg Standing.files stands, ?_⟩
  intro occurrences
  obtain ⟨entries, after, kept_after, noted, set, follows⟩ := yields_chronicle kept occurrences
  have empty : opened.standing.table = ⟨⟨directory⟩, retention, ∅⟩ :=
    congrArg Standing.table stands
  have none : Provenance [] opened.standing.table := by
    intro user record found
    rw [empty] at found
    cases found
  have known : Provenance entries after.table := follows.provenance none
  obtain ⟨given, ends⟩ := noted opened rfl
  have table : (chronicle directory retention occurrences opened).2.table = after.table :=
    congrArg Standing.table ends
  have inStep := kept_after.inStep
  rw [← ends] at inStep
  rw [← table] at known
  have settings : (chronicle directory retention occurrences opened).2.host.settings =
      entries.flatMap Entry.settings := by
    rw [show (chronicle directory retention occurrences opened).2.host = after.host from
      congrArg Standing.host ends, set, stands]
    rfl
  have unpaid (package : String) (user : UserId) : opened.standing.table.due package user = 0 := by
    rw [empty]
    rfl
  rw [← given] at known settings follows
  refine ⟨settings, writtenThrough_of_inStep inStep, known, ?_, ?_, ?_, ?_⟩
  · intro earlier entry later split
    exact follows.sourced none split
  · intro package user
    have paid := follows.pays package user
    rw [unpaid] at paid
    omega
  · intro earlier source later user split renews package
    exact follows.pays_since split renews package
  · intro completed package user
    have paid := follows.pays package user
    rw [unpaid, countP_interrupts_of_completed completed] at paid
    omega

def replacedWhileWaiting : List (Occurrence Device) :=
  [.request (.restore (some (Document.encode ⟨none, SortedMap.ofList [("app", "en-US")]⟩)) 7),
    .restart,
    .request (.restore (some (Document.encode ⟨none, SortedMap.ofList [("app", "de-DE")]⟩)) 7),
    .elsewhere (·.install "app" 7), .request (.event (.packageAdded "app" 700001)),
    .request (.event (.packageAdded "app" 700001))]

example : (chronicle (Path.ofString "stage") ⟨259200, 0⟩ replacedWhileWaiting
    (unused ⟨Device.new 1700000000000, []⟩)).2.host.settings =
      [⟨"app", 7, LocaleList.ofTags "de-DE"⟩] := by
  decide +kernel

theorem restored_once_each_replaced :
    ∃ opened : Agent (Recorder Device) FileTree,
      StagedTable.openAt (Path.ofString "stage") ⟨259200, 0⟩ ⟨StageStore.emptyStage, []⟩ =
        (.ok opened.table, opened.workspace) ∧
      let entries :=
        (chronicle (Path.ofString "stage") ⟨259200, 0⟩ replacedWhileWaiting opened).1
      let ended := (chronicle (Path.ofString "stage") ⟨259200, 0⟩ replacedWhileWaiting opened).2
      WrittenThrough ended.table ended.workspace.files [Utf8.encode "stage"] ∧
        timesSet "app" 7 entries ≤
          entries.countP (Entry.holds "app" 7) + entries.countP (Entry.interrupts "app" 7) := by
  obtain ⟨opened, started, _, _, _, all⟩ :=
    restored_once_each (Path.ofString "stage") ⟨259200, 0⟩ StageStore.finds_emptyStage (by decide)
      StageStore.bare_emptyStage (Device.new 1700000000000) []
  obtain ⟨_, written, _, _, once, _⟩ := all replacedWhileWaiting
  exact ⟨opened, started, written, once "app" 7⟩

end Agent
end LocaleStaging
