import LocaleStaging.Proofs.Agent.Kept
import LocaleStaging.Proofs.Agent.Resolution
import LocaleStaging.Proofs.Device

namespace LocaleStaging

/-! ## The packages that are there, and the others -/

def Preferences.among (preferences : Preferences) (packages : List String) : Preferences :=
  preferences.filter fun package _ => packages.contains package

def Preferences.besides (preferences : Preferences) (packages : List String) : Preferences :=
  preferences.filter fun package _ => !packages.contains package

theorem Preferences.get?_among (preferences : Preferences) (packages : List String)
    (package : String) : SortedMap.get? (preferences.among packages) package =
      if package ∈ packages then preferences.get? package else none := by
  rw [among, SortedMap.get?_filter]
  cases preferences.get? package <;> simp [Option.filter]

theorem Preferences.get?_besides (preferences : Preferences) (packages : List String)
    (package : String) : SortedMap.get? (preferences.besides packages) package =
      if package ∈ packages then none else preferences.get? package := by
  rw [besides, SortedMap.get?_filter]
  cases preferences.get? package <;> simp [Option.filter]

theorem Preferences.among_congr (preferences : Preferences) {first second : List String}
    (same : ∀ package, package ∈ first ↔ package ∈ second) :
    preferences.among first = preferences.among second := by
  apply SortedMap.ext_get?
  intro package
  rw [get?_among, get?_among]
  simp only [same package]

theorem Preferences.besides_congr (preferences : Preferences) {first second : List String}
    (same : ∀ package, package ∈ first ↔ package ∈ second) :
    preferences.besides first = preferences.besides second := by
  apply SortedMap.ext_get?
  intro package
  rw [get?_besides, get?_besides]
  simp only [same package]

theorem Preferences.besides_append (restored : Preferences) (seen : List String)
    (package : String) :
    restored.besides (seen ++ [package]) = SortedMap.erase (restored.besides seen) package := by
  apply SortedMap.ext_get?
  intro other
  by_cases same : other = package
  · subst same
    simp [Preferences.get?_besides]
  · rw [SortedMap.get?_erase_of_ne _ same]
    simp [Preferences.get?_besides, same]

theorem Preferences.besides_append_of_none {restored : Preferences} {seen : List String}
    {package : String} (settled : SortedMap.get? (restored.besides seen) package = none) :
    restored.besides (seen ++ [package]) = restored.besides seen := by
  rw [besides_append]
  apply SortedMap.ext_get?
  intro other
  by_cases same : other = package
  · subst same
    rw [SortedMap.get?_erase_self, settled]
  · exact SortedMap.get?_erase_of_ne _ same

theorem Preferences.get?_among_append (restored : Preferences) (seen : List String)
    (package other : String) : SortedMap.get? (restored.among (seen ++ [package])) other =
      (SortedMap.get? (restored.among seen) other).or
        (if other = package then SortedMap.get? (restored.besides seen) package else none) := by
  rw [get?_among, get?_among, get?_besides]
  by_cases same : other = package
  · subst same
    by_cases before : other ∈ seen <;> simp [before]
  · simp [same]

namespace Agent

open LocaleStaging.StagedTable (keepFile stageNode)
open LocaleStaging.StageStore (Clear stageLocation temporaryLocation)

variable {η φ : Type} [Host η] [LawfulHost η]

/-! ## Taking in the preferences of a payload -/

theorem parted_of_ingests {restored pending : Preferences} {user : UserId} {view : DeviceView}
    {heard : List Heard} (honest : Honest view heard)
    (ingests : InTurn (Ingests user) ∅ restored.toList heard (.ok pending)) (package : String) :
    (∃ tags, restored.get? package = some tags ∧ package ∈ view.applications user ∧
      Applies package tags user (heardAbout heard package) (.ok ()) ∧ pending.get? package = none) ∨
    (heardAbout heard package = [] ∧ pending.get? package = restored.get? package ∧
      (package ∈ view.applications user → restored.get? package = none)) := by
  have handled := handled_of_ingests ingests package
  generalize restored.get? package = value at handled ⊢
  cases handled with
  | absent silent same => exact .inr ⟨silent, same pending rfl, fun _ => rfl⟩
  | staged missing silent waits =>
      refine .inr ⟨silent, waits pending rfl, fun listed => ?_⟩
      cases (honest.isInstalled missing).2 listed
  | applied installed applies same =>
      exact .inl ⟨_, rfl, (honest.isInstalled installed).1 rfl, applies, same pending rfl⟩
  | broken applies stopped => cases stopped
  | unreached silent stopped => cases stopped

theorem resolved_of_ingests {restored pending : Preferences} {user : UserId} {view : DeviceView}
    {heard : List Heard} (honest : Honest view heard)
    (ingests : InTurn (Ingests user) ∅ restored.toList heard (.ok pending)) :
    Resolved user (SortedMap.get? (restored.among (view.applications user))) view
        (exchangesOf heard) ∧
      pending = restored.besides (view.applications user) := by
  have parted := parted_of_ingests honest ingests
  refine ⟨⟨?_, ?_⟩, SortedMap.ext_get? fun package => ?_⟩
  · intro package tags found
    rw [Preferences.get?_among] at found
    rcases parted package with ⟨other, bound, listed, applies, _⟩ | ⟨_, _, absent⟩
    · rw [if_pos listed, bound] at found
      cases found
      rw [callsAbout_exchangesOf]
      exact resolution_of_applies (honest.about package) applies
    · split at found
      next listed =>
        rw [absent listed] at found
        cases found
      next => cases found
  · intro package absent
    rcases parted package with ⟨tags, bound, listed, _, _⟩ | ⟨silent, _, _⟩
    · rw [Preferences.get?_among, if_pos listed, bound] at absent
      cases absent
    · rw [callsAbout_exchangesOf, silent]
      rfl
  · rw [Preferences.get?_besides]
    rcases parted package with ⟨_, _, listed, _, none⟩ | ⟨_, same, absent⟩
    · rw [if_pos listed, none]
    · split
      next listed => rw [same, absent listed]
      next => exact same

/-! ## Restoring -/

structure TakenIn (payload : Bytes) (user : UserId) (location : Location) (made : List Exchange)
    (before after : Agent η FileTree) : Prop where
  applied : ∀ package tags, (preferencesIn payload).get? package = some tags →
    package ∈ before.sight.applications user →
      Resolution user package tags (before.sight.live user package) (callsAbout made package)
        (after.sight.live user package)
  untouched : ∀ owner package, (owner = user → package ∈ before.sight.applications user →
      (preferencesIn payload).get? package = none) →
    after.sight.live owner package = before.sight.live owner package
  staged : ∃ now pending, (Host.now before.host).1 = .ok now ∧
    (∀ package, SortedMap.get? pending package = if package ∈ before.sight.applications user
      then none else (preferencesIn payload).get? package) ∧
    after.table.get? user = if pending.isEmpty then none else some ⟨now, pending⟩
  stored : after.workspace.files.node? (stageLocation location user) =
    (after.table.get? user).map stageNode
  others : ∀ other, other ≠ user → after.table.get? other = before.table.get? other
  aside : ∀ place, place ≠ stageLocation location user → place ≠ temporaryLocation location user →
    after.workspace.files.node? place = before.workspace.files.node? place

section Requests
variable {user : UserId} {location : Location}

structure Restored (payload : Bytes) (user : UserId) (location : Location) (now : Int64)
    (before : Standing η FileTree) (made : List Exchange) (after : Standing η FileTree) : Prop where
  resolved : Resolved user (SortedMap.get? ((preferencesIn payload).among
    ((LawfulHost.view before.host).applications user))) (LawfulHost.view before.host) made
  table : after.table = before.table.keep user
    ⟨now, (preferencesIn payload).besides ((LawfulHost.view before.host).applications user)⟩
  files : after.files = keepFile before.files location user
    ⟨now, (preferencesIn payload).besides ((LawfulHost.view before.host).applications user)⟩

theorem restored_of_went {before after : Standing η FileTree} {payload : Bytes} {heard : List Heard}
    {deed : Deed} {reply : Reply}
    (went : Went (.restore (some payload) user) before heard deed (.ok reply) after)
    (reaches : before.table.store.Reaches before.files location user)
    (clear : Clear before.files location user) :
    ∃ now, (Host.now before.host).1 = .ok now ∧
      Restored payload user location now before (exchangesOf heard) after := by
  cases went.course with
  | @restored _ _ now others pending ingests =>
      obtain ⟨honest, _⟩ := honest_of_hears went.hears
      obtain ⟨resolved, rfl⟩ := resolved_of_ingests honest.2 ingests
      obtain ⟨table, files⟩ := Work.yields_unique went.staged
        (StagedTable.yields_persist_insert reaches clear ⟨now, _⟩)
      exact ⟨now, went.hears.1, ⟨resolved.resolved, resolved.unasked⟩, table, files⟩

namespace Restored

variable {agent once : Agent η FileTree} {payload : Bytes} {now : Int64} {made : List Exchange}

theorem takenIn (restored : Restored payload user location now agent.standing made once.standing)
    (time : (Host.now agent.host).1 = .ok now) (seen : once.sight = agent.sight.replay made) :
    TakenIn payload user location made agent once := by
  have table : once.table = agent.table.keep user _ := restored.table
  have files : once.workspace.files = keepFile agent.workspace.files location user _ := restored.files
  refine ⟨?_, ?_, ⟨now, (preferencesIn payload).besides (agent.sight.applications user), time,
    Preferences.get?_besides _ _, ?_⟩, ?_, ?_, ?_⟩
  · intro package tags found installed
    rw [seen]
    refine restored.resolved.live_of_some ((Preferences.get?_among _ _ package).trans ?_)
    exact (if_pos installed).trans found
  · intro owner package absent
    rw [seen]
    by_cases here : owner = user
    · refine restored.resolved.live_of_none ((Preferences.get?_among _ _ package).trans ?_) owner
      split
      next installed => exact absent here installed
      next => rfl
    · exact restored.resolved.live_of_ne here package
  · rw [table, StagedTable.get?_keep, if_pos rfl]
    rfl
  · rw [files, table, StagedTable.node?_keepFile, StagedTable.get?_keep, if_pos rfl]
    split <;> rfl
  · intro other apart
    rw [table, StagedTable.get?_keep, if_neg apart]
  · intro place apart aside
    rw [files, StagedTable.node?_keepFile_of_ne _ apart aside]

theorem reaches (restored : Restored payload user location now agent.standing made once.standing)
    (reached : agent.table.store.Reaches agent.workspace.files location user)
    (clear : Clear agent.workspace.files location user) :
    once.table.store.Reaches once.workspace.files location user := by
  have table : once.table = agent.table.keep user _ := restored.table
  have files : once.workspace.files = keepFile agent.workspace.files location user _ := restored.files
  rw [table, files, StagedTable.store_keep]
  exact reached.of_keeps (StagedTable.keeps_keepFile clear _)

theorem clear (restored : Restored payload user location now agent.standing made once.standing)
    (clear : Clear agent.workspace.files location user) :
    Clear once.workspace.files location user := by
  have files : once.workspace.files = keepFile agent.workspace.files location user _ := restored.files
  exact files ▸ StagedTable.clear_keepFile clear _

theorem again {twice : Agent η FileTree} {others : List Exchange}
    (first : Restored payload user location now agent.standing made once.standing)
    (second : Restored payload user location now once.standing others twice.standing)
    (seen : once.sight = agent.sight.replay made) (seen_again : twice.sight = once.sight.replay others)
    (done : ∀ exchange ∈ made, exchange.ended = .done)
    (done_again : ∀ exchange ∈ others, exchange.ended = .done) :
    twice.sight.live = once.sight.live ∧ twice.table = once.table ∧
      ∀ place, twice.workspace.files.node? place = once.workspace.files.node? place := by
  have packages : (LawfulHost.view once.standing.host).applications = agent.sight.applications :=
    (congrArg DeviceView.applications seen).trans (DeviceView.applications_replay _ _)
  obtain ⟨resolved_again, table_again, files_again⟩ := second
  rw [packages] at resolved_again table_again files_again
  have table : once.table = agent.table.keep user _ := first.table
  have files : once.workspace.files = keepFile agent.workspace.files location user _ := first.files
  have same_table : twice.table = once.table.keep user _ := table_again
  have same_files : twice.workspace.files = keepFile once.workspace.files location user _ := files_again
  refine ⟨?_, ?_, ?_⟩
  · funext owner package
    rw [seen_again]
    by_cases here : owner = user
    · subst here
      cases found : SortedMap.get? ((preferencesIn payload).among (agent.sight.applications owner))
        package with
      | none => exact resolved_again.live_of_none found owner
      | some tags =>
          have resolution : Resolution owner package tags (agent.sight.live owner package)
              (callsAbout made package) (once.sight.live owner package) := by
            rw [seen]
            exact first.resolved.live_of_some found
          refine resolution.again (resolved_again.live_of_some found) ?_ ?_
          · exact fun exchange member => done exchange (List.mem_filter.1 member).1
          · exact fun exchange member => done_again exchange (List.mem_filter.1 member).1
    · exact resolved_again.live_of_ne here package
  · rw [same_table, table, StagedTable.keep_keep]
    rfl
  · intro place
    rw [same_files, files]
    exact StagedTable.node?_keepFile_keepFile _ _ _ place

end Restored

/-- Each preference in a payload is resolved if its package is there, and else waits, in a record that
takes the place of what waited before. Nothing else changes, and without a payload nothing does. If no
call fails, taking in the same payload again at the same time changes nothing more. -/
theorem restore_partitions (agent : Agent η FileTree) (user : UserId) :
    (((restore none user).run agent).1 = .ok () ∧
      ((restore none user).run agent).2.standing = agent.standing) ∧
    ∀ (payload : Bytes) (location : Location),
      agent.table.store.Reaches agent.workspace.files location user →
      Clear agent.workspace.files location user →
      let once := (restore (some payload) user).run agent
      let twice := (restore (some payload) user).run once.2
      (Calm (callsSince agent once.2) → once.1 = .ok ()) ∧
      (once.1 = .ok () →
        TakenIn payload user location (callsSince agent once.2) agent once.2) ∧
      ((∀ exchange ∈ callsSince agent once.2, exchange.ended = .done) →
        (∀ exchange ∈ callsSince once.2 twice.2, exchange.ended = .done) →
        (Host.now once.2.host).1 = (Host.now agent.host).1 →
        twice.2.sight.live = once.2.sight.live ∧ twice.2.table = once.2.table ∧
          ∀ place, twice.2.workspace.files.node? place = once.2.workspace.files.node? place) := by
  constructor
  · exact Gives.note (.noPayload user) agent.standing agent rfl
  · intro payload location reaches clear once twice
    obtain ⟨heard, _, went⟩ := went_restore agent (some payload) user
    obtain ⟨seen, made⟩ := callsSince_of_hears went.hears
    have returns (calm : Calm (callsSince agent once.2)) : once.1 = .ok () := by
      rw [made] at calm
      obtain ⟨⟨⟩, done⟩ := returned_of_map (went.returns calm)
      exact done
    refine ⟨returns, ?_, ?_⟩
    · intro done
      rw [done] at went
      obtain ⟨now, time, restored⟩ := restored_of_went went reaches clear
      rw [made]
      exact restored.takenIn time seen
    · intro done done_again clock
      rw [returns fun exchange member => by simp [done exchange member]] at went
      obtain ⟨now, time, restored⟩ := restored_of_went went reaches clear
      obtain ⟨others, _, went_again⟩ := went_restore once.2 (some payload) user
      obtain ⟨seen_again, made_again⟩ := callsSince_of_hears went_again.hears
      rw [made_again] at done_again
      obtain ⟨reply, returned⟩ := went_again.returns fun exchange member => by
        simp [done_again exchange member]
      rw [returned] at went_again
      obtain ⟨later, time_again, restored_again⟩ :=
        restored_of_went went_again (restored.reaches reaches clear) (restored.clear clear)
      obtain rfl : later = now := Except.ok.inj (time_again.symm.trans (clock.trans time))
      rw [made] at done
      exact restored.again restored_again seen seen_again done done_again

end Requests

def halfInstalled : Agent Device FileTree :=
  let device := ((Device.new 1700000000000).install "com.a" 1).install "com.b" 1
  let agent := unused (device.setLive 1 "com.b" (LocaleList.ofTags "es"))
  { agent with table := agent.table.insert 1 ⟨0, SortedMap.ofList [("com.z", "it")]⟩ }

def threeEntries : Bytes :=
  Document.encode ⟨none, SortedMap.ofList [("com.a", "de"), ("com.b", "ja"), ("com.c", "fr")]⟩

theorem restore_partitions_halfInstalled :
    let once := (restore (some threeEntries) 1).run halfInstalled
    let twice := (restore (some threeEntries) 1).run once.2
    once.1 = .ok () ∧
      TakenIn threeEntries 1 [Utf8.encode "stage"] (callsSince halfInstalled once.2) halfInstalled
        once.2 ∧
      once.2.sight.live 1 "com.a" = LocaleList.ofTags "de" ∧
      once.2.sight.live 1 "com.b" = LocaleList.ofTags "es" ∧
      once.2.table.get? 1 = some ⟨1700000000000, SortedMap.ofList [("com.c", "fr")]⟩ ∧
      twice.2.sight.live = once.2.sight.live ∧ twice.2.table = once.2.table := by
  obtain ⟨returns, takenIn, again⟩ := (restore_partitions halfInstalled 1).2 threeEntries
    [Utf8.encode "stage"] (StageStore.ready_emptyStage.reaches 1) (StageStore.clear_emptyStage 1)
  have answer := returns (by unfold Calm; decide +kernel)
  obtain ⟨live, table, _⟩ := again (by decide +kernel) (by decide +kernel) (by decide +kernel)
  exact ⟨answer, takenIn answer, by decide +kernel, by decide +kernel, by decide +kernel, live, table⟩

end Agent
end LocaleStaging
