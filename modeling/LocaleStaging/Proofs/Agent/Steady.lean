import LocaleStaging.Proofs.Agent.Ingestion
import LocaleStaging.Proofs.Agent.Reconciliation

/-!
# Restores on a steady device

On a steady device it is known beforehand which calls report a failure, and no call panics. What is
restored for a package then depends only on its live preference (`settle`). So what an agent has after a
restore, and after packages have arrived since, depends only on the set of the packages that were seen to
be there (`Underway`), and each arrival puts one more into that set (`Underway.arrive`).
-/

namespace LocaleStaging

def DeviceCall.ending (fails : DeviceCall → Bool) (call : DeviceCall) : Ended :=
  if call.localePackage?.isSome && fails call then .failed else .done

theorem DeviceCall.ending_ne_panicked (fails : DeviceCall → Bool) (call : DeviceCall) :
    call.ending fails ≠ .panicked := by
  unfold ending
  split <;> simp

/-- The locales of a package once some were restored, when some calls fail. Locales that could be read
stay, unless there are none. -/
def settle (fails : DeviceCall → Bool) (user : UserId) (package tags : String)
    (current : LocaleList) : LocaleList :=
  if !fails (.locales package user) && !current.isEmpty then current
  else if fails (.setLocales package user (LocaleList.ofTags tags)) then current
  else LocaleList.ofTags tags

def settleAll (fails : DeviceCall → Bool) (live : UserId → String → LocaleList) (user : UserId)
    (restored : String → Option String) : UserId → String → LocaleList :=
  fun owner package =>
    if owner = user then
      match restored package with
      | some tags => settle fails user package tags (live owner package)
      | none => live owner package
    else live owner package

section Settling
variable {fails : DeviceCall → Bool} {user : UserId}

theorem settle_of_resolution {package tags : String} {current left : LocaleList}
    {made : List Exchange} (resolution : Resolution user package tags current made left)
    (ends : ∀ exchange ∈ made, exchange.ended = exchange.call.ending fails) :
    left = settle fails user package tags current := by
  have read {query : Ended} (member : ⟨.locales package user, query⟩ ∈ made) :
      query = if fails (.locales package user) then .failed else .done := by
    simpa [DeviceCall.ending, DeviceCall.localePackage?] using ends _ member
  have set {report : Ended}
      (member : ⟨.setLocales package user (LocaleList.ofTags tags), report⟩ ∈ made) :
      report = if fails (.setLocales package user (LocaleList.ofTags tags)) then .failed else .done := by
    simpa [DeviceCall.ending, DeviceCall.localePackage?] using ends _ member
  -- If the restored locales are set, those that were there could not be read, or there were none.
  have opened {query : Ended} (member : ⟨.locales package user, query⟩ ∈ made)
      (unset : query = .failed ∨ query = .done ∧ current = .empty) :
      (!fails (.locales package user) && !current.isEmpty) = false := by
    have given := read member
    rcases unset with rfl | ⟨_, rfl⟩
    · cases failing : fails (.locales package user) <;> simp [failing] at given ⊢
    · simp [show LocaleList.empty.isEmpty = true from rfl]
  cases resolution with
  | kept chosen =>
      have given := read List.mem_cons_self
      cases failing : fails (.locales package user) with
      | true => simp [failing] at given
      | false => simp [settle, failing, LocaleList.isEmpty_eq_false_iff.2 chosen]
  | @restored query unset =>
      have given := set (List.mem_cons_of_mem _ List.mem_cons_self)
      rw [settle, opened List.mem_cons_self unset]
      cases failing : fails (.setLocales package user (LocaleList.ofTags tags)) with
      | true => simp [failing] at given
      | false => simp
  | @refused query unset =>
      have given := set (List.mem_cons_of_mem _ List.mem_cons_self)
      rw [settle, opened List.mem_cons_self unset]
      cases failing : fails (.setLocales package user (LocaleList.ofTags tags)) with
      | true => simp
      | false => simp [failing] at given

theorem settleAll_of_resolved {applied : String → Option String} {view : DeviceView}
    {made : List Exchange} (resolved : Resolved user applied view made)
    (ends : ∀ exchange ∈ made, exchange.ended = exchange.call.ending fails) :
    (view.replay made).live = settleAll fails view.live user applied := by
  funext owner package
  unfold settleAll
  by_cases here : owner = user
  · subst here
    rw [if_pos rfl]
    cases found : applied package with
    | none => exact resolved.live_of_none found owner
    | some tags =>
        refine settle_of_resolution (resolved.live_of_some found) ?_
        exact fun exchange member => ends exchange (List.mem_filter.1 member).1
  · rw [if_neg here]
    exact resolved.live_of_ne here package

theorem settleAll_settleAll {first second : String → Option String}
    (apart : ∀ package, first package = none ∨ second package = none)
    (live : UserId → String → LocaleList) :
    settleAll fails (settleAll fails live user first) user second =
      settleAll fails live user fun package => (first package).or (second package) := by
  funext owner package
  by_cases here : owner = user
  · rcases apart package with none | none <;> simp [settleAll, here, none]
  · simp [settleAll, here]

end Settling
namespace Agent

open LocaleStaging.StagedTable (keepFile stageNode)
open LocaleStaging.StageStore (Clear stageLocation temporaryLocation)

variable {η : Type} [Host η]

/-- Among these devices it is known which calls fail, and a call leads from one of them to another. -/
def Steady (fails : DeviceCall → Bool) (hosts : η → Prop) : Prop :=
  ∀ host, hosts host → ∀ call : DeviceCall,
    (call.make host).1 = call.ending fails ∧ hosts (call.make host).2

theorem Steady.of_hears {fails : DeviceCall → Bool} {hosts : η → Prop} (steady : Steady fails hosts)
    {host after : η} (inside : hosts host) {heard : List Heard} (hears : Hears host heard after) :
    hosts after ∧ ∀ exchange ∈ exchangesOf heard, exchange.ended = exchange.call.ending fails := by
  induction heard generalizing host with
  | nil =>
      cases hears
      exact ⟨inside, by simp [exchangesOf]⟩
  | cons first heard ih =>
      obtain ⟨put, hears⟩ := hears
      obtain ⟨ended, inside⟩ := steady host inside first.made
      rw [DeviceCall.make_eq] at ended inside
      obtain ⟨inside, later⟩ := ih inside hears
      refine ⟨inside, ?_⟩
      rw [exchangesOf, List.map_cons, List.forall_mem_cons]
      refine ⟨?_, later⟩
      rw [Heard.exchange, ← put]
      exact ended

variable [LawfulHost η]

theorem steady_works : Steady (fun _ => false) (LawfulHost.works : η → Prop) := by
  intro host works call
  obtain ⟨works, done⟩ := (call.make_noted host).works_after works
  refine ⟨done.trans ?_, works⟩
  simp [DeviceCall.ending]

/-! ## Packages that were seen -/

/-- What is known of a user on the way: the preferences of the packages seen so far are settled, and the
others wait in the record, which is on the disk. -/
structure Underway (fails : DeviceCall → Bool) (hosts : η → Prop) (location : Location) (user : UserId)
    (restored : Preferences) (now : Int64) (live : UserId → String → LocaleList) (seen : List String)
    (standing : Standing η FileTree) : Prop where
  host : hosts standing.host
  live : (LawfulHost.view standing.host).live =
    settleAll fails live user (SortedMap.get? (restored.among seen))
  record : standing.table.get? user =
    if (restored.besides seen).isEmpty then none else some ⟨now, restored.besides seen⟩
  stage : standing.files.node? (stageLocation location user) =
    (standing.table.get? user).map stageNode
  reaches : standing.table.store.Reaches standing.files location user
  clear : Clear standing.files location user

structure Besides (location : Location) (user : UserId) (before after : Standing η FileTree) :
    Prop where
  store : after.table.store = before.table.store
  retention : after.table.retention = before.table.retention
  others : ∀ other, other ≠ user → after.table.get? other = before.table.get? other
  aside : ∀ place, place ≠ stageLocation location user → place ≠ temporaryLocation location user →
    after.files.node? place = before.files.node? place

section Packages
variable {fails : DeviceCall → Bool} {hosts : η → Prop} {location : Location} {user : UserId}
  {restored : Preferences} {now : Int64} {live : UserId → String → LocaleList} {seen : List String}
  {before middle after : Standing η FileTree}

omit [Host η] [LawfulHost η] in
theorem Besides.trans (first : Besides location user before middle)
    (later : Besides location user middle after) : Besides location user before after :=
  ⟨later.store.trans first.store, later.retention.trans first.retention,
    fun other apart => (later.others other apart).trans (first.others other apart),
    fun place apart aside => (later.aside place apart aside).trans (first.aside place apart aside)⟩

omit [Host η] [LawfulHost η] in
theorem besides_of_stays (stays : after.table = before.table ∧ after.files = before.files) :
    Besides location user before after := by
  refine ⟨?_, ?_, fun _ _ => ?_, fun _ _ _ => ?_⟩
  · rw [stays.1]
  · rw [stays.1]
  · rw [stays.1]
  · rw [stays.2]

theorem underway_of_keep (inside : hosts after.host)
    (settled : (LawfulHost.view after.host).live =
      settleAll fails live user (SortedMap.get? (restored.among seen)))
    (table : after.table = before.table.keep user ⟨now, restored.besides seen⟩)
    (files : after.files = keepFile before.files location user ⟨now, restored.besides seen⟩)
    (reaches : before.table.store.Reaches before.files location user)
    (clear : Clear before.files location user) :
    Underway fails hosts location user restored now live seen after ∧
      Besides location user before after := by
  have record := StagedTable.get?_keep before.table user user ⟨now, restored.besides seen⟩
  rw [if_pos rfl, ← table] at record
  refine ⟨⟨inside, settled, record, ?_, ?_, ?_⟩, ?_, ?_, ?_, ?_⟩
  · rw [files, record, StagedTable.node?_keepFile]
    split <;> rfl
  · rw [table, files, StagedTable.store_keep]
    exact reaches.of_keeps (StagedTable.keeps_keepFile clear _)
  · rw [files]
    exact StagedTable.clear_keepFile clear _
  · rw [table, StagedTable.store_keep]
  · rw [table, StagedTable.retention_keep]
  · intro other apart
    rw [table, StagedTable.get?_keep, if_neg apart]
  · intro place apart aside
    rw [files, StagedTable.node?_keepFile_of_ne _ apart aside]

theorem underway_of_restored {payload : Bytes} {made : List Exchange}
    (taken : Restored payload user location now before made after)
    (inside : hosts after.host)
    (seen : LawfulHost.view after.host = (LawfulHost.view before.host).replay made)
    (ends : ∀ exchange ∈ made, exchange.ended = exchange.call.ending fails)
    (reaches : before.table.store.Reaches before.files location user)
    (clear : Clear before.files location user) :
    Underway fails hosts location user (preferencesIn payload) now (LawfulHost.view before.host).live
        ((LawfulHost.view before.host).applications user) after ∧
      Besides location user before after := by
  refine underway_of_keep inside ?_ taken.table taken.files reaches clear
  rw [seen]
  exact settleAll_of_resolved taken.resolved ends

theorem Underway.due? (state : Underway fails hosts location user restored now live seen before)
    {packages : List String} {package : String} (installed : package ∈ packages) :
    before.table.due? user packages package = SortedMap.get? (restored.besides seen) package := by
  rw [StagedTable.due?, if_pos installed, StagedTable.waiting?, state.record]
  split
  next bare =>
    rw [SortedMap.isEmpty_iff.1 bare]
    rfl
  next => rfl

theorem Underway.arrive (steady : Steady fails hosts) {package : String} {uid : UInt32}
    (state : Underway fails hosts location (userOf uid) restored now live seen before)
    (installed : package ∈ (LawfulHost.view before.host).applications (userOf uid))
    {heard : List Heard} {deed : Deed} {answer : Except Panic Reply}
    (went : Went (.event (.packageAdded package uid)) before heard deed answer after) :
    answer = .ok .done ∧
      Underway fails hosts location (userOf uid) restored now live (seen ++ [package]) after ∧
      Besides location (userOf uid) before after := by
  obtain ⟨inside, ends⟩ := steady.of_hears state.host went.hears
  have calm : Calm (exchangesOf heard) := fun exchange member =>
    ends exchange member ▸ DeviceCall.ending_ne_panicked fails _
  obtain ⟨reply, rfl⟩ := went.returns calm
  obtain rfl := went.course.eq_done_of_event
  have arrived := arrived_of_went went state.reaches state.clear
  have due := state.due? installed
  have settled : (LawfulHost.view after.host).live =
      settleAll fails live (userOf uid) (SortedMap.get? (restored.among (seen ++ [package]))) := by
    rw [(honest_of_hears went.hears).2, settleAll_of_resolved arrived.resolved ends, state.live, due,
      settleAll_settleAll]
    · exact congrArg _ (funext fun other => (restored.get?_among_append seen package other).symm)
    · intro other
      rw [Preferences.get?_among]
      by_cases same : other = package
      · rw [if_pos same, same, Preferences.get?_besides]
        split
        next => exact .inr rfl
        next => exact .inl rfl
      · exact .inr (if_neg same)
  refine ⟨rfl, ?_⟩
  cases waits : SortedMap.get? (restored.besides seen) package with
  | none =>
      have stored := arrived.stored.trans (StagedTable.drained_of_none (due.trans waits))
      have table : after.table = before.table := congrArg Prod.fst stored
      have files : after.files = before.files := congrArg Prod.snd stored
      refine ⟨⟨inside, settled, ?_, ?_, ?_, ?_⟩, besides_of_stays ⟨table, files⟩⟩
      · rw [table, Preferences.besides_append_of_none waits]
        exact state.record
      · rw [table, files]
        exact state.stage
      · rw [table, files]
        exact state.reaches
      · rw [files]
        exact state.clear
  | some tags =>
      have found : before.table.get? (userOf uid) = some ⟨now, restored.besides seen⟩ := by
        rw [state.record, if_neg]
        intro bare
        rw [SortedMap.isEmpty_iff.1 bare] at waits
        cases waits
      have stored := arrived.stored.trans (StagedTable.drained_of_due found (due.trans waits))
      rw [StagedRecord.without, ← Preferences.besides_append] at stored
      exact underway_of_keep inside settled (congrArg Prod.fst stored) (congrArg Prod.snd stored)
        state.reaches state.clear

theorem underway_restore (steady : Steady fails hosts) {agent : Agent η FileTree}
    (inside : hosts agent.host)
    (reaches : agent.table.store.Reaches agent.workspace.files location user)
    (clear : Clear agent.workspace.files location user) (payload : Bytes) :
    let run := (restore (some payload) user).run agent
    run.1 = .ok () ∧ ∃ now, (Host.now agent.host).1 = .ok now ∧
      Underway fails hosts location user (preferencesIn payload) now agent.sight.live
        (agent.sight.applications user) run.2.standing ∧
      Besides location user agent.standing run.2.standing := by
  intro run
  obtain ⟨heard, deed, went⟩ := went_restore agent (some payload) user
  obtain ⟨inside_after, ends⟩ := steady.of_hears inside went.hears
  obtain ⟨⟨⟩, done⟩ := returned_of_map (went.returns fun exchange member =>
    ends exchange member ▸ DeviceCall.ending_ne_panicked fails _)
  rw [done] at went
  obtain ⟨now, time, restored⟩ := restored_of_went went reaches clear
  exact ⟨done, now, time,
    underway_of_restored restored inside_after (honest_of_hears went.hears).2 ends reaches clear⟩

theorem underway_packageAdded (steady : Steady fails hosts) {agent : Agent η FileTree}
    (state : Underway fails hosts location user restored now live seen agent.standing)
    {package : String} (installed : package ∈ agent.sight.applications user) {uid : UInt32}
    (owned : userOf uid = user) :
    let run := (handle (.packageAdded package uid)).run agent
    run.1 = .ok () ∧
      Underway fails hosts location user restored now live (seen ++ [package]) run.2.standing ∧
      Besides location user agent.standing run.2.standing := by
  intro run
  subst owned
  obtain ⟨heard, deed, went⟩ := went_handle agent (.packageAdded package uid)
  obtain ⟨answer, arrived⟩ := state.arrive steady installed went
  obtain ⟨⟨⟩, done⟩ := returned_of_map ⟨_, answer⟩
  exact ⟨done, arrived⟩

end Packages
end Agent
end LocaleStaging
