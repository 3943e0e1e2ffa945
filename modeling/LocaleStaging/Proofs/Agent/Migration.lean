import LocaleStaging.Proofs.Agent.Backup
import LocaleStaging.Proofs.Agent.Steady
import LocaleStaging.Proofs.Device

namespace LocaleStaging.Agent

open LocaleStaging.StageStore (Clear stageLocation)

/-! ## Runs -/

section Destination
variable {η : Type} [Host η] [LawfulHost η] {location : Location} {user : UserId}

structure Serves (location : Location) (user : UserId) (agent : Agent η FileTree) : Prop where
  works : LawfulHost.works agent.host
  reaches : agent.table.store.Reaches agent.workspace.files location user
  clear : Clear agent.workspace.files location user

structure Spares (location : Location) (user : UserId) (before after : Agent η FileTree) :
    Prop where
  serves : Serves location user before → Serves location user after
  live : after.sight.live = before.sight.live
  record : after.table.get? user = before.table.get? user
  file : after.workspace.files.node? (stageLocation location user) =
    before.workspace.files.node? (stageLocation location user)

/-- Packages that the agent was told of, one after the other, each when it is installed. In between
anything may happen that spares the user: packages are installed, and time goes by. -/
inductive Arrivals (location : Location) (user : UserId) (start : Agent η FileTree) :
    List String → Agent η FileTree → Prop
  | start : Arrivals location user start [] start
  | meanwhile {arrived : List String} {before after : Agent η FileTree} :
      Arrivals location user start arrived before → Spares location user before after →
        Arrivals location user start arrived after
  | told {arrived : List String} {before : Agent η FileTree} {package : String} {uid : UInt32} :
      Arrivals location user start arrived before →
        package ∈ before.sight.applications user → userOf uid = user →
          Arrivals location user start (arrived ++ [package])
            ((handle (.packageAdded package uid)).run before).2

theorem spares_of_device {agent : Agent η FileTree} {host : η}
    (works : LawfulHost.works agent.host → LawfulHost.works host)
    (live : (LawfulHost.view host).live = agent.sight.live) :
    Spares location user agent { agent with host } :=
  ⟨fun serves => ⟨works serves.works, serves.reaches, serves.clear⟩, live, rfl, rfl⟩

section Arriving
variable {restored : Preferences} {now : Int64} {live : UserId → String → LocaleList}
  {seen : List String}

theorem Underway.spare {before after : Agent η FileTree}
    (state : Underway (fun _ => false) LawfulHost.works location user restored now live seen
      before.standing) (spares : Spares location user before after) :
    Underway (fun _ => false) LawfulHost.works location user restored now live seen after.standing := by
  obtain ⟨works, reaches, clear⟩ := spares.serves ⟨state.host, state.reaches, state.clear⟩
  have record : after.standing.table.get? user = before.standing.table.get? user := spares.record
  refine ⟨works, spares.live.trans state.live, record.trans state.record, ?_, reaches, clear⟩
  rw [record]
  exact spares.file.trans state.stage

theorem underway_of_arrivals {start after : Agent η FileTree} {arrived : List String}
    (run : Arrivals location user start arrived after)
    (state : Underway (fun _ => false) LawfulHost.works location user restored now live seen
      start.standing) :
    Underway (fun _ => false) LawfulHost.works location user restored now live (seen ++ arrived)
      after.standing := by
  induction run with
  | start =>
      rw [List.append_nil]
      exact state
  | meanwhile _ spares ih => exact ih.spare spares
  | told _ installed owned ih =>
      rw [← List.append_assoc]
      exact (underway_packageAdded steady_works ih installed owned).2.1

end Arriving

end Destination

/-- A backup has read the preference of a package, and it has one. -/
def BackedUp {η φ : Type} [Host η] [LawfulHost η] [FileSystem φ] (source : Agent η φ) (owner : UserId)
    (package : String) : Prop :=
  IsRead source.sight (callsSince source ((backup owner).run source).2) owner package

/-- A backup that has come to its end has asked for each package that is there. -/
theorem backedUp_of_installed {η φ : Type} [Host η] [LawfulHost η] [FileSystem φ]
    {source : Agent η φ} {owner : UserId} {payload : Option Bytes}
    (made : ((backup owner).run source).1 = .ok payload) {package : String}
    (installed : package ∈ source.sight.applications owner)
    (chosen : source.sight.live owner package ≠ .empty)
    (answered : ⟨.locales package owner, .failed⟩ ∉
      callsSince source ((backup owner).run source).2) : BackedUp source owner package := by
  obtain ⟨found, _, packed⟩ := packedUp_of_backup made
  exact ⟨(packed.asked package installed).resolve_right answered, chosen⟩

structure Migrated {η ζ φ : Type} [Host η] [LawfulHost η] [Host ζ] [LawfulHost ζ] [FileSystem φ]
    (source : Agent η φ) (owner : UserId) (destination : Agent ζ FileTree) (location : Location)
    (user : UserId) (arrived : List String) (after : Agent ζ FileTree) : Prop where
  carried : ∀ package, BackedUp source owner package →
    (package ∈ destination.sight.applications user ∨ package ∈ arrived) →
      after.sight.live user package = source.sight.live owner package
  others : ∀ other package, ¬(other = user ∧ BackedUp source owner package ∧
      (package ∈ destination.sight.applications user ∨ package ∈ arrived)) →
    after.sight.live other package = destination.sight.live other package
  finished : (∀ package, BackedUp source owner package →
      package ∈ destination.sight.applications user ∨ package ∈ arrived) →
    after.table.get? user = none ∧
      after.workspace.files.node? (stageLocation location user) = none
  answered : ∀ package uid, package ∈ after.sight.applications user → userOf uid = user →
    ((handle (.packageAdded package uid)).run after).1 = .ok ()

section Migration
variable {η ζ φ : Type} [Host η] [LawfulHost η] [Host ζ] [LawfulHost ζ] [FileSystem φ]

/-- A backup is restored on a device that works, for a user who has no preferences for its packages.
Each package that is there or arrives later then has the locales it had, no other preference is
changed, and when all of them have arrived nothing is left of the record. -/
theorem migration_lossless {source : Agent η φ} {owner : UserId} {payload : Bytes}
    (named : "" ∉ source.sight.applications owner)
    (made : ((backup owner).run source).1 = .ok (some payload))
    {destination : Agent ζ FileTree} {location : Location} {user : UserId}
    (serves : Serves location user destination)
    (bare : ∀ package, BackedUp source owner package →
      destination.sight.live user package = .empty) :
    let restored := (restore (some payload) user).run destination
    restored.1 = .ok () ∧ ∀ arrived after, Arrivals location user restored.2 arrived after →
      Migrated source owner destination location user arrived after := by
  obtain ⟨found, given, packed⟩ := packedUp_of_backup made
  have restored : preferencesIn payload = found := preferencesIn_of_payloadOf (packed.filled named) given
  have read : ∀ package, BackedUp source owner package →
      found.get? package = some (source.sight.live owner package).toTags := packed.collected.read
  have unread : ∀ package, ¬BackedUp source owner package → found.get? package = none :=
    packed.collected.kept
  obtain ⟨answer, now, _, state, _⟩ :=
    underway_restore steady_works serves.works serves.reaches serves.clear payload
  rw [restored] at state
  refine ⟨answer, ?_⟩
  intro arrived after run
  have state := underway_of_arrivals run state
  have shown : after.sight.live = settleAll (fun _ => false) destination.sight.live user
      (SortedMap.get? (found.among (destination.sight.applications user ++ arrived))) := state.live
  have record : after.table.get? user = _ := state.record
  refine ⟨?_, ?_, ?_, ?_⟩
  · intro package backed there
    rw [shown, settleAll, if_pos rfl, Preferences.get?_among, if_pos (List.mem_append.2 there),
      read package backed]
    -- The user has no preference of its own for the package, and no call fails.
    exact (congrArg (settle (fun _ => false) user package _) (bare package backed)).trans
      (LocaleList.ofTags_toTags _)
  · intro other package apart
    rw [shown, settleAll]
    split
    next here =>
      rw [Preferences.get?_among]
      split
      next tags bound =>
        split at bound
        next there =>
          have left : ¬BackedUp source owner package :=
            fun backed => apart ⟨here, backed, List.mem_append.1 there⟩
          rw [unread package left] at bound
          cases bound
        next => cases bound
      next => rfl
    next => rfl
  · intro all
    have nothing : found.besides (destination.sight.applications user ++ arrived) = ∅ := by
      apply SortedMap.ext_get?
      intro package
      rw [Preferences.get?_besides]
      split
      next => rfl
      next missing =>
        exact unread package fun backed => missing (List.mem_append.2 (all package backed))
    rw [nothing] at record
    have stage : after.workspace.files.node? (stageLocation location user) = _ := state.stage
    rw [state.record, nothing] at stage
    exact ⟨record, stage⟩
  · intro package uid installed owned
    exact (underway_packageAdded steady_works state installed owned).1

end Migration

theorem serves_unused {η : Type} [Host η] [LawfulHost η] {host : η} (works : LawfulHost.works host)
    (user : UserId) : Serves [Utf8.encode "stage"] user (unused host) :=
  ⟨works, StageStore.ready_emptyStage.reaches user, StageStore.clear_emptyStage user⟩

def oldDevice : Device :=
  ((((((Device.new 1700000000000).install "com.a" 1).install "com.b" 1).install "com.c" 1).setLive 1
    "com.a" (LocaleList.ofTags "fr-FR,de")).setLive 1 "com.b" (LocaleList.ofTags "ja")).breakPackage
    "com.c" ⟨true, false, false, false⟩

def newDevice : Device := (Device.new 1700000000000).install "com.a" 2

def carriedOver : Bytes :=
  Document.encode ⟨none, SortedMap.ofList [("com.a", "fr-FR,de"), ("com.b", "ja")]⟩

def afterInstall : Agent Device FileTree :=
  let restored := ((restore (some carriedOver) 2).run (unused newDevice)).2
  { restored with host := restored.host.install "com.b" 2 }

theorem ok_of_toOption {α : Type} {answer : Except Panic α} {value : α}
    (found : answer.toOption = some value) : answer = .ok value := by
  cases answer with
  | error panic => cases found
  | ok other => exact congrArg Except.ok (Option.some.inj found)

theorem callsSince_oldDevice :
    callsSince (unused oldDevice : Agent Device FileTree) ((backup 1).run (unused oldDevice)).2 =
      [⟨.now, .done⟩, ⟨.installedPackages 1, .done⟩, ⟨.locales "com.a" 1, .done⟩,
        ⟨.locales "com.b" 1, .done⟩, ⟨.locales "com.c" 1, .failed⟩] := by
  decide +kernel

theorem migration_lossless_oneMissing :
    ((backup 1).run (unused oldDevice : Agent Device FileTree)).1 = .ok (some carriedOver) ∧
      let after := ((handle (.packageAdded "com.b" 200001)).run afterInstall).2
      after.sight.live 2 "com.a" = LocaleList.ofTags "fr-FR,de" ∧
        after.sight.live 2 "com.b" = LocaleList.ofTags "ja" ∧ after.table.get? 2 = none := by
  have made : ((backup 1).run (unused oldDevice : Agent Device FileTree)).1 =
      .ok (some carriedOver) := by
    apply ok_of_toOption
    decide +kernel
  refine ⟨made, ?_⟩
  intro after
  have works : LawfulHost.works newDevice := fun _ _ => rfl
  obtain ⟨answer, all⟩ := migration_lossless (by decide +kernel) made (serves_unused works 2)
    (fun _ _ => rfl)
  have run : Arrivals [Utf8.encode "stage"] 2 ((restore (some carriedOver) 2).run (unused newDevice)).2
      ["com.b"] after := by
    refine Arrivals.told (Arrivals.meanwhile Arrivals.start (spares_of_device ?_ ?_)) ?_ ?_
    · exact fun works => Device.works_install works "com.b" 2
    · exact Device.live_install _ "com.b" 2
    · decide +kernel
    · decide
  obtain ⟨carried, others, finished, _⟩ := all ["com.b"] after run
  have first : BackedUp (unused oldDevice : Agent Device FileTree) 1 "com.a" := by
    refine backedUp_of_installed made (by decide +kernel) (by decide +kernel) ?_
    rw [callsSince_oldDevice]
    decide
  have second : BackedUp (unused oldDevice : Agent Device FileTree) 1 "com.b" := by
    refine backedUp_of_installed made (by decide +kernel) (by decide +kernel) ?_
    rw [callsSince_oldDevice]
    decide
  refine ⟨(carried "com.a" first (.inl (by decide +kernel))).trans (by decide +kernel),
    (carried "com.b" second (.inr List.mem_cons_self)).trans (by decide +kernel),
    (finished ?_).1⟩
  rintro package ⟨read, _⟩
  rw [callsSince_oldDevice] at read
  have known : package = "com.a" ∨ package = "com.b" := by simpa using read
  rcases known with rfl | rfl
  · exact .inl (by decide +kernel)
  · exact .inr List.mem_cons_self

end LocaleStaging.Agent
