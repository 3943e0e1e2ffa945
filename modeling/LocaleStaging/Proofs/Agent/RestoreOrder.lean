import LocaleStaging.Proofs.Agent.Steady
import LocaleStaging.Proofs.Device

namespace LocaleStaging.Agent

open LocaleStaging.StagedTable (keepFile)
open LocaleStaging.StageStore (Clear stageLocation temporaryLocation)

variable {η : Type} [Host η] [LawfulHost η]

structure Installs (hosts : η → Prop) (user : UserId) (install : String → η → η) : Prop where
  stays : ∀ package host, hosts host → hosts (install package host)
  live : ∀ package host, (LawfulHost.view (install package host)).live = (LawfulHost.view host).live
  listed : ∀ package host owner other,
    other ∈ (LawfulHost.view (install package host)).applications owner ↔
      other ∈ (LawfulHost.view host).applications owner ∨ owner = user ∧ other = package

def installAll (install : String → η → η) (packages : List String) (host : η) : η :=
  packages.foldl (fun host package => install package host) host

def equip (install : String → η → η) (packages : List String) (agent : Agent η FileTree) :
    Agent η FileTree :=
  { agent with host := installAll install packages agent.host }

def arrive (install : String → η → η) (agent : Agent η FileTree) (arrival : String × UInt32) :
    Agent η FileTree :=
  ((handle (.packageAdded arrival.1 arrival.2)).run
    { agent with host := install arrival.1 agent.host }).2

section Installing
variable {hosts : η → Prop} {user : UserId} {install : String → η → η}

theorem Installs.all (installs : Installs hosts user install) (packages : List String) {host : η}
    (inside : hosts host) :
    hosts (installAll install packages host) ∧
      (LawfulHost.view (installAll install packages host)).live = (LawfulHost.view host).live ∧
      ∀ package, package ∈ (LawfulHost.view (installAll install packages host)).applications user ↔
        package ∈ (LawfulHost.view host).applications user ++ packages := by
  induction packages generalizing host with
  | nil => exact ⟨inside, rfl, fun package => by simp [installAll]⟩
  | cons first packages ih =>
      obtain ⟨inside_later, live, listed⟩ := ih (installs.stays first host inside)
      refine ⟨inside_later, live.trans (installs.live first host), ?_⟩
      intro package
      refine (listed package).trans ?_
      rw [List.mem_append, installs.listed, List.mem_append, List.mem_cons]
      simp [or_assoc]

end Installing

/-! ## One arrival after the other -/

section Arrivals
variable {fails : DeviceCall → Bool} {hosts : η → Prop} {location : Location} {user : UserId}
  {restored : Preferences} {now : Int64} {live : UserId → String → LocaleList} {seen : List String}

theorem underway_arrivals (steady : Steady fails hosts) {install : String → η → η}
    (installs : Installs hosts user install) {agent : Agent η FileTree}
    (state : Underway fails hosts location user restored now live seen agent.standing)
    {arrivals : List (String × UInt32)} (owned : ∀ arrival ∈ arrivals, userOf arrival.2 = user) :
    let after := arrivals.foldl (arrive install) agent
    Underway fails hosts location user restored now live (seen ++ arrivals.map Prod.fst)
        after.standing ∧
      Besides location user agent.standing after.standing := by
  induction arrivals generalizing agent seen with
  | nil =>
      rw [List.map_nil, List.append_nil]
      exact ⟨state, besides_of_stays ⟨rfl, rfl⟩⟩
  | cons arrival arrivals ih =>
      have equipped : Underway fails hosts location user restored now live seen
          (standing { agent with host := install arrival.1 agent.host }) :=
        ⟨installs.stays arrival.1 agent.host state.host,
          (installs.live arrival.1 agent.host).trans state.live, state.record, state.stage,
          state.reaches, state.clear⟩
      have there : arrival.1 ∈
          (LawfulHost.view (install arrival.1 agent.host)).applications user :=
        (installs.listed arrival.1 agent.host user arrival.1).2 (.inr ⟨rfl, rfl⟩)
      obtain ⟨_, next, besides⟩ :=
        underway_packageAdded steady equipped there (owned arrival List.mem_cons_self)
      obtain ⟨ended, later⟩ := ih next fun other member => owned other (List.mem_cons_of_mem _ member)
      have installed : Besides location user agent.standing
          (standing { agent with host := install arrival.1 agent.host }) :=
        besides_of_stays ⟨rfl, rfl⟩
      rw [List.map_cons, List.append_cons]
      exact ⟨ended, installed.trans (besides.trans later)⟩

end Arrivals

/-! ## Both orders -/

/-- Packages are installed before a payload is restored, or one by one after it and the agent is told
each time. Both ways end with the same live preferences, records and stage files. -/
theorem restore_late_eq_early {fails : DeviceCall → Bool} {hosts : η → Prop}
    (steady : Steady fails hosts) {now : Int64}
    (clock : ∀ host, hosts host → (Host.now host).1 = .ok now) {install : String → η → η}
    {user : UserId} (installs : Installs hosts user install) {agent : Agent η FileTree}
    (inside : hosts agent.host) {location : Location}
    (reaches : agent.table.store.Reaches agent.workspace.files location user)
    (clear : Clear agent.workspace.files location user) (payload : Bytes)
    {packages : List String} {arrivals : List (String × UInt32)}
    (owned : ∀ arrival ∈ arrivals, userOf arrival.2 = user)
    (same : ∀ package, package ∈ packages ↔ package ∈ arrivals.map Prod.fst) :
    let early := (restore (some payload) user).run (equip install packages agent)
    let restored := (restore (some payload) user).run agent
    let late := arrivals.foldl (arrive install) restored.2
    early.1 = .ok () ∧ restored.1 = .ok () ∧ late.sight.live = early.2.sight.live ∧
      late.table = early.2.table ∧
      ∀ other, other ≠ temporaryLocation location user →
        late.workspace.files.node? other = early.2.workspace.files.node? other := by
  intro early restored late
  obtain ⟨inside_all, live_all, listed_all⟩ := installs.all packages inside
  obtain ⟨answer_early, now_early, time_early, early_state, besides_early⟩ :=
    @underway_restore _ _ _ _ _ _ _ steady (equip install packages agent) inside_all reaches clear
      payload
  obtain ⟨answer, now_late, time_late, restored_state, besides_restored⟩ :=
    underway_restore steady inside reaches clear payload
  obtain rfl := Except.ok.inj (time_early.symm.trans (clock _ inside_all))
  obtain rfl := Except.ok.inj (time_late.symm.trans (clock _ inside))
  obtain ⟨late_state, besides_arrivals⟩ :=
    underway_arrivals steady installs restored_state owned
  have besides_late := besides_restored.trans besides_arrivals
  -- The packages seen are those of the user and those that were installed, in both runs.
  have packages_seen (package : String) :
      package ∈ agent.sight.applications user ++ arrivals.map Prod.fst ↔
        package ∈ (equip install packages agent).sight.applications user := by
    refine Iff.trans ?_ (listed_all package).symm
    rw [List.mem_append, List.mem_append, same]
    rfl
  have among := Preferences.among_congr (preferencesIn payload) packages_seen
  have besides := Preferences.besides_congr (preferencesIn payload) packages_seen
  have record : late.table.get? user = early.2.table.get? user := by
    refine late_state.record.trans (Eq.trans ?_ early_state.record.symm)
    rw [besides]
  refine ⟨answer_early, answer, ?_, ?_, ?_⟩
  · refine late_state.live.trans (Eq.trans ?_ early_state.live.symm)
    rw [among]
    exact congrArg (settleAll fails · user _) live_all.symm
  · apply StagedTable.ext_get?
    · exact besides_late.store.trans besides_early.store.symm
    · exact besides_late.retention.trans besides_early.retention.symm
    · intro other
      by_cases here : other = user
      · rw [here, record]
      · exact (besides_late.others other here).trans (besides_early.others other here).symm
  · intro other aside
    by_cases here : other = stageLocation location user
    · subst here
      refine late_state.stage.trans (Eq.trans ?_ early_state.stage.symm)
      exact congrArg _ record
    · exact (besides_late.aside other here aside).trans (besides_early.aside other here aside).symm

/-! ## On a device in memory -/

structure Regular (fails : DeviceCall → Bool) (now : Int64) (device : Device) : Prop where
  clock : device.clock = now
  ends : ∀ earlier call, Device.endedBy call (device.outage? earlier call) = call.ending fails

theorem call_keeps {α : Type} {made : DeviceCall} {answer : Option String → HostCall Device α}
    (blind : ∀ detail device, (answer detail device).2.clock = device.clock ∧
      (answer detail device).2.outage? = device.outage? ∧
      (answer detail device).2.calls = device.calls) (device : Device) :
    (Device.call made answer device).2.clock = device.clock ∧
      (Device.call made answer device).2.outage? = device.outage? ∧
      (Device.call made answer device).2.calls = device.calls ++ [made] := by
  unfold Device.call
  split
  next => exact ⟨rfl, rfl, rfl⟩
  next => exact blind _ _
  next => exact blind _ _

theorem make_keeps (device : Device) (made : DeviceCall) :
    (made.make device).2.clock = device.clock ∧ (made.make device).2.outage? = device.outage? ∧
      (made.make device).2.calls = device.calls ++ [made] := by
  cases made with
  | setLocales package user list =>
      refine call_keeps ?_ device
      intro detail device
      cases detail with
      | none => exact ⟨rfl, rfl, rfl⟩
      | some detail => exact ⟨rfl, rfl, rfl⟩
  | locales package user =>
      refine call_keeps ?_ device
      intro detail device
      cases detail with
      | none => exact ⟨rfl, rfl, rfl⟩
      | some detail => exact ⟨rfl, rfl, rfl⟩
  | _ => exact call_keeps (fun _ _ => ⟨rfl, rfl, rfl⟩) device

theorem steady_regular (fails : DeviceCall → Bool) (now : Int64) : Steady fails (Regular fails now) := by
  intro device regular made
  obtain ⟨clock, outage, calls⟩ := make_keeps device made
  have history : (Device.view (made.make device).2).history =
      (Device.view device).history ++ [⟨made, (made.make device).1⟩] :=
    congrArg DeviceView.history (made.make_noted device).view_after
  simp only [Device.view, outage, calls, Device.exchangesFrom_concat, List.nil_append] at history
  have ended : Device.endedBy made (device.outage? device.calls made) = (made.make device).1 := by
    simpa using history
  refine ⟨ended.symm.trans (regular.ends _ _), clock.trans regular.clock, ?_⟩
  rw [outage]
  exact regular.ends

theorem now_of_regular {fails : DeviceCall → Bool} {now : Int64} {device : Device}
    (regular : Regular fails now device) : (Host.now device).1 = .ok now := by
  have plain := regular.ends device.calls .now
  have answer : (Host.now device).1 = .ok device.clock := by
    simp only [Host.now, Device.call]
    cases outage : device.outage? device.calls .now with
    | none => rfl
    | some reason =>
        cases reason with
        | fails detail => rfl
        | panics message =>
            rw [outage] at plain
            cases plain
  rw [answer, regular.clock]

def installFor (user : UserId) (package : String) (device : Device) : Device :=
  device.install package user

theorem installs_regular (fails : DeviceCall → Bool) (now : Int64) (user : UserId) :
    Installs (Regular fails now) user (installFor user) := by
  refine ⟨?_, ?_, ?_⟩
  · intro package device regular
    simp only [installFor, Device.install]
    split
    next => exact regular
    next => exact ⟨regular.clock, regular.ends⟩
  · intro package device
    exact Device.live_install device package user
  · intro package device owner other
    exact Device.mem_packagesOf_install device package user owner other

def busyDevice : Device :=
  { Device.new 1700000000000 with
    outage? := fun _ call => if call = .locales "com.b" 1 then some (.fails "busy") else none }

def threePackages : Bytes :=
  Document.encode ⟨none, SortedMap.ofList [("com.a", "de"), ("com.b", "ja"), ("com.c", "it")]⟩

theorem regular_busyDevice :
    Regular (fun call => decide (call = .locales "com.b" 1)) 1700000000000 busyDevice := by
  refine ⟨rfl, ?_⟩
  intro earlier call
  by_cases asked : call = .locales "com.b" 1
  · subst asked
    rfl
  · simp [busyDevice, asked, Device.endedBy, DeviceCall.ending]

theorem restore_late_eq_early_busy :
    let early := (restore (some threePackages) 1).run
      (equip (installFor 1) ["com.a", "com.b"] (unused busyDevice))
    let late := [("com.b", 100002), ("com.a", 100001)].foldl (arrive (installFor 1))
      ((restore (some threePackages) 1).run (unused busyDevice)).2
    early.1 = .ok () ∧ late.sight.live = early.2.sight.live ∧ late.table = early.2.table := by
  have steady := steady_regular (fun call => decide (call = .locales "com.b" 1)) 1700000000000
  have installs :=
    installs_regular (fun call => decide (call = .locales "com.b" 1)) 1700000000000 1
  have clock (device : Device)
      (regular : Regular (fun call => decide (call = .locales "com.b" 1)) 1700000000000 device) :
      (Host.now device).1 = .ok 1700000000000 :=
    now_of_regular regular
  have owned : ∀ arrival ∈ [("com.b", (100002 : UInt32)), ("com.a", 100001)],
      userOf arrival.2 = 1 := by
    decide
  have same (package : String) : package ∈ ["com.a", "com.b"] ↔
      package ∈ [("com.b", (100002 : UInt32)), ("com.a", 100001)].map Prod.fst := by
    simp [or_comm]
  obtain ⟨answer, _, live, table, _⟩ := @restore_late_eq_early Device _ _ _ _ steady _ clock _ _
    installs (unused busyDevice) regular_busyDevice [Utf8.encode "stage"] (StageStore.ready_emptyStage.reaches 1)
    (StageStore.clear_emptyStage 1) threePackages _ _ owned same
  exact ⟨answer, live, table⟩

end LocaleStaging.Agent
