import LocaleStaging.Proofs.Agent.Resolution
import LocaleStaging.Proofs.Agent.Restart
import LocaleStaging.Proofs.Device

namespace LocaleStaging

def StagedRecord.without (record : StagedRecord) (package : String) : StagedRecord :=
  { record with pending := record.pending.erase package }

theorem StagedRecord.without_comm (record : StagedRecord) (first second : String) :
    (record.without first).without second = (record.without second).without first :=
  congrArg (StagedRecord.mk record.created) (SortedMap.erase_comm record.pending first second)

namespace StagedTable

open LocaleStaging.StageStore (Clear stageLocation temporaryLocation)

structure Mirrored (table : StagedTable) (files : FileTree) (location : Location) (user : UserId) :
    Prop where
  reaches : table.store.Reaches files location user
  clear : Clear files location user
  held : ∀ record, table.get? user = some record ↔ ∃ content,
    files.node? (stageLocation location user) = some (.file content) ∧
      Document.decode content = .ok record.document

theorem Lasting.stored_iff {kept : StagedRecord} (lasting : Lasting kept) (record : StagedRecord) :
    some kept = some record ↔ ∃ content, some (stageNode kept) = some (.file content) ∧
      Document.decode content = .ok record.document := by
  simp only [stageNode, Option.some.injEq, Node.file.injEq, exists_eq_left', lasting.decode,
    Except.ok.injEq]
  exact ⟨congrArg _, fun same => Option.some.inj (congrArg Document.record? same)⟩

theorem InStep.mirrored {table : StagedTable} {files : FileTree} {location : Location}
    (inStep : InStep table files location) (user : UserId) : Mirrored table files location user := by
  refine ⟨inStep.ready.reaches user, inStep.clear user, ?_⟩
  intro record
  rw [inStep.stored user]
  cases found : table.get? user with
  | none => simp
  | some kept => exact (inStep.lasting user kept found).stored_iff record

def due? (table : StagedTable) (user : UserId) (packages : List String) (package : String) :
    Option String :=
  if package ∈ packages then table.waiting? user package else none

def drained (location : Location) (user : UserId) (packages : List String) (package : String)
    (stored : StagedTable × FileTree) : StagedTable × FileTree :=
  match stored.1.get? user with
  | none => stored
  | some record =>
    if (stored.1.due? user packages package).isSome then
      (stored.1.keep user (record.without package),
        keepFile stored.2 location user (record.without package))
    else stored

section Draining
variable {location : Location} {user : UserId} {packages : List String} {package : String}
  {stored : StagedTable × FileTree} {record : StagedRecord} {tags : String}

theorem exists_of_due {table : StagedTable} (due : table.due? user packages package = some tags) :
    package ∈ packages ∧
      ∃ record, table.get? user = some record ∧ record.pending.get? package = some tags := by
  unfold due? at due
  split at due
  next listed => exact ⟨listed, Option.bind_eq_some_iff.1 due⟩
  next => cases due

theorem due?_eq_none_iff {table : StagedTable} :
    table.due? user packages package = none ↔
      table.get? user = none ∨ package ∉ packages ∨
        ∀ record, table.get? user = some record → record.pending.get? package = none := by
  unfold due? waiting?
  by_cases listed : package ∈ packages
  · cases found : table.get? user <;> simp [listed]
  · simp [listed]

theorem drained_of_none (idle : stored.1.due? user packages package = none) :
    drained location user packages package stored = stored := by
  unfold drained
  split
  next => rfl
  next => simp [idle]

theorem drained_of_due (found : stored.1.get? user = some record)
    (due : stored.1.due? user packages package = some tags) :
    drained location user packages package stored =
      (stored.1.keep user (record.without package),
        keepFile stored.2 location user (record.without package)) := by
  simp only [drained, found, due, Option.isSome_some, if_true]

theorem due?_keep_without {table : StagedTable} (found : table.get? user = some record)
    (packages : List String) (package other : String) :
    (table.keep user (record.without package)).due? user packages other =
      if other = package then none else table.due? user packages other := by
  rw [due?, waiting?_keep, if_pos rfl, due?, waiting?, found]
  by_cases same : other = package
  · subst same
    simp [StagedRecord.without]
  · rw [if_neg same, StagedRecord.without, SortedMap.get?_erase_of_ne _ same]
    rfl

theorem due?_drained (other : String) :
    (drained location user packages package stored).1.due? user packages other =
      if other = package then none else stored.1.due? user packages other := by
  cases due : stored.1.due? user packages package with
  | none =>
      rw [drained_of_none due]
      split
      next same => rw [same, due]
      next => rfl
  | some tags =>
      obtain ⟨_, record, found, _⟩ := exists_of_due due
      rw [drained_of_due found due]
      exact due?_keep_without found packages package other

theorem get?_keep_without {table : StagedTable} {other : String} (apart : other ≠ package)
    (found : table.get? user = some record) (due : table.due? user packages other = some tags) :
    (record.without package).pending.isEmpty = false ∧
      (table.keep user (record.without package)).get? user = some (record.without package) := by
  have waits : (record.without package).pending.get? other = some tags := by
    obtain ⟨_, kept, same, waits⟩ := exists_of_due due
    rw [found] at same
    cases same
    rw [StagedRecord.without, SortedMap.get?_erase_of_ne _ apart, waits]
  have filled : (record.without package).pending.isEmpty = false := by
    cases bare : (record.without package).pending.isEmpty with
    | false => rfl
    | true =>
        rw [SortedMap.isEmpty_iff.1 bare] at waits
        cases waits
  rw [get?_keep, if_pos rfl, if_neg (by simp [filled])]
  exact ⟨filled, rfl⟩

theorem drained_of_both {first second more : String} (apart : first ≠ second)
    (found : stored.1.get? user = some record)
    (due_first : stored.1.due? user packages first = some tags)
    (due_second : stored.1.due? user packages second = some more) :
    drained location user packages second (drained location user packages first stored) =
      (stored.1.keep user ((record.without first).without second),
        keepFile (keepFile stored.2 location user (record.without first)) location user
          ((record.without first).without second)) := by
  obtain ⟨_, left⟩ := get?_keep_without apart.symm found due_second
  have still : (stored.1.keep user (record.without first)).due? user packages second = some more := by
    rw [due?_keep_without found, if_neg apart.symm, due_second]
  rw [drained_of_due found due_first,
    ← keep_keep stored.1 user (record.without first) ((record.without first).without second)]
  exact drained_of_due left still

theorem drained_comm {first second : String} (apart : first ≠ second)
    (stored : StagedTable × FileTree) :
    let forth := drained location user packages second (drained location user packages first stored)
    let back := drained location user packages first (drained location user packages second stored)
    back.1 = forth.1 ∧ ∀ place, back.2.node? place = forth.2.node? place := by
  intro forth back
  have later (one other : String) (apart : one ≠ other)
      (idle : stored.1.due? user packages one = none) :
      drained location user packages one (drained location user packages other stored) =
        drained location user packages other (drained location user packages one stored) := by
    rw [drained_of_none idle]
    refine drained_of_none ?_
    rw [due?_drained, if_neg apart, idle]
  cases due_first : stored.1.due? user packages first with
  | none =>
      have same : back = forth := later first second apart due_first
      exact same ▸ ⟨rfl, fun _ => rfl⟩
  | some tags =>
    cases due_second : stored.1.due? user packages second with
    | none =>
        have same : forth = back := later second first apart.symm due_second
        exact same ▸ ⟨rfl, fun _ => rfl⟩
    | some more =>
        obtain ⟨_, record, found, _⟩ := exists_of_due due_first
        obtain ⟨filled_first, _⟩ := get?_keep_without apart.symm found due_second
        obtain ⟨filled_second, _⟩ := get?_keep_without apart found due_first
        have forth_eq : forth = _ := drained_of_both apart found due_first due_second
        have back_eq : back = _ := drained_of_both apart.symm found due_second due_first
        rw [forth_eq, back_eq, StagedRecord.without_comm]
        refine ⟨rfl, ?_⟩
        intro place
        simp only [node?_keepFile_eq_ite, filled_first, filled_second]
        split
        next => rfl
        next => split <;> simp

theorem Mirrored.filled {table : StagedTable} {files : FileTree}
    (mirrored : Mirrored table files location user) (found : table.get? user = some record) :
    record.document.Filled := by
  obtain ⟨content, _, decoded⟩ := (mirrored.held record).1 found
  exact Document.filled_of_decode decoded

theorem Mirrored.drained {table : StagedTable} {files : FileTree}
    (mirrored : Mirrored table files location user) (packages : List String) (package : String) :
    let left := drained location user packages package (table, files)
    Mirrored left.1 left.2 location user := by
  intro left
  cases due : table.due? user packages package with
  | none =>
      have same : left = (table, files) := drained_of_none due
      rw [same]
      exact mirrored
  | some tags =>
      obtain ⟨_, record, found, _⟩ := exists_of_due due
      have same : left = _ := drained_of_due found due
      rw [same]
      refine ⟨?_, clear_keepFile mirrored.clear _, ?_⟩
      · rw [store_keep]
        exact mirrored.reaches.of_keeps (keeps_keepFile mirrored.clear _)
      · intro kept
        rw [get?_keep, if_pos rfl, node?_keepFile]
        cases bare : (record.without package).pending.isEmpty with
        | true => simp
        | false =>
            have filled : Preferences.Filled record.pending := mirrored.filled found
            exact Lasting.stored_iff ⟨bare, filled.erase package⟩ kept

end Draining
end StagedTable

namespace Agent

open LocaleStaging.StagedTable (Mirrored drained keepFile)
open LocaleStaging.StageStore (Clear stageLocation temporaryLocation)

variable {η : Type} [Host η] [LawfulHost η]

structure Arrived (location : Location) (user : UserId) (package : String)
    (before : Standing η FileTree) (made : List Exchange) (after : Standing η FileTree) : Prop where
  resolved : Resolved user (fun other => if other = package then before.table.due? user
      ((LawfulHost.view before.host).applications user) package else none)
    (LawfulHost.view before.host) made
  stored : (after.table, after.files) = drained location user
    ((LawfulHost.view before.host).applications user) package (before.table, before.files)

section Arrival
variable {before after : Standing η FileTree} {location : Location} {uid : UInt32}
  {package tags : String} {heard : List Heard} {deed : Deed} {record : StagedRecord}

theorem due?_of_installed (honest : Honest (LawfulHost.view before.host) heard) {installed : Bool}
    (member : ⟨.isInstalled package (userOf uid), .ok installed⟩ ∈ heard)
    (found : before.table.get? (userOf uid) = some record) :
    before.table.due? (userOf uid) ((LawfulHost.view before.host).applications (userOf uid)) package =
      if installed then record.pending.get? package else none := by
  have listed := honest.isInstalled member
  rw [StagedTable.due?, StagedTable.waiting?, found, Option.bind_some]
  exact if_congr listed.symm rfl rfl

theorem arrived_of_idle {made : List Exchange} (unasked : ∀ other, callsAbout made other = [])
    (idle : before.table.due? (userOf uid) ((LawfulHost.view before.host).applications (userOf uid))
      package = none) (stays : after.table = before.table ∧ after.files = before.files) :
    Arrived location (userOf uid) package before made after := by
  refine ⟨⟨?_, fun other _ => unasked other⟩, ?_⟩
  · simp [idle]
  · rw [StagedTable.drained_of_none idle, stays.1, stays.2]

theorem arrived_of_went
    (went : Went (.event (.packageAdded package uid)) before heard deed (.ok .done) after)
    (reaches : before.table.store.Reaches before.files location (userOf uid))
    (clear : Clear before.files location (userOf uid)) :
    Arrived location (userOf uid) package before (exchangesOf heard) after := by
  obtain ⟨honest, _⟩ := honest_of_hears went.hears
  cases went.course with
  | unstaged bare =>
      exact arrived_of_idle (fun _ => rfl) (StagedTable.due?_eq_none_iff.2 (.inl bare)) went.stays
  | idle found idle =>
      refine arrived_of_idle (fun _ => rfl) ?_ went.stays
      rw [due?_of_installed honest List.mem_cons_self found]
      split
      next installed => exact idle installed
      next => rfl
  | @drained _ tags _ record others found waits applies =>
      have due := due?_of_installed honest List.mem_cons_self found
      rw [if_pos rfl, waits] at due
      obtain ⟨table, files⟩ := Work.yields_unique went.staged
        (StagedTable.yields_persist_insert reaches clear (record.without package))
      refine ⟨?_, ?_⟩
      · rw [due]
        exact resolved_of_applies honest applies
      · rw [StagedTable.drained_of_due found due, table, files]
  | notified notifies => cases notifies

theorem unmoved_of_went {answer : Except Panic Reply}
    (went : Went (.event (.packageAdded package uid)) before heard deed answer after)
    (idle : before.table.due? (userOf uid) ((LawfulHost.view before.host).applications (userOf uid))
      package = none) :
    (LawfulHost.view after.host).live = (LawfulHost.view before.host).live ∧
      after.table = before.table ∧ after.files = before.files := by
  obtain ⟨honest, seen⟩ := honest_of_hears went.hears
  cases went.course with
  | unstaged bare =>
      rw [seen]
      exact ⟨rfl, went.stays⟩
  | unasked found panic =>
      rw [seen]
      exact ⟨rfl, went.stays⟩
  | idle found inert =>
      rw [seen]
      exact ⟨rfl, went.stays⟩
  | drained found waits applies =>
      rw [due?_of_installed honest List.mem_cons_self found, if_pos rfl, waits] at idle
      cases idle
  | interrupted found waits applies =>
      rw [due?_of_installed honest List.mem_cons_self found, if_pos rfl, waits] at idle
      cases idle
  | notified notifies => cases notifies
  | unnotified notifies => cases notifies
  | untimed timed => simp [Request.sweeps, Request.payload?] at timed

end Arrival

/-- What is left once a package has arrived that something waited for, when these calls were made. -/
structure Reconciled (package tags : String) (user : UserId) (location : Location)
    (record : StagedRecord) (made : List Exchange) (before after : Agent η FileTree) : Prop where
  resolution : Resolution user package tags (before.sight.live user package) (callsAbout made package)
    (after.sight.live user package)
  untouched : ∀ owner other, ¬(owner = user ∧ other = package) →
    after.sight.live owner other = before.sight.live owner other
  remaining : ∃ left : StagedRecord, left.created = record.created ∧
    (∀ other, left.pending.get? other =
      if other = package then none else record.pending.get? other) ∧
    after.table.get? user = if left.pending.isEmpty then none else some left
  stored : ∀ left, after.table.get? user = some left → ∃ content,
    after.workspace.files.node? (stageLocation location user) = some (.file content) ∧
      Document.decode content = .ok left.document
  gone : after.table.get? user = none →
    after.workspace.files.node? (stageLocation location user) = none
  others : ∀ other, other ≠ user → after.table.get? other = before.table.get? other
  aside : ∀ place, place ≠ stageLocation location user → place ≠ temporaryLocation location user →
    after.workspace.files.node? place = before.workspace.files.node? place

section Arrivals
variable {agent after : Agent η FileTree} {location : Location} {user : UserId}
  {package tags : String} {made : List Exchange} {record : StagedRecord}

theorem Arrived.mirrored (arrived : Arrived location user package agent.standing made after.standing)
    (mirrored : Mirrored agent.table agent.workspace.files location user) :
    Mirrored after.table after.workspace.files location user := by
  have drains := mirrored.drained (agent.sight.applications user) package
  have stored : (after.table, after.workspace.files) = drained location user
      (agent.sight.applications user) package (agent.table, agent.workspace.files) := arrived.stored
  rw [← stored] at drains
  exact drains

theorem reconciled_of_arrived
    (arrived : Arrived location user package agent.standing made after.standing)
    (seen : after.sight = agent.sight.replay made)
    (mirrored : Mirrored agent.table agent.workspace.files location user)
    (found : agent.table.get? user = some record)
    (waits : record.pending.get? package = some tags)
    (installed : package ∈ agent.sight.applications user) :
    Reconciled package tags user location record made agent after := by
  have due : agent.table.due? user (agent.sight.applications user) package = some tags := by
    simp [StagedTable.due?, StagedTable.waiting?, installed, found, waits]
  have drains : drained location user (agent.sight.applications user) package
      (agent.table, agent.workspace.files) = _ := StagedTable.drained_of_due found due
  have stored : (after.table, after.workspace.files) = _ := arrived.stored.trans drains
  have table : after.table = agent.table.keep user (record.without package) :=
    congrArg Prod.fst stored
  have files : after.workspace.files =
      keepFile agent.workspace.files location user (record.without package) :=
    congrArg Prod.snd stored
  refine ⟨?_, ?_, ⟨record.without package, rfl, ?_, ?_⟩, ?_, ?_, ?_, ?_⟩
  · rw [seen]
    exact arrived.resolved.live_of_some ((if_pos rfl).trans due)
  · intro owner other apart
    rw [seen]
    by_cases here : owner = user
    · exact arrived.resolved.live_of_none (if_neg fun same => apart ⟨here, same⟩) owner
    · exact arrived.resolved.live_of_ne here other
  · intro other
    by_cases same : other = package
    · subst same
      simp [StagedRecord.without]
    · rw [if_neg same]
      exact SortedMap.get?_erase_of_ne _ same
  · rw [table, StagedTable.get?_keep, if_pos rfl]
  · intro left kept
    exact ((arrived.mirrored mirrored).held left).1 kept
  · rw [table, files, StagedTable.get?_keep, if_pos rfl, StagedTable.node?_keepFile]
    split
    next => exact fun _ => rfl
    next => exact fun absent => by cases absent
  · intro other apart
    rw [table, StagedTable.get?_keep, if_neg apart]
  · intro place apart aside
    rw [files, StagedTable.node?_keepFile_of_ne _ apart aside]

theorem Arrived.then {middle : Agent η FileTree} {other : String} {others : List Exchange}
    (first : Arrived location user package agent.standing made middle.standing)
    (second : Arrived location user other middle.standing others after.standing)
    (seen : middle.sight = agent.sight.replay made) (apart : other ≠ package) :
    Resolved user (fun asked => (if asked = package
          then agent.table.due? user (agent.sight.applications user) package else none).or
        (if asked = other
          then agent.table.due? user (agent.sight.applications user) other else none))
      agent.sight (made ++ others) ∧
    (after.table, after.workspace.files) =
      drained location user (agent.sight.applications user) other
        (drained location user (agent.sight.applications user) package
          (agent.table, agent.workspace.files)) := by
  have packages : (LawfulHost.view middle.standing.host).applications = agent.sight.applications :=
    (congrArg DeviceView.applications seen).trans (DeviceView.applications_replay _ _)
  have stored : (middle.table, middle.workspace.files) = drained location user
      (agent.sight.applications user) package (agent.table, agent.workspace.files) := first.stored
  have still : middle.table.due? user (agent.sight.applications user) other =
      agent.table.due? user (agent.sight.applications user) other := by
    have left := congrArg (fun kept : StagedTable × FileTree =>
      kept.1.due? user (agent.sight.applications user) other) stored
    exact left.trans ((StagedTable.due?_drained other).trans (if_neg apart))
  obtain ⟨resolved, stored_later⟩ := second
  rw [packages] at resolved stored_later
  constructor
  · have later : Resolved user (fun asked => if asked = other then
        agent.table.due? user (agent.sight.applications user) other else none)
        (agent.sight.replay made) others := by
      rw [← seen, ← still]
      exact resolved
    refine first.resolved.append later ?_
    intro asked
    by_cases here : asked = package
    · exact .inr (if_neg fun same => apart (same.symm.trans here))
    · exact .inl (if_neg here)
  · rw [← stored]
    exact stored_later

end Arrivals

section Events
variable {agent : Agent η FileTree} {uid : UInt32} {location : Location}

theorem arrived_packageAdded
    (mirrored : Mirrored agent.table agent.workspace.files location (userOf uid)) (package : String) :
    let run := (packageAdded package uid).run agent
    run.2.sight = agent.sight.replay (callsSince agent run.2) ∧
      (Calm (callsSince agent run.2) → run.1 = .ok ()) ∧
      (run.1 = .ok () → Arrived location (userOf uid) package agent.standing (callsSince agent run.2)
        run.2.standing) := by
  intro run
  have went : ∃ heard deed, Went (.event (.packageAdded package uid)) agent.standing heard deed
      (run.1.map fun _ => .done) run.2.standing := went_handle agent (.packageAdded package uid)
  obtain ⟨heard, deed, went⟩ := went
  obtain ⟨seen, made⟩ := callsSince_of_hears went.hears
  have seen_run : run.2.sight = agent.sight.replay (exchangesOf heard) := seen
  rw [show callsSince agent run.2 = exchangesOf heard from made]
  refine ⟨seen_run, ?_, ?_⟩
  · intro calm
    obtain ⟨⟨⟩, done⟩ := returned_of_map (went.returns calm)
    exact done
  · intro done
    rw [done] at went
    exact arrived_of_went went mirrored.reaches mirrored.clear

theorem unmoved_packageAdded {package : String}
    (idle : agent.table.due? (userOf uid) (agent.sight.applications (userOf uid)) package = none) :
    let run := (packageAdded package uid).run agent
    run.2.sight.live = agent.sight.live ∧ run.2.table = agent.table ∧
      run.2.workspace.files = agent.workspace.files := by
  intro run
  obtain ⟨heard, deed, went⟩ := went_handle agent (.packageAdded package uid)
  exact unmoved_of_went went idle

theorem packageAdded_again
    (mirrored : Mirrored agent.table agent.workspace.files location (userOf uid)) (package : String)
    {later : UInt32} (same : userOf later = userOf uid) :
    let run := (packageAdded package uid).run agent
    let again := (packageAdded package later).run run.2
    run.1 = .ok () → again.2.sight.live = run.2.sight.live ∧ again.2.table = run.2.table ∧
      again.2.workspace.files = run.2.workspace.files := by
  intro run again done
  obtain ⟨seen, _, arrives⟩ := arrived_packageAdded mirrored package
  have stored : (run.2.table, run.2.workspace.files) = drained location (userOf uid)
      (agent.sight.applications (userOf uid)) package (agent.table, agent.workspace.files) :=
    (arrives done).stored
  have packages : run.2.sight.applications = agent.sight.applications :=
    (congrArg DeviceView.applications seen).trans (DeviceView.applications_replay _ _)
  have settled : run.2.table.due? (userOf later) (run.2.sight.applications (userOf later)) package =
      none := by
    rw [same, packages]
    have left := congrArg (fun kept : StagedTable × FileTree =>
      kept.1.due? (userOf uid) (agent.sight.applications (userOf uid)) package) stored
    exact left.trans ((StagedTable.due?_drained package).trans (if_pos rfl))
  exact unmoved_packageAdded settled

theorem packageAdded_comm
    (mirrored : Mirrored agent.table agent.workspace.files location (userOf uid))
    {package other : String} (apart : other ≠ package) {later : UInt32}
    (same : userOf later = userOf uid) :
    let run := (packageAdded package uid).run agent
    let forth := (packageAdded other later).run run.2
    let first := (packageAdded other later).run agent
    let back := (packageAdded package uid).run first.2
    run.1 = .ok () → forth.1 = .ok () → first.1 = .ok () → back.1 = .ok () →
      back.2.table = forth.2.table ∧
      (∀ place, back.2.workspace.files.node? place = forth.2.workspace.files.node? place) ∧
      (Alike (callsSince agent forth.2) (callsSince agent back.2) →
        back.2.sight.live = forth.2.sight.live) := by
  intro run forth first back run_done forth_done first_done back_done
  have mirrored_later : Mirrored agent.table agent.workspace.files location (userOf later) :=
    same ▸ mirrored
  obtain ⟨seen_run, _, arrives_run⟩ := arrived_packageAdded mirrored package
  obtain ⟨seen_first, _, arrives_first⟩ := arrived_packageAdded mirrored_later other
  have arrived_run := arrives_run run_done
  have arrived_first := arrives_first first_done
  obtain ⟨seen_forth, _, arrives_forth⟩ :=
    arrived_packageAdded (same.symm ▸ arrived_run.mirrored mirrored) other
  obtain ⟨seen_back, _, arrives_back⟩ :=
    arrived_packageAdded (same ▸ arrived_first.mirrored mirrored_later) package
  have arrived_forth := arrives_forth forth_done
  have arrived_back := arrives_back back_done
  rw [same] at arrived_first arrived_forth
  obtain ⟨resolved_forth, stored_forth⟩ := arrived_run.then arrived_forth seen_run apart
  obtain ⟨resolved_back, stored_back⟩ := arrived_first.then arrived_back seen_first apart.symm
  obtain ⟨tables, files⟩ := @StagedTable.drained_comm location (userOf uid)
    (agent.sight.applications (userOf uid)) _ _ apart.symm (agent.table, agent.workspace.files)
  rw [← stored_forth, ← stored_back] at tables files
  refine ⟨tables, files, ?_⟩
  have seen_both : forth.2.sight =
      agent.sight.replay (callsSince agent run.2 ++ callsSince run.2 forth.2) := by
    rw [DeviceView.replay_append, ← seen_run]
    exact seen_forth
  have seen_other : back.2.sight =
      agent.sight.replay (callsSince agent first.2 ++ callsSince first.2 back.2) := by
    rw [DeviceView.replay_append, ← seen_first]
    exact seen_back
  rw [callsSince_of_replay seen_both, callsSince_of_replay seen_other, seen_both, seen_other]
  intro alike
  refine (resolved_forth.live_congr ?_ alike).symm
  convert resolved_back using 1
  funext asked
  by_cases here : asked = package
  · simp [here, apart.symm]
  · simp [here]

/-- A package that arrives is resolved if something waits for it, and then leaves the record of its user
in memory and on the disk. Nothing else changes, and nothing at all if nothing waits. So the same package
that arrives again changes nothing, and two packages may arrive in any order. -/
theorem packageAdded_reconciles (agent : Agent η FileTree) (package : String) (uid : UInt32)
    (location : Location)
    (mirrored : Mirrored agent.table agent.workspace.files location (userOf uid)) :
    let run := (packageAdded package uid).run agent
    (Calm (callsSince agent run.2) → run.1 = .ok ()) ∧
    (agent.table.get? (userOf uid) = none ∨ package ∉ agent.sight.applications (userOf uid) ∨
        (∀ record, agent.table.get? (userOf uid) = some record →
          record.pending.get? package = none) →
      run.2.sight.live = agent.sight.live ∧ run.2.table = agent.table ∧
        run.2.workspace.files = agent.workspace.files) ∧
    (∀ record tags, agent.table.get? (userOf uid) = some record →
      record.pending.get? package = some tags → package ∈ agent.sight.applications (userOf uid) →
      run.1 = .ok () →
        Reconciled package tags (userOf uid) location record (callsSince agent run.2) agent run.2) ∧
    (run.1 = .ok () → Mirrored run.2.table run.2.workspace.files location (userOf uid)) ∧
    ∀ later, userOf later = userOf uid →
      let again := (packageAdded package later).run run.2
      (run.1 = .ok () → again.2.sight.live = run.2.sight.live ∧ again.2.table = run.2.table ∧
        again.2.workspace.files = run.2.workspace.files) ∧
      ∀ other, other ≠ package →
        let forth := (packageAdded other later).run run.2
        let first := (packageAdded other later).run agent
        let back := (packageAdded package uid).run first.2
        run.1 = .ok () → forth.1 = .ok () → first.1 = .ok () → back.1 = .ok () →
          back.2.table = forth.2.table ∧
          (∀ place, back.2.workspace.files.node? place = forth.2.workspace.files.node? place) ∧
          (Alike (callsSince agent forth.2) (callsSince agent back.2) →
            back.2.sight.live = forth.2.sight.live) := by
  intro run
  obtain ⟨seen, returns, arrives⟩ := arrived_packageAdded mirrored package
  refine ⟨returns, ?_, ?_, ?_, ?_⟩
  · intro idle
    exact unmoved_packageAdded (StagedTable.due?_eq_none_iff.2 idle)
  · intro record tags found waits installed done
    exact reconciled_of_arrived (arrives done) seen mirrored found waits installed
  · intro done
    exact (arrives done).mirrored mirrored
  · intro later same
    refine ⟨packageAdded_again mirrored package same, ?_⟩
    intro other apart
    exact packageAdded_comm mirrored apart same

end Events

def bothWaiting : StagedRecord := ⟨1000, SortedMap.ofList [("com.a", "de"), ("com.b", "ja")]⟩

def bothArriving : Agent Device FileTree :=
  let device := ((Device.new 1700000000000).install "com.a" 7).install "com.b" 7
  let agent := unused (device.breakPackage "com.a" ⟨false, true, false, false⟩)
  { agent with
    table := agent.table.keep 7 bothWaiting
    workspace := ⟨keepFile StageStore.emptyStage [Utf8.encode "stage"] 7 bothWaiting, []⟩ }

theorem mirrored_bothArriving :
    Mirrored bothArriving.table bothArriving.workspace.files [Utf8.encode "stage"] 7 := by
  have empty := inStep_empty StageStore.finds_emptyStage (by decide) StageStore.bare_emptyStage
    ⟨259200, 0⟩
  have filled : bothWaiting.document.Filled := by
    unfold Document.Filled
    decide +kernel
  exact (StagedTable.inStep_keep empty filled 7).mirrored 7

theorem packageAdded_reconciles_bothArriving :
    let run := (packageAdded "com.a" 700001).run bothArriving
    let again := (packageAdded "com.a" 700002).run run.2
    let forth := (packageAdded "com.b" 700002).run run.2
    let back := (packageAdded "com.a" 700001).run ((packageAdded "com.b" 700002).run bothArriving).2
    run.1 = .ok () ∧
      Reconciled "com.a" "de" 7 [Utf8.encode "stage"] bothWaiting (callsSince bothArriving run.2)
        bothArriving run.2 ∧
      again.2.table = run.2.table ∧ back.2.table = forth.2.table ∧
      back.2.sight.live = forth.2.sight.live ∧
      ((packageAdded "com.c" 700001).run bothArriving).2.table = bothArriving.table := by
  obtain ⟨returns, _, reconciles, _, others⟩ := packageAdded_reconciles bothArriving "com.a" 700001
    [Utf8.encode "stage"] mirrored_bothArriving
  obtain ⟨again, commutes⟩ := others 700002 (by decide)
  have done := returns (by unfold Calm; decide +kernel)
  obtain ⟨tables, _, live⟩ := commutes "com.b" (by decide) done (by decide +kernel)
    (by decide +kernel) (by decide +kernel)
  obtain ⟨_, idle, _⟩ := packageAdded_reconciles bothArriving "com.c" 700001
    [Utf8.encode "stage"] mirrored_bothArriving
  obtain ⟨_, unchanged, _⟩ := idle (.inr (.inl (by decide +kernel)))
  have alike := live (by unfold Alike; decide +kernel)
  exact ⟨done, reconciles bothWaiting "de" (by decide +kernel) (by decide +kernel)
    (by decide +kernel) done, (again done).2.1, tables, alike, unchanged⟩

end Agent
end LocaleStaging
