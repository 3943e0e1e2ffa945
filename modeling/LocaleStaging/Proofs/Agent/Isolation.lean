import LocaleStaging.Proofs.Agent.Abreast
import LocaleStaging.Proofs.Agent.RestoreOrder

namespace LocaleStaging

variable {η : Type} [Host η] [LawfulHost η]

/-! ## Changes of a device -/

/-- A change of a device that depends, as to one user and the clock, only on that user and the clock. -/
structure Respects (hosts : η → Prop) (user : UserId) (change : η → η) : Prop where
  inside : ∀ host, hosts host → hosts (change host)
  same : ∀ one two, hosts one → hosts two → SameFor user one two →
    (Host.now one).1 = (Host.now two).1 →
      SameFor user (change one) (change two) ∧
        (Host.now (change one)).1 = (Host.now (change two)).1

/-- A change that sets the clock, and nothing else that can be observed but the calls so far. -/
structure SetsClock (hosts : η → Prop) (change : η → η) : Prop where
  inside : ∀ host, hosts host → hosts (change host)
  reading : ∀ one two, hosts one → hosts two →
    (Host.now (change one)).1 = (Host.now (change two)).1
  live : ∀ host, (LawfulHost.view (change host)).live = (LawfulHost.view host).live
  applications : ∀ host,
    (LawfulHost.view (change host)).applications = (LawfulHost.view host).applications

theorem SetsClock.respects {hosts : η → Prop} {change : η → η} (sets : SetsClock hosts change)
    (user : UserId) : Respects hosts user change where
  inside := sets.inside
  same one two inside inside_two same _ := by
    refine ⟨?_, sets.reading one two inside inside_two⟩
    rw [SameFor, sets.live, sets.live, sets.applications, sets.applications]
    exact same

/-! ## Runs for one user -/

def Request.only? (user : UserId) (made : Request) : Option Request :=
  if made.user? = some user then some made else if made.sweeps then some .sweep else none

namespace Agent

/-- A run without the requests for other users. Their backups become sweeps. -/
def only (user : UserId) (turns : List (Turn η)) : List (Turn η) :=
  turns.filterMap fun
    | .request made => (made.only? user).map .request
    | .elsewhere change => some (.elsewhere change)

def payloadsFor (user : UserId) (replies : List (Request × Except Panic Reply)) :
    List (Except Panic Reply) :=
  replies.filterMap fun reply =>
    match reply.1 with
    | .backup owner => if owner = user then some reply.2 else none
    | _ => none

section Related
variable {hosts : η → Prop} {location : Location} {user : UserId}

theorem level_elsewhere {change : η → η} (respects : Respects hosts user change)
    {one two : Agent η FileTree} (level : IsLevel hosts location user one two) :
    IsLevel hosts location user (one.turn (.elsewhere change)) (two.turn (.elsewhere change)) := by
  obtain ⟨same, clock⟩ :=
    respects.same _ _ level.first.host level.second.host level.sameFor level.clock
  exact ⟨level.with_hosts (respects.inside _ level.first.host)
    (respects.inside _ level.second.host) same, clock⟩

omit [Host η] [LawfulHost η] in
theorem payloadsFor_cons_of_foreign {made : Request} (foreign : made.user? ≠ some user)
    (answer : Except Panic Reply) (replies : List (Request × Except Panic Reply)) :
    payloadsFor user ((made, answer) :: replies) = payloadsFor user replies := by
  cases made with
  | backup owner =>
      have other : owner ≠ user := fun same => foreign (congrArg some same)
      simp [payloadsFor, other]
  | restore payload owner => rfl
  | event event => rfl
  | sweep => rfl

omit [Host η] [LawfulHost η] in
theorem payloadsFor_cons_congr {made : Request} {answer other : Except Panic Reply}
    {replies others : List (Request × Except Panic Reply)}
    (same : made = .backup user → answer = other)
    (rest : payloadsFor user replies = payloadsFor user others) :
    payloadsFor user ((made, answer) :: replies) = payloadsFor user ((made, other) :: others) := by
  cases made with
  | backup owner =>
      by_cases own : owner = user
      · subst own
        rw [same rfl]
        simpa [payloadsFor] using rest
      · simpa [payloadsFor, own] using rest
  | restore payload owner => exact rest
  | event event => exact rest
  | sweep => exact rest

theorem level_run (secludes : Secludes hosts user) (still : Still hosts) (turns : List (Turn η))
    (respects : ∀ change, .elsewhere change ∈ turns → Respects hosts user change)
    {one two : Agent η FileTree} (level : IsLevel hosts location user one two) :
    IsLevel hosts location user (one.after turns) (two.after (only user turns)) ∧
      payloadsFor user (one.replies turns) = payloadsFor user (two.replies (only user turns)) := by
  induction turns generalizing one two with
  | nil => exact ⟨level, rfl⟩
  | cons next turns ih =>
      have later : ∀ change, .elsewhere change ∈ turns → Respects hosts user change :=
        fun change member => respects change (List.mem_cons_of_mem next member)
      cases next with
      | elsewhere change =>
          exact ih later (level_elsewhere (respects change List.mem_cons_self) level)
      | request made =>
          by_cases own : made.user? = some user
          · have kept : only user (.request made :: turns) = .request made :: only user turns := by
              simp [only, Request.only?, own]
            rw [kept]
            obtain ⟨ended, payloads⟩ := ih later (level_kept secludes still level own)
            refine ⟨ended, payloadsFor_cons_congr ?_ payloads⟩
            rintro rfl
            exact answers_backup secludes still level
          · cases sweeps : made.sweeps with
            | true =>
                have swept : only user (.request made :: turns) =
                    .request .sweep :: only user turns := by
                  simp [only, Request.only?, own, sweeps]
                rw [swept]
                have nobody : Request.user? .sweep ≠ some user := by simp [Request.user?]
                obtain ⟨ended, payloads⟩ :=
                  ih later (level_swept still level own nobody sweeps rfl)
                refine ⟨ended, ?_⟩
                refine (payloadsFor_cons_of_foreign own _ _).trans (payloads.trans ?_)
                exact (payloadsFor_cons_of_foreign nobody _ _).symm
            | false =>
                have dropped : only user (.request made :: turns) = only user turns := by
                  simp [only, Request.only?, own, sweeps]
                rw [dropped]
                -- The request is done in one run only, and the agents stay abreast.
                have before := level_dropped still own sweeps level.first
                obtain ⟨ended, payloads⟩ := ih later (before.symm.trans level)
                exact ⟨ended, (payloadsFor_cons_of_foreign own _ _).trans payloads⟩

/-! ## Two requests in either order -/

theorem akin_elsewhere {change : η → η} (sets : SetsClock hosts change) {agent : Agent η FileTree}
    (placed : Placed hosts location agent.standing) :
    Akin hosts location user agent.standing (agent.turn (.elsewhere change)).standing :=
  placed.akin.with_hosts placed.host (sets.inside _ placed.host)
    ⟨congrFun (sets.live _).symm user, congrFun (sets.applications _).symm user⟩

theorem level_elsewhere_of_akin {change : η → η} (sets : SetsClock hosts change)
    {one two : Agent η FileTree} (akin : Akin hosts location user one.standing two.standing) :
    IsLevel hosts location user (one.turn (.elsewhere change)) (two.turn (.elsewhere change)) :=
  ⟨(akin_elsewhere sets akin.first).symm.trans (akin.trans (akin_elsewhere sets akin.second)),
    sets.reading _ _ akin.first.host akin.second.host⟩

theorem akin_dropped (still : Still hosts) {change : η → η} (sets : SetsClock hosts change)
    {agent : Agent η FileTree} {made : Request} (foreign : made.user? ≠ some user)
    (bare : made.sweeps = false) (placed : Placed hosts location agent.standing) :
    Akin hosts location user agent.standing
      (agent.after [.elsewhere change, .request made]).standing :=
  have moved := akin_elsewhere sets placed
  moved.trans (level_dropped still foreign bare moved.second).toAkin

theorem level_request (still : Still hosts) {made : Request}
    (secludes : made.user? = some user → Secludes hosts user) (bare : made.sweeps = false)
    {one two : Agent η FileTree} (level : IsLevel hosts location user one two) :
    IsLevel hosts location user (one.turn (.request made)) (two.turn (.request made)) := by
  by_cases own : made.user? = some user
  · exact level_kept (secludes own) still level own
  · have first := level_dropped still own bare level.first
    have second := level_dropped still own bare level.second
    exact first.symm.trans (level.trans second)

theorem akin_swapped (still : Still hosts) {early late : η → η} (sets : SetsClock hosts early)
    (sets_late : SetsClock hosts late) {agent : Agent η FileTree} {first second : Request}
    (secludes : first.user? = some user → Secludes hosts user) (bare : first.sweeps = false)
    (foreign : second.user? ≠ some user) (bare_second : second.sweeps = false)
    (placed : Placed hosts location agent.standing) :
    Akin hosts location user
      (agent.after [.elsewhere early, .request first, .elsewhere late, .request second]).standing
      (agent.after [.elsewhere late, .request second, .elsewhere early, .request first]).standing := by
  have before := akin_dropped still sets_late foreign bare_second placed
  have first_level := level_request still secludes bare (level_elsewhere_of_akin sets before)
  have behind := akin_dropped still sets_late foreign bare_second first_level.first
  exact behind.symm.trans first_level.toAkin

end Related

theorem table_eq_of_akin {hosts : η → Prop} {location : Location} {one two : Agent η FileTree}
    (akin : ∀ user, Akin hosts location user one.standing two.standing) : one.table = two.table := by
  apply StagedTable.ext_get? (akin 0).store (akin 0).retention
  intro user
  exact congrArg Share.record (akin user).share

theorem node?_eq_of_akin {hosts : η → Prop} {location : Location} {one two : Agent η FileTree}
    (akin : ∀ user, Akin hosts location user one.standing two.standing) (place : Location) :
    one.workspace.files.node? place = two.workspace.files.node? place := by
  by_cases unowned : Unowned location place
  · exact (akin 0).rest place unowned
  · simp only [Unowned, not_forall, not_and_or, not_not] at unowned
    obtain ⟨user, rfl | rfl⟩ := unowned
    · exact congrArg Share.stage (akin user).share
    · exact congrArg Share.temporary (akin user).share

/-- If what is for other users is left out of a run, then one user keeps the same live preferences, record
and stage file, and gets the same payloads. Two requests for different users can change places. -/
theorem users_isolated {hosts : η → Prop} (still : Still hosts) {location : Location}
    (agent : Agent η FileTree) (placed : Placed hosts location agent.standing) :
    (∀ user turns, Secludes hosts user →
      (∀ change, .elsewhere change ∈ turns → Respects hosts user change) →
      (agent.after turns).standing.share location user =
          (agent.after (only user turns)).standing.share location user ∧
        payloadsFor user (agent.replies turns) =
          payloadsFor user (agent.replies (only user turns))) ∧
    ∀ first second user other early late, first.user? = some user → second.user? = some other →
      user ≠ other → first.sweeps = false → second.sweeps = false →
      Secludes hosts user → Secludes hosts other → SetsClock hosts early → SetsClock hosts late →
      let one := agent.after [.elsewhere early, .request first, .elsewhere late, .request second]
      let two := agent.after [.elsewhere late, .request second, .elsewhere early, .request first]
      one.table = two.table ∧ one.sight.live = two.sight.live ∧
        ∀ place, one.workspace.files.node? place = two.workspace.files.node? place := by
  constructor
  · intro user turns secludes respects
    have level : IsLevel hosts location user agent agent := ⟨placed.akin, rfl⟩
    obtain ⟨ended, payloads⟩ := level_run secludes still turns respects level
    exact ⟨ended.share, payloads⟩
  · intro first second user other early late own own_second apart bare bare_second secludes
      secludes_other sets sets_late one two
    -- To each user at least one of the requests is foreign, and it may come first or last.
    have akin (owner : UserId) : Akin hosts location owner one.standing two.standing := by
      by_cases here : owner = other
      · subst here
        apply Akin.symm
        apply akin_swapped still sets_late sets (fun _ => secludes_other) bare_second ?_ bare placed
        rw [own]
        exact fun same => apart (Option.some.inj same)
      · apply akin_swapped still sets sets_late ?_ bare ?_ bare_second placed
        · intro named
          obtain rfl := Option.some.inj (own.symm.trans named)
          exact secludes
        · rw [own_second]
          exact fun same => here (Option.some.inj same).symm
    refine ⟨table_eq_of_akin akin, ?_, node?_eq_of_akin akin⟩
    funext owner
    exact congrArg Share.live (akin owner).share

/-! ## On a device in memory -/

def FaultedBy (outages : DeviceCall → Option Outage) (device : Device) : Prop :=
  ∀ earlier call, device.outage? earlier call = outages call

theorem call_faultedBy {outages : DeviceCall → Option Outage} {one two : Device} {α : Type}
    (faulted : FaultedBy outages one) (faulted_two : FaultedBy outages two) {made : DeviceCall}
    {answer : Option String → HostCall Device α}
    (same : ∀ detail, (answer detail (one.noted made)).1 = (answer detail (two.noted made)).1) :
    (Device.call made answer one).1 = (Device.call made answer two).1 := by
  unfold Device.call
  rw [faulted, faulted_two]
  cases outages made with
  | none => exact same none
  | some reason =>
      cases reason with
      | panics message => rfl
      | fails detail => exact same (some detail)

theorem still_faultedBy (outages : DeviceCall → Option Outage) : Still (FaultedBy outages) := by
  intro device faulted made
  obtain ⟨clock, outage, _⟩ := make_keeps device made
  have faulted_after : FaultedBy outages (made.make device).2 := by
    intro earlier call
    rw [outage]
    exact faulted earlier call
  exact ⟨faulted_after, call_faultedBy faulted_after faulted fun _ => congrArg Except.ok clock⟩

theorem secludes_faultedBy (outages : DeviceCall → Option Outage) (user : UserId) :
    Secludes (FaultedBy outages) user where
  isInstalled one two faulted faulted_two same package :=
    call_faultedBy faulted faulted_two fun _ =>
      congrArg (fun packages => Except.ok (List.contains packages package)) same.2
  installedPackages one two faulted faulted_two same :=
    call_faultedBy faulted faulted_two fun _ => congrArg Except.ok same.2
  locales one two faulted faulted_two same package := by
    apply call_faultedBy faulted faulted_two
    intro detail
    cases detail with
    | some detail => rfl
    | none => exact congrArg (fun live => Except.ok (Except.ok (live package))) same.1
  setLocales one two faulted faulted_two same package list := by
    apply call_faultedBy faulted faulted_two
    intro detail
    cases detail with
    | some detail => rfl
    | none => rfl

def setClock (now : Int64) (device : Device) : Device := { device with clock := now }

theorem setsClock_faultedBy (outages : DeviceCall → Option Outage) (now : Int64) :
    SetsClock (FaultedBy outages) (setClock now) where
  inside _ faulted := faulted
  reading one two faulted faulted_two := by
    have first : FaultedBy outages (setClock now one) := faulted
    have second : FaultedBy outages (setClock now two) := faulted_two
    exact call_faultedBy first second fun _ => rfl
  live _ := rfl
  applications _ := rfl

def outagesOfTwo : DeviceCall → Option Outage
  | .installedPackages 2 => some (.panics "user 2 is locked")
  | _ => none

def divided : Agent Device FileTree :=
  unused { Device.new 1700000000000 with outage? := fun _ call => outagesOfTwo call }

def restoreFor (user : UserId) : Request :=
  .restore (some (Document.encode ⟨none, SortedMap.ofList [("com.a", "en-US")]⟩)) user

def dividedTurns : List (Turn Device) :=
  [.request (restoreFor 1), .request (restoreFor 2), .elsewhere (setClock 1700000001000),
    .request (.backup 2), .request (.event (.userRemoved 2)), .request (.backup 1)]

theorem users_isolated_divided :
    (divided.after dividedTurns).standing.share [Utf8.encode "stage"] 1 =
        (divided.after (only 1 dividedTurns)).standing.share [Utf8.encode "stage"] 1 ∧
      ((divided.after dividedTurns).table.get? 1).isSome ∧
      (divided.after [.elsewhere (setClock 1), .request (restoreFor 1),
          .elsewhere (setClock 2), .request (restoreFor 2)]).table =
        (divided.after [.elsewhere (setClock 2), .request (restoreFor 2),
          .elsewhere (setClock 1), .request (restoreFor 1)]).table := by
  have placed : Placed (FaultedBy outagesOfTwo) [Utf8.encode "stage"] divided.standing :=
    ⟨fun _ _ => rfl, StageStore.ready_emptyStage.reaches, StageStore.clear_emptyStage⟩
  have secludes := secludes_faultedBy outagesOfTwo
  have sets := setsClock_faultedBy outagesOfTwo
  obtain ⟨left_out, swapped⟩ := users_isolated (still_faultedBy outagesOfTwo) divided placed
  have respects (change : Device → Device) (member : .elsewhere change ∈ dividedTurns) :
      Respects (FaultedBy outagesOfTwo) 1 change := by
    obtain rfl : change = setClock 1700000001000 := by simpa [dividedTurns] using member
    exact (sets _).respects 1
  obtain ⟨share, _⟩ := left_out 1 dividedTurns (secludes 1) respects
  obtain ⟨table, _, _⟩ := swapped (restoreFor 1) (restoreFor 2) 1 2 (setClock 1) (setClock 2) rfl rfl
    (by decide) rfl rfl (secludes 1) (secludes 2) (sets 1) (sets 2)
  exact ⟨share, by decide +kernel, table⟩

end Agent
end LocaleStaging
