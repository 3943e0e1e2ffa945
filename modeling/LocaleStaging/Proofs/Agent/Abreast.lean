import LocaleStaging.Proofs.Agent.Calls
import LocaleStaging.Proofs.Agent.Share

namespace LocaleStaging

variable {η : Type} [Host η] [LawfulHost η]

/-! ## Devices that keep users apart -/

def SameFor (user : UserId) (one two : η) : Prop :=
  (LawfulHost.view one).live user = (LawfulHost.view two).live user ∧
    (LawfulHost.view one).applications user = (LawfulHost.view two).applications user

/-- A call leads from one of these devices to another, and does not move the clock. Time passes between
requests. -/
def Still (hosts : η → Prop) : Prop :=
  ∀ host, hosts host → ∀ made : DeviceCall,
    hosts (made.make host).2 ∧ (Host.now (made.make host).2).1 = (Host.now host).1

/-- What these devices answer about a user depends only on the live preferences and applications of that
user. -/
structure Secludes (hosts : η → Prop) (user : UserId) : Prop where
  isInstalled : ∀ one two, hosts one → hosts two → SameFor user one two → ∀ package,
    (Host.isInstalled package user one).1 = (Host.isInstalled package user two).1
  installedPackages : ∀ one two, hosts one → hosts two → SameFor user one two →
    (Host.installedPackages user one).1 = (Host.installedPackages user two).1
  locales : ∀ one two, hosts one → hosts two → SameFor user one two → ∀ package,
    (Host.locales package user one).1 = (Host.locales package user two).1
  setLocales : ∀ one two, hosts one → hosts two → SameFor user one two → ∀ package list,
    (Host.setLocales package user list one).1 = (Host.setLocales package user list two).1

namespace Agent

/-! ## Agents that are the same for a user -/

structure Placed (hosts : η → Prop) (location : Location) (standing : Standing η FileTree) :
    Prop where
  host : hosts standing.host
  sound : standing.table.store.Sound standing.files location

structure Akin (hosts : η → Prop) (location : Location) (user : UserId)
    (one two : Standing η FileTree) : Prop where
  first : Placed hosts location one
  second : Placed hosts location two
  store : one.table.store = two.table.store
  retention : one.table.retention = two.table.retention
  share : one.share location user = two.share location user
  rest : ∀ place, Unowned location place → one.files.node? place = two.files.node? place

structure Abreast (hosts : η → Prop) (location : Location) (user : UserId)
    (one two : Standing η FileTree) : Prop extends Akin hosts location user one two where
  clock : (Host.now one.host).1 = (Host.now two.host).1

section Related
variable {hosts : η → Prop} {location : Location} {user : UserId} {one two three : Standing η FileTree}

theorem Akin.symm (akin : Akin hosts location user one two) : Akin hosts location user two one :=
  ⟨akin.second, akin.first, akin.store.symm, akin.retention.symm, akin.share.symm,
    fun place unowned => (akin.rest place unowned).symm⟩

theorem Akin.trans (akin : Akin hosts location user one two)
    (next : Akin hosts location user two three) : Akin hosts location user one three :=
  ⟨akin.first, next.second, akin.store.trans next.store, akin.retention.trans next.retention,
    akin.share.trans next.share, fun place unowned =>
      (akin.rest place unowned).trans (next.rest place unowned)⟩

theorem Abreast.symm (abreast : Abreast hosts location user one two) :
    Abreast hosts location user two one :=
  ⟨abreast.toAkin.symm, abreast.clock.symm⟩

theorem Abreast.trans (abreast : Abreast hosts location user one two)
    (next : Abreast hosts location user two three) : Abreast hosts location user one three :=
  ⟨abreast.toAkin.trans next.toAkin, abreast.clock.trans next.clock⟩

theorem Placed.akin (placed : Placed hosts location one) : Akin hosts location user one one :=
  ⟨placed, placed, rfl, rfl, rfl, fun _ _ => rfl⟩

theorem Akin.sameFor (akin : Akin hosts location user one two) : SameFor user one.host two.host :=
  ⟨congrArg Share.live akin.share, congrArg Share.applications akin.share⟩

theorem Akin.with_hosts (akin : Akin hosts location user one two) {host other : η}
    (inside : hosts host) (inside_other : hosts other) (same : SameFor user host other) :
    Akin hosts location user { one with host } { two with host := other } := by
  refine ⟨⟨inside, akin.first.sound⟩, ⟨inside_other, akin.second.sound⟩, akin.store,
    akin.retention, ?_, akin.rest⟩
  have record := congrArg Share.record akin.share
  have stage := congrArg Share.stage akin.share
  have temporary := congrArg Share.temporary akin.share
  exact Share.ext same.1 same.2 record stage temporary

/-! ## Calls -/

omit [Host η] [LawfulHost η] in
theorem locales?_of_foreign {made : DeviceCall} (foreign : made.user? ≠ some user) (ended : Ended)
    (package : String) : Exchange.locales? ⟨made, ended⟩ user package = none := by
  unfold Exchange.locales?
  split
  next other owner list same =>
    cases same
    exact if_neg fun here => foreign (congrArg some here.2)
  next => rfl

omit [LawfulHost η] in
theorem put_of_still (still : Still hosts) {host : η} (inside : hosts host) (made : DeviceCall) :
    hosts (made.put host).2 ∧ (Host.now (made.put host).2).1 = (Host.now host).1 := by
  have made_still := still host inside made
  rwa [made.make_eq] at made_still

theorem sameFor_of_foreign {host : η} {heard : Heard} (put : (heard.made.put host).1 = heard.answer)
    (foreign : heard.made.user? ≠ some user) : SameFor user host (heard.made.put host).2 := by
  rw [SameFor, view_after_put put]
  refine ⟨?_, rfl⟩
  funext package
  simp only [Heard.exchange, DeviceView.after, locales?_of_foreign foreign, Option.getD_none]

theorem sameFor_put {host other : η} (same : SameFor user host other) {heard : Heard}
    (put : (heard.made.put host).1 = heard.answer) (put_other : (heard.made.put other).1 = heard.answer) :
    SameFor user (heard.made.put host).2 (heard.made.put other).2 := by
  rw [SameFor, view_after_put put, view_after_put put_other]
  refine ⟨?_, same.2⟩
  funext package
  simp only [DeviceView.after, same.1]

theorem abreast_of_foreign (still : Still hosts) {heard : List Heard}
    (foreign : ∀ one ∈ heard, one.made.user? ≠ some user) (placed : Placed hosts location one)
    {host : η} (hears : Hears one.host heard host) :
    Abreast hosts location user one { one with host } := by
  induction heard generalizing one with
  | nil =>
      cases hears
      exact ⟨placed.akin, rfl⟩
  | cons first heard ih =>
      obtain ⟨put, hears⟩ := hears
      obtain ⟨here, later⟩ := List.forall_mem_cons.1 foreign
      obtain ⟨inside, clock⟩ := put_of_still still placed.host first.made
      have next : Abreast hosts location user one { one with host := (first.made.put one.host).2 } :=
        ⟨placed.akin.with_hosts placed.host inside (sameFor_of_foreign put here), clock.symm⟩
      exact next.trans (ih later next.second hears)

theorem hears_of_abreast (secludes : Secludes hosts user) (still : Still hosts) {heard : List Heard}
    (own : ∀ one ∈ heard, one.made = .now ∨ one.made.user? = some user)
    (abreast : Abreast hosts location user one two) {host : η} (hears : Hears one.host heard host) :
    ∃ other, Hears two.host heard other ∧
      Abreast hosts location user { one with host } { two with host := other } := by
  induction heard generalizing one two with
  | nil =>
      cases hears
      exact ⟨two.host, rfl, abreast⟩
  | cons first heard ih =>
      obtain ⟨put, hears⟩ := hears
      obtain ⟨here, later⟩ := List.forall_mem_cons.1 own
      have alike : (first.made.put one.host).1 = (first.made.put two.host).1 := by
        obtain ⟨made, answer⟩ := first
        have inside := abreast.first.host
        have inside_two := abreast.second.host
        rcases here with rfl | named
        · exact abreast.clock
        · cases made with
          | now => exact abreast.clock
          | dataChanged key => cases named
          | isInstalled package owner =>
              cases named
              exact secludes.isInstalled _ _ inside inside_two abreast.sameFor package
          | installedPackages owner =>
              cases named
              exact secludes.installedPackages _ _ inside inside_two abreast.sameFor
          | locales package owner =>
              cases named
              exact secludes.locales _ _ inside inside_two abreast.sameFor package
          | setLocales package owner list =>
              cases named
              exact secludes.setLocales _ _ inside inside_two abreast.sameFor package list
      have put_two := alike.symm.trans put
      obtain ⟨inside, clock⟩ := put_of_still still abreast.first.host first.made
      obtain ⟨inside_two, clock_two⟩ := put_of_still still abreast.second.host first.made
      have next : Abreast hosts location user { one with host := (first.made.put one.host).2 }
          { two with host := (first.made.put two.host).2 } :=
        ⟨abreast.with_hosts inside inside_two (sameFor_put abreast.sameFor put put_two),
          clock.trans (abreast.clock.trans clock_two.symm)⟩
      obtain ⟨other, hears_two, ended⟩ := ih later next hears
      exact ⟨other, ⟨put_two, hears_two⟩, ended⟩

/-! ## Deeds -/

theorem Abreast.deed (abreast : Abreast hosts location user one two) (deed : Deed) :
    Abreast hosts location user (deed.after location one) (deed.after location two) := by
  refine ⟨⟨⟨abreast.first.host, deed.sound_left abreast.first.sound⟩,
    ⟨abreast.second.host, deed.sound_left abreast.second.sound⟩, ?_, ?_, ?_, ?_⟩, abreast.clock⟩
  · exact (deed.store_left _).trans (abreast.store.trans (deed.store_left _).symm)
  · exact (deed.retention_left _).trans (abreast.retention.trans (deed.retention_left _).symm)
  · rw [deed.share_after, deed.share_after, abreast.retention, abreast.share]
  · intro place unowned
    exact (deed.node?_leftFiles _ _ unowned).trans
      ((abreast.rest place unowned).trans (deed.node?_leftFiles _ _ unowned).symm)

theorem abreast_of_forOthers {deed : Deed} (others : deed.ForOthers user)
    (placed : Placed hosts location one) : Abreast hosts location user one (deed.after location one) := by
  refine ⟨⟨placed, ⟨placed.host, deed.sound_left placed.sound⟩, (deed.store_left _).symm,
    (deed.retention_left _).symm, ?_, ?_⟩, rfl⟩
  · rw [deed.share_after, Deed.on_of_forOthers others]
  · intro place unowned
    exact (deed.node?_leftFiles _ _ unowned).symm

omit [Host η] [LawfulHost η] in
theorem forOthers_of_course {table : StagedTable} {request : Request} {heard : List Heard} {deed : Deed}
    {answer : Except Panic Reply} (course : Course table request heard deed answer)
    (foreign : request.user? ≠ some user) (bare : request.sweeps = false) : deed.ForOthers user := by
  have other {owner : UserId} (apart : some owner ≠ some user) : owner ≠ user :=
    fun same => apart (congrArg some same)
  cases course with
  | restored ingests => exact other foreign
  | drained found waits applies => exact other foreign
  | removed owner => exact other foreign
  | swept now => cases bare
  | unlisted owner now panic => cases bare
  | uncollected now collects => cases bare
  | backedUp now collects => cases bare
  | _ => trivial

/-! ## Requests -/

section Requests
variable {request : Request} {before after : Standing η FileTree} {heard : List Heard} {deed : Deed}
  {answer : Except Panic Reply}

omit [LawfulHost η] in
theorem Went.eq_after (went : Went request before heard deed answer after)
    (sound : before.table.store.Sound before.files location) :
    after = deed.after location { before with host := after.host } := by
  obtain ⟨table, files⟩ := Work.yields_unique went.staged (deed.yields sound)
  obtain ⟨_, _, _⟩ := after
  cases table
  cases files
  rfl

theorem Went.abreast_of_foreign (went : Went request before heard deed answer after)
    (still : Still hosts) (foreign : ∀ one ∈ heard, one.made.user? ≠ some user)
    (placed : Placed hosts location before) :
    Abreast hosts location user (deed.after location before) after := by
  rw [went.eq_after placed.sound]
  exact (Agent.abreast_of_foreign still foreign placed went.hears).deed deed

omit [Host η] [LawfulHost η] in
theorem plan_congr {table other : StagedTable} (own : request.user? = some user)
    (same : table.get? user = other.get? user) : request.plan table = request.plan other := by
  cases request with
  | restore payload owner => cases payload <;> rfl
  | sweep => cases own
  | backup owner => rfl
  | event event =>
      cases own
      cases event with
      | packageAdded package uid =>
          rw [Request.plan, Request.plan, show table.get? (userOf uid) = _ from same]
          rfl
      | packageDataCleared package uid => rfl
      | packageRemoved package uid => rfl
      | userRemoved owner =>
          rw [Request.plan, Request.plan, show table.get? owner = _ from same]
          rfl

/-- A request for the user goes alike, unless it is a notification. -/
theorem went_of_abreast (secludes : Secludes hosts user) (still : Still hosts)
    (abreast : Abreast hosts location user before two) (own : request.user? = some user)
    (bare : ∀ event, request = .event event → event.notifies = false)
    (went : Went request before heard deed answer after) :
    ∃ other, Went request two heard deed answer other ∧ Abreast hosts location user after other := by
  have asked (one : Heard) (member : one ∈ heard) : one.made = .now ∨ one.made.user? = some user := by
    have calls := went.course.calls one member
    generalize one.made = made at calls ⊢
    cases calls with
    | now request => exact .inl rfl
    | @notify event notifies key =>
        rw [bare event rfl] at notifies
        cases notifies
    | own owned named => exact .inr (named.trans (owned.symm.trans own))
  obtain ⟨host, hears, moved⟩ := hears_of_abreast secludes still asked abreast went.hears
  have leads := went.leads
  rw [plan_congr own (congrArg Share.record abreast.share)] at leads
  refine ⟨deed.after location { two with host }, ⟨leads, hears, ?_⟩, ?_⟩
  · exact deed.yields abreast.second.sound
  · rw [went.eq_after abreast.first.sound]
    exact moved.deed deed

end Requests

/-! ## Agents -/

def IsLevel (hosts : η → Prop) (location : Location) (user : UserId) (one two : Agent η FileTree) :
    Prop :=
  Abreast hosts location user one.standing two.standing

theorem level_dropped (still : Still hosts) {agent : Agent η FileTree} {made : Request}
    (foreign : made.user? ≠ some user) (bare : made.sweeps = false)
    (placed : Placed hosts location agent.standing) :
    IsLevel hosts location user agent (agent.turn (.request made)) := by
  obtain ⟨heard, deed, went⟩ := Went.of_run made agent
  have course := went.course
  exact (abreast_of_forOthers (forOthers_of_course course foreign bare) placed).trans
    (went.abreast_of_foreign still (fun one member => (course.calls one member).foreign foreign) placed)

theorem level_swept (still : Still hosts) {one two : Agent η FileTree}
    (level : IsLevel hosts location user one two) {made other : Request}
    (foreign : made.user? ≠ some user) (foreign_other : other.user? ≠ some user)
    (sweeps : made.sweeps = true) (sweeps_other : other.sweeps = true) :
    IsLevel hosts location user (one.turn (.request made)) (two.turn (.request other)) := by
  obtain ⟨heard, deed, went⟩ := Went.of_run made one
  obtain ⟨others, another, went_other⟩ := Went.of_run other two
  have course := went.course
  have course_other := went_other.course
  have first := went.abreast_of_foreign still
    (fun one member => (course.calls one member).foreign foreign) level.first
  have second := went_other.abreast_of_foreign still
    (fun one member => (course_other.calls one member).foreign foreign_other) level.second
  -- At the same time, both do the same deed.
  have same : deed = another := by
    obtain ⟨time, _, rfl, rfl⟩ := course.sweep_of_time sweeps
    obtain ⟨clock, _, rfl, rfl⟩ := course_other.sweep_of_time sweeps_other
    obtain rfl : time = clock := went.hears.1.symm.trans (level.clock.trans went_other.hears.1)
    rfl
  subst same
  exact first.symm.trans ((level.deed deed).trans second)

theorem level_notified (still : Still hosts) {agent : Agent η FileTree} {event : Event}
    (notifies : event.notifies = true) (placed : Placed hosts location agent.standing) :
    IsLevel hosts location user agent (agent.turn (.request (.event event))) := by
  obtain ⟨heard, deed, went⟩ := Went.of_run (.event event) agent
  obtain ⟨rfl, result, rfl⟩ := went.course.of_notifies notifies
  exact went.abreast_of_foreign still (by simp [DeviceCall.user?]) placed

theorem level_kept (secludes : Secludes hosts user) (still : Still hosts) {one two : Agent η FileTree}
    (level : IsLevel hosts location user one two) {made : Request} (own : made.user? = some user) :
    IsLevel hosts location user (one.turn (.request made)) (two.turn (.request made)) := by
  by_cases notifies : ∃ event, made = .event event ∧ event.notifies = true
  · obtain ⟨event, rfl, notifies⟩ := notifies
    have first : IsLevel hosts location user one _ := level_notified still notifies level.first
    have second : IsLevel hosts location user two _ := level_notified still notifies level.second
    exact first.symm.trans (level.trans second)
  · have bare (event : Event) (same : made = .event event) : event.notifies = false :=
      Bool.eq_false_iff.2 fun found => notifies ⟨event, same, found⟩
    obtain ⟨heard, deed, went⟩ := Went.of_run made one
    obtain ⟨other, went_two, ended⟩ := went_of_abreast secludes still level own bare went
    obtain ⟨_, rfl⟩ := went_two.gives two rfl
    exact ended

theorem answers_backup (secludes : Secludes hosts user) (still : Still hosts)
    {one two : Agent η FileTree} (level : IsLevel hosts location user one two) :
    ((perform (.backup user)).run one).1 = ((perform (.backup user)).run two).1 := by
  obtain ⟨heard, deed, went⟩ := Went.of_run (.backup user) one
  obtain ⟨other, went_two, _⟩ := went_of_abreast secludes still level rfl (by simp) went
  exact (went_two.gives two rfl).1.symm

end Related
end Agent
end LocaleStaging
