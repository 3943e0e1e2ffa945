import LocaleStaging.Proofs.Agent.Course
import LocaleStaging.Proofs.Host

namespace LocaleStaging

namespace DeviceCall

def make {η : Type} [Host η] (host : η) : DeviceCall → Ended × η
  | now => ((.ofAnswer (Host.now host).1), (Host.now host).2)
  | isInstalled package user =>
    (.ofAnswer (Host.isInstalled package user host).1, (Host.isInstalled package user host).2)
  | installedPackages user =>
    (.ofAnswer (Host.installedPackages user host).1, (Host.installedPackages user host).2)
  | locales package user =>
    (.ofReport (Host.locales package user host).1, (Host.locales package user host).2)
  | setLocales package user list => (.ofReport (Host.setLocales package user list host).1,
      (Host.setLocales package user list host).2)
  | dataChanged key => (.ofAnswer (Host.dataChanged key host).1, (Host.dataChanged key host).2)

def ended : (made : DeviceCall) → Except Panic made.Answer → Ended
  | now, answer => .ofAnswer answer
  | isInstalled _ _, answer => .ofAnswer answer
  | installedPackages _, answer => .ofAnswer answer
  | locales _ _, answer => .ofReport answer
  | setLocales _ _ _, answer => .ofReport answer
  | dataChanged _, answer => .ofAnswer answer

variable {η : Type} [Host η]

theorem make_eq (host : η) (made : DeviceCall) :
    made.make host = (made.ended (made.put host).1, (made.put host).2) := by
  cases made <;> rfl

theorem make_noted [LawfulHost η] (host : η) (made : DeviceCall) :
    Noted LawfulHost.view LawfulHost.works host made (made.make host).1 (made.make host).2 := by
  cases made with
  | now => exact LawfulHost.now_noted host
  | isInstalled package user => exact LawfulHost.isInstalled_noted host package user
  | installedPackages user => exact LawfulHost.installedPackages_noted host user
  | locales package user => exact LawfulHost.locales_noted host package user
  | setLocales package user list => exact LawfulHost.setLocales_noted host package user list
  | dataChanged key => exact LawfulHost.dataChanged_noted host key

theorem ended_error (made : DeviceCall) (panic : Panic) : made.ended (.error panic) = .panicked := by
  cases made <;> rfl

end DeviceCall

def Heard.exchange (heard : Heard) : Exchange := ⟨heard.made, heard.made.ended heard.answer⟩

def exchangesOf (heard : List Heard) : List Exchange := heard.map Heard.exchange

/-! ## Honest answers -/

def Heard.IsHonest (view : DeviceView) : Heard → Prop
  | ⟨.isInstalled package user, .ok found⟩ => found = true ↔ package ∈ view.applications user
  | ⟨.installedPackages user, .ok packages⟩ => packages = view.applications user
  | ⟨.locales package user, .ok (.ok found)⟩ => found = view.live user package
  | _ => True

def Honest : DeviceView → List Heard → Prop
  | _, [] => True
  | view, heard :: rest => heard.IsHonest view ∧ Honest (view.after heard.exchange) rest

section Hosts
variable {η : Type} [Host η] [LawfulHost η]

theorem isHonest_of_put {host : η} {heard : Heard} (put : (heard.made.put host).1 = heard.answer) :
    heard.IsHonest (LawfulHost.view host) := by
  obtain ⟨made, answer⟩ := heard
  cases answer with
  | error panic => cases made <;> trivial
  | ok value =>
      cases made with
      | isInstalled package user => exact LawfulHost.isInstalled_answer host package user value put
      | installedPackages user => exact LawfulHost.installedPackages_answer host user value put
      | locales package user =>
          cases value with
          | error fault => trivial
          | ok found => exact LawfulHost.locales_answer host package user found put
      | _ => trivial

theorem view_after_put {host : η} {heard : Heard} (put : (heard.made.put host).1 = heard.answer) :
    LawfulHost.view (heard.made.put host).2 = (LawfulHost.view host).after heard.exchange := by
  have noted := (heard.made.make_noted host).view_after
  rw [DeviceCall.make_eq, put] at noted
  exact noted

theorem honest_of_hears {host after : η} {heard : List Heard} (hears : Hears host heard after) :
    Honest (LawfulHost.view host) heard ∧
      LawfulHost.view after = (LawfulHost.view host).replay (exchangesOf heard) := by
  induction heard generalizing host with
  | nil =>
      cases hears
      exact ⟨trivial, rfl⟩
  | cons first heard ih =>
      obtain ⟨put, hears⟩ := hears
      obtain ⟨honest, seen⟩ := ih hears
      rw [view_after_put put] at honest seen
      exact ⟨⟨isHonest_of_put put, honest⟩, seen⟩

end Hosts

/-! ## Calls that set no locales -/

def Quiet (heard : List Heard) : Prop :=
  ∀ one ∈ heard, ∀ package user locales, one.made ≠ .setLocales package user locales

theorem Heard.locales?_of_quiet {heard : Heard}
    (quiet : ∀ package user locales, heard.made ≠ .setLocales package user locales) (user : UserId)
    (package : String) : heard.exchange.locales? user package = none := by
  unfold Exchange.locales?
  split
  next same => exact absurd (congrArg Exchange.call same) (quiet _ _ _)
  next => rfl

theorem Heard.live_after_of_quiet {heard : Heard}
    (quiet : ∀ package user locales, heard.made ≠ .setLocales package user locales)
    (view : DeviceView) : (view.after heard.exchange).live = view.live := by
  funext user package
  simp only [DeviceView.after, heard.locales?_of_quiet quiet, Option.getD_none]

theorem Heard.IsHonest.congr {heard : Heard} {view other : DeviceView} (honest : heard.IsHonest view)
    (live : other.live = view.live) (applications : other.applications = view.applications) :
    heard.IsHonest other := by
  unfold IsHonest at honest ⊢
  rw [live, applications]
  exact honest

theorem Honest.of_quiet {view : DeviceView} {heard : List Heard} (honest : Honest view heard)
    (quiet : Quiet heard) : ∀ one ∈ heard, one.IsHonest view := by
  induction heard generalizing view with
  | nil => simp
  | cons first heard ih =>
      obtain ⟨here, later⟩ := List.forall_mem_cons.1 quiet
      refine List.forall_mem_cons.2 ⟨honest.1, fun one member => ?_⟩
      exact (ih honest.2 later one member).congr (first.live_after_of_quiet here view).symm rfl

theorem Quiet.settingsOf {heard : List Heard} (quiet : Quiet heard) (user : UserId)
    (package : String) : settingsOf (exchangesOf heard) user package = [] := by
  rw [LocaleStaging.settingsOf, exchangesOf, List.filterMap_map, List.filterMap_eq_nil_iff]
  exact fun one member => one.locales?_of_quiet (quiet one member) user package

theorem Quiet.live_replay {heard : List Heard} (quiet : Quiet heard) (view : DeviceView) :
    (view.replay (exchangesOf heard)).live = view.live := by
  induction heard generalizing view with
  | nil => rfl
  | cons first heard ih =>
      obtain ⟨here, later⟩ := List.forall_mem_cons.1 quiet
      exact (ih later (view.after first.exchange)).trans (first.live_after_of_quiet here view)

section Collecting
variable {user : UserId} {earlier : Preferences} {packages : List String} {heard : List Heard}

theorem Collects.made {answer : Except Panic Preferences} {package : String}
    (collects : Collects user earlier package heard answer) :
    ∃ result, heard = [⟨.locales package user, result⟩] ∧
      ∀ given, answer = .ok given → ∃ query, result = .ok query := by
  cases collects with
  | unread panic => exact ⟨_, rfl, fun _ same => by cases same⟩
  | failed fault => exact ⟨_, rfl, fun _ _ => ⟨_, rfl⟩⟩
  | bare bare => exact ⟨_, rfl, fun _ _ => ⟨_, rfl⟩⟩
  | found filled => exact ⟨_, rfl, fun _ _ => ⟨_, rfl⟩⟩

theorem made_of_collects {answer : Except Panic Preferences}
    (collects : InTurn (Collects user) earlier packages heard answer) :
    ∀ one ∈ heard, ∃ package ∈ packages, one.made = .locales package user := by
  induction collects with
  | done found => simp
  | stopped first =>
      obtain ⟨result, rfl, _⟩ := first.made
      simp
  | next first later ih =>
      obtain ⟨result, rfl, _⟩ := first.made
      rw [List.forall_mem_append]
      refine ⟨by simp, fun one member => ?_⟩
      obtain ⟨package, listed, made⟩ := ih one member
      exact ⟨package, List.mem_cons_of_mem _ listed, made⟩

end Collecting

theorem Course.quiet_of_backup {table : StagedTable} {user : UserId} {heard : List Heard} {deed : Deed}
    {answer : Except Panic Reply} (course : Course table (.backup user) heard deed answer) :
    Quiet heard := by
  have quiet {packages : List String} {others : List Heard} {result : Except Panic Preferences}
      (now : Int64) (collects : InTurn (Collects user) ∅ packages others result) :
      Quiet (⟨.now, .ok now⟩ :: ⟨.installedPackages user, .ok packages⟩ :: others) := by
    refine List.forall_mem_cons.2 ⟨by simp, List.forall_mem_cons.2 ⟨by simp, ?_⟩⟩
    intro one member package owner locales
    obtain ⟨asked, _, made⟩ := made_of_collects collects one member
    simp [made]
  cases course with
  | untimed timed panic => simp [Quiet]
  | unlisted user now panic => simp [Quiet]
  | uncollected now collects => exact quiet now collects
  | backedUp now collects => exact quiet now collects

/-! ## What is heard about one package -/

def callsAbout (made : List Exchange) (package : String) : List Exchange :=
  made.filter fun exchange => exchange.call.localePackage? = some package

theorem callsAbout_append (first second : List Exchange) (package : String) :
    callsAbout (first ++ second) package = callsAbout first package ++ callsAbout second package :=
  List.filter_append first second

def heardAbout (heard : List Heard) (package : String) : List Heard :=
  heard.filter fun heard => heard.made.localePackage? = some package

theorem heardAbout_append (first second : List Heard) (package : String) :
    heardAbout (first ++ second) package = heardAbout first package ++ heardAbout second package :=
  List.filter_append first second

theorem Quiet.heardAbout {heard : List Heard} (quiet : Quiet heard) (package : String) :
    Quiet (heardAbout heard package) :=
  fun one member => quiet one (List.mem_filter.1 member).1

theorem callsAbout_exchangesOf (heard : List Heard) (package : String) :
    callsAbout (exchangesOf heard) package = exchangesOf (heardAbout heard package) := by
  rw [callsAbout, exchangesOf, List.filter_map]
  rfl

theorem Exchange.locales?_eq_none {exchange : Exchange} {package : String}
    (other : exchange.call.localePackage? ≠ some package) (user : UserId) :
    exchange.locales? user package = none := by
  obtain ⟨call, ended⟩ := exchange
  cases call with
  | setLocales named owner locales =>
      have apart : named ≠ package := fun same => other (congrArg some same)
      cases ended <;> simp [Exchange.locales?, apart]
  | now => rfl
  | isInstalled named owner => rfl
  | installedPackages owner => rfl
  | locales named owner => rfl
  | dataChanged key => rfl

theorem settingsOf_callsAbout (made : List Exchange) (user : UserId) (package : String) :
    settingsOf (callsAbout made package) user package = settingsOf made user package := by
  rw [settingsOf, settingsOf, callsAbout, List.filterMap_filter]
  refine List.filterMap_congr fun exchange _ => ?_
  split
  next => rfl
  next other => exact (Exchange.locales?_eq_none (by simpa using other) user).symm

theorem DeviceView.live_replay_callsAbout (view : DeviceView) (made : List Exchange) (user : UserId)
    (package : String) : (view.replay made).live user package =
      ((settingsOf (callsAbout made package) user package).getLast?).getD (view.live user package) := by
  rw [settingsOf_callsAbout, live_replay]

theorem DeviceView.applications_replay (view : DeviceView) (made : List Exchange) :
    (view.replay made).applications = view.applications := by
  induction made generalizing view with
  | nil => rfl
  | cons exchange made ih => exact ih (view.after exchange)

theorem Heard.IsHonest.of_about {heard : Heard} {view other : DeviceView} {package : String}
    (honest : heard.IsHonest view) (named : heard.made.localePackage? = some package)
    (same : ∀ user, other.live user package = view.live user package) : heard.IsHonest other := by
  obtain ⟨made, answer⟩ := heard
  cases made with
  | locales about user =>
      obtain rfl : about = package := Option.some.inj named
      match answer with
      | .ok (.ok found) => exact honest.trans (same user).symm
      | .ok (.error fault) => trivial
      | .error panic => trivial
  | setLocales about user list => trivial
  | now => cases named
  | isInstalled about user => cases named
  | installedPackages user => cases named
  | dataChanged key => cases named

namespace Honest

variable {view : DeviceView} {heard : List Heard} {package : String} {user : UserId}

theorem about (honest : Honest view heard) (package : String) :
    Honest view (heardAbout heard package) := by
  -- Calls that are left out may change the locales of other packages.
  suffices ∀ other : DeviceView, (∀ user, other.live user package = view.live user package) →
      Honest other (heardAbout heard package) from this view fun _ => rfl
  induction heard generalizing view with
  | nil => exact fun _ _ => trivial
  | cons first heard ih =>
      intro other same
      obtain ⟨here, later⟩ := honest
      by_cases named : first.made.localePackage? = some package
      · have kept : heardAbout (first :: heard) package = first :: heardAbout heard package := by
          simp [heardAbout, named]
        rw [kept]
        refine ⟨?_, ih later _ fun user => ?_⟩
        · exact here.of_about named same
        · simp only [DeviceView.after, same]
      · have skipped : heardAbout (first :: heard) package = heardAbout heard package := by
          simp [heardAbout, named]
        rw [skipped]
        refine ih later other fun user => ?_
        rw [same]
        have unset := @Exchange.locales?_eq_none first.exchange _ named
        simp only [DeviceView.after, unset, Option.getD_none]

theorem isInstalled (honest : Honest view heard) {found : Bool}
    (member : ⟨.isInstalled package user, .ok found⟩ ∈ heard) :
    found = true ↔ package ∈ view.applications user := by
  induction heard generalizing view with
  | nil => cases member
  | cons first heard ih =>
      obtain ⟨here, later⟩ := honest
      rcases List.mem_cons.1 member with rfl | member
      · exact here
      · have found_later := ih later member
        exact found_later

end Honest

namespace Agent

variable {η φ : Type} [Host η] [LawfulHost η]

def sight (agent : Agent η φ) : DeviceView := LawfulHost.view agent.host

def callsSince (before after : Agent η φ) : List Exchange :=
  after.sight.history.drop before.sight.history.length

theorem callsSince_of_replay {before after : Agent η φ} {exchanges : List Exchange}
    (seen : after.sight = before.sight.replay exchanges) : callsSince before after = exchanges := by
  rw [callsSince, seen, DeviceView.history_replay, List.drop_left]

theorem callsSince_of_hears {before after : Agent η φ} {heard : List Heard}
    (hears : Hears before.host heard after.host) :
    after.sight = before.sight.replay (exchangesOf heard) ∧
      callsSince before after = exchangesOf heard := by
  have seen : after.sight = before.sight.replay (exchangesOf heard) := (honest_of_hears hears).2
  exact ⟨seen, callsSince_of_replay seen⟩

end Agent
end LocaleStaging
