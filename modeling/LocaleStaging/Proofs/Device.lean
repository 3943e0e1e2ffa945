import LocaleStaging.Proofs.Host
import LocaleStaging.Proofs.SortedMap

namespace LocaleStaging.Device

def endedBy (call : DeviceCall) : Option Outage → Ended
  | none => .done
  | some (.panics _) => .panicked
  | some (.fails _) => if call.localePackage?.isSome then .failed else .done

def exchangesFrom (outage? : List DeviceCall → DeviceCall → Option Outage)
    (earlier : List DeviceCall) : List DeviceCall → List Exchange
  | [] => []
  | call :: rest =>
    ⟨call, endedBy call (outage? earlier call)⟩ :: exchangesFrom outage? (earlier ++ [call]) rest

def view (device : Device) : DeviceView where
  live user package := (device.liveOf user package).getD .empty
  applications := device.packagesOf
  history := exchangesFrom device.outage? [] device.calls

theorem exchangesFrom_concat (outage? : List DeviceCall → DeviceCall → Option Outage)
    (earlier calls : List DeviceCall) (call : DeviceCall) :
    exchangesFrom outage? earlier (calls ++ [call]) =
      exchangesFrom outage? earlier calls ++
        [⟨call, endedBy call (outage? (earlier ++ calls) call)⟩] := by
  induction calls generalizing earlier with
  | nil => simp [exchangesFrom]
  | cons first calls ih => simp [exchangesFrom, ih]

theorem liveOf_setLive (device : Device) (user owner : UserId) (package other : String)
    (locales : LocaleList) :
    (device.setLive owner other locales).liveOf user package =
      if other = package ∧ owner = user then some locales else device.liveOf user package := by
  by_cases here : user = owner
  · subst here
    simp only [setLive, liveOf, SortedMap.get?_insert_self, Option.bind_some, and_true]
    by_cases same : package = other
    · subst same
      rw [if_pos rfl, SortedMap.get?_insert_self]
    · rw [if_neg (Ne.symm same), SortedMap.get?_insert_of_ne _ _ same]
      cases device.live.get? user <;> rfl
  · simp only [setLive, liveOf, SortedMap.get?_insert_of_ne _ _ here, Ne.symm here, and_false,
      if_false]

def noted (device : Device) (call : DeviceCall) : Device :=
  { device with calls := device.calls ++ [call] }

def endsNow (device : Device) (call : DeviceCall) : Ended :=
  endedBy call (device.outage? device.calls call)

theorem history_noted (device : Device) (call : DeviceCall) :
    (view (device.noted call)).history = (view device).history ++ [⟨call, device.endsNow call⟩] :=
  exchangesFrom_concat device.outage? [] device.calls call

theorem view_noted (device : Device) (call : DeviceCall)
    (quiet : ∀ user package, Exchange.locales? ⟨call, device.endsNow call⟩ user package = none) :
    view (device.noted call) = (view device).after ⟨call, device.endsNow call⟩ := by
  have live : (view (device.noted call)).live =
      ((view device).after ⟨call, device.endsNow call⟩).live := by
    funext user package
    simp only [DeviceView.after, quiet, Option.getD_none]
    rfl
  have history := history_noted device call
  exact DeviceView.ext live rfl history

theorem view_setLive (device : Device) (user : UserId) (package : String) (locales : LocaleList)
    (ended : device.endsNow (.setLocales package user locales) = .done) :
    view ((device.noted (.setLocales package user locales)).setLive user package locales) =
      (view device).after ⟨.setLocales package user locales, .done⟩ := by
  have history := history_noted device (.setLocales package user locales)
  rw [ended] at history
  refine DeviceView.ext ?_ rfl history
  funext owner other
  simp only [view, DeviceView.after, Exchange.locales?, liveOf_setLive]
  split <;> rfl

def works (device : Device) : Prop := ∀ earlier call, device.outage? earlier call = none

theorem noted_of_quiet {device : Device} {call : DeviceCall} {ended : Ended}
    (ends : ended = device.endsNow call)
    (quiet : ∀ user package, Exchange.locales? ⟨call, ended⟩ user package = none) :
    Noted view works device call ended (device.noted call) := by
  subst ends
  refine ⟨view_noted device call quiet, ?_⟩
  intro working
  refine ⟨working, ?_⟩
  rw [endsNow, working]
  rfl

theorem call_plain {α : Type} (device : Device) {call : DeviceCall} (value : Device → α)
    (local_call : call.localePackage? = none) {answer : Option String → HostCall Device α}
    (given : ∀ detail now, answer detail now = (.ok (value now), now)) :
    Noted view works device call (.ofAnswer (Device.call call answer device).1)
        (Device.call call answer device).2 ∧
      ∀ found, (Device.call call answer device).1 = .ok found → found = value (device.noted call) := by
  have quiet (ended : Ended) (user : UserId) (package : String) :
      Exchange.locales? ⟨call, ended⟩ user package = none := by
    cases call with
    | setLocales other owner locales => cases local_call
    | _ => rfl
  unfold Device.call
  cases outage : device.outage? device.calls call with
  | none =>
      simp only [given]
      refine ⟨noted_of_quiet ?_ (quiet _), ?_⟩
      · simp [endsNow, outage, endedBy, Ended.ofAnswer]
      · rintro found same
        exact (Except.ok.inj same).symm
  | some reason =>
      cases reason with
      | panics message =>
          refine ⟨noted_of_quiet ?_ (quiet _), ?_⟩
          · simp [endsNow, outage, endedBy, Ended.ofAnswer]
          · rintro found same
            cases same
      | fails detail =>
          simp only [given]
          refine ⟨noted_of_quiet ?_ (quiet _), ?_⟩
          · simp [endsNow, outage, endedBy, Ended.ofAnswer, local_call]
          · rintro found same
            exact (Except.ok.inj same).symm

theorem locales_lawful (device : Device) (package : String) (user : UserId) :
    Noted view works device (.locales package user)
        (.ofReport (Host.locales package user device).1) (Host.locales package user device).2 ∧
      ∀ found, (Host.locales package user device).1 = .ok (.ok found) →
        found = (view device).live user package := by
  have quiet (ended : Ended) (owner : UserId) (other : String) :
      Exchange.locales? ⟨.locales package user, ended⟩ owner other = none := rfl
  cases outage : device.outage? device.calls (.locales package user) with
  | none =>
      have answer : Host.locales package user device =
          (.ok (.ok ((view device).live user package)), device.noted (.locales package user)) := by
        simp only [Host.locales, Device.call, outage]
        rfl
      rw [answer]
      refine ⟨noted_of_quiet ?_ (quiet _), ?_⟩
      · simp [endsNow, outage, endedBy, Ended.ofReport]
      · rintro found same
        exact (Except.ok.inj (Except.ok.inj same)).symm
  | some reason =>
      cases reason with
      | panics message =>
          have answer : Host.locales package user device =
              (.error ⟨message⟩, device.noted (.locales package user)) := by
            simp only [Host.locales, Device.call, outage]
            rfl
          rw [answer]
          refine ⟨noted_of_quiet ?_ (quiet _), ?_⟩
          · simp [endsNow, outage, endedBy, Ended.ofReport]
          · rintro found same
            cases same
      | fails detail =>
          have answer : Host.locales package user device =
              (.ok (.error (.remote detail)), device.noted (.locales package user)) := by
            simp only [Host.locales, Device.call, outage]
            rfl
          rw [answer]
          refine ⟨noted_of_quiet ?_ (quiet _), ?_⟩
          · simp [endsNow, outage, endedBy, Ended.ofReport, DeviceCall.localePackage?]
          · rintro found same
            cases same

theorem setLocales_lawful (device : Device) (package : String) (user : UserId)
    (locales : LocaleList) :
    Noted view works device (.setLocales package user locales)
      (.ofReport (Host.setLocales package user locales device).1)
      (Host.setLocales package user locales device).2 := by
  cases outage : device.outage? device.calls (.setLocales package user locales) with
  | none =>
      have answer : Host.setLocales package user locales device =
          (.ok (.ok ()),
            (device.noted (.setLocales package user locales)).setLive user package locales) := by
        simp only [Host.setLocales, Device.call, outage]
        rfl
      have ended : device.endsNow (.setLocales package user locales) = .done := by
        rw [endsNow, outage]
        rfl
      rw [answer]
      exact ⟨view_setLive device user package locales ended, fun working => ⟨working, rfl⟩⟩
  | some reason =>
      cases reason with
      | panics message =>
          have answer : Host.setLocales package user locales device =
              (.error ⟨message⟩, device.noted (.setLocales package user locales)) := by
            simp only [Host.setLocales, Device.call, outage]
            rfl
          rw [answer]
          refine noted_of_quiet ?_ fun _ _ => rfl
          simp [endsNow, outage, endedBy, Ended.ofReport]
      | fails detail =>
          have answer : Host.setLocales package user locales device =
              (.ok (.error (.remote detail)), device.noted (.setLocales package user locales)) := by
            simp only [Host.setLocales, Device.call, outage]
            rfl
          rw [answer]
          refine noted_of_quiet ?_ fun _ _ => rfl
          simp [endsNow, outage, endedBy, Ended.ofReport, DeviceCall.localePackage?]

instance : LawfulHost Device where
  view := view
  works := works
  now_noted device := (call_plain device Device.clock rfl fun _ _ => rfl).1
  isInstalled_noted device package user :=
    (call_plain device (fun now => (now.packagesOf user).contains package) rfl fun _ _ => rfl).1
  isInstalled_answer device package user found given := by
    have same := (call_plain device (fun now => (now.packagesOf user).contains package) rfl
      fun _ _ => rfl).2 found given
    rw [same]
    exact List.contains_iff_mem
  installedPackages_noted device user :=
    (call_plain device (fun now => now.packagesOf user) rfl fun _ _ => rfl).1
  installedPackages_answer device user packages given :=
    (call_plain device (fun now => now.packagesOf user) rfl fun _ _ => rfl).2 packages given
  locales_noted device package user := (locales_lawful device package user).1
  locales_answer device package user := (locales_lawful device package user).2
  setLocales_noted device package user locales := setLocales_lawful device package user locales
  dataChanged_noted device key := (call_plain device (fun _ => ()) rfl fun _ _ => rfl).1

theorem works_install {device : Device} (working : device.works) (package : String)
    (user : UserId) : (device.install package user).works := by
  simp only [install]
  split
  next => exact working
  next => exact working

theorem live_install (device : Device) (package : String) (user : UserId) :
    (view (device.install package user)).live = (view device).live := by
  simp only [install]
  split <;> rfl

theorem mem_packagesOf_install (device : Device) (package : String) (user owner : UserId)
    (other : String) : other ∈ (device.install package user).packagesOf owner ↔
      other ∈ device.packagesOf owner ∨ owner = user ∧ other = package := by
  unfold install
  by_cases listed : package ∈ device.packagesOf user
  · simp only [listed, if_true]
    constructor
    · exact .inl
    · rintro (there | ⟨rfl, rfl⟩)
      · exact there
      · exact listed
  · simp only [listed, if_false]
    by_cases same : owner = user
    · subst same
      simp [packagesOf]
    · simp [packagesOf, SortedMap.get?_insert_of_ne _ _ same, same]

end LocaleStaging.Device
