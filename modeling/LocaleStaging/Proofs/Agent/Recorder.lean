import LocaleStaging.Proofs.Agent.Handled

namespace LocaleStaging

structure Setting where
  package : String
  user : UserId
  locales : LocaleList
deriving DecidableEq

structure Recorder (η : Type) where
  device : η
  settings : List Setting

namespace Recorder
variable {η α : Type}

def relay (made : HostCall η α) : HostCall (Recorder η) α := fun recorder =>
  let (answer, device) := made recorder.device
  (answer, { recorder with device })

def record (setting : Setting) (made : HostCall η α) : HostCall (Recorder η) α := fun recorder =>
  let (answer, device) := made recorder.device
  (answer, ⟨device, recorder.settings ++ [setting]⟩)

instance [Host η] : Host (Recorder η) where
  now := relay Host.now
  isInstalled package user := relay (Host.isInstalled package user)
  installedPackages user := relay (Host.installedPackages user)
  locales package user := relay (Host.locales package user)
  setLocales package user locales :=
    record ⟨package, user, locales⟩ (Host.setLocales package user locales)
  dataChanged key := relay (Host.dataChanged key)

end Recorder

def countSettings (package : String) (user : UserId) (settings : List Setting) : Nat :=
  settings.countP fun setting => setting.package == package && setting.user == user

/-! ## Settings that are heard -/

def Heard.setting? : Heard → Option Setting
  | ⟨.setLocales package user locales, _⟩ => some ⟨package, user, locales⟩
  | _ => none

def settingsHeard (heard : List Heard) : List Setting := heard.filterMap Heard.setting?

theorem settings_of_hears {η : Type} [Host η] {before after : Recorder η} {heard : List Heard}
    (hears : Hears before heard after) : after.settings = before.settings ++ settingsHeard heard := by
  induction heard generalizing before with
  | nil =>
      obtain rfl : after = before := hears
      exact (List.append_nil _).symm
  | cons first heard ih =>
      have here : (first.made.put before).2.settings = before.settings ++ first.setting?.toList := by
        obtain ⟨made, answer⟩ := first
        cases made with
        | setLocales package user locales => rfl
        | _ => exact (List.append_nil _).symm
      rw [ih hears.2, here, List.append_assoc]
      congr 1
      unfold settingsHeard
      cases set : first.setting? with
      | none => rw [List.filterMap_cons_none set, Option.toList_none, List.nil_append]
      | some setting => rw [List.filterMap_cons_some set, Option.toList_some, List.singleton_append]

theorem setting?_eq_some {heard : Heard} {setting : Setting} (set : heard.setting? = some setting) :
    heard.made = .setLocales setting.package setting.user setting.locales := by
  obtain ⟨made, answer⟩ := heard
  cases made with
  | setLocales package user locales =>
      cases set
      rfl
  | _ => cases set

theorem Quiet.settingsHeard {heard : List Heard} (quiet : Quiet heard) : settingsHeard heard = [] := by
  rw [LocaleStaging.settingsHeard, List.filterMap_eq_nil_iff]
  intro one member
  cases set : one.setting? with
  | none => rfl
  | some setting => exact absurd (setting?_eq_some set) (quiet one member _ _ _)

theorem settingsHeard_heardAbout (heard : List Heard) (package : String) :
    settingsHeard (heardAbout heard package) =
      (settingsHeard heard).filter fun setting => setting.package = package := by
  rw [settingsHeard, heardAbout, List.filterMap_filter, settingsHeard, List.filter_filterMap]
  refine List.filterMap_congr fun one _ => ?_
  cases set : one.setting? with
  | none => simp
  | some setting => simp [setting?_eq_some set, DeviceCall.localePackage?, Option.filter]

theorem countSettings_heardAbout (heard : List Heard) (package : String) (user : UserId) :
    countSettings package user (settingsHeard (heardAbout heard package)) =
      countSettings package user (settingsHeard heard) := by
  rw [settingsHeard_heardAbout, countSettings, List.countP_filter, countSettings]
  refine List.countP_congr fun setting _ => ?_
  simp [and_right_comm]

theorem Applies.settings {package tags : String} {user : UserId} {heard : List Heard}
    {answer : Except Panic Unit} (applies : Applies package tags user heard answer) :
    settingsHeard heard = [] ∨ settingsHeard heard = [⟨package, user, LocaleList.ofTags tags⟩] := by
  cases applies with
  | kept chosen => exact .inl rfl
  | set unset => exact .inr rfl
  | unread panic => exact .inl rfl
  | unwritten unset panic => exact .inr rfl

/-! ## Settings of a request -/

namespace Course

variable {table : StagedTable} {request : Request} {heard : List Heard} {deed : Deed}
  {answer : Except Panic Reply}

theorem settings_about (course : Course table request heard deed answer) (package : String) :
    settingsHeard (heardAbout heard package) = [] ∨
      ∃ user tags, request.offer? table user package = some tags ∧
        settingsHeard (heardAbout heard package) = [⟨package, user, LocaleList.ofTags tags⟩] := by
  rcases course.about package with quiet | ⟨user, tags, _, offered, applies⟩
  · exact .inl quiet.settingsHeard
  · exact applies.settings.imp_right fun set => ⟨user, tags, offered, set⟩

theorem offered_of_setting (course : Course table request heard deed answer) {setting : Setting}
    (set : setting ∈ settingsHeard heard) :
    ∃ tags, request.offer? table setting.user setting.package = some tags ∧
      setting.locales = LocaleList.ofTags tags := by
  have about : setting ∈ settingsHeard (heardAbout heard setting.package) := by
    rw [settingsHeard_heardAbout]
    exact List.mem_filter.2 ⟨set, decide_eq_true rfl⟩
  rcases course.settings_about setting.package with none | ⟨user, tags, offered, once⟩
  · rw [none] at about
    cases about
  · rw [once, List.mem_singleton] at about
    rw [about] at offered ⊢
    exact ⟨tags, offered, rfl⟩

theorem countSettings_le (course : Course table request heard deed answer) (package : String)
    (user : UserId) :
    countSettings package user (settingsHeard heard) ≤
      (request.offer? table user package).isSome.toNat := by
  rw [← countSettings_heardAbout]
  rcases course.settings_about package with none | ⟨owner, tags, offered, once⟩
  · rw [none]
    exact Nat.zero_le _
  · rw [once, countSettings, List.countP_singleton]
    by_cases same : owner = user
    · subst same
      simp [offered]
    · simp [same]

end Course
end LocaleStaging
