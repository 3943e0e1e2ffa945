import LocaleStaging.Proofs.Agent.Handled
import LocaleStaging.Proofs.Agent.Kept
import LocaleStaging.Proofs.Device
import LocaleStaging.Proofs.LocaleList

namespace LocaleStaging

def Overwrites (exchanges : List Exchange) (user : UserId) (package : String)
    (locales : LocaleList) : Prop :=
  ⟨.locales package user, .failed⟩ ∈ exchanges ∧
    ⟨.setLocales package user locales, .done⟩ ∈ exchanges

theorem mem_settingsOf {exchanges : List Exchange} {user : UserId} {package : String}
    {locales : LocaleList} :
    locales ∈ settingsOf exchanges user package ↔
      ⟨.setLocales package user locales, .done⟩ ∈ exchanges := by
  rw [settingsOf, List.mem_filterMap]
  constructor
  · rintro ⟨exchange, member, set⟩
    unfold Exchange.locales? at set
    split at set
    next other owner found =>
      split at set
      next same =>
        obtain ⟨rfl, rfl⟩ := same
        cases set
        exact member
      next => cases set
    next => cases set
  · intro member
    exact ⟨_, member, if_pos ⟨rfl, rfl⟩⟩

theorem settled_of_applies {package tags : String} {owner user : UserId} {heard : List Heard}
    {answer : Except Panic Unit} {view : DeviceView} (honest : Honest view heard)
    (applies : Applies package tags owner heard answer) (chosen : view.live user package ≠ .empty) :
    settingsOf (exchangesOf heard) user package = [] ∨
      ⟨.locales package user, .failed⟩ ∈ exchangesOf heard ∧
        ∃ locales, settingsOf (exchangesOf heard) user package = [locales] := by
  cases applies with
  | kept read => exact .inl rfl
  | unread panic => exact .inl rfl
  | unwritten unset panic => exact .inl rfl
  | @set query report unset =>
      cases report with
      | error fault => exact .inl rfl
      | ok done =>
          by_cases here : owner = user
          · subst here
            cases query with
            | error fault =>
                have set : settingsOf [⟨.locales package owner, .failed⟩,
                    ⟨.setLocales package owner (LocaleList.ofTags tags), .done⟩] owner package =
                      [LocaleList.ofTags tags] := by
                  simp [settingsOf, Exchange.locales?]
                exact .inr ⟨List.mem_cons_self, _, set⟩
            | ok current =>
                -- What was read is the preference itself.
                obtain rfl := honest.1
                exact absurd (LocaleList.eq_empty_of_isEmpty (unset _ rfl)) chosen
          · refine .inl ?_
            simp [settingsOf, exchangesOf, Heard.exchange, DeviceCall.ended, Ended.ofReport,
              Exchange.locales?, here]

namespace Agent

variable {η φ : Type} [Host η] [LawfulHost η] [FileSystem φ]

theorem settled_of_went {request : Request} {before after : Standing η φ} {heard : List Heard}
    {deed : Deed} {answer : Except Panic Reply} (went : Went request before heard deed answer after)
    {user : UserId} {package : String}
    (chosen : (LawfulHost.view before.host).live user package ≠ .empty) :
    settingsOf (exchangesOf heard) user package = [] ∨
      ⟨.locales package user, .failed⟩ ∈ exchangesOf heard ∧
        ∃ locales, settingsOf (exchangesOf heard) user package = [locales] := by
  obtain ⟨honest, _⟩ := honest_of_hears went.hears
  rw [← settingsOf_callsAbout, callsAbout_exchangesOf]
  rcases went.course.about package with quiet | ⟨owner, tags, result, _, applies⟩
  · exact .inl (quiet.settingsOf user package)
  · refine (settled_of_applies (honest.about package) applies chosen).imp_right ?_
    rintro ⟨failed, once⟩
    refine ⟨?_, once⟩
    rw [← callsAbout_exchangesOf] at failed
    exact (List.mem_filter.1 failed).1

/-- A preference that the user has set is the same after a request, unless asking for it failed and
setting the restored one succeeded, and that is another one. -/
theorem live_kept_iff (request : Request) (agent : Agent η φ) (user : UserId)
    (package : String) (chosen : agent.sight.live user package ≠ .empty) :
    (performed request agent).sight.live user package = agent.sight.live user package ↔
      ∀ locales, Overwrites (callsSince agent (performed request agent)) user package locales →
        locales = agent.sight.live user package := by
  obtain ⟨heard, deed, went⟩ := Went.of_run request agent
  obtain ⟨seen, calls⟩ : (performed request agent).sight = _ ∧ callsSince agent _ = _ :=
    callsSince_of_hears went.hears
  rw [calls, seen, DeviceView.live_replay]
  -- What is there afterwards is what was set last, and one setting is all there can be.
  rcases settled_of_went went chosen with kept | ⟨failed, replaced, once⟩
  · rw [kept]
    simp only [List.getLast?_nil, Option.getD_none, true_iff]
    rintro locales ⟨_, set⟩
    rw [← mem_settingsOf, kept] at set
    exact absurd set List.not_mem_nil
  · rw [once]
    simp only [List.getLast?_singleton, Option.getD_some]
    constructor
    · rintro same locales ⟨_, set⟩
      rw [← mem_settingsOf, once, List.mem_singleton] at set
      exact set.trans same
    · intro all
      refine all replaced ⟨failed, ?_⟩
      rw [← mem_settingsOf, once]
      exact List.mem_cons_self

def unreadable : Agent Device FileTree :=
  unused ((((Device.new 1700000000000).install "com.a" 1).setLive 1 "com.a"
    (LocaleList.ofTags "es-ES")).breakPackage "com.a" ⟨true, false, false, false⟩)

def restoreOther : Request :=
  .restore (some (Document.encode ⟨none, SortedMap.ofList [("com.a", "en-US")]⟩)) 1

theorem live_kept_iff_unreadable :
    unreadable.sight.live 1 "com.a" = LocaleList.ofTags "es-ES" ∧
      unreadable.sight.live 1 "com.a" ≠ .empty ∧
      (performed restoreOther unreadable).sight.live 1 "com.a" = LocaleList.ofTags "en-US" ∧
      ¬∀ locales, Overwrites (callsSince unreadable (performed restoreOther unreadable)) 1 "com.a"
        locales → locales = unreadable.sight.live 1 "com.a" := by
  have before : unreadable.sight.live 1 "com.a" = LocaleList.ofTags "es-ES" := by decide +kernel
  have chosen : unreadable.sight.live 1 "com.a" ≠ .empty := by decide +kernel
  have after : (performed restoreOther unreadable).sight.live 1 "com.a" =
      LocaleList.ofTags "en-US" := by
    decide +kernel
  have apart : LocaleList.ofTags "en-US" ≠ LocaleList.ofTags "es-ES" := by decide +kernel
  refine ⟨before, chosen, after, ?_⟩
  intro all
  have kept := (live_kept_iff restoreOther unreadable 1 "com.a" chosen).2 all
  exact apart (after.symm.trans (kept.trans before))

end Agent
end LocaleStaging
