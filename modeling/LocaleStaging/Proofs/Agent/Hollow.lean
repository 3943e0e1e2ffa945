import LocaleStaging.Proofs.Agent.Chronicle
import LocaleStaging.Proofs.Agent.Ingestion

namespace LocaleStaging

/-- A preference whose package has a blank name, or whose tags name no locale. -/
def Hollow (package tags : String) : Prop :=
  (∀ c ∈ package.toList, isBlank c) ∨ (LocaleList.ofTags tags).isEmpty

instance (package tags : String) : Decidable (Hollow package tags) :=
  decidable_of_iff (package.toList.all isBlank ∨ (LocaleList.ofTags tags).isEmpty)
    (or_congr_left List.all_eq_true)

def Preferences.Solid (preferences : Preferences) : Prop :=
  ∀ package tags, preferences.get? package = some tags → ¬ Hollow package tags

theorem Preferences.solid_iff {preferences : Preferences} :
    preferences.Solid ↔ ∀ entry ∈ preferences.toList, ¬ Hollow entry.1 entry.2 := by
  simp only [Solid, SortedMap.get?_eq_some_iff, SortedMap.toList, Prod.forall]

/-! ## Reading documents -/

theorem Document.exists_decode_iff {package tags : String} :
    (∃ octets document, decode octets = .ok document ∧
        SortedMap.get? document.preferences package = some tags) ↔ package ≠ "" ∧ tags ≠ "" := by
  constructor
  · rintro ⟨octets, document, read, found⟩
    simpa [isFilled] using filled_of_decode read _ (SortedMap.get?_eq_some_iff.1 found)
  · intro filled
    let single : Document := ⟨none, SortedMap.ofList [(package, tags)]⟩
    have whole : single.Filled := List.forall_mem_singleton.2 (by simpa [isFilled] using filled)
    have read : decode (encode single) = .ok single := by
      rw [decode_encode_eq rfl, withoutBlanks_of_filled whole]
    exact ⟨_, _, read, SortedMap.get?_insert_self ∅ package tags⟩

/-! ## Restoring -/

theorem Resolution.mem_setLocales_iff {user : UserId} {package tags : String}
    {current left : LocaleList} {made : List Exchange}
    (resolution : Resolution user package tags current made left) (locales : LocaleList) :
    (∃ ended, ⟨.setLocales package user locales, ended⟩ ∈ made) ↔
      LocaleList.ofTags tags = locales ∧
        (current = .empty ∨ ⟨.locales package user, .failed⟩ ∈ made) := by
  have asked {query last : Ended} (unset : query = .failed ∨ query = .done ∧ current = .empty)
      (same : made = [⟨.locales package user, query⟩,
        ⟨.setLocales package user (LocaleList.ofTags tags), last⟩]) :
      (∃ ended, ⟨.setLocales package user locales, ended⟩ ∈ made) ↔
        LocaleList.ofTags tags = locales ∧
          (current = .empty ∨ ⟨.locales package user, .failed⟩ ∈ made) := by
    have bare : current = .empty ∨ query = .failed := (unset.imp_right And.right).symm
    simp [same, bare, eq_comm]
  cases resolution with
  | kept chosen => simp [chosen]
  | restored unset => exact asked unset rfl
  | refused unset => exact asked unset rfl

theorem Resolved.mem_setLocales_iff {user : UserId} {applied : String → Option String}
    {view : DeviceView} {made : List Exchange} (resolved : Resolved user applied view made)
    (package : String) (locales : LocaleList) :
    (∃ ended, ⟨.setLocales package user locales, ended⟩ ∈ made) ↔
      ∃ tags, applied package = some tags ∧ LocaleList.ofTags tags = locales ∧
        (view.live user package = .empty ∨ ⟨.locales package user, .failed⟩ ∈ made) := by
  have about (call : DeviceCall) (named : call.localePackage? = some package) (ended : Ended) :
      ⟨call, ended⟩ ∈ made ↔ ⟨call, ended⟩ ∈ callsAbout made package := by
    simp [callsAbout, named]
  simp only [about (.setLocales package user locales) rfl, about (.locales package user) rfl]
  cases found : applied package with
  | none => simp [resolved.unasked package found]
  | some tags =>
      obtain ⟨left, resolution⟩ := resolved.resolved package tags found
      rw [resolution.mem_setLocales_iff]
      simp

/-! ## Runs without hollow preferences -/

def StagedTable.Solid (table : StagedTable) : Prop :=
  ∀ user record, table.get? user = some record → record.pending.Solid

/-- A request neither stages a hollow preference nor sets locales to none, unless there was a hollow
preference in its payload or in the table. -/
theorem Effect.solid {table after : StagedTable} {entry : Entry} (effect : Effect table entry after)
    (solid : table.Solid) (given : ∀ payload user, entry.request.payload? = some (payload, user) →
      (preferencesIn payload).Solid) :
    after.Solid ∧ ∀ setting ∈ entry.settings, setting.locales ≠ .empty := by
  obtain ⟨course, _⟩ := effect
  constructor
  · intro user record found
    cases course.origin found with
    | kept found other => exact solid user record found
    | restored within =>
        exact fun package tags waits => given _ user rfl package tags (within package tags waits)
    | drained owned found created within =>
        exact fun package tags waits => solid user _ found package tags (within package tags waits)
  · intro setting member none
    obtain ⟨tags, offered, same⟩ := course.offered_of_setting member
    have hollow : Hollow setting.package tags := .inr (by rw [← same, none]; rfl)
    rcases Request.of_offer? offered with ⟨payload, rfl, listed⟩ | ⟨uid, record, _, _, found, waits⟩
    · exact given payload setting.user rfl _ tags listed hollow
    · exact solid _ record found _ tags waits hollow

theorem Follows.solid {table after : StagedTable} {entries : List Entry}
    (follows : Follows table entries after) (solid : table.Solid)
    (given : ∀ entry ∈ entries, ∀ payload user, entry.request.payload? = some (payload, user) →
      (preferencesIn payload).Solid) :
    after.Solid ∧ ∀ setting ∈ entries.flatMap Entry.settings, setting.locales ≠ .empty := by
  induction follows with
  | done table => exact ⟨solid, by simp⟩
  | step effect rest ih =>
      obtain ⟨here, later⟩ := List.forall_mem_cons.1 given
      obtain ⟨solid_middle, set⟩ := effect.solid solid here
      obtain ⟨solid_after, set_later⟩ := ih solid_middle later
      refine ⟨solid_after, ?_⟩
      rw [List.flatMap_cons, List.forall_mem_append]
      exact ⟨set, set_later⟩

theorem Request.payload?_eq_some_iff {request : Request} {payload : Bytes} {user : UserId} :
    request.payload? = some (payload, user) ↔ request = .restore (some payload) user := by
  unfold payload?
  split
  next => simp
  next other => simpa using other payload user

namespace Agent

open LocaleStaging.StageStore (Clear)

theorem request_mem_of_chronicle {η φ : Type} [Host η] [FileSystem φ] {directory : Path}
    {retention : Span} {occurrences : List (Occurrence η)} {agent : Agent (Recorder η) φ} {entry : Entry}
    (member : entry ∈ (chronicle directory retention occurrences agent).1) :
    .request entry.request ∈ occurrences := by
  induction occurrences generalizing agent with
  | nil => cases member
  | cons occurrence occurrences ih =>
      cases occurrence with
      | request made =>
          rcases List.mem_cons.1 member with rfl | later
          · exact List.mem_cons_self
          · exact List.mem_cons_of_mem _ (ih later)
      | restart => exact List.mem_cons_of_mem _ (ih member)
      | elsewhere change => exact List.mem_cons_of_mem _ (ih member)

section Requests
variable {η ζ : Type} [Host η] [Host ζ] [LawfulHost ζ]

namespace Restored
variable {payload : Bytes} {user : UserId} {location : Location} {now : Int64}
  {before after : Standing ζ FileTree} {made : List Exchange}

theorem waiting?_iff (restored : Restored payload user location now before made after)
    (package tags : String) : after.table.waiting? user package = some tags ↔
      (preferencesIn payload).get? package = some tags ∧
        package ∉ (LawfulHost.view before.host).applications user := by
  rw [restored.table, StagedTable.waiting?_keep, if_pos rfl, Preferences.get?_besides]
  split
  next installed => simp [installed]
  next missing => simp [missing]

theorem mem_setLocales_iff (restored : Restored payload user location now before made after)
    (package : String) (locales : LocaleList) :
    (∃ ended, ⟨.setLocales package user locales, ended⟩ ∈ made) ↔
      ∃ tags, (preferencesIn payload).get? package = some tags ∧
        package ∈ (LawfulHost.view before.host).applications user ∧
        LocaleList.ofTags tags = locales ∧
        ((LawfulHost.view before.host).live user package = .empty ∨
          ⟨.locales package user, .failed⟩ ∈ made) := by
  rw [restored.resolved.mem_setLocales_iff, Preferences.get?_among]
  split
  next installed => simp [installed]
  next missing => simp [missing]

end Restored

/-- Reading a document leaves out the preferences with an empty text, and no others. So hollow ones get
through: those of packages that are not there wait, and for the others locales are set to none, unless
some are there. They come from payloads only: without them in a payload none waits, and no locales are
set to none. -/
theorem hollow_gets_through :
    (∀ package tags, (∃ octets document, Document.decode octets = .ok document ∧
      document.preferences.get? package = some tags) ↔ package ≠ "" ∧ tags ≠ "") ∧
    (∀ tags, (LocaleList.ofTags tags).isEmpty ↔ ∀ c ∈ tags.toList, c = ',' ∨ isBlank c) ∧
    (∀ (agent : Agent ζ FileTree) (payload : Bytes) (user : UserId) (location : Location),
      agent.table.store.Reaches agent.workspace.files location user →
      Clear agent.workspace.files location user →
      let once := (restore (some payload) user).run agent
      once.1 = .ok () →
      (∀ package tags, Hollow package tags →
        (once.2.table.waiting? user package = some tags ↔
          (preferencesIn payload).get? package = some tags ∧
            package ∉ agent.sight.applications user)) ∧
      ∀ package, (∃ ended, ⟨.setLocales package user .empty, ended⟩ ∈ callsSince agent once.2) ↔
        ∃ tags, (preferencesIn payload).get? package = some tags ∧
          package ∈ agent.sight.applications user ∧ LocaleList.ofTags tags = .empty ∧
          (agent.sight.live user package = .empty ∨
            ⟨.locales package user, .failed⟩ ∈ callsSince agent once.2)) ∧
    ∀ (directory : Path) (retention : Span) (location : Location) (agent : Agent (Recorder η) FileTree),
      Kept directory retention location agent.standing → agent.table.Solid →
      ∀ occurrences : List (Occurrence η),
        (∀ payload user, .request (.restore (some payload) user) ∈ occurrences →
          (preferencesIn payload).Solid) →
        let ended := (chronicle directory retention occurrences agent).2
        ended.table.Solid ∧ ∃ made, ended.host.settings = agent.host.settings ++ made ∧
          ∀ setting ∈ made, setting.locales ≠ .empty := by
  refine ⟨fun _ _ => Document.exists_decode_iff, fun _ => LocaleList.isEmpty_ofTags_iff, ?_, ?_⟩
  · intro agent payload user location reaches clear once done
    obtain ⟨heard, _, went⟩ := went_restore agent (some payload) user
    rw [done] at went
    obtain ⟨now, _, restored⟩ := restored_of_went went reaches clear
    rw [show callsSince agent once.2 = exchangesOf heard from (callsSince_of_hears went.hears).2]
    exact ⟨fun package tags _ => restored.waiting?_iff package tags,
      fun package => restored.mem_setLocales_iff package .empty⟩
  · intro directory retention location agent kept solid occurrences given ended
    obtain ⟨entries, after, _, noted, set, follows⟩ := yields_chronicle kept occurrences
    obtain ⟨same, ends⟩ := noted agent rfl
    have table : ended.table = after.table := congrArg Standing.table ends
    have host : ended.host = after.host := congrArg Standing.host ends
    have whole : ∀ entry ∈ entries, ∀ payload user,
        entry.request.payload? = some (payload, user) → (preferencesIn payload).Solid := by
      intro entry member payload user asked
      have happened := request_mem_of_chronicle (same ▸ member)
      rw [Request.payload?_eq_some_iff.1 asked] at happened
      exact given payload user happened
    obtain ⟨solid_after, filled⟩ := follows.solid solid whole
    rw [table, host]
    exact ⟨solid_after, _, set, filled⟩

end Requests

def hollowEntries : Bytes :=
  Document.encode ⟨none, SortedMap.ofList [("com.a", " , "), ("com.c", " ")]⟩

theorem hollow_gets_through_halfInstalled :
    let once := (restore (some hollowEntries) 1).run halfInstalled
    let ended := (chronicle (Path.ofString "stage") ⟨259200, 0⟩ replacedWhileWaiting
      (unused ⟨Device.new 1700000000000, []⟩)).2
    once.2.table.waiting? 1 "com.c" = some " " ∧
      (∃ ended, ⟨.setLocales "com.a" 1 .empty, ended⟩ ∈ callsSince halfInstalled once.2) ∧
      ended.table.Solid ∧ ∃ made, ended.host.settings = made ∧
        ∀ setting ∈ made, setting.locales ≠ .empty := by
  obtain ⟨_, _, restores, runs⟩ := @hollow_gets_through Device Device _ _ _
  obtain ⟨waiting, set⟩ := restores halfInstalled hollowEntries 1 [Utf8.encode "stage"]
    (StageStore.ready_emptyStage.reaches 1) (StageStore.clear_emptyStage 1) (by decide +kernel)
  have inStep := inStep_empty StageStore.finds_emptyStage (by decide) StageStore.bare_emptyStage
    ⟨259200, 0⟩
  have none : (unused (⟨Device.new 1700000000000, []⟩ : Recorder Device)).table.Solid := by
    intro user record found
    cases found
  obtain ⟨solid, made, settings, filled⟩ := runs (Path.ofString "stage") ⟨259200, 0⟩
    [Utf8.encode "stage"] (unused ⟨Device.new 1700000000000, []⟩) ⟨rfl, rfl, inStep⟩ none
    replacedWhileWaiting (by
      intro payload user member
      simp only [replacedWhileWaiting, List.mem_cons, Occurrence.request.injEq, Request.restore.injEq,
        Option.some.injEq, reduceCtorEq, List.not_mem_nil, or_false, false_or] at member
      rcases member with ⟨rfl, -⟩ | ⟨rfl, -⟩ <;> exact Preferences.solid_iff.2 (by decide +kernel))
  refine ⟨(waiting "com.c" " " (by decide)).2 (by decide +kernel), ?_, solid, made, settings, filled⟩
  exact (set "com.a").2 ⟨" , ", by decide +kernel⟩

end Agent
end LocaleStaging
