import LocaleStaging.Proofs.Agent.Calls
import LocaleStaging.Proofs.Staging.Table

namespace LocaleStaging

section Applying
variable {package tags : String} {user : UserId} {heard : List Heard} {answer : Except Panic Unit}

theorem Applies.about (applies : Applies package tags user heard answer) (other : String) :
    heardAbout heard other = if other = package then heard else [] := by
  by_cases same : other = package
  · subst same
    cases applies <;> simp [heardAbout, DeviceCall.localePackage?]
  · cases applies <;> simp [heardAbout, DeviceCall.localePackage?, same, Ne.symm same]

end Applying

/-- What becomes of a package when a payload is taken in: what was heard about it, and what waits for it
then. Before that, something may have waited for it, and the payload may have a preference for it. -/
inductive Handled (user : UserId) (package : String) (before : Option String) (heard : List Heard)
    (answer : Except Panic Preferences) : Option String → Prop where
  | absent (silent : heardAbout heard package = [])
      (same : ∀ found, answer = .ok found → found.get? package = before) :
      Handled user package before heard answer none
  | staged {tags : String} (missing : ⟨.isInstalled package user, .ok false⟩ ∈ heard)
      (silent : heardAbout heard package = [])
      (waits : ∀ found, answer = .ok found → found.get? package = some tags) :
      Handled user package before heard answer (some tags)
  | applied {tags : String} (installed : ⟨.isInstalled package user, .ok true⟩ ∈ heard)
      (applies : Applies package tags user (heardAbout heard package) (.ok ()))
      (same : ∀ found, answer = .ok found → found.get? package = before) :
      Handled user package before heard answer (some tags)
  | broken {tags : String} {panic : Panic}
      (applies : Applies package tags user (heardAbout heard package) (.error panic))
      (stopped : answer = .error panic) : Handled user package before heard answer (some tags)
  | unreached {tags : String} {panic : Panic} (silent : heardAbout heard package = [])
      (stopped : answer = .error panic) : Handled user package before heard answer (some tags)

section Ingesting
variable {user : UserId} {pending : Preferences} {restored : String × String} {heard : List Heard}

theorem Ingests.about_of_ne {answer : Except Panic Preferences}
    (ingests : Ingests user pending restored heard answer) {package : String}
    (other : package ≠ restored.1) : heardAbout heard package = [] := by
  have asked (answer : Except Panic Bool) (later : List Heard) :
      heardAbout (⟨.isInstalled restored.1 user, answer⟩ :: later) package = heardAbout later package :=
    rfl
  cases ingests with
  | unasked panic => rfl
  | staged => rfl
  | applied applies => rw [asked, applies.about, if_neg other]
  | broken applies => rw [asked, applies.about, if_neg other]

theorem Ingests.get?_of_ne {found : Preferences} (ingests : Ingests user pending restored heard (.ok found))
    {package : String} (other : package ≠ restored.1) :
    found.get? package = pending.get? package := by
  cases ingests with
  | staged => exact SortedMap.get?_insert_of_ne _ _ other
  | applied applies => rfl

theorem Handled.of_ingests {answer : Except Panic Preferences}
    (ingests : Ingests user pending restored heard answer) :
    Handled user restored.1 (pending.get? restored.1) heard answer (some restored.2) := by
  have asked (answer : Except Panic Bool) (later : List Heard) :
      heardAbout (⟨.isInstalled restored.1 user, answer⟩ :: later) restored.1 =
        heardAbout later restored.1 := rfl
  cases ingests with
  | unasked panic => exact .unreached rfl rfl
  | staged =>
      refine .staged List.mem_cons_self rfl ?_
      rintro found ⟨⟩
      exact SortedMap.get?_insert_self _ _ _
  | applied applies =>
      refine .applied List.mem_cons_self ?_ ?_
      · rw [asked, applies.about, if_pos rfl]
        exact applies
      · rintro found ⟨⟩
        rfl
  | broken applies =>
      refine .broken ?_ rfl
      rw [asked, applies.about, if_pos rfl]
      exact applies

theorem Handled.append {package : String} {before : Option String} {others : List Heard}
    {middle : Preferences} {answer : Except Panic Preferences} {value : Option String}
    (handled : Handled user package before heard (.ok middle) value)
    (silent : heardAbout others package = [])
    (same : ∀ found, answer = .ok found → found.get? package = middle.get? package) :
    Handled user package before (heard ++ others) answer value := by
  have about : heardAbout (heard ++ others) package = heardAbout heard package := by
    rw [heardAbout_append, silent, List.append_nil]
  cases handled with
  | absent silent kept =>
      exact .absent (about.trans silent) fun found given => (same found given).trans (kept middle rfl)
  | staged missing silent waits =>
      exact .staged (List.mem_append_left _ missing) (about.trans silent) fun found given =>
        (same found given).trans (waits middle rfl)
  | applied installed applies kept =>
      exact .applied (List.mem_append_left _ installed) (about.symm ▸ applies) fun found given =>
        (same found given).trans (kept middle rfl)
  | broken applies stopped => cases stopped
  | unreached silent stopped => cases stopped

theorem Handled.prepend {package : String} {before : Option String} {others : List Heard}
    {answer : Except Panic Preferences} {value : Option String}
    (handled : Handled user package before heard answer value)
    (silent : heardAbout others package = []) :
    Handled user package before (others ++ heard) answer value := by
  have about : heardAbout (others ++ heard) package = heardAbout heard package := by
    rw [heardAbout_append, silent, List.nil_append]
  cases handled with
  | absent silent kept => exact .absent (about.trans silent) kept
  | staged missing silent waits =>
      exact .staged (List.mem_append_right _ missing) (about.trans silent) waits
  | applied installed applies kept =>
      exact .applied (List.mem_append_right _ installed) (about.symm ▸ applies) kept
  | broken applies stopped => exact .broken (about.symm ▸ applies) stopped
  | unreached silent stopped => exact .unreached (about.trans silent) stopped

theorem Handled.of_stopped {package : String} (silent : heardAbout heard package = []) (panic : Panic)
    (before value : Option String) : Handled user package before heard (.error panic) value := by
  cases value with
  | none => exact .absent silent fun _ given => by cases given
  | some tags => exact .unreached silent rfl

theorem handled_of_entries {entries : List (String × String)} (increasing : Increasing entries)
    {answer : Except Panic Preferences}
    (ingests : InTurn (Ingests user) pending entries heard answer) (package : String) :
    Handled user package (pending.get? package) heard answer
      (SortedMap.get? ⟨entries, increasing⟩ package) := by
  induction ingests with
  | done found =>
      refine .absent rfl ?_
      rintro _ ⟨⟩
      rfl
  | @stopped found entry rest heard panic first =>
      rw [SortedMap.get?_cons increasing]
      by_cases here : package = entry.1
      · rw [if_pos here, here]
        exact .of_ingests first
      · exact .of_stopped (first.about_of_ne here) panic _ _
  | @next found middle entry rest heard others answer first later ih =>
      have handled := ih (List.pairwise_cons.1 increasing).2
      rw [SortedMap.get?_cons increasing]
      by_cases here : package = entry.1
      · -- Keys are listed once, so nothing more is heard about the package.
        subst here
        rw [SortedMap.get?_head increasing] at handled
        rw [if_pos rfl]
        cases handled with
        | absent silent same => exact (Handled.of_ingests first).append silent same
      · rw [if_neg here, ← first.get?_of_ne here]
        exact handled.prepend (first.about_of_ne here)

theorem handled_of_ingests {restored : Preferences} {answer : Except Panic Preferences}
    (ingests : InTurn (Ingests user) pending restored.toList heard answer) (package : String) :
    Handled user package (pending.get? package) heard answer (restored.get? package) :=
  handled_of_entries restored.increasing ingests package

theorem of_waits {restored : Preferences}
    (ingests : InTurn (Ingests user) ∅ restored.toList heard (.ok pending)) {package tags : String}
    (waits : pending.get? package = some tags) :
    restored.get? package = some tags ∧ heardAbout heard package = [] := by
  have handled := handled_of_ingests ingests package
  cases value : restored.get? package with
  | none =>
      rw [value] at handled
      cases handled with
      | absent silent same => cases (same pending rfl).symm.trans waits
  | some other =>
      rw [value] at handled
      cases handled with
      | staged missing silent waiting =>
          cases (waiting pending rfl).symm.trans waits
          exact ⟨rfl, silent⟩
      | applied installed applies same => cases (same pending rfl).symm.trans waits
      | broken applies stopped => cases stopped
      | unreached silent stopped => cases stopped

end Ingesting

theorem Handled.silent_or_applies {user : UserId} {package : String} {before value : Option String}
    {heard : List Heard} {answer : Except Panic Preferences}
    (handled : Handled user package before heard answer value) :
    heardAbout heard package = [] ∨ ∃ tags result, value = some tags ∧
      Applies package tags user (heardAbout heard package) result := by
  cases handled with
  | absent silent same => exact .inl silent
  | staged missing silent waits => exact .inl silent
  | applied installed applies same => exact .inr ⟨_, _, rfl, applies⟩
  | broken applies stopped => exact .inr ⟨_, _, rfl, applies⟩
  | unreached silent stopped => exact .inl silent

/-! ## What a request does with one package -/

def Request.offer? (table : StagedTable) (user : UserId) (package : String) : Request → Option String
  | restore (some payload) owner =>
    if owner = user then (preferencesIn payload).get? package else none
  | event (.packageAdded added uid) =>
    if added = package ∧ userOf uid = user then table.waiting? user package else none
  | _ => none

theorem Request.of_offer? {table : StagedTable} {user : UserId} {package tags : String}
    {request : Request} (offered : request.offer? table user package = some tags) :
    (∃ payload, request = .restore (some payload) user ∧
        (preferencesIn payload).get? package = some tags) ∨
      ∃ uid record, request = .event (.packageAdded package uid) ∧ userOf uid = user ∧
        table.get? user = some record ∧ record.pending.get? package = some tags := by
  unfold offer? at offered
  split at offered
  next payload owner =>
    split at offered
    next here => exact .inl ⟨payload, here ▸ rfl, offered⟩
    next => cases offered
  next added uid =>
    split at offered
    next here =>
      obtain ⟨record, found, waits⟩ := Option.bind_eq_some_iff.1 offered
      exact .inr ⟨uid, record, here.1 ▸ rfl, here.2, found, waits⟩
    next => cases offered
  next => cases offered

/-- About one package, a request hears what is heard when its offer is applied, or nothing that sets any
locales. -/
theorem Course.about {table : StagedTable} {request : Request} {heard : List Heard} {deed : Deed}
    {answer : Except Panic Reply} (course : Course table request heard deed answer)
    (package : String) : Quiet (heardAbout heard package) ∨ ∃ user tags result,
      request.offer? table user package = some tags ∧
        Applies package tags user (heardAbout heard package) result := by
  have silent {others : List Heard} (none : heardAbout others package = []) :
      Quiet (heardAbout others package) := by
    rw [none]
    exact List.forall_mem_nil _
  have ingested {payload : Bytes} {user : UserId} {now : Int64} {others : List Heard}
      {result : Except Panic Preferences}
      (ingests : InTurn (Ingests user) ∅ (preferencesIn payload).toList others result) :
      Quiet (heardAbout (⟨.now, .ok now⟩ :: others) package) ∨ ∃ owner tags answer,
        (Request.restore (some payload) user).offer? table owner package = some tags ∧
          Applies package tags owner (heardAbout (⟨.now, .ok now⟩ :: others) package) answer := by
    rcases (handled_of_ingests ingests package).silent_or_applies with none | ⟨tags, answer, held, applies⟩
    · exact .inl (silent none)
    · exact .inr ⟨user, tags, answer, (if_pos rfl).trans held, applies⟩
  have arrived {added tags : String} {uid : UInt32} {record : StagedRecord} {others : List Heard}
      {result : Except Panic Unit} (found : table.get? (userOf uid) = some record)
      (waits : record.pending.get? added = some tags)
      (applies : Applies added tags (userOf uid) others result) :
      Quiet (heardAbout (⟨.isInstalled added (userOf uid), .ok true⟩ :: others) package) ∨
        ∃ owner text answer, (Request.event (.packageAdded added uid)).offer? table owner package =
          some text ∧ Applies package text owner
            (heardAbout (⟨.isInstalled added (userOf uid), .ok true⟩ :: others) package) answer := by
    have about : heardAbout (⟨.isInstalled added (userOf uid), .ok true⟩ :: others) package =
        if package = added then others else [] := applies.about package
    by_cases same : package = added
    · subst same
      rw [if_pos rfl] at about
      rw [about]
      refine .inr ⟨userOf uid, tags, result, ?_, applies⟩
      simp [Request.offer?, StagedTable.waiting?, found, waits]
    · exact .inl (silent (about.trans (if_neg same)))
  cases course with
  | restored ingests => exact ingested ingests
  | broken ingests => exact ingested ingests
  | drained found waits applies => exact arrived found waits applies
  | interrupted found waits applies => exact arrived found waits applies
  | unlisted user now panic => exact .inl (silent rfl)
  | uncollected now collects =>
      have quiet := @Course.quiet_of_backup table _ _ _ _ (.uncollected now collects)
      exact .inl (quiet.heardAbout _)
  | backedUp now collects =>
      have quiet := @Course.quiet_of_backup table _ _ _ _ (.backedUp now collects)
      exact .inl (quiet.heardAbout _)
  | _ => exact .inl (silent rfl)

end LocaleStaging
