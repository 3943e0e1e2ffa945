import LocaleStaging.Proofs.Agent.Script

/-!
# What is heard of a device

What a device is asked and answers while a script is run is heard. It is all that the outcome of the script
depends on (`Script.consult_of_traces`). Each operation is walked once: what can be heard of it is listed, by
what comes of it (`Applies`, `Ingests`, `Collects`).
-/

namespace LocaleStaging

def DeviceCall.user? : DeviceCall → Option UserId
  | now => none
  | isInstalled _ user => some user
  | installedPackages user => some user
  | locales _ user => some user
  | setLocales _ user _ => some user
  | dataChanged _ => none

structure Heard where
  made : DeviceCall
  answer : Except Panic made.Answer

def Hears {η : Type} [Host η] : η → List Heard → η → Prop
  | host, [], after => after = host
  | host, heard :: rest, after =>
    (heard.made.put host).1 = heard.answer ∧ Hears (heard.made.put host).2 rest after

section Hearing
variable {η : Type} [Host η] {host middle after : η}

theorem Hears.append {first later : List Heard} (hears : Hears host first middle)
    (next : Hears middle later after) : Hears host (first ++ later) after := by
  induction first generalizing host with
  | nil =>
      cases hears
      exact next
  | cons heard first ih => exact ⟨hears.1, ih hears.2⟩

theorem Hears.of_append {first later : List Heard} (hears : Hears host (first ++ later) after) :
    ∃ middle, Hears host first middle ∧ Hears middle later after := by
  induction first generalizing host with
  | nil => exact ⟨host, rfl, hears⟩
  | cons heard first ih =>
      obtain ⟨middle, before, behind⟩ := ih hears.2
      exact ⟨middle, ⟨hears.1, before⟩, behind⟩

end Hearing

namespace Script

variable {α β : Type}

def Traces : Script α → List Heard → Except Panic α → Prop
  | done value, heard, answer => heard = [] ∧ answer = .ok value
  | tell _ _ rest, heard, answer => rest.Traces heard answer
  | ask made rest, heard, answer =>
    (∃ panic, heard = [⟨made, .error panic⟩] ∧ answer = .error panic) ∨
      ∃ value later, heard = ⟨made, .ok value⟩ :: later ∧ (rest value).Traces later answer

theorem traces_consult {η : Type} [Host η] (script : Script α) (host : η) :
    ∃ heard, script.Traces heard (script.consult host).1 ∧
      Hears host heard (script.consult host).2 := by
  induction script generalizing host with
  | done value => exact ⟨[], ⟨rfl, rfl⟩, rfl⟩
  | tell notice aside rest ih => exact ih host
  | ask made rest ih =>
      unfold consult
      split
      next value after put =>
        obtain ⟨heard, traces, hears⟩ := ih value after
        refine ⟨⟨made, .ok value⟩ :: heard, .inr ⟨value, heard, rfl, traces⟩, ?_⟩
        rw [Hears, put]
        exact ⟨rfl, hears⟩
      next panic after put =>
        refine ⟨[⟨made, .error panic⟩], .inl ⟨panic, rfl, rfl⟩, ?_⟩
        rw [Hears, put]
        exact ⟨rfl, rfl⟩

theorem consult_of_traces {η : Type} [Host η] {script : Script α} {heard : List Heard}
    {answer : Except Panic α} {host after : η} (traces : script.Traces heard answer)
    (hears : Hears host heard after) : script.consult host = (answer, after) := by
  induction script generalizing heard host with
  | done value =>
      obtain ⟨rfl, rfl⟩ := traces
      rw [consult, show after = host from hears]
  | tell notice aside rest ih => exact ih traces hears
  | ask made rest ih =>
      rcases traces with ⟨panic, rfl, rfl⟩ | ⟨value, later, rfl, traces⟩
      · obtain ⟨put, rfl⟩ := hears
        rw [consult, show made.put host = (.error panic, (made.put host).2) from Prod.ext put rfl]
      · obtain ⟨put, hears⟩ := hears
        rw [consult, show made.put host = (.ok value, (made.put host).2) from Prod.ext put rfl]
        exact ih value traces hears

theorem panicked_of_traces {script : Script α} {heard : List Heard} {panic : Panic}
    (traces : script.Traces heard (.error panic)) : ∃ made panic, ⟨made, .error panic⟩ ∈ heard := by
  induction script generalizing heard with
  | done value => cases traces.2
  | tell notice aside rest ih => exact ih traces
  | ask made rest ih =>
      rcases traces with ⟨_, rfl, _⟩ | ⟨value, later, rfl, traces⟩
      · exact ⟨made, _, List.mem_cons_self⟩
      · obtain ⟨called, panic, member⟩ := ih value traces
        exact ⟨called, panic, List.mem_cons_of_mem _ member⟩

theorem traces_bind {script : Script α} {next : α → Script β} {heard : List Heard}
    {answer : Except Panic β} (traces : (script >>= next).Traces heard answer) :
    (∃ panic, script.Traces heard (.error panic) ∧ answer = .error panic) ∨
      ∃ value first later, heard = first ++ later ∧ script.Traces first (.ok value) ∧
        (next value).Traces later answer := by
  induction script generalizing heard with
  | done value => exact .inr ⟨value, [], heard, rfl, ⟨rfl, rfl⟩, traces⟩
  | tell notice aside rest ih => exact ih traces
  | ask made rest ih =>
      rcases traces with ⟨panic, rfl, rfl⟩ | ⟨value, others, rfl, traces⟩
      · exact .inl ⟨panic, .inl ⟨panic, rfl, rfl⟩, rfl⟩
      · rcases ih value traces with ⟨panic, stopped, rfl⟩ | ⟨given, first, later, rfl, before, behind⟩
        · exact .inl ⟨panic, .inr ⟨value, others, rfl, stopped⟩, rfl⟩
        · exact .inr ⟨given, ⟨made, .ok value⟩ :: first, later, rfl,
            .inr ⟨value, first, rfl, before⟩, behind⟩

end Script

/-! ## What an operation hears -/

inductive InTurn {α β : Type} (step : β → α → List Heard → Except Panic β → Prop) :
    β → List α → List Heard → Except Panic β → Prop where
  | done (found : β) : InTurn step found [] [] (.ok found)
  | stopped {found : β} {value : α} {rest : List α} {heard : List Heard} {panic : Panic}
      (first : step found value heard (.error panic)) :
      InTurn step found (value :: rest) heard (.error panic)
  | next {found middle : β} {value : α} {rest : List α} {heard others : List Heard}
      {answer : Except Panic β} (first : step found value heard (.ok middle))
      (later : InTurn step middle rest others answer) :
      InTurn step found (value :: rest) (heard ++ others) answer

inductive Applies (package tags : String) (user : UserId) : List Heard → Except Panic Unit → Prop where
  | kept {current : LocaleList} (chosen : current.isEmpty = false) :
      Applies package tags user [⟨.locales package user, .ok (.ok current)⟩] (.ok ())
  | set {query : Except HostFault LocaleList} {report : Except HostFault Unit}
      (unset : ∀ current, query = .ok current → current.isEmpty = true) :
      Applies package tags user [⟨.locales package user, .ok query⟩,
        ⟨.setLocales package user (LocaleList.ofTags tags), .ok report⟩] (.ok ())
  | unread (panic : Panic) :
      Applies package tags user [⟨.locales package user, .error panic⟩] (.error panic)
  | unwritten {query : Except HostFault LocaleList}
      (unset : ∀ current, query = .ok current → current.isEmpty = true) (panic : Panic) :
      Applies package tags user [⟨.locales package user, .ok query⟩,
        ⟨.setLocales package user (LocaleList.ofTags tags), .error panic⟩] (.error panic)

inductive Ingests (user : UserId) (pending : Preferences) (restored : String × String) :
    List Heard → Except Panic Preferences → Prop where
  | unasked (panic : Panic) : Ingests user pending restored
      [⟨.isInstalled restored.1 user, .error panic⟩] (.error panic)
  | staged : Ingests user pending restored [⟨.isInstalled restored.1 user, .ok false⟩]
      (.ok (pending.insert restored.1 restored.2))
  | applied {heard : List Heard} (applies : Applies restored.1 restored.2 user heard (.ok ())) :
      Ingests user pending restored (⟨.isInstalled restored.1 user, .ok true⟩ :: heard) (.ok pending)
  | broken {heard : List Heard} {panic : Panic}
      (applies : Applies restored.1 restored.2 user heard (.error panic)) :
      Ingests user pending restored (⟨.isInstalled restored.1 user, .ok true⟩ :: heard)
        (.error panic)

inductive Collects (user : UserId) (collected : Preferences) (package : String) :
    List Heard → Except Panic Preferences → Prop where
  | unread (panic : Panic) :
      Collects user collected package [⟨.locales package user, .error panic⟩] (.error panic)
  | failed (fault : HostFault) :
      Collects user collected package [⟨.locales package user, .ok (.error fault)⟩] (.ok collected)
  | bare {locales : LocaleList} (bare : locales.isEmpty = true) :
      Collects user collected package [⟨.locales package user, .ok (.ok locales)⟩] (.ok collected)
  | found {locales : LocaleList} (filled : locales.isEmpty = false) :
      Collects user collected package [⟨.locales package user, .ok (.ok locales)⟩]
        (.ok (collected.insert package locales.toTags))

theorem InTurn.forall_heard {α β : Type} {step : β → α → List Heard → Except Panic β → Prop}
    {kind : Heard → Prop} (each : ∀ found value heard answer, step found value heard answer →
      ∀ one ∈ heard, kind one) {found : β} {list : List α} {heard : List Heard}
    {answer : Except Panic β} (inTurn : InTurn step found list heard answer) :
    ∀ one ∈ heard, kind one := by
  induction inTurn with
  | done found => exact List.forall_mem_nil _
  | stopped first => exact each _ _ _ _ first
  | next first later ih => exact List.forall_mem_append.2 ⟨each _ _ _ _ first, ih⟩

section Users
variable {user : UserId} {pending : Preferences} {heard : List Heard}

theorem Applies.for_user {package tags : String} {answer : Except Panic Unit}
    (applies : Applies package tags user heard answer) :
    ∀ one ∈ heard, one.made.user? = some user := by
  cases applies <;> simp [DeviceCall.user?]

theorem Ingests.for_user {restored : String × String} {answer : Except Panic Preferences}
    (ingests : Ingests user pending restored heard answer) :
    ∀ one ∈ heard, one.made.user? = some user := by
  cases ingests with
  | unasked panic => simp [DeviceCall.user?]
  | staged => simp [DeviceCall.user?]
  | applied applies => exact List.forall_mem_cons.2 ⟨rfl, applies.for_user⟩
  | broken applies => exact List.forall_mem_cons.2 ⟨rfl, applies.for_user⟩

theorem Collects.for_user {package : String} {answer : Except Panic Preferences}
    (collects : Collects user pending package heard answer) :
    ∀ one ∈ heard, one.made.user? = some user := by
  cases collects <;> simp [DeviceCall.user?]

end Users

namespace Script

theorem inTurn_of_traces {α β : Type} {step : β → α → Script β}
    {kind : β → α → List Heard → Except Panic β → Prop}
    (each : ∀ found value heard answer, (step found value).Traces heard answer →
      kind found value heard answer) {list : List α} {start : β} {heard : List Heard}
    {answer : Except Panic β} (traces : (list.foldlM step start).Traces heard answer) :
    InTurn kind start list heard answer := by
  induction list generalizing start heard with
  | nil =>
      obtain ⟨rfl, rfl⟩ := traces
      exact .done start
  | cons value list ih =>
      rw [List.foldlM_cons] at traces
      rcases traces_bind traces with ⟨panic, stopped, rfl⟩ | ⟨middle, first, later, rfl, before, behind⟩
      · exact .stopped (each _ _ _ _ stopped)
      · exact .next (each _ _ _ _ before) (ih behind)

variable {package tags : String} {user : UserId} {heard : List Heard}

theorem traces_setRestored {answer : Except Panic Unit}
    (traces : (setRestored package tags user).Traces heard answer) :
    ∃ result, heard = [⟨.setLocales package user (LocaleList.ofTags tags), result⟩] ∧
      answer = result.map fun _ => () := by
  rcases traces with ⟨panic, rfl, rfl⟩ | ⟨report, later, rfl, traces⟩
  · exact ⟨_, rfl, rfl⟩
  · cases report with
    | error fault =>
        obtain ⟨rfl, rfl⟩ := traces
        exact ⟨_, rfl, rfl⟩
    | ok given =>
        obtain ⟨rfl, rfl⟩ := traces
        exact ⟨_, rfl, rfl⟩

theorem applies_of_traces {answer : Except Panic Unit}
    (traces : (applyRestored package tags user).Traces heard answer) :
    Applies package tags user heard answer := by
  have setting {query : Except HostFault LocaleList} {later : List Heard}
      (unset : ∀ current, query = .ok current → current.isEmpty = true)
      (traces : (setRestored package tags user).Traces later answer) :
      Applies package tags user (⟨.locales package user, .ok query⟩ :: later) answer := by
    obtain ⟨result, rfl, rfl⟩ := traces_setRestored traces
    cases result with
    | error panic => exact .unwritten unset panic
    | ok report => exact .set unset
  rcases traces with ⟨panic, rfl, rfl⟩ | ⟨query, later, rfl, traces⟩
  · exact .unread panic
  · cases query with
    | error fault => exact setting (fun _ same => by cases same) traces
    | ok current =>
        cases bare : current.isEmpty with
        | true =>
            simp only [bare, if_true] at traces
            refine setting ?_ traces
            rintro _ ⟨⟩
            exact bare
        | false =>
            simp only [bare, Bool.false_eq_true, if_false] at traces
            obtain ⟨rfl, rfl⟩ := traces
            exact .kept bare

theorem ingests_of_traces {pending : Preferences} {restored : String × String}
    {answer : Except Panic Preferences}
    (traces : (ingest user pending restored).Traces heard answer) :
    Ingests user pending restored heard answer := by
  rcases traces with ⟨panic, rfl, rfl⟩ | ⟨installed, later, rfl, traces⟩
  · exact .unasked panic
  · cases installed with
    | false =>
        obtain ⟨rfl, rfl⟩ := traces
        exact .staged
    | true =>
        rcases traces_bind traces with ⟨panic, stopped, rfl⟩ | ⟨_, first, last, rfl, before, behind⟩
        · exact .broken (applies_of_traces stopped)
        · obtain ⟨rfl, rfl⟩ := behind
          rw [List.append_nil]
          exact .applied (applies_of_traces before)

theorem collects_of_traces {collected : Preferences} {answer : Except Panic Preferences}
    (traces : (collect user collected package).Traces heard answer) :
    Collects user collected package heard answer := by
  rcases traces with ⟨panic, rfl, rfl⟩ | ⟨query, later, rfl, traces⟩
  · exact .unread panic
  · cases query with
    | error fault =>
        obtain ⟨rfl, rfl⟩ := traces
        exact .failed fault
    | ok locales =>
        cases bare : locales.isEmpty with
        | true =>
            simp only [bare, if_true] at traces
            obtain ⟨rfl, rfl⟩ := traces
            exact .bare bare
        | false =>
            simp only [bare, Bool.false_eq_true, if_false] at traces
            obtain ⟨rfl, rfl⟩ := traces
            exact .found bare

theorem traces_readPayload {payload : Bytes} {answer : Except Panic Preferences}
    (traces : (readPayload payload).Traces heard answer) :
    heard = [] ∧ answer = .ok (preferencesIn payload) := by
  unfold readPayload at traces
  unfold preferencesIn
  cases decoded : Document.decode payload with
  | ok document =>
      rw [decoded] at traces
      exact traces
  | error fault =>
      rw [decoded] at traces
      exact traces

end Script

end LocaleStaging
