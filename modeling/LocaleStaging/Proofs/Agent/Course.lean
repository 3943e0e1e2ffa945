import LocaleStaging.Proofs.Agent.Hearing
import LocaleStaging.Proofs.Agent.Standing

/-!
# The course of a request

What is heard while a request is performed tells the deed and the reply (`Went.gives`). The courses that a
request can take are listed in `Course`, and what is said of a request is said of each of these.
-/

namespace LocaleStaging

/-! ## What a request hears -/

inductive Script.LeadsTo (plan : Script (Deed × Script Reply)) :
    List Heard → Deed → Except Panic Reply → Prop where
  | stopped {heard : List Heard} {panic : Panic} (traces : plan.Traces heard (.error panic)) :
      LeadsTo plan heard .nothing (.error panic)
  | finished {first later : List Heard} {deed : Deed} {closing : Script Reply}
      {answer : Except Panic Reply} (traces : plan.Traces first (.ok (deed, closing)))
      (closes : closing.Traces later answer) : LeadsTo plan (first ++ later) deed answer

namespace Script.LeadsTo

variable {α : Type} {heard : List Heard} {deed : Deed} {answer : Except Panic Reply}

theorem of_done {given : Deed} {closing : Script Reply}
    (leads : (Script.done (given, closing)).LeadsTo heard deed answer) :
    deed = given ∧ closing.Traces heard answer := by
  cases leads with
  | stopped traces => cases traces.2
  | finished traces closes =>
      obtain ⟨rfl, same⟩ := traces
      cases same
      exact ⟨rfl, closes⟩

theorem of_tell {notice : Notice} {aside : notice.fileOf? = none}
    {rest : Script (Deed × Script Reply)}
    (leads : (Script.tell notice aside rest).LeadsTo heard deed answer) :
    rest.LeadsTo heard deed answer := by
  cases leads with
  | stopped traces => exact .stopped traces
  | finished traces closes => exact .finished traces closes

theorem of_bind {script : Script α} {next : α → Script (Deed × Script Reply)}
    (leads : (script >>= next).LeadsTo heard deed answer) :
    (∃ panic, script.Traces heard (.error panic) ∧ deed = .nothing ∧ answer = .error panic) ∨
      ∃ value first later, heard = first ++ later ∧ script.Traces first (.ok value) ∧
        (next value).LeadsTo later deed answer := by
  cases leads with
  | stopped traces =>
      rcases traces_bind traces with ⟨panic, stopped, same⟩ | ⟨value, first, later, rfl, before, behind⟩
      · cases same
        exact .inl ⟨_, stopped, rfl, rfl⟩
      · exact .inr ⟨value, first, later, rfl, before, .stopped behind⟩
  | @finished _ last _ _ _ traces closes =>
      rcases traces_bind traces with ⟨panic, _, same⟩ | ⟨value, first, later, rfl, before, behind⟩
      · cases same
      · exact .inr ⟨value, first, later ++ last, List.append_assoc _ _ _, before,
          .finished behind closes⟩

theorem of_ask {made : DeviceCall} {rest : made.Answer → Script (Deed × Script Reply)}
    (leads : (Script.ask made rest).LeadsTo heard deed answer) :
    (∃ panic, heard = [⟨made, .error panic⟩] ∧ deed = .nothing ∧ answer = .error panic) ∨
      ∃ value later, heard = ⟨made, .ok value⟩ :: later ∧ (rest value).LeadsTo later deed answer := by
  cases leads with
  | stopped traces =>
      rcases traces with ⟨panic, rfl, same⟩ | ⟨value, later, rfl, traces⟩
      · cases same
        exact .inl ⟨_, rfl, rfl, rfl⟩
      · exact .inr ⟨value, later, rfl, .stopped traces⟩
  | finished traces closes =>
      rcases traces with ⟨panic, _, same⟩ | ⟨value, later, rfl, traces⟩
      · cases same
      · exact .inr ⟨value, _, rfl, .finished traces closes⟩

theorem panicked {plan : Script (Deed × Script Reply)} {panic : Panic}
    (leads : plan.LeadsTo heard deed (.error panic)) : ∃ made panic, ⟨made, .error panic⟩ ∈ heard := by
  cases leads with
  | stopped traces => exact panicked_of_traces traces
  | finished traces closes =>
      obtain ⟨made, panic, member⟩ := panicked_of_traces closes
      exact ⟨made, panic, List.mem_append_right _ member⟩

end Script.LeadsTo

namespace Agent

variable {η φ : Type} [Host η] [FileSystem φ]

structure Went (request : Request) (before : Standing η φ) (heard : List Heard) (deed : Deed)
    (answer : Except Panic Reply) (after : Standing η φ) : Prop where
  leads : (request.plan before.table).LeadsTo heard deed answer
  hears : Hears before.host heard after.host
  staged : Yields Workspace.files (deed.work before.table) before.files after.table after.files

variable {request : Request} {before after : Standing η φ} {heard : List Heard} {deed : Deed}
  {answer : Except Panic Reply}

theorem Went.gives (went : Went request before heard deed answer after) :
    Gives (perform request) before answer after := by
  obtain ⟨leads, hears, staged⟩ := went
  rintro agent rfl
  rw [run_perform]
  cases leads with
  | stopped traces =>
      have stopped : (request.plan agent.table).consult agent.host = _ :=
        Script.consult_of_traces traces hears
      obtain ⟨same, kept⟩ := Work.yields_unique staged (Yields.pure agent.table agent.workspace.files)
      rw [run_carryOut_of_error stopped]
      refine ⟨rfl, ?_⟩
      exact congrArg₂ (Standing.mk after.host) same.symm kept.symm
  | finished traces closes =>
      obtain ⟨middle, first, later⟩ := hears.of_append
      have given : (request.plan agent.table).consult agent.host = _ :=
        Script.consult_of_traces traces first
      have closed := Script.consult_of_traces closes later
      obtain ⟨same, kept⟩ := staged
        (agent.informed middle ((request.plan agent.table).told agent.host)).workspace rfl
      rw [run_carryOut_of_ok given, closed]
      refine ⟨rfl, ?_⟩
      exact congrArg₂ (Standing.mk after.host) same kept

theorem Went.left (went : Went request before heard deed answer after) :
    after.table = deed.left before.table := by
  obtain ⟨given, _⟩ := went.staged ⟨before.files, []⟩ rfl
  rw [← given, deed.fst_work]

theorem Went.stays (went : Went request before heard .nothing answer after) :
    after.table = before.table ∧ after.files = before.files :=
  Work.yields_unique went.staged (Yields.pure before.table before.files)

/-- What a request has put out besides its deed tells nothing of stage files. -/
theorem exists_emitted (request : Request) (agent : Agent η φ) :
    let run := (perform request).run agent
    ∃ (heard : List Heard) (deed : Deed) (put : List Emission) (early late : List Notice),
      Went request agent.standing heard deed run.1 run.2.standing ∧
      Work.Emits (deed.work agent.table) agent.workspace.files run.2.table run.2.workspace.files put ∧
      run.2.workspace.output =
        agent.workspace.output ++ (early.map .notice ++ put ++ late.map .notice) ∧
      ∀ notice ∈ early ++ late, notice.fileOf? = none := by
  intro run
  have performed : run = (carryOut (request.plan agent.table)).run agent := run_perform request agent
  clear_value run
  subst performed
  obtain ⟨first, traces, hears⟩ := (request.plan agent.table).traces_consult agent.host
  cases given : (request.plan agent.table).consult agent.host with
  | mk result host =>
      rw [given] at traces hears
      cases result with
      | error panic =>
          rw [run_carryOut_of_error given]
          refine ⟨first, .nothing, [], (request.plan agent.table).told agent.host, [],
            ⟨.stopped traces, hears, Yields.pure _ _⟩, Work.Emits.pure _ _, ?_, ?_⟩
          · rw [List.append_nil, List.map_nil, List.append_nil]
            rfl
          · rw [List.append_nil]
            exact fun notice member => Script.aside_of_told member
      | ok value =>
          obtain ⟨deed, closing⟩ := value
          obtain ⟨later, closes, hears_later⟩ := closing.traces_consult host
          obtain ⟨files, put, emits⟩ := deed.exists_emits agent.table agent.workspace.files
          have done : deed.work agent.table (agent.informed host
              ((request.plan agent.table).told agent.host)).workspace =
                (deed.left agent.table, ⟨files, _⟩) := emits _
          have ended := run_carryOut_of_ok given
          simp only [done] at ended
          rw [ended]
          refine ⟨first ++ later, deed, put, (request.plan agent.table).told agent.host, closing.told host,
            ⟨.finished traces closes, hears.append hears_later, emits.yields⟩, emits, ?_, ?_⟩
          · simp only [informed, List.append_assoc]
          · exact List.forall_mem_append.2 ⟨fun notice member => Script.aside_of_told member,
              fun notice member => Script.aside_of_told member⟩

theorem Went.of_run (request : Request) (agent : Agent η φ) :
    ∃ heard deed, Went request agent.standing heard deed ((perform request).run agent).1
      ((perform request).run agent).2.standing := by
  obtain ⟨heard, deed, _, _, _, went, _⟩ := exists_emitted request agent
  exact ⟨heard, deed, went⟩

theorem exists_went (request : Request) (before : Standing η φ) :
    ∃ heard deed answer after, Went request before heard deed answer after := by
  obtain ⟨heard, deed, went⟩ := Went.of_run request ⟨before.host, before.table, ⟨before.files, []⟩⟩
  exact ⟨heard, deed, _, _, went⟩

omit [Host η] [FileSystem φ] in
theorem run_map {α β : Type} (operation : Operation η φ α) (value : α → β) (agent : Agent η φ) :
    (do return value (← operation) : Operation η φ β).run agent =
      ((operation.run agent).1.map value, (operation.run agent).2) := by
  rw [run_bind]
  cases (operation.run agent).1 <;> rfl

theorem returned_of_map {α β : Type} {answer : Except Panic α} {value : α → β}
    (returned : ∃ given, answer.map value = .ok given) : ∃ given, answer = .ok given := by
  cases answer with
  | ok given => exact ⟨given, rfl⟩
  | error panic =>
      obtain ⟨given, same⟩ := returned
      cases same

theorem went_of_performs {α : Type} {operation : Operation η φ α} {value : α → Reply}
    (performs : perform request = (do return value (← operation))) (agent : Agent η φ) :
    ∃ heard deed, Went request agent.standing heard deed ((operation.run agent).1.map value)
      (operation.run agent).2.standing := by
  obtain ⟨heard, deed, went⟩ := Went.of_run request agent
  rw [performs, run_map] at went
  exact ⟨heard, deed, went⟩

theorem went_restore (agent : Agent η φ) (payload : Option Bytes) (user : UserId) :
    ∃ heard deed, Went (.restore payload user) agent.standing heard deed
      (((restore payload user).run agent).1.map fun _ => .done)
      ((restore payload user).run agent).2.standing :=
  went_of_performs rfl agent

theorem went_handle (agent : Agent η φ) (event : Event) :
    ∃ heard deed, Went (.event event) agent.standing heard deed
      (((handle event).run agent).1.map fun _ => .done) ((handle event).run agent).2.standing :=
  went_of_performs rfl agent

theorem went_backup (agent : Agent η φ) (user : UserId) :
    ∃ heard deed, Went (.backup user) agent.standing heard deed
      (((backup user).run agent).1.map .backedUp) ((backup user).run agent).2.standing :=
  went_of_performs rfl agent

theorem went_sweepExpired (agent : Agent η φ) :
    ∃ heard deed, Went .sweep agent.standing heard deed
      ((sweepExpired.run agent).1.map .swept) (sweepExpired.run agent).2.standing :=
  went_of_performs rfl agent

end Agent

inductive Request.MayCall : Request → DeviceCall → Prop where
  | now (request : Request) : MayCall request .now
  | notify {event : Event} (notifies : event.notifies = true) (key : String) :
      MayCall (.event event) (.dataChanged key)
  | own {request : Request} {made : DeviceCall} {user : UserId} (owned : request.user? = some user)
      (named : made.user? = some user) : MayCall request made

theorem Request.MayCall.foreign {request : Request} {made : DeviceCall} (calls : request.MayCall made)
    {user : UserId} (foreign : request.user? ≠ some user) : made.user? ≠ some user := by
  cases calls with
  | now request => simp [DeviceCall.user?]
  | notify notifies key => simp [DeviceCall.user?]
  | own owned named => rwa [named, ← owned]

def payloadOf (found : Preferences) : Option Bytes :=
  if found.isEmpty then none else some (Document.encode ⟨none, found⟩)

/-- The courses that a request can take with a table, by what it hears: the deed that is done, and the
reply. -/
inductive Course (table : StagedTable) :
    Request → List Heard → Deed → Except Panic Reply → Prop where
  | unpaid (user : UserId) : Course table (.restore none user) [] .nothing (.ok .done)
  | untimed {request : Request} (timed : request.sweeps = true ∨ request.payload?.isSome = true)
      (panic : Panic) : Course table request [⟨.now, .error panic⟩] .nothing (.error panic)
  | restored {payload : Bytes} {user : UserId} {now : Int64} {heard : List Heard}
      {pending : Preferences}
      (ingests : InTurn (Ingests user) ∅ (preferencesIn payload).toList heard (.ok pending)) :
      Course table (.restore (some payload) user) (⟨.now, .ok now⟩ :: heard)
        (.keep user ⟨now, pending⟩) (.ok .done)
  | broken {payload : Bytes} {user : UserId} {now : Int64} {heard : List Heard} {panic : Panic}
      (ingests : InTurn (Ingests user) ∅ (preferencesIn payload).toList heard (.error panic)) :
      Course table (.restore (some payload) user) (⟨.now, .ok now⟩ :: heard) .nothing (.error panic)
  | unstaged {package : String} {uid : UInt32} (bare : table.get? (userOf uid) = none) :
      Course table (.event (.packageAdded package uid)) [] .nothing (.ok .done)
  | unasked {package : String} {uid : UInt32} {record : StagedRecord}
      (found : table.get? (userOf uid) = some record) (panic : Panic) :
      Course table (.event (.packageAdded package uid))
        [⟨.isInstalled package (userOf uid), .error panic⟩] .nothing (.error panic)
  | idle {package : String} {uid : UInt32} {record : StagedRecord} {installed : Bool}
      (found : table.get? (userOf uid) = some record)
      (idle : installed = true → record.pending.get? package = none) :
      Course table (.event (.packageAdded package uid))
        [⟨.isInstalled package (userOf uid), .ok installed⟩] .nothing (.ok .done)
  | drained {package tags : String} {uid : UInt32} {record : StagedRecord} {heard : List Heard}
      (found : table.get? (userOf uid) = some record)
      (waits : record.pending.get? package = some tags)
      (applies : Applies package tags (userOf uid) heard (.ok ())) :
      Course table (.event (.packageAdded package uid))
        (⟨.isInstalled package (userOf uid), .ok true⟩ :: heard)
        (.keep (userOf uid) { record with pending := record.pending.erase package }) (.ok .done)
  | interrupted {package tags : String} {uid : UInt32} {record : StagedRecord} {heard : List Heard}
      {panic : Panic} (found : table.get? (userOf uid) = some record)
      (waits : record.pending.get? package = some tags)
      (applies : Applies package tags (userOf uid) heard (.error panic)) :
      Course table (.event (.packageAdded package uid))
        (⟨.isInstalled package (userOf uid), .ok true⟩ :: heard) .nothing (.error panic)
  | notified {event : Event} (notifies : event.notifies = true) :
      Course table (.event event) [⟨.dataChanged Agent.backupKey, .ok ()⟩] .nothing (.ok .done)
  | unnotified {event : Event} (notifies : event.notifies = true) (panic : Panic) :
      Course table (.event event) [⟨.dataChanged Agent.backupKey, .error panic⟩] .nothing
        (.error panic)
  | removed (user : UserId) : Course table (.event (.userRemoved user)) [] (.remove user) (.ok .done)
  | swept (now : Int64) : Course table .sweep [⟨.now, .ok now⟩] (.sweep now)
      (.ok (.swept (table.expiredUsers now)))
  | unlisted (user : UserId) (now : Int64) (panic : Panic) : Course table (.backup user)
      [⟨.now, .ok now⟩, ⟨.installedPackages user, .error panic⟩] (.sweep now) (.error panic)
  | uncollected {user : UserId} {packages : List String} {heard : List Heard} {panic : Panic}
      (now : Int64) (collects : InTurn (Collects user) ∅ packages heard (.error panic)) :
      Course table (.backup user)
        (⟨.now, .ok now⟩ :: ⟨.installedPackages user, .ok packages⟩ :: heard) (.sweep now)
        (.error panic)
  | backedUp {user : UserId} {packages : List String} {heard : List Heard} {found : Preferences}
      (now : Int64) (collects : InTurn (Collects user) ∅ packages heard (.ok found)) :
      Course table (.backup user)
        (⟨.now, .ok now⟩ :: ⟨.installedPackages user, .ok packages⟩ :: heard) (.sweep now)
        (.ok (.backedUp (payloadOf found)))

namespace Course

open Script

variable {table : StagedTable} {heard : List Heard} {deed : Deed} {answer : Except Panic Reply}

theorem of_restore {payload : Bytes} {user : UserId}
    (leads : ((Request.restore (some payload) user).plan table).LeadsTo heard deed answer) :
    Course table (.restore (some payload) user) heard deed answer := by
  rcases leads.of_bind with ⟨panic, stopped, _⟩ | ⟨restored, _, later, rfl, read, leads⟩
  · cases (traces_readPayload stopped).2
  · obtain ⟨rfl, same⟩ := traces_readPayload read
    cases same
    rw [List.nil_append]
    rcases leads.of_ask with ⟨panic, rfl, rfl, rfl⟩ | ⟨now, others, rfl, timed⟩
    · exact .untimed (.inr rfl) panic
    · have each (found : Preferences) (value : String × String) (heard : List Heard)
          (answer : Except Panic Preferences) (traces : (ingest user found value).Traces heard answer) :
          Ingests user found value heard answer := ingests_of_traces traces
      rcases timed.of_bind with ⟨panic, stopped, rfl, rfl⟩ | ⟨pending, first, last, rfl, taken, ends⟩
      · exact .broken (inTurn_of_traces each stopped)
      · obtain ⟨rfl, rfl, rfl⟩ := ends.of_tell.of_done
        rw [List.append_nil]
        exact .restored (inTurn_of_traces each taken)

theorem of_packageAdded {package : String} {uid : UInt32}
    (leads : ((Request.event (.packageAdded package uid)).plan table).LeadsTo heard deed answer) :
    Course table (.event (.packageAdded package uid)) heard deed answer := by
  rw [Request.plan] at leads
  cases found : table.get? (userOf uid) with
  | none =>
      rw [found] at leads
      obtain ⟨rfl, rfl, rfl⟩ := leads.of_done
      exact .unstaged found
  | some record =>
      rw [found] at leads
      rcases leads.of_ask with ⟨panic, rfl, rfl, rfl⟩ | ⟨installed, others, rfl, answered⟩
      · exact .unasked found panic
      · cases installed with
        | false =>
            obtain ⟨rfl, rfl, rfl⟩ := answered.of_tell.of_done
            exact .idle found (by simp)
        | true =>
            cases waits : record.pending.get? package with
            | none =>
                simp only [waits, if_true] at answered
                obtain ⟨rfl, rfl, rfl⟩ := answered.of_done
                exact .idle found fun _ => waits
            | some tags =>
                simp only [waits, if_true] at answered
                rcases answered.of_bind with ⟨panic, stopped, rfl, rfl⟩ | ⟨_, first, last, rfl, applied, ends⟩
                · exact .interrupted found waits (applies_of_traces stopped)
                · obtain ⟨rfl, rfl, rfl⟩ := ends.of_done
                  rw [List.append_nil]
                  exact .drained found waits (applies_of_traces applied)

theorem of_backup {user : UserId}
    (leads : ((Request.backup user).plan table).LeadsTo heard deed answer) :
    Course table (.backup user) heard deed answer := by
  rcases leads.of_ask with ⟨panic, rfl, rfl, rfl⟩ | ⟨now, others, rfl, timed⟩
  · exact .untimed (.inl rfl) panic
  · obtain ⟨rfl, traces⟩ := timed.of_done
    rcases traces with ⟨panic, rfl, rfl⟩ | ⟨packages, later, rfl, traces⟩
    · exact .unlisted user now panic
    · have each (found : Preferences) (value : String) (heard : List Heard)
          (answer : Except Panic Preferences) (traces : (collect user found value).Traces heard answer) :
          Collects user found value heard answer := collects_of_traces traces
      rcases traces_bind traces with ⟨panic, stopped, rfl⟩ | ⟨payload, first, last, rfl, packed, ended⟩
      · rcases traces_bind stopped with ⟨_, stopped, same⟩ | ⟨found, _, _, rfl, _, ended⟩
        · cases same
          exact .uncollected now (inTurn_of_traces each stopped)
        · cases bare : found.isEmpty with
          | true =>
              simp only [bare, if_true] at ended
              cases ended.2
          | false =>
              simp only [bare, Bool.false_eq_true, if_false] at ended
              cases ended.2
      · obtain ⟨rfl, rfl⟩ := ended
        rcases traces_bind packed with ⟨panic, _, same⟩ | ⟨found, first, last, rfl, collected, ended⟩
        · cases same
        · have given : last = [] ∧ payload = payloadOf found := by
            unfold payloadOf
            cases bare : found.isEmpty with
            | true =>
                simp only [bare, if_true] at ended
                exact ⟨ended.1, Except.ok.inj ended.2⟩
            | false =>
                simp only [bare, Bool.false_eq_true, if_false] at ended
                exact ⟨ended.1, Except.ok.inj ended.2⟩
          obtain ⟨rfl, rfl⟩ := given
          rw [List.append_nil, List.append_nil]
          exact .backedUp now (inTurn_of_traces each collected)

theorem of_notification {event : Event} (notifies : event.notifies = true)
    (leads : (Script.ask (.dataChanged Agent.backupKey) fun _ =>
      .done (.nothing, .done .done)).LeadsTo heard deed answer) :
    Course table (.event event) heard deed answer := by
  rcases leads.of_ask with ⟨panic, rfl, rfl, rfl⟩ | ⟨_, later, rfl, answered⟩
  · exact .unnotified notifies panic
  · obtain ⟨rfl, rfl, rfl⟩ := answered.of_done
    exact .notified notifies

theorem of_leads {request : Request} (leads : (request.plan table).LeadsTo heard deed answer) :
    Course table request heard deed answer := by
  cases request with
  | restore payload user =>
      cases payload with
      | none =>
          obtain ⟨rfl, rfl, rfl⟩ := leads.of_tell.of_done
          exact .unpaid user
      | some payload => exact of_restore leads
  | sweep =>
      rcases leads.of_ask with ⟨panic, rfl, rfl, rfl⟩ | ⟨now, later, rfl, timed⟩
      · exact .untimed (.inl rfl) panic
      · obtain ⟨rfl, rfl, rfl⟩ := timed.of_done
        exact .swept now
  | backup user => exact of_backup leads
  | event event =>
      cases event with
      | packageAdded package uid => exact of_packageAdded leads
      | packageDataCleared package uid => exact of_notification rfl leads.of_tell
      | packageRemoved package uid => exact of_notification rfl leads.of_tell
      | userRemoved user =>
          obtain ⟨rfl, closes⟩ := leads.of_done
          split at closes
          · obtain ⟨rfl, rfl⟩ := closes
            exact .removed user
          · obtain ⟨rfl, rfl⟩ := closes
            exact .removed user

theorem of_notifies {event : Event} (course : Course table (.event event) heard deed answer)
    (notifies : event.notifies = true) :
    deed = .nothing ∧ ∃ result, heard = [⟨.dataChanged Agent.backupKey, result⟩] := by
  cases course with
  | notified _ => exact ⟨rfl, _, rfl⟩
  | unnotified _ panic => exact ⟨rfl, _, rfl⟩
  | untimed timed panic => simp [Request.sweeps, Request.payload?] at timed
  | _ => cases notifies

theorem calls {request : Request} (course : Course table request heard deed answer) :
    ∀ one ∈ heard, request.MayCall one.made := by
  have own {user : UserId} {others : List Heard} (named : request.user? = some user)
      (for_user : ∀ one ∈ others, one.made.user? = some user) :
      ∀ one ∈ others, request.MayCall one.made :=
    fun one member => .own named (for_user one member)
  have ingested {user : UserId} {restored : List (String × String)} {others : List Heard}
      {result : Except Panic Preferences} (ingests : InTurn (Ingests user) ∅ restored others result) :
      ∀ one ∈ others, one.made.user? = some user :=
    ingests.forall_heard fun _ _ _ _ first => first.for_user
  have collected {user : UserId} {packages : List String} {others : List Heard}
      {result : Except Panic Preferences} (collects : InTurn (Collects user) ∅ packages others result) :
      ∀ one ∈ others, one.made.user? = some user :=
    collects.forall_heard fun _ _ _ _ first => first.for_user
  cases course with
  | unpaid user => exact List.forall_mem_nil _
  | unstaged bare => exact List.forall_mem_nil _
  | removed user => exact List.forall_mem_nil _
  | untimed timed panic => exact List.forall_mem_singleton.2 (.now _)
  | swept now => exact List.forall_mem_singleton.2 (.now _)
  | restored ingests => exact List.forall_mem_cons.2 ⟨.now _, own rfl (ingested ingests)⟩
  | broken ingests => exact List.forall_mem_cons.2 ⟨.now _, own rfl (ingested ingests)⟩
  | unasked found panic => exact own rfl (List.forall_mem_singleton.2 rfl)
  | idle found idle => exact own rfl (List.forall_mem_singleton.2 rfl)
  | drained found waits applies =>
      exact own rfl (List.forall_mem_cons.2 ⟨rfl, applies.for_user⟩)
  | interrupted found waits applies =>
      exact own rfl (List.forall_mem_cons.2 ⟨rfl, applies.for_user⟩)
  | notified notifies => exact List.forall_mem_singleton.2 (.notify notifies _)
  | unnotified notifies panic => exact List.forall_mem_singleton.2 (.notify notifies _)
  | unlisted user now panic =>
      exact List.forall_mem_cons.2 ⟨.now _, own rfl (List.forall_mem_singleton.2 rfl)⟩
  | uncollected now collects =>
      exact List.forall_mem_cons.2
        ⟨.now _, own rfl (List.forall_mem_cons.2 ⟨rfl, collected collects⟩)⟩
  | backedUp now collects =>
      exact List.forall_mem_cons.2
        ⟨.now _, own rfl (List.forall_mem_cons.2 ⟨rfl, collected collects⟩)⟩

theorem sweep_of_time {request : Request} (course : Course table request heard deed answer)
    (sweeps : request.sweeps = true) : ∃ (time : Except Panic Int64) (later : List Heard),
      heard = ⟨.now, time⟩ :: later ∧
        deed = match time with
          | .ok now => .sweep now
          | .error _ => .nothing := by
  cases course with
  | untimed timed panic => exact ⟨_, _, rfl, rfl⟩
  | swept now => exact ⟨_, _, rfl, rfl⟩
  | unlisted user now panic => exact ⟨_, _, rfl, rfl⟩
  | uncollected now collects => exact ⟨_, _, rfl, rfl⟩
  | backedUp now collects => exact ⟨_, _, rfl, rfl⟩
  | _ => cases sweeps

theorem eq_done_of_event {event : Event} {reply : Reply}
    (course : Course table (.event event) heard deed (.ok reply)) : reply = .done := by
  cases course <;> rfl

end Course

theorem Agent.Went.course {η φ : Type} [Host η] [FileSystem φ] {request : Request}
    {before after : Standing η φ} {heard : List Heard} {deed : Deed} {answer : Except Panic Reply}
    (went : Went request before heard deed answer after) :
    Course before.table request heard deed answer :=
  .of_leads went.leads

theorem Agent.Went.sweeps_alike {η φ : Type} [Host η] [FileSystem φ] {first second : Request}
    {before after another : Standing η φ} {heard others : List Heard} {deed done : Deed}
    {answer reply : Except Panic Reply} (went : Went first before heard deed answer after)
    (went_second : Went second before others done reply another) (sweeps : first.sweeps = true)
    (sweeps_second : second.sweeps = true) :
    after.table = another.table ∧ after.files = another.files := by
  obtain ⟨time, _, rfl, rfl⟩ := went.course.sweep_of_time sweeps
  obtain ⟨clock, _, rfl, rfl⟩ := went_second.course.sweep_of_time sweeps_second
  obtain rfl : time = clock := went.hears.1.symm.trans went_second.hears.1
  exact Work.yields_unique went.staged went_second.staged

end LocaleStaging
