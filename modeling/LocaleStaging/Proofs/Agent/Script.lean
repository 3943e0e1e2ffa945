import LocaleStaging.Device
import LocaleStaging.Proofs.Agent.Deed
import LocaleStaging.Proofs.Agent.Request

/-!
# Requests as scripts

What an agent does about its device is a script: it makes calls, goes on by what it is answered, and puts
out notices. A request begins with one script, which ends with a deed, and may go on with another
(`Request.plan`). An agent that performs a request carries out its plan (`run_perform`), so what is said
of scripts and deeds holds of all requests.
-/

namespace LocaleStaging

@[reducible] def DeviceCall.Answer : DeviceCall → Type
  | now => Int64
  | isInstalled _ _ => Bool
  | installedPackages _ => List String
  | locales _ _ => Except HostFault LocaleList
  | setLocales _ _ _ => Except HostFault Unit
  | dataChanged _ => Unit

def DeviceCall.put {η : Type} [Host η] : (made : DeviceCall) → HostCall η made.Answer
  | now => Host.now
  | isInstalled package user => Host.isInstalled package user
  | installedPackages user => Host.installedPackages user
  | locales package user => Host.locales package user
  | setLocales package user list => Host.setLocales package user list
  | dataChanged key => Host.dataChanged key

@[reducible] def Notice.fileOf? : Notice → Option UserId
  | written user => some user
  | writeFailed user _ => some user
  | deleteFailed user _ => some user
  | _ => none

inductive Script (α : Type) where
  | done (value : α)
  | tell (notice : Notice) (aside : notice.fileOf? = none) (rest : Script α)
  | ask (made : DeviceCall) (rest : made.Answer → Script α)

namespace Script

variable {α β : Type}

protected def bind : Script α → (α → Script β) → Script β
  | done value, next => next value
  | tell notice aside rest, next => tell notice aside (rest.bind next)
  | ask made rest, next => ask made fun answer => (rest answer).bind next

instance : Monad Script where
  pure := done
  bind := Script.bind

/-! ## Scripts of operations -/

def setRestored (package tags : String) (user : UserId) : Script Unit :=
  ask (.setLocales package user (LocaleList.ofTags tags)) fun
    | .ok () => tell (.restored package (LocaleList.ofTags tags)) rfl (done ())
    | .error fault => tell (.restoreFailed package fault) rfl (done ())

def applyRestored (package tags : String) (user : UserId) : Script Unit :=
  ask (.locales package user) fun
    | .ok current =>
      if current.isEmpty then setRestored package tags user
      else tell (.kept package current) rfl (done ())
    | .error fault => tell (.checkFailed package fault) rfl (setRestored package tags user)

def ingest (user : UserId) (pending : Preferences) (restored : String × String) :
    Script Preferences :=
  ask (.isInstalled restored.1 user) fun installed =>
    if installed then do
      applyRestored restored.1 restored.2 user
      return pending
    else
      tell (.staged restored.1 restored.2) rfl (done (pending.insert restored.1 restored.2))

def readPayload (payload : Bytes) : Script Preferences :=
  match Document.decode payload with
  | .ok document => done document.preferences
  | .error fault => tell (.badPayload fault) rfl (done ∅)

def collect (user : UserId) (collected : Preferences) (package : String) : Script Preferences :=
  ask (.locales package user) fun
    | .ok locales =>
      if locales.isEmpty then done collected
      else tell (.collected package locales) rfl (done (collected.insert package locales.toTags))
    | .error fault => tell (.queryFailed package fault) rfl (done collected)

def packUp (user : UserId) (packages : List String) : Script (Option Bytes) := do
  let collected ← packages.foldlM (collect user) ∅
  if collected.isEmpty then tell (.nothingToBackUp user) rfl (done none)
  else return some (Document.encode ⟨none, collected⟩)

end Script

namespace Request

open Script

def plan (table : StagedTable) : Request → Script (Deed × Script Reply)
  | restore none user => tell (.noPayload user) rfl (done (.nothing, done .done))
  | restore (some payload) user => do
    let restored ← readPayload payload
    ask .now fun now => do
      let pending ← restored.toList.foldlM (ingest user) ∅
      tell (.stagedAll user pending.size) rfl (done (.keep user ⟨now, pending⟩, done .done))
  | event (.packageAdded package uid) =>
    match table.get? (userOf uid) with
    | none => done (.nothing, done .done)
    | some record => ask (.isInstalled package (userOf uid)) fun installed =>
      if installed then
        match record.pending.get? package with
        | none => done (.nothing, done .done)
        | some tags => do
          applyRestored package tags (userOf uid)
          return (.keep (userOf uid) { record with pending := record.pending.erase package },
            done .done)
      else tell (.notInstalled package (userOf uid)) rfl (done (.nothing, done .done))
  | event (.packageDataCleared package uid) =>
    tell (.dataCleared package uid) rfl
      (ask (.dataChanged Agent.backupKey) fun _ => done (.nothing, done .done))
  | event (.packageRemoved package uid) =>
    tell (.packageRemoved package uid) rfl
      (ask (.dataChanged Agent.backupKey) fun _ => done (.nothing, done .done))
  | event (.userRemoved user) =>
    done (.remove user,
      if (table.get? user).isSome then tell (.userDropped user) rfl (done .done) else done .done)
  | sweep => ask .now fun now => done (.sweep now, done (.swept (table.expiredUsers now)))
  | backup user => ask .now fun now => done (.sweep now,
      ask (.installedPackages user) fun packages => do
        let payload ← packUp user packages
        return .backedUp payload)

end Request

/-! ## Running a script -/

namespace Script

variable {η φ α β : Type} [Host η]

def run : Script α → Operation η φ α
  | done value => return value
  | tell notice _ rest => do
    Agent.note notice
    rest.run
  | ask made rest => do (rest (← Agent.call made.put)).run

theorem run_pure (value : α) : ((pure value : Script α).run : Operation η φ α) = pure value := rfl

theorem run_bind (script : Script α) (next : α → Script β) :
    ((script >>= next).run : Operation η φ β) = (do (next (← script.run)).run) := by
  induction script with
  | done value => exact (pure_bind value fun value => (next value).run).symm
  | tell notice aside rest ih =>
      have first : ((tell notice aside rest >>= next).run : Operation η φ β) =
          (do Agent.note notice; (rest >>= next).run) := rfl
      rw [first, ih]
      exact (bind_assoc _ _ _).symm
  | ask made rest ih =>
      have first : ((ask made rest >>= next).run : Operation η φ β) =
          (do (rest (← Agent.call made.put) >>= next).run) := rfl
      rw [first]
      exact (bind_congr fun answer => ih answer).trans (bind_assoc _ _ _).symm

theorem run_foldlM (step : β → α → Script β) (list : List α) (start : β) :
    ((list.foldlM step start).run : Operation η φ β) =
      list.foldlM (fun found value => (step found value).run) start := by
  induction list generalizing start with
  | nil => rfl
  | cons value list ih =>
      rw [List.foldlM_cons, List.foldlM_cons, run_bind]
      exact bind_congr fun found => ih found

theorem run_setRestored (package tags : String) (user : UserId) :
    ((setRestored package tags user).run : Operation η φ Unit) = (do
      match ← Agent.call (Host.setLocales package user (LocaleList.ofTags tags)) with
      | .ok () => Agent.note (.restored package (LocaleList.ofTags tags))
      | .error fault => Agent.note (.restoreFailed package fault)) := by
  refine bind_congr fun answer => ?_
  cases answer <;> rfl

theorem run_applyRestored (package tags : String) (user : UserId) :
    ((applyRestored package tags user).run : Operation η φ Unit) =
      Agent.applyRestored package tags user := by
  refine bind_congr fun answer => ?_
  cases answer with
  | error fault => exact bind_congr fun _ => run_setRestored package tags user
  | ok current =>
      cases bare : current.isEmpty with
      | true =>
          simp only [bare, if_true]
          exact run_setRestored package tags user
      | false =>
          simp only [bare, Bool.false_eq_true, if_false]
          rfl

theorem run_ingest (user : UserId) (pending : Preferences) (restored : String × String) :
    ((ingest user pending restored).run : Operation η φ Preferences) =
      Agent.ingest user pending restored := by
  refine bind_congr fun installed => ?_
  cases installed with
  | true => exact (run_bind _ _).trans (congrArg (· >>= _) (run_applyRestored _ _ user))
  | false => rfl

theorem run_readPayload (payload : Bytes) :
    ((readPayload payload).run : Operation η φ Preferences) = Agent.readPayload payload := by
  unfold readPayload Agent.readPayload
  cases Document.decode payload <;> rfl

theorem run_collect (user : UserId) (collected : Preferences) (package : String) :
    ((collect user collected package).run : Operation η φ Preferences) =
      Agent.collect user collected package := by
  refine bind_congr fun answer => ?_
  cases answer with
  | error fault => rfl
  | ok locales =>
      cases bare : locales.isEmpty with
      | true =>
          simp only [bare, if_true]
          rfl
      | false =>
          simp only [bare, Bool.false_eq_true, if_false]
          rfl

theorem run_packUp (user : UserId) (packages : List String) :
    ((packUp user packages).run : Operation η φ (Option Bytes)) = (do
      let collected ← packages.foldlM (Agent.collect user) ∅
      if collected.isEmpty then
        Agent.note (.nothingToBackUp user)
        return none
      return some (Document.encode ⟨none, collected⟩)) := by
  refine (run_bind _ _).trans ?_
  rw [run_foldlM]
  simp only [run_collect]
  refine bind_congr fun collected => ?_
  cases collected.isEmpty <;> rfl

def consult : Script α → η → Except Panic α × η
  | done value, host => (.ok value, host)
  | tell _ _ rest, host => rest.consult host
  | ask made rest, host =>
    match made.put host with
    | (.ok answer, after) => (rest answer).consult after
    | (.error panic, after) => (.error panic, after)

def told : Script α → η → List Notice
  | done _, _ => []
  | tell notice _ rest, host => notice :: rest.told host
  | ask made rest, host =>
    match made.put host with
    | (.ok answer, after) => (rest answer).told after
    | (.error _, _) => []

theorem aside_of_told {script : Script α} {host : η} {notice : Notice}
    (member : notice ∈ script.told host) : notice.fileOf? = none := by
  induction script generalizing host with
  | done value => cases member
  | tell first aside rest ih =>
      rcases List.mem_cons.1 member with rfl | member
      · exact aside
      · exact ih member
  | ask made rest ih =>
      unfold told at member
      split at member
      next answer after _ => exact ih answer member
      next => cases member

end Script

namespace Agent

variable {η φ α β : Type} [Host η]

def informed (agent : Agent η φ) (host : η) (told : List Notice) : Agent η φ where
  host := host
  table := agent.table
  workspace := { agent.workspace with output := agent.workspace.output ++ told.map .notice }

theorem run_script (script : Script α) (agent : Agent η φ) :
    script.run.run agent = ((script.consult agent.host).1,
      agent.informed (script.consult agent.host).2 (script.told agent.host)) := by
  induction script generalizing agent with
  | done value =>
      refine Prod.ext rfl ?_
      simp only [Script.consult, Script.told, informed, List.map_nil, List.append_nil]
      rfl
  | tell notice aside rest ih =>
      refine (ih (agent.informed agent.host [notice])).trans (Prod.ext rfl ?_)
      simp only [Script.consult, Script.told, informed, List.map_cons, List.map_nil,
        List.append_assoc, List.singleton_append]
  | ask made rest ih =>
      have run : (Script.ask made rest).run.run agent =
          (ExceptT.bindCont (fun answer => (rest answer).run) (made.put agent.host).1 : StateM _ _)
            { agent with host := (made.put agent.host).2 } := rfl
      rw [run, Script.consult, Script.told]
      cases made.put agent.host with
      | mk answer after =>
          cases answer with
          | ok value => exact ih value { agent with host := after }
          | error panic =>
              refine Prod.ext rfl ?_
              simp only [informed, List.map_nil, List.append_nil]
              rfl

theorem table_of_run {script : Script α} {agent after : Agent η φ} {answer : Except Panic α}
    (run : script.run.run agent = (answer, after)) : after.table = agent.table := by
  rw [run_script] at run
  rw [← (Prod.mk.inj run).2]
  rfl

omit [Host η] in
theorem run_bind (operation : Operation η φ α) (next : α → Operation η φ β) (agent : Agent η φ) :
    (operation >>= next).run agent =
      (ExceptT.bindCont next (operation.run agent).1 : StateM _ _) (operation.run agent).2 := rfl

omit [Host η] in
theorem run_bind_congr {operation : Operation η φ α} {first second : α → Operation η φ β}
    {agent : Agent η φ} (same : ∀ value after, operation.run agent = (.ok value, after) →
      (first value).run after = (second value).run after) :
    (operation >>= first).run agent = (operation >>= second).run agent := by
  rw [run_bind, run_bind]
  cases run : operation.run agent with
  | mk answer after =>
      cases answer with
      | ok value => exact same value after run
      | error panic => rfl

/-! ## Performing a request -/

variable [FileSystem φ]

def carryOut (plan : Script (Deed × Script Reply)) : Operation η φ Reply := do
  let (deed, closing) ← plan.run
  changeTable fun table => deed.work table
  closing.run

theorem carryOut_bind (script : Script α) (next : α → Script (Deed × Script Reply)) :
    (carryOut (script >>= next) : Operation η φ Reply) = (do carryOut (next (← script.run))) := by
  unfold carryOut
  rw [Script.run_bind, bind_assoc]

theorem carryOut_done (deed : Deed) (closing : Script Reply) :
    (carryOut (.done (deed, closing)) : Operation η φ Reply) = (do
      changeTable fun table => deed.work table
      closing.run) :=
  pure_bind _ _

theorem carryOut_ask (made : DeviceCall) (rest : made.Answer → Script (Deed × Script Reply)) :
    (carryOut (.ask made rest) : Operation η φ Reply) = (do carryOut (rest (← call made.put))) :=
  bind_assoc _ _ _

theorem carryOut_tell (notice : Notice) (aside : notice.fileOf? = none)
    (rest : Script (Deed × Script Reply)) :
    (carryOut (.tell notice aside rest) : Operation η φ Reply) = (do
      note notice
      carryOut rest) :=
  bind_assoc _ _ _

theorem perform_restore (payload : Option Bytes) (user : UserId) (table : StagedTable) :
    (perform (.restore payload user) : Operation η φ Reply) =
      carryOut ((Request.restore payload user).plan table) := by
  cases payload with
  | none => rfl
  | some payload =>
      simp only [perform, restore, Request.plan, carryOut_bind, carryOut_ask, Script.run_readPayload,
        Script.run_foldlM, Script.run_ingest, bind_assoc]
      rfl

omit [Host η] [FileSystem φ] in
theorem run_call_congr {made : HostCall η α} {first second : α → Operation η φ β} {agent : Agent η φ}
    (same : ∀ value host, (first value).run { agent with host } = (second value).run { agent with host }) :
    (call made >>= first).run agent = (call made >>= second).run agent := by
  apply run_bind_congr
  intro value after run
  rw [← (Prod.mk.inj run).2]
  exact same value _

omit [Host η] [FileSystem φ] in
theorem run_get (next : Agent η φ → Operation η φ α) (agent : Agent η φ) :
    (MonadState.get >>= next).run agent = (next agent).run agent := rfl

omit [Host η] [FileSystem φ] in
theorem run_changeTable (work : StagedTable → Work φ StagedTable) (agent : Agent η φ) :
    (changeTable work).run agent = (.ok (), { agent with
      table := (work agent.table agent.workspace).1
      workspace := (work agent.table agent.workspace).2 }) := rfl

omit [Host η] [FileSystem φ] in
theorem run_changeTable_bind {work other : StagedTable → Work φ StagedTable}
    {next : Unit → Operation η φ α} {agent : Agent η φ}
    (same : work agent.table = other agent.table) :
    (changeTable work >>= next).run agent = (changeTable other >>= next).run agent := by
  rw [run_bind, run_bind, run_changeTable, run_changeTable, same]

omit [Host η] [FileSystem φ] in
theorem run_onTable_bind {work : StagedTable → Work φ (α × StagedTable)}
    {next : α → Operation η φ β} {agent : Agent η φ} {value : α}
    (given : (work agent.table agent.workspace).1.1 = value) :
    (onTable work >>= next).run agent = (do
      changeTable fun table => return (← work table).2
      next value : Operation η φ β).run agent := by
  subst given
  rfl

theorem run_packageAdded (package : String) (uid : UInt32) (agent : Agent η φ) :
    (handle (.packageAdded package uid) >>= fun _ => pure Reply.done).run agent =
      (carryOut ((Request.event (.packageAdded package uid)).plan agent.table)).run agent := by
  rw [handle, packageAdded, bind_assoc, run_get, Request.plan]
  cases found : agent.table.get? (userOf uid) with
  | none => rfl
  | some record =>
      simp only []
      rw [carryOut_ask, bind_assoc]
      apply run_call_congr
      intro installed host
      cases installed with
      | false => rfl
      | true =>
          cases waiting : record.pending.get? package with
          | none => rfl
          | some tags =>
              simp only [if_true, carryOut_bind, Script.run_applyRestored]
              rw [bind_assoc]
              apply run_bind_congr
              intro value after applied
              have kept : after.table.get? (userOf uid) = some record := by
                rw [← Script.run_applyRestored] at applied
                rw [table_of_run applied]
                exact found
              refine Eq.trans ?_ (congrFun (congrArg ExceptT.run (carryOut_done _ _).symm) after)
              apply run_changeTable_bind
              rw [StagedTable.update, kept]
              rfl

theorem run_perform (request : Request) (agent : Agent η φ) :
    (perform request).run agent = (carryOut (request.plan agent.table)).run agent := by
  cases request with
  | restore payload user => rw [perform_restore]
  | sweep =>
      rw [perform, sweepExpired, Request.plan, carryOut_ask, bind_assoc]
      apply run_call_congr
      intro now host
      rw [carryOut_done]
      exact run_onTable_bind (congrArg Prod.fst (StagedTable.fst_sweep agent.table now _))
  | backup user =>
      rw [perform, backup, Request.plan, carryOut_ask, bind_assoc, sweepExpired, bind_assoc]
      apply run_call_congr
      intro now host
      rw [carryOut_done]
      refine (run_onTable_bind rfl).trans ?_
      refine run_bind_congr fun _ _ _ => ?_
      rw [Script.run]
      simp only [Script.run_bind, Script.run_packUp, Script.run_pure, bind_assoc]
      rfl
  | event event =>
      rw [perform]
      cases event with
      | packageAdded package uid => exact run_packageAdded package uid agent
      | packageDataCleared package uid => 
          rw [handle, packageDataCleared, Request.plan, carryOut_tell, carryOut_ask, bind_assoc]
          simp only [carryOut_done]
          rfl
      | packageRemoved package uid =>
          rw [handle, packageRemoved, Request.plan, carryOut_tell, carryOut_ask, bind_assoc]
          simp only [carryOut_done]
          rfl
      | userRemoved user =>
          rw [handle, userRemoved, Request.plan, carryOut_done, bind_assoc]
          refine (run_onTable_bind
            (congrArg Prod.fst (StagedTable.fst_remove agent.table user _))).trans ?_
          cases (agent.table.get? user).isSome <;> rfl

theorem run_carryOut_of_error {plan : Script (Deed × Script Reply)} {agent : Agent η φ}
    {panic : Panic} {host : η} (stopped : plan.consult agent.host = (.error panic, host)) :
    (carryOut plan).run agent = (.error panic, agent.informed host (plan.told agent.host)) := by
  rw [carryOut, run_bind, run_script, stopped]
  rfl

theorem run_carryOut_of_ok {plan : Script (Deed × Script Reply)} {agent : Agent η φ} {deed : Deed}
    {closing : Script Reply} {host : η} (given : plan.consult agent.host = (.ok (deed, closing), host)) :
    let first := agent.informed host (plan.told agent.host)
    let done := deed.work agent.table first.workspace
    (carryOut plan).run agent = ((closing.consult host).1,
      (⟨host, done.1, done.2⟩ : Agent η φ).informed (closing.consult host).2 (closing.told host)) := by
  intro first done
  have run : (carryOut plan).run agent = closing.run.run ⟨host, done.1, done.2⟩ := by
    rw [carryOut, run_bind, run_script, given]
    rfl
  rw [run, run_script]

end Agent
end LocaleStaging
