import LocaleStaging.Device
import LocaleStaging.Proofs.Agent.Kept
import LocaleStaging.Worker

namespace LocaleStaging.Agent

variable {η φ : Type} [Host η] [FileSystem φ]

/-- The agent when its request has done all that it does before other calls of the device. A backup has
swept, if the clock could be read. -/
def beforeCalls (request : Request) (agent : Agent η φ) : Agent η φ :=
  match request with
  | .backup _ =>
    match sweepExpired.run agent with
    | (.ok _, swept) => swept
    | (.error _, _) => agent
  | _ => agent

/-- The agent after an event. What an event that panics has done is undone, but for the device. -/
def undoing (agent : Agent η φ) (event : Event) : Agent η φ :=
  match (handle event).run agent with
  | (.ok (), after) => after
  | (.error _, after) => { agent with host := after.host }

/-! ## One request -/

theorem stored_beforeCalls_backup (agent : Agent η φ) (user : UserId) :
    (beforeCalls (.backup user) agent).table = (sweepExpired.run agent).2.table ∧
      (beforeCalls (.backup user) agent).workspace.files = (sweepExpired.run agent).2.workspace.files := by
  obtain ⟨heard, deed, went⟩ := went_sweepExpired agent
  have swept : beforeCalls (.backup user) agent =
      match sweepExpired.run agent with
      | (.ok _, swept) => swept
      | (.error _, _) => agent := rfl
  rw [swept]
  split
  next users swept run =>
    rw [run]
    exact ⟨rfl, rfl⟩
  next panic swept run =>
    -- The clock could not be read, so nothing was swept.
    rw [run] at went ⊢
    cases went.course with
    | untimed timed panic => exact ⟨went.stays.1.symm, went.stays.2.symm⟩

theorem Went.left_by_panic {request : Request} {agent : Agent η φ} {heard : List Heard} {deed : Deed}
    {panic : Panic} {after : Standing η φ}
    (went : Went request agent.standing heard deed (.error panic) after) :
    after.table = (beforeCalls request agent).table ∧
      after.files = (beforeCalls request agent).workspace.files := by
  by_cases backs_up : ∃ user, request = .backup user
  · obtain ⟨user, rfl⟩ := backs_up
    obtain ⟨_, _, went_sweep⟩ := went_sweepExpired agent
    obtain ⟨table, files⟩ := went.sweeps_alike went_sweep rfl rfl
    obtain ⟨table_before, files_before⟩ := stored_beforeCalls_backup agent user
    exact ⟨table.trans table_before.symm, files.trans files_before.symm⟩
  · have same : beforeCalls request agent = agent := by
      cases request with
      | backup user => exact absurd ⟨user, rfl⟩ backs_up
      | _ => rfl
    rw [same]
    -- All other requests panic before their deed.
    obtain rfl : deed = .nothing := by
      cases went.course with
      | unlisted user now panic => exact absurd ⟨user, rfl⟩ backs_up
      | uncollected now collects => exact absurd ⟨_, rfl⟩ backs_up
      | _ => rfl
    exact went.stays

/-! ## One event after the other -/

theorem Went.gives_handle {event : Event} {before after : Standing η φ} {heard : List Heard}
    {deed : Deed} {answer : Except Panic Reply}
    (went : Went (.event event) before heard deed answer after) :
    Gives (handle event) before (answer.map fun _ => ()) after := by
  rintro agent rfl
  obtain ⟨given, left⟩ := went.gives agent rfl
  have run : (perform (.event event)).run agent =
      (((handle event).run agent).1.map fun _ => .done, ((handle event).run agent).2) := run_map _ _ agent
  rw [run] at given left
  refine ⟨?_, left⟩
  have answered : ((handle event).run agent).1.map (fun _ => Reply.done) = answer := given
  rw [← answered]
  show ((handle event).run agent).1 = _
  cases ((handle event).run agent).1 <;> rfl

theorem exists_handled (event : Event) (before : Standing η φ) :
    ∃ answer after, Gives (handle event : Operation η φ Unit) before answer after ∧
      ∀ agent, agent.standing = before → (undoing agent event).standing = after := by
  obtain ⟨heard, deed, answer, after, went⟩ := exists_went (.event event) before
  refine ⟨_, after, went.gives_handle, ?_⟩
  rintro agent rfl
  obtain ⟨answered, left⟩ := went.gives_handle agent rfl
  unfold undoing
  split
  next ended run =>
    rw [run] at left
    exact left
  next panic ended run =>
    rw [run] at answered left
    cases answer with
    | ok reply => cases answered
    | error stopped =>
        obtain ⟨table, files⟩ := went.left_by_panic
        rw [← left] at table files ⊢
        exact (congrArg₂ (Standing.mk ended.host) table files).symm

theorem yields_handleSafely {event : Event} {before after : Standing η φ}
    {answer : Except Panic Unit} (given : Gives (handle event) before answer after) :
    Yields standing (Monitor.handleSafely event) before () after := by
  refine Yields.bind (Gives.note _ before) (Yields.bind given ?_)
  cases answer with
  | ok done => exact Yields.pure () after
  | error panic => exact Yields.bind (Gives.note _ after) (Yields.pure () after)

theorem exists_handledAll (events : List Event) (before : Standing η φ) :
    ∃ after, Yields standing (Monitor.handleAll events) before () after ∧
      ∀ agent, agent.standing = before → (events.foldl undoing agent).standing = after := by
  induction events generalizing before with
  | nil => exact ⟨before, Yields.pure () before, fun _ stands => stands⟩
  | cons event events ih =>
      obtain ⟨answer, middle, given, one⟩ := exists_handled event before
      obtain ⟨after, rest, all⟩ := ih middle
      refine ⟨after, Yields.bind (yields_handleSafely given) rest, ?_⟩
      intro agent stands
      exact all (undoing agent event) (one agent stands)

omit [Host η] [FileSystem φ] in
theorem foldlM_post (events posted : List Event) :
    events.foldlM Monitor.post (.running posted) = .ok (.running (posted ++ events)) := by
  induction events generalizing posted with
  | nil => rw [List.append_nil]; rfl
  | cons event events ih =>
      have first : (event :: events).foldlM Monitor.post (.running posted) =
          events.foldlM Monitor.post (.running (posted ++ [event])) := rfl
      rw [first, ih, List.append_assoc]
      rfl

/-- A request that panics leaves the staged records and all files as they were before, or as the sweep
of a backup has left them. All events that are posted are handled, each in its turn: the device, the
staged records and the files end as if what a panicking event has done were undone, but for the device. -/
theorem staged_of_panic (agent : Agent η φ) :
    (∀ request panic, ((perform request).run agent).1 = .error panic →
      ((perform request).run agent).2.table = (beforeCalls request agent).table ∧
      ((perform request).run agent).2.workspace.files =
        (beforeCalls request agent).workspace.files) ∧
    ∀ events : List Event, ∃ monitor,
      events.foldlM Monitor.post Monitor.start = .ok monitor ∧
      (monitor.shutDown agent).1 = .ok () ∧
      (monitor.shutDown agent).2.standing = (events.foldl undoing agent).standing := by
  constructor
  · intro request panic panicked
    obtain ⟨heard, deed, went⟩ := Went.of_run request agent
    rw [panicked] at went
    exact went.left_by_panic
  · intro events
    refine ⟨.running events, foldlM_post events [], ?_⟩
    obtain ⟨after, handled, folded⟩ := exists_handledAll events agent.standing
    have stopped : Yields standing (Monitor.shutDown (.running events)) agent.standing (.ok ())
        after :=
      Yields.bind handled (Yields.bind (Gives.note _ after) (Yields.pure _ after))
    obtain ⟨given, left⟩ := stopped agent rfl
    exact ⟨given, left.trans (folded agent rfl).symm⟩

def fragile : Agent Device FileTree :=
  let device := ((Device.new 1700000000000).install "com.a" 1).install "com.b" 1
  let agent := unused (device.breakPackage "com.b" ⟨false, false, false, true⟩)
  { agent with table := agent.table.insert 1 ⟨0, SortedMap.ofList [("com.c", "de-DE")]⟩ }

def restoreBoth : Request :=
  .restore (some (Document.encode
    ⟨none, SortedMap.ofList [("com.a", "en-US"), ("com.b", "fr-FR"), ("com.d", "it-IT")]⟩)) 1

theorem staged_of_panic_midway :
    ∃ panic, ((perform restoreBoth).run fragile).1 = .error panic ∧
      ((perform restoreBoth).run fragile).2.host.liveOf 1 "com.a" = some (LocaleList.ofTags "en-US") ∧
      ((perform restoreBoth).run fragile).2.table = fragile.table ∧
      ((perform restoreBoth).run fragile).2.workspace.files = fragile.workspace.files := by
  have stopped : ((perform restoreBoth).run fragile).1.isOk = false := by decide +kernel
  have applied : ((perform restoreBoth).run fragile).2.host.liveOf 1 "com.a" =
      some (LocaleList.ofTags "en-US") := by decide +kernel
  cases answer : ((perform restoreBoth).run fragile).1 with
  | ok reply =>
      rw [answer] at stopped
      cases stopped
  | error panic =>
      exact ⟨panic, rfl, applied, (staged_of_panic fragile).1 restoreBoth panic answer⟩

end LocaleStaging.Agent
