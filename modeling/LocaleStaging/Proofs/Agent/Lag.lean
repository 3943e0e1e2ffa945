import LocaleStaging.Proofs.Agent.Kept
import LocaleStaging.Proofs.Storage.Disk

/-!
# The disk lags behind, and nothing else

Whatever a disk fails to do, an agent answers as one with any other files does, and has the same device and
table (`disk_lags`). A stage file is what it was at the start, or holds a record that some request has left.
If a request that writes or deletes it puts out no failure, it holds the record that the table holds.
-/

namespace LocaleStaging

open LocaleStaging.FileTree (Finds)
open LocaleStaging.StageStore (Brings Lag stageLocation)
open LocaleStaging.StagedTable (stageNode)

/-! ## What is put out about a stage file -/

def Fails (user : UserId) (put : List Emission) : Prop :=
  ∃ error, .notice (.writeFailed user error) ∈ put ∨ .notice (.deleteFailed user error) ∈ put

/-- What was put out tells whether the stage file of a user has come up to date. If it was to be brought up to
date, it was, or a failure was put out. -/
structure Reports (location : Location) (user : UserId) (goal : Option Node) (before after : Disk)
    (meant : Prop) (put : List Emission) : Prop where
  lag : Lag location user goal before.tree after.tree
  settled : meant → after.tree.node? (stageLocation location user) = goal ∨ Fails user put
  written : .notice (.written user) ∈ put → after.tree.node? (stageLocation location user) = goal

namespace Reports

variable {location : Location} {user : UserId} {goal : Option Node} {before middle after : Disk}
  {meant : Prop} {put : List Emission}

theorem trans {later : Prop} {others : List Emission}
    (left : Reports location user goal before middle meant put)
    (right : Reports location user goal middle after later others) :
    Reports location user goal before after (meant ∨ later) (put ++ others) := by
  have reached (held : middle.tree.node? (stageLocation location user) = goal) :
      after.tree.node? (stageLocation location user) = goal := by
    rcases right.lag.lags with same | reached
    · exact same.trans held
    · exact reached
  refine ⟨left.lag.trans right.lag, ?_, ?_⟩
  · rintro (first | second)
    · rcases left.settled first with held | ⟨error, fails⟩
      · exact .inl (reached held)
      · exact .inr ⟨error, fails.imp (List.mem_append_left _) (List.mem_append_left _)⟩
    · rcases right.settled second with held | ⟨error, fails⟩
      · exact .inl held
      · exact .inr ⟨error, fails.imp (List.mem_append_right _) (List.mem_append_right _)⟩
  · intro member
    rcases List.mem_append.1 member with member | member
    · exact reached (left.written member)
    · exact right.written member

theorem imp {fewer : Prop} (reports : Reports location user goal before after meant put)
    (weaker : fewer → meant) : Reports location user goal before after fewer put :=
  ⟨reports.lag, fun held => reports.settled (weaker held), reports.written⟩

theorem aside (disk : Disk) {notices : List Notice} (asides : ∀ notice ∈ notices, notice.fileOf? = none) :
    Reports location user goal disk disk False (notices.map .notice) := by
  refine ⟨Lag.refl disk.tree, False.elim, ?_⟩
  intro member
  obtain ⟨notice, inside, same⟩ := List.mem_map.1 member
  cases same
  cases asides _ inside

theorem of_brings {owner : UserId} {content : Option Node} {answer : Except StoreError Unit}
    (brings : Brings location owner content answer before after)
    (meant : user = owner → goal = content)
    (fails : ∀ error, answer = .error error → Fails owner put)
    (written : .notice (.written user) ∈ put → user = owner ∧ answer = .ok ()) :
    Reports location user goal before after (user = owner) put := by
  have reached (own : user = owner) (done : answer = .ok ()) :
      after.tree.node? (stageLocation location user) = goal := by
    rw [own, meant own]
    exact brings.reached done
  refine ⟨brings.lag user goal meant, ?_, fun member => reached (written member).1 (written member).2⟩
  intro own
  cases ended : answer with
  | ok done => exact .inl (reached own ended)
  | error error =>
      rw [own]
      exact .inr (fails error ended)

end Reports

namespace StagedTable

/-! ## What a deed leaves on the disk -/

variable {table : StagedTable} {before : Disk} {location : Location}

theorem reports_remove (finds : before.tree.Finds table.store.directory location) (owner : UserId) :
    ∃ after put, Work.Emits (table.remove owner) before (table.get? owner, table.without owner) after
        put ∧
      ∀ user goal, (user = owner → goal = none) →
        Reports location user goal before after (user = owner) put := by
  obtain ⟨answer, after, deleted, brings⟩ := StageStore.exists_deleted finds owner
  cases answer with
  | ok done =>
      refine ⟨after, [], Work.Emits.bind deleted (Work.Emits.pure _ _), ?_⟩
      exact fun user goal meant => Reports.of_brings brings meant (by simp) (by simp)
  | error error =>
      refine ⟨after, [.notice (.deleteFailed owner error)], Work.Emits.bind deleted
        (Work.Emits.bind (Work.Emits.note _ _) (Work.Emits.pure _ _)), ?_⟩
      exact fun user goal meant => Reports.of_brings brings meant
        (fun _ _ => ⟨error, .inr List.mem_cons_self⟩) (by simp)

theorem reports_write (finds : before.tree.Finds table.store.directory location) (owner : UserId)
    {record : StagedRecord} (found : table.get? owner = some record)
    (filled : record.pending.isEmpty = false) :
    ∃ after put, Work.Emits (table.persist owner) before table after put ∧
      ∀ user, Reports location user ((table.get? user).map stageNode) before after (user = owner)
        put := by
  have goal (user : UserId) (own : user = owner) :
      (table.get? user).map stageNode = some (.file (Document.encode record.document)) := by
    rw [own, found]
    rfl
  obtain ⟨answer, after, told, written, committed, brings⟩ :=
    StageStore.exists_written finds owner (Document.encode record.document)
  have silent (user : UserId) : .notice (.written user) ∉ told := by
    intro member
    cases List.mem_singleton.1 (committed member)
  rw [persist, found]
  simp only [filled, Bool.false_eq_true, if_false]
  cases answer with
  | ok done =>
      refine ⟨after, told ++ [.notice (.written owner)], ?_, ?_⟩
      · refine Work.Emits.bind written ?_
        exact Work.Emits.bind (Work.Emits.note _ _) (Work.Emits.pure _ _)
      · exact fun user => Reports.of_brings brings (goal user) (by simp) (by simp [silent])
  | error error =>
      refine ⟨after, told ++ [.notice (.writeFailed owner error)], ?_, ?_⟩
      · refine Work.Emits.bind written ?_
        exact Work.Emits.bind (Work.Emits.note _ _) (Work.Emits.pure _ _)
      · exact fun user => Reports.of_brings brings (goal user)
          (fun _ _ => ⟨error, .inl (by simp)⟩) (by simp [silent])

theorem reports_keep (finds : before.tree.Finds table.store.directory location) (owner : UserId)
    (record : StagedRecord) :
    ∃ after put, Work.Emits ((table.insert owner record).persist owner) before
        (table.keep owner record) after put ∧
      ∀ user, Reports location user (((table.keep owner record).get? user).map stageNode) before after
        (user = owner) put := by
  have found : (table.insert owner record).get? owner = some record := by
    rw [get?_insert, if_pos rfl]
  cases bare : record.pending.isEmpty with
  | true =>
      rw [persist, found]
      simp only [keep, bare, if_true]
      obtain ⟨after, put, removed, reports⟩ :=
        @reports_remove (table.insert owner record) _ _ finds owner
      rw [without_insert] at removed
      refine ⟨after, _, Work.Emits.bind removed (Work.Emits.pure _ _), ?_⟩
      intro user
      rw [List.append_nil]
      apply reports
      rintro rfl
      rw [get?_without, if_pos rfl]
      rfl
  | false =>
      simp only [keep, bare, Bool.false_eq_true, if_false]
      exact @reports_write (table.insert owner record) _ _ finds owner record found bare

theorem reports_removeExpired (finds : before.tree.Finds table.store.directory location)
    (users : List UserId) :
    ∃ after put, Work.Emits (table.removeExpired users) before (users.foldl without table) after put ∧
      ∀ user goal, (user ∈ users → goal = none) →
        Reports location user goal before after (user ∈ users) put := by
  induction users generalizing table before with
  | nil =>
      refine ⟨before, [], Work.Emits.pure _ _, fun user goal _ => ?_⟩
      exact (Reports.aside before (List.forall_mem_nil _)).imp (by simp)
  | cons owner users ih =>
      obtain ⟨middle, first, removed, reports⟩ := reports_remove finds owner
      have finds_middle := finds.of_keeps (reports owner none fun _ => rfl).lag.keeps
      obtain ⟨after, later, rest, reports_rest⟩ := @ih (table.without owner) middle finds_middle
      refine ⟨after, _, Work.Emits.bind (Work.Emits.note (.expired owner) before)
        (Work.Emits.bind removed rest), ?_⟩
      intro user goal meant
      have told : ∀ notice ∈ [Notice.expired owner], notice.fileOf? = none := by simp
      have all := (Reports.aside before told).trans <|
        (reports user goal fun same => meant (by simp [same])).trans
          (reports_rest user goal fun member => meant (List.mem_cons_of_mem owner member))
      exact all.imp fun member => .inr (List.mem_cons.1 member)

end StagedTable

namespace Deed

def Concerns (table : StagedTable) (user : UserId) : Deed → Prop
  | nothing => False
  | keep owner _ => user = owner
  | remove owner => user = owner
  | sweep now => user ∈ table.expiredUsers now

theorem get?_left_of_not_concerns {deed : Deed} {table : StagedTable} {user : UserId}
    (free : ¬ deed.Concerns table user) : (deed.left table).get? user = table.get? user := by
  cases deed with
  | nothing => rfl
  | keep owner record => exact (StagedTable.get?_keep table owner user record).trans (if_neg free)
  | remove owner => exact (StagedTable.get?_without table owner user).trans (if_neg free)
  | sweep now => exact (StagedTable.get?_withoutAll table _ user).trans (if_neg free)

theorem reports (deed : Deed) {table : StagedTable} {before : Disk} {location : Location}
    (finds : before.tree.Finds table.store.directory location) :
    ∃ after put, Work.Emits (deed.work table) before (deed.left table) after put ∧
      ∀ user, Reports location user (((deed.left table).get? user).map stageNode) before after
        (deed.Concerns table user) put := by
  cases deed with
  | nothing =>
      exact ⟨before, [], Work.Emits.pure _ _, fun _ => Reports.aside before (List.forall_mem_nil _)⟩
  | keep owner record => exact StagedTable.reports_keep finds owner record
  | remove owner =>
      obtain ⟨after, put, removed, reports⟩ := StagedTable.reports_remove finds owner
      refine ⟨after, _, Work.Emits.bind removed (Work.Emits.pure _ _), ?_⟩
      intro user
      rw [List.append_nil]
      apply reports
      rintro rfl
      rw [left, StagedTable.get?_without, if_pos rfl]
      rfl
  | sweep now =>
      obtain ⟨after, put, removed, reports⟩ :=
        StagedTable.reports_removeExpired finds (table.expiredUsers now)
      refine ⟨after, _, Work.Emits.bind (Work.Emits.bind removed (Work.Emits.pure _ _))
        (Work.Emits.pure _ _), ?_⟩
      intro user
      rw [List.append_nil, List.append_nil]
      apply reports
      intro expired
      rw [left, StagedTable.fresh, StagedTable.get?_withoutAll, if_pos expired]
      rfl

end Deed

namespace Agent

variable {η φ ψ : Type} [Host η] [FileSystem φ] [FileSystem ψ]

/-! ## Runs on different files -/

structure Twin (one : Agent η φ) (two : Agent η ψ) : Prop where
  host : one.host = two.host
  table : one.table = two.table

theorem Twin.perform (request : Request) {one : Agent η φ} {two : Agent η ψ} (twin : Twin one two) :
    ((perform request).run one).1 = ((Agent.perform request).run two).1 ∧
      Twin ((Agent.perform request).run one).2 ((Agent.perform request).run two).2 := by
  rw [run_perform, run_perform, twin.table]
  cases given : (request.plan two.table).consult two.host with
  | mk result host =>
      have given_one := given
      rw [← twin.host] at given_one
      cases result with
      | error panic =>
          rw [run_carryOut_of_error given, run_carryOut_of_error given_one]
          exact ⟨rfl, rfl, twin.table⟩
      | ok value =>
          rw [run_carryOut_of_ok given, run_carryOut_of_ok given_one]
          refine ⟨rfl, rfl, ?_⟩
          -- The table that a deed leaves is told without the files.
          show (value.1.work one.table _).1 = (value.1.work two.table _).1
          rw [Deed.fst_work, Deed.fst_work, twin.table]

theorem Twin.run (turns : List (Turn η)) {one : Agent η φ} {two : Agent η ψ} (twin : Twin one two) :
    one.replies turns = two.replies turns ∧ Twin (one.after turns) (two.after turns) := by
  induction turns generalizing one two with
  | nil => exact ⟨rfl, twin⟩
  | cons next turns ih =>
      cases next with
      | request made =>
          obtain ⟨answer, middle⟩ := twin.perform made
          obtain ⟨rest, ended⟩ := ih middle
          refine ⟨?_, ended⟩
          show (made, ((Agent.perform made).run one).1) :: _ = (made, ((Agent.perform made).run two).1) :: _
          rw [answer]
          exact congrArg _ rest
      | elsewhere change =>
          have middle : Twin (one.turn (.elsewhere change)) (two.turn (.elsewhere change)) :=
            ⟨congrArg change twin.host, twin.table⟩
          exact ih middle

/-! ## Runs on a disk that fails -/

def putOut (before after : Agent η φ) : List Emission :=
  after.workspace.output.drop before.workspace.output.length

/-- A request writes or deletes the stage file of a user. A restore does so when it has taken in the payload,
whatever is in it, and the removal of a user also when nothing is staged. All others do so when they change
what is staged. -/
inductive Stores (user : UserId) (before : Agent η φ) : Request → Prop where
  | restored (payload : Bytes)
      (completed : ((perform (.restore (some payload) user)).run before).1 = .ok .done) :
      Stores user before (.restore (some payload) user)
  | removed : Stores user before (.event (.userRemoved user))
  | changed {made : Request}
      (changed : (before.turn (.request made)).table.get? user ≠ before.table.get? user) :
      Stores user before made

section Stores
variable {user : UserId} {agent : Agent η φ} {request : Request} {heard : List Heard} {deed : Deed}
  (went : Went request agent.standing heard deed ((perform request).run agent).1
    (agent.turn (.request request)).standing)

include went

theorem Stores.concerns (stores : Stores user agent request) : deed.Concerns agent.table user := by
  have course := went.course
  cases stores with
  | restored payload completed =>
      rw [completed] at course
      cases course with
      | restored ingests => rfl
  | removed =>
      generalize ((perform _).run agent).1 = answer at course
      cases course with
      | removed user => rfl
      | untimed timed panic => simp [Request.sweeps, Request.payload?] at timed
      | notified notifies => cases notifies
      | unnotified notifies panic => cases notifies
  | changed changed =>
      by_contra free
      exact changed ((congrArg (StagedTable.get? · user) went.left).trans
        (Deed.get?_left_of_not_concerns free))

theorem stores_of_concerns (concerns : deed.Concerns agent.table user) :
    Stores user agent request := by
  have course := went.course
  have changed (other : (deed.left agent.table).get? user ≠ agent.table.get? user) :
      Stores user agent request := by
    have left : (agent.turn (.request request)).table = deed.left agent.table := went.left
    rw [← left] at other
    exact .changed other
  have swept {now : Int64} (same : deed = .sweep now) : Stores user agent request := by
    subst same
    apply changed
    have expired : user ∈ agent.table.expiredUsers now := concerns
    obtain ⟨record, found, _⟩ :=
      (Option.any_eq_true _ _).1 ((agent.table.mem_expiredUsers now user).1 expired)
    rw [Deed.left, StagedTable.fresh, StagedTable.get?_withoutAll, if_pos expired, found]
    simp
  generalize ended : ((perform request).run agent).1 = answer at course
  cases course with
  | restored ingests =>
      obtain rfl := concerns
      exact .restored _ ended
  | removed owner =>
      obtain rfl := concerns
      exact .removed
  | @drained package tags _ record _ found waits applies =>
      obtain rfl := concerns
      apply changed
      rw [Deed.left, StagedTable.get?_keep, if_pos rfl, show agent.table.get? _ = _ from found]
      intro same
      have kept : record.pending.erase package = record.pending := by
        split at same
        · cases same
        · exact congrArg StagedRecord.pending (Option.some.inj same)
      rw [← kept, SortedMap.get?_erase_self] at waits
      cases waits
  | swept now => exact swept rfl
  | unlisted owner now panic => exact swept rfl
  | uncollected now collects => exact swept rfl
  | backedUp now collects => exact swept rfl
  | _ => exact concerns.elim

theorem stores_iff_concerns : Stores user agent request ↔ deed.Concerns agent.table user :=
  ⟨Stores.concerns went, stores_of_concerns went⟩

end Stores

variable {location : Location}

theorem reports_performed (request : Request) {agent : Agent η Disk}
    (finds : agent.workspace.files.tree.Finds agent.table.store.directory location) :
    let next := agent.turn (.request request)
    next.table.store = agent.table.store ∧
      ∀ user, Reports location user ((next.table.get? user).map stageNode) agent.workspace.files
        next.workspace.files (Stores user agent request) (putOut agent next) := by
  intro next
  obtain ⟨heard, deed, put, early, late, went, emits, output, asides⟩ := exists_emitted request agent
  obtain ⟨files, told, done, reports⟩ := deed.reports finds
  -- What the deed leaves is known from the request and from the disk, and is the same.
  obtain ⟨table, kept, rfl⟩ := emits.unique done
  change next.table = deed.left agent.table at table
  change next.workspace.files = files at kept
  subst kept
  have put_out : putOut agent next = early.map .notice ++ put ++ late.map .notice := by
    rw [putOut, show next.workspace.output = _ from output, List.drop_left]
  rw [put_out, table]
  refine ⟨deed.store_left agent.table, fun user => ?_⟩
  obtain ⟨asides_early, asides_late⟩ := List.forall_mem_append.1 asides
  refine (((Reports.aside _ asides_early).trans (reports user)).trans
    (Reports.aside _ asides_late)).imp fun stores => .inl (.inr ?_)
  exact (stores_iff_concerns went).1 stores

theorem finds_after (turns : List (Turn η)) {agent : Agent η Disk}
    (finds : agent.workspace.files.tree.Finds agent.table.store.directory location) :
    (agent.after turns).table.store = agent.table.store ∧
      (agent.after turns).workspace.files.tree.Finds (agent.after turns).table.store.directory
        location := by
  induction turns generalizing agent with
  | nil => exact ⟨rfl, finds⟩
  | cons next turns ih =>
      cases next with
      | request made =>
          obtain ⟨store, reports⟩ := reports_performed made finds
          have finds_next := finds.of_keeps (reports 0).lag.keeps
          rw [← store] at finds_next
          obtain ⟨same, ended⟩ := ih finds_next
          exact ⟨same.trans store, ended⟩
      | elsewhere change => exact @ih (agent.turn (.elsewhere change)) finds

def stageNode? (location : Location) (user : UserId) (agent : Agent η Disk) : Option Node :=
  agent.workspace.files.tree.node? (stageLocation location user)

theorem stageNode?_after (turns : List (Turn η)) {agent : Agent η Disk}
    (finds : agent.workspace.files.tree.Finds agent.table.store.directory location) (user : UserId) :
    stageNode? location user (agent.after turns) = none ∨
      stageNode? location user (agent.after turns) = stageNode? location user agent ∨
      ∃ earlier made record, earlier ++ [.request made] <+: turns ∧
        (agent.after (earlier ++ [.request made])).table.get? user = some record ∧
        stageNode? location user (agent.after turns) = some (stageNode record) := by
  induction turns using List.reverseRecOn with
  | nil => exact .inr (.inl rfl)
  | append_singleton turns last ih =>
      have unchanged (same : stageNode? location user (agent.after (turns ++ [last])) =
          stageNode? location user (agent.after turns)) :
          stageNode? location user (agent.after (turns ++ [last])) = none ∨
            stageNode? location user (agent.after (turns ++ [last])) =
              stageNode? location user agent ∨
            ∃ earlier made record, earlier ++ [.request made] <+: turns ++ [last] ∧
              (agent.after (earlier ++ [.request made])).table.get? user = some record ∧
              stageNode? location user (agent.after (turns ++ [last])) = some (stageNode record) := by
        rw [same]
        rcases ih with absent | start | ⟨earlier, made, record, inside, found, held⟩
        · exact .inl absent
        · exact .inr (.inl start)
        · exact .inr (.inr ⟨earlier, made, record, inside.trans (List.prefix_append _ _), found, held⟩)
      cases last with
      | elsewhere change =>
          apply unchanged
          rw [after_concat]
          rfl
      | request made =>
          obtain ⟨_, reports⟩ := reports_performed made (finds_after turns finds).2
          rcases (reports user).lag.lags with same | reached
          · apply unchanged
            rw [after_concat]
            exact same
          · rw [← after_concat] at reached
            cases found : (agent.after (turns ++ [.request made])).table.get? user with
            | none =>
                rw [found] at reached
                exact .inl reached
            | some record =>
                rw [found] at reached
                exact .inr (.inr ⟨turns, made, record, List.prefix_rfl, found, reached⟩)

/-- What a disk fails to do changes no reply, nothing of the device and nothing of the table. The stage file
of a user is missing, or what it was at the start, or holds the record that the user had after some request
of the run. If a request writes or deletes it and no failure is put out, or that it is written is put out, it
holds the record that the table holds. -/
theorem disk_lags (agent : Agent η Disk) (other : Agent η ψ)
    (finds : agent.workspace.files.tree.Finds agent.table.store.directory location)
    (host : agent.host = other.host) (table : agent.table = other.table) (turns : List (Turn η)) :
    agent.replies turns = other.replies turns ∧
    (agent.after turns).host = (other.after turns).host ∧
    (agent.after turns).table = (other.after turns).table ∧
    ∀ user,
      (stageNode? location user (agent.after turns) = none ∨
        stageNode? location user (agent.after turns) = stageNode? location user agent ∨
        ∃ earlier made record, earlier ++ [.request made] <+: turns ∧
          (agent.after (earlier ++ [.request made])).table.get? user = some record ∧
          stageNode? location user (agent.after turns) = some (stageNode record)) ∧
      ∀ made,
        let next := agent.after (turns ++ [.request made])
        let put := putOut (agent.after turns) next
        (.notice (.written user) ∈ put ∨ Stores user (agent.after turns) made ∧ ¬ Fails user put) →
          stageNode? location user next = (next.table.get? user).map stageNode := by
  obtain ⟨replies, twin⟩ := Twin.run turns ⟨host, table⟩
  refine ⟨replies, twin.host, twin.table, ?_⟩
  intro user
  refine ⟨stageNode?_after turns finds user, ?_⟩
  intro made next put
  have reports := (reports_performed made (finds_after turns finds).2).2 user
  rw [← after_concat] at reports
  rintro (written | ⟨stores, unfailed⟩)
  · exact reports.written written
  · exact (reports.settled stores).resolve_right unfailed

/-- A disk that wears out: what was moved once cannot be moved again. -/
def wornDisk : Disk where
  tree := StageStore.emptyStage
  exchanges := []
  fault? exchanges call :=
    match call with
    | .rename source target =>
      if ⟨.rename source target, .ok ()⟩ ∈ exchanges then some ⟨.isADirectory, by simp, none⟩ else none
    | _ => none

def onWornDisk : Agent Device Disk where
  host := Device.new 1700000000000
  table := (unused (Device.new 1700000000000)).table
  workspace := ⟨wornDisk, []⟩

def restoreOf (tags : String) : Request :=
  .restore (some (Document.encode ⟨none, SortedMap.ofList [("app", tags)]⟩)) 7

/-- The first of two restores is written. The second is not, and the file is behind until it is deleted. -/
theorem disk_lags_wornDisk :
    let other := unused (Device.new 1700000000000)
    let turns := [.request (restoreOf "en-US"), .request (restoreOf "de")]
    let first := onWornDisk.after (turns.take 1)
    let second := onWornDisk.after turns
    let last := onWornDisk.after (turns ++ [.request (.event (.userRemoved 7))])
    let file := stageNode? [Utf8.encode "stage"] 7
    onWornDisk.replies turns = other.replies turns ∧
    second.table = (other.after turns).table ∧
    (first.table.get? 7).isSome ∧
    file first = (first.table.get? 7).map stageNode ∧
    file second = file first ∧
    second.table.get? 7 ≠ first.table.get? 7 ∧
    file last = (last.table.get? 7).map stageNode := by
  intro other turns first second last file
  have finds : onWornDisk.workspace.files.tree.Finds onWornDisk.table.store.directory
      [Utf8.encode "stage"] := StageStore.finds_emptyStage
  obtain ⟨_, _, _, start⟩ := disk_lags onWornDisk other finds rfl rfl []
  obtain ⟨replies, _, tables, held⟩ := disk_lags onWornDisk other finds rfl rfl turns
  have written : .notice (.written 7) ∈ putOut onWornDisk first := by decide +kernel
  have unfailed : ¬ Fails 7 (putOut second last) := by
    have put : putOut second last = [.notice (.userDropped 7)] := by decide +kernel
    rintro ⟨error, fails⟩
    rw [put] at fails
    simp at fails
  exact ⟨replies, tables, by decide +kernel, (start 7).2 _ (.inl written), by decide +kernel,
    by decide +kernel, (held 7).2 _ (.inr ⟨.removed, unfailed⟩)⟩

end Agent
end LocaleStaging
