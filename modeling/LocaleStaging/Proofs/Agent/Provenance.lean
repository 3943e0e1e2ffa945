import LocaleStaging.Proofs.Agent.Kept
import LocaleStaging.Proofs.Agent.Recorder

/-!
# Where staged preferences come from

An entry tells of a request when it was made, whether it came to its end, and which locales it set. After
each request, what is staged for a user comes from the last restore (`Effect.provenance`), and so does
what the request has set (`Effect.sourced`). A package that waits is a setting still to come. Each
request pays for what it sets, and for what is to come after it, out of what it restores and what was to
come before (`Effect.pays`).
-/

namespace LocaleStaging

def Request.restored? (request : Request) (user : UserId) : Option Preferences :=
  match request.payload? with
  | some (payload, owner) => if owner = user then some (preferencesIn payload) else none
  | none => none

structure Entry where
  request : Request
  reading : Except Panic Int64
  completed : Bool
  settings : List Setting

namespace Entry

def renews (user : UserId) (entry : Entry) : Bool :=
  entry.completed && (entry.request.restored? user).isSome

def holds (package : String) (user : UserId) (entry : Entry) : Bool :=
  ((entry.request.restored? user).bind fun restored => restored.get? package).isSome

def interrupts (package : String) (user : UserId) (entry : Entry) : Bool :=
  match entry.request with
  | .event (.packageAdded added uid) => added = package && userOf uid = user && !entry.completed
  | _ => false

end Entry

def latest? (user : UserId) (entries : List Entry) : Option Entry :=
  (entries.filter (Entry.renews user)).getLast?

def timesSet (package : String) (user : UserId) (entries : List Entry) : Nat :=
  countSettings package user (entries.flatMap Entry.settings)

/-! ## One request -/

/-- A record is from the last restore, if that was made when the record says, and what waits in the
record was restored. -/
def FromLatest (entries : List Entry) (user : UserId) (record : StagedRecord) : Prop :=
  ∃ source restored, latest? user entries = some source ∧
    source.request.restored? user = some restored ∧ source.reading = .ok record.created ∧
    ∀ package tags, record.pending.get? package = some tags → restored.get? package = some tags

/-- What an entry sets was restored by its own request, or else by the last restore before. -/
def Sourced (earlier : List Entry) (entry : Entry) : Prop :=
  ∀ setting ∈ entry.settings, ∃ restored tags,
    (entry.request.restored? setting.user).or
        ((latest? setting.user earlier).bind fun source => source.request.restored? setting.user) =
      some restored ∧
    restored.get? setting.package = some tags ∧ setting.locales = LocaleList.ofTags tags

def Provenance (entries : List Entry) (table : StagedTable) : Prop :=
  ∀ user record, table.get? user = some record → FromLatest entries user record

theorem latest?_concat (user : UserId) (entries : List Entry) (entry : Entry) :
    latest? user (entries ++ [entry]) =
      if entry.renews user then some entry else latest? user entries := by
  rw [latest?, List.filter_append]
  split
  next renews => simp [renews]
  next stays => simp [stays, latest?]

inductive Effect (table : StagedTable) : Entry → StagedTable → Prop where
  | of_course {request : Request} {heard : List Heard} {deed : Deed} {answer : Except Panic Reply}
      {reading : Except Panic Int64} (course : Course table request heard deed answer)
      (timed : ∀ time later, heard = ⟨.now, time⟩ :: later → time = reading) :
      Effect table ⟨request, reading, answer.isOk, settingsHeard heard⟩ (deed.left table)

inductive Origin (table : StagedTable) (user : UserId) (record : StagedRecord) :
    Request → List Heard → Except Panic Reply → Prop where
  | kept {request : Request} {heard : List Heard} {answer : Except Panic Reply}
      (found : table.get? user = some record)
      (other : (answer.isOk && (request.restored? user).isSome) = false) :
      Origin table user record request heard answer
  | restored {payload : Bytes} {heard : List Heard}
      (within : ∀ package tags, record.pending.get? package = some tags →
        (preferencesIn payload).get? package = some tags) :
      Origin table user record (.restore (some payload) user)
        (⟨.now, .ok record.created⟩ :: heard) (.ok .done)
  | drained {package : String} {uid : UInt32} {earlier : StagedRecord} {heard : List Heard}
      {answer : Except Panic Reply} (owned : userOf uid = user)
      (found : table.get? user = some earlier) (created : record.created = earlier.created)
      (within : ∀ other tags, record.pending.get? other = some tags →
        earlier.pending.get? other = some tags) :
      Origin table user record (.event (.packageAdded package uid)) heard answer

theorem Deed.fewer {deed : Deed} (other : ∀ user record, deed ≠ .keep user record)
    (table : StagedTable) (user : UserId) :
    (deed.left table).get? user = table.get? user ∨ (deed.left table).get? user = none := by
  cases deed with
  | nothing => exact .inl rfl
  | keep owner record => exact absurd rfl (other owner record)
  | remove owner =>
      rw [left, StagedTable.get?_without]
      split
      next => exact .inr rfl
      next => exact .inl rfl
  | sweep now => exact StagedTable.get?_fresh table now user

theorem Deed.get?_of_fewer {deed : Deed} (other : ∀ user record, deed ≠ .keep user record)
    {table : StagedTable} {user : UserId} {record : StagedRecord}
    (found : (deed.left table).get? user = some record) : table.get? user = some record := by
  rcases deed.fewer other table user with same | none
  · exact same ▸ found
  · cases none.symm.trans found

theorem Course.origin {table : StagedTable} {request : Request} {heard : List Heard} {deed : Deed}
    {answer : Except Panic Reply} (course : Course table request heard deed answer) {user : UserId}
    {record : StagedRecord} (found : (deed.left table).get? user = some record) :
    Origin table user record request heard answer := by
  cases course with
  | @restored payload owner now heard pending ingests =>
      rcases StagedTable.of_get?_keep found with ⟨rfl, rfl⟩ | ⟨other, found⟩
      · exact .restored fun package tags waits => (of_waits ingests waits).1
      · refine .kept found ?_
        simp [Request.restored?, Request.payload?, Ne.symm other]
  | @drained package tags uid earlier heard held waits applies =>
      rcases StagedTable.of_get?_keep found with ⟨rfl, rfl⟩ | ⟨_, found⟩
      · exact .drained rfl held rfl fun other text waiting => SortedMap.get?_of_erase waiting
      · exact .kept found rfl
  | untimed timed panic => exact .kept found rfl
  | broken ingests => exact .kept found rfl
  | interrupted held waits applies => exact .kept found rfl
  | _ => exact .kept (Deed.get?_of_fewer (by simp) found) (by simp [Request.restored?, Request.payload?])

namespace Effect
variable {table after : StagedTable} {entry : Entry}

theorem provenance (effect : Effect table entry after) {entries : List Entry}
    (known : Provenance entries table) : Provenance (entries ++ [entry]) after := by
  intro user record found
  obtain ⟨course, timed⟩ := effect
  unfold FromLatest
  rw [latest?_concat]
  cases course.origin found with
  | kept found other =>
      rw [if_neg (by simpa [Entry.renews] using other)]
      exact known user record found
  | restored within =>
      rw [if_pos (by simp [Entry.renews, Request.restored?, Request.payload?, Except.isOk, Except.toBool])]
      exact ⟨_, _, rfl, if_pos rfl, (timed _ _ rfl).symm, within⟩
  | drained owned found created within =>
      rw [if_neg (by simp [Entry.renews, Request.restored?, Request.payload?])]
      obtain ⟨source, restored, last, own, read, listed⟩ := known user _ found
      exact ⟨source, restored, last, own, created ▸ read,
        fun other tags waits => listed other tags (within other tags waits)⟩

theorem sourced (effect : Effect table entry after) {entries : List Entry}
    (known : Provenance entries table) : Sourced entries entry := by
  obtain ⟨course, _⟩ := effect
  intro setting member
  obtain ⟨tags, offered, same⟩ := course.offered_of_setting member
  rcases Request.of_offer? offered with ⟨payload, rfl, listed⟩ | ⟨uid, record, rfl, _, found, waits⟩
  · exact ⟨_, tags, by simp [Request.restored?, Request.payload?], listed, same⟩
  · obtain ⟨source, restored, last, own, _, listed⟩ := known _ record found
    have bare : Request.restored? (.event (.packageAdded setting.package uid)) setting.user = none :=
      rfl
    refine ⟨restored, tags, ?_, listed _ tags waits, same⟩
    simp only [bare, last, Option.none_or, Option.bind_some, own]

end Effect

/-! ## Settings to come -/

/-- How many settings of a package are to come from a table. -/
def StagedTable.due (table : StagedTable) (package : String) (user : UserId) : Nat :=
  (table.waiting? user package).isSome.toNat

theorem StagedTable.due_erase {table : StagedTable} {owner : UserId} {record : StagedRecord}
    {added tags : String} (found : table.get? owner = some record)
    (waits : record.pending.get? added = some tags) (package : String) (user : UserId) :
    (added == package && owner == user).toNat +
        (table.keep owner { record with pending := record.pending.erase added }).due package user =
      table.due package user := by
  simp only [due]
  rw [waiting?_keep]
  by_cases owned : user = owner
  · subst owned
    rw [if_pos rfl, waiting?, found, Option.bind_some]
    by_cases same : package = added
    · subst same
      simp [waits]
    · simp [SortedMap.get?_erase_of_ne record.pending same, Ne.symm same]
  · simp [owned, Ne.symm owned]

theorem StagedTable.due_keep_of_ne (table : StagedTable) {owner user : UserId} (other : owner ≠ user)
    (record : StagedRecord) (package : String) :
    (table.keep owner record).due package user = table.due package user := by
  rw [due, waiting?_keep, if_neg (Ne.symm other), due]

theorem StagedTable.due_left_le {deed : Deed} (other : ∀ user record, deed ≠ .keep user record)
    (table : StagedTable) (package : String) (user : UserId) :
    (deed.left table).due package user ≤ table.due package user := by
  unfold due waiting?
  rcases deed.fewer other table user with same | none
  · exact Nat.le_of_eq (by rw [same])
  · rw [none]
    exact Nat.zero_le _

theorem StagedTable.offer?_packageAdded_le (table : StagedTable) (package : String) (user : UserId)
    (added : String) (uid : UInt32) :
    ((Request.event (.packageAdded added uid)).offer? table user package).isSome.toNat ≤
      (added == package && userOf uid == user).toNat := by
  by_cases same : added = package ∧ userOf uid = user
  · simpa [same] using Bool.toNat_le _
  · simp [Request.offer?, same]

namespace Entry

theorem holds_restore (package : String) (user : UserId) (payload : Bytes) (owner : UserId)
    (reading : Except Panic Int64) (completed : Bool) (settings : List Setting) (table : StagedTable) :
    holds package user ⟨.restore (some payload) owner, reading, completed, settings⟩ =
      ((Request.restore (some payload) owner).offer? table user package).isSome := by
  by_cases same : owner = user <;>
    simp [holds, Request.restored?, Request.payload?, Request.offer?, same]

theorem interrupts_packageAdded (package : String) (user : UserId) (added : String) (uid : UInt32)
    (reading : Except Panic Int64) (panic : Panic) (settings : List Setting) :
    interrupts package user ⟨.event (.packageAdded added uid), reading,
        (Except.error panic : Except Panic Reply).isOk, settings⟩ =
      (added == package && userOf uid == user) := by
  simp [interrupts, Except.isOk, Except.toBool, beq_eq_decide]

end Entry

namespace Course
variable {table : StagedTable} {payload : Bytes} {user owner : UserId} {heard : List Heard}
  {now : Int64} {pending : Preferences}

theorem pays_restored
    (ingests : InTurn (Ingests user) ∅ (preferencesIn payload).toList heard (.ok pending))
    (package : String) :
    countSettings package user (settingsHeard (⟨.now, .ok now⟩ :: heard)) +
        (table.keep user ⟨now, pending⟩).due package user ≤
      ((preferencesIn payload).get? package).isSome.toNat := by
  have once := countSettings_le (@restored table payload user now heard pending ingests) package user
  rw [StagedTable.due, StagedTable.waiting?_keep, if_pos rfl]
  cases waits : pending.get? package with
  | none => simpa [Request.offer?] using once
  | some tags =>
      obtain ⟨listed, silent⟩ := of_waits ingests waits
      have unset : countSettings package user (settingsHeard (⟨.now, .ok now⟩ :: heard)) = 0 := by
        rw [← countSettings_heardAbout]
        exact congrArg (fun about => countSettings package user (settingsHeard about)) silent
      simp [unset, listed]

end Course

namespace Effect
variable {table after : StagedTable} {entry : Entry}

theorem pays (effect : Effect table entry after) (package : String) (user : UserId) :
    countSettings package user entry.settings + after.due package user ≤
      table.due package user + (entry.holds package user).toNat +
        (entry.interrupts package user).toNat := by
  obtain ⟨course, _⟩ := effect
  have once := course.countSettings_le package user
  have dropped {deed : Deed} (other : ∀ user record, deed ≠ .keep user record) :=
    StagedTable.due_left_le other table package user
  dsimp only
  cases course with
  | @restored payload owner now heard pending ingests =>
      rw [Entry.holds_restore _ _ _ _ _ _ _ table]
      by_cases same : owner = user
      · subst same
        have paid := @Course.pays_restored table payload owner heard now pending ingests package
        have offered : (Request.restore (some payload) owner).offer? table owner package =
            (preferencesIn payload).get? package := if_pos rfl
        rw [offered]
        exact Nat.le_add_right_of_le (Nat.le_add_left_of_le paid)
      · have stays := table.due_keep_of_ne same ⟨now, pending⟩ package
        simp only [Deed.left]
        omega
  | @broken payload owner now heard panic ingests =>
      rw [Entry.holds_restore _ _ _ _ _ _ _ table]
      have same := @dropped .nothing (by simp)
      omega
  | @drained added tags uid record heard found waits applies =>
      have drained := StagedTable.due_erase found waits package user
      have offered := table.offer?_packageAdded_le package user added uid
      simp only [Deed.left]
      omega
  | @interrupted added tags uid record heard panic found waits applies =>
      rw [Entry.interrupts_packageAdded]
      have offered := table.offer?_packageAdded_le package user added uid
      have same := @dropped .nothing (by simp)
      omega
  | uncollected now collects =>
      have fewer := @dropped (.sweep now) (by simp)
      simp only [Request.offer?, Option.isSome_none, Bool.toNat_false] at once
      omega
  | backedUp now collects =>
      have fewer := @dropped (.sweep now) (by simp)
      simp only [Request.offer?, Option.isSome_none, Bool.toNat_false] at once
      omega
  | _ => exact Nat.le_add_right_of_le (Nat.le_add_right_of_le ((Nat.zero_add _).symm ▸ dropped (by simp)))

theorem pays_of_renews (effect : Effect table entry after) {user : UserId}
    (renews : entry.renews user) (package : String) :
    countSettings package user entry.settings + after.due package user ≤
      (entry.holds package user).toNat := by
  obtain ⟨course, _⟩ := effect
  cases course with
  | @restored payload owner now heard pending ingests =>
      obtain rfl : owner = user := by
        by_contra other
        simp [Entry.renews, Request.restored?, Request.payload?, other] at renews
      have paid := @Course.pays_restored table payload owner heard now pending ingests package
      simpa [Entry.holds, Request.restored?, Request.payload?, Deed.left] using paid
  | untimed timed panic => cases renews
  | broken ingests => cases renews
  | _ => simp [Entry.renews, Request.restored?, Request.payload?] at renews

end Effect
end LocaleStaging
