import LocaleStaging.Proofs.Agent.Backup
import LocaleStaging.Proofs.Agent.Kept
import LocaleStaging.Proofs.Agent.Resolution
import LocaleStaging.Proofs.Device

namespace LocaleStaging

/-- Asking for the locales of a package of a user has failed just for some packages. -/
def ReadsAs (fails : String → Bool) (user : UserId) (made : List Exchange) : Prop :=
  ∀ package ended, ⟨.locales package user, ended⟩ ∈ made →
    ended = if fails package then .failed else .done

namespace DeviceView

def readable? (view : DeviceView) (fails : String → Bool) (user : UserId) (package : String) :
    Option LocaleList :=
  if fails package = false ∧ view.live user package ≠ .empty then some (view.live user package)
  else none

def override? (view : DeviceView) (fails : String → Bool) (user : UserId) (package : String) :
    Option LocaleList :=
  if package ∈ view.applications user then view.readable? fails user package else none

end DeviceView

def entryOf (payload : Option Bytes) (package : String) : Option String :=
  payload.bind fun octets => (preferencesIn octets).get? package

/-- A payload holds just some preferences, as text, and there is none if there is nothing to hold. -/
structure BacksUp (payload : Option Bytes) (overrides : String → Option LocaleList) : Prop where
  none_iff : payload = none ↔ ∀ package, overrides package = none
  encoded : ∀ octets, payload = some octets → ∃ states : Preferences,
    octets = Document.encode ⟨none, states⟩ ∧ Document.decode octets = .ok ⟨none, states⟩ ∧
      ∀ package, states.get? package = (overrides package).map LocaleList.toTags

namespace BacksUp

variable {payload other : Option Bytes} {overrides : String → Option LocaleList}

theorem entryOf_eq (backsUp : BacksUp payload overrides) (package : String) :
    entryOf payload package = (overrides package).map LocaleList.toTags := by
  cases payload with
  | none =>
      rw [backsUp.none_iff.1 rfl package]
      rfl
  | some octets =>
      obtain ⟨states, _, decoded, bound⟩ := backsUp.encoded octets rfl
      rw [← bound package]
      simp only [entryOf, Option.bind_some, preferencesIn, decoded]

theorem unique (first : BacksUp payload overrides) (second : BacksUp other overrides) :
    payload = other := by
  cases payload with
  | none => exact (second.none_iff.2 (first.none_iff.1 rfl)).symm
  | some octets =>
      cases other with
      | none => exact first.none_iff.2 (second.none_iff.1 rfl)
      | some others =>
          obtain ⟨states, rfl, _, bound⟩ := first.encoded octets rfl
          obtain ⟨found, rfl, _, bound_other⟩ := second.encoded others rfl
          have same : states = found := by
            apply SortedMap.ext_get?
            intro package
            rw [bound, bound_other]
          rw [same]

theorem of_found {found : Preferences}
    (bound : ∀ package, found.get? package = (overrides package).map LocaleList.toTags)
    (filled : Document.Filled ⟨none, found⟩) : BacksUp (payloadOf found) overrides := by
  unfold payloadOf
  cases bare : found.isEmpty with
  | true =>
      rw [SortedMap.isEmpty_iff.1 bare] at bound
      refine ⟨?_, fun octets same => by cases same⟩
      simp only [if_true, true_iff]
      intro package
      exact Option.map_eq_none_iff.1 (bound package).symm
  | false =>
      constructor
      · simp only [Bool.false_eq_true, if_false, false_iff, reduceCtorEq]
        intro none
        have empty : found = SortedMap.empty := by
          apply SortedMap.ext_get?
          intro package
          rw [bound, none]
          rfl
        rw [SortedMap.isEmpty_iff.2 empty] at bare
        cases bare
      · rintro octets same
        cases same
        refine ⟨found, rfl, ?_, bound⟩
        rw [Document.decode_encode_eq bare, Document.withoutBlanks_of_filled filled]

end BacksUp

namespace PackedUp

variable {view : DeviceView} {user : UserId} {exchanges : List Exchange} {found : Preferences}
  {fails : String → Bool}

theorem get?_eq (packed : PackedUp view user exchanges found) (reads : ReadsAs fails user exchanges)
    (package : String) :
    found.get? package = (view.override? fails user package).map LocaleList.toTags := by
  unfold DeviceView.override? DeviceView.readable?
  by_cases read : IsRead view exchanges user package
  · have answered : fails package = false := by
      simpa using reads package .done read.1
    rw [packed.collected.read package read, if_pos (packed.listed _ _ read.1),
      if_pos ⟨answered, read.2⟩]
    rfl
  · have unread : found.get? package = none := packed.collected.kept package read
    rw [unread]
    split
    next installed =>
      rcases packed.asked package installed with done | failed
      · have bare : ¬view.live user package ≠ .empty := fun chosen => read ⟨done, chosen⟩
        rw [if_neg fun both => bare both.2]
        rfl
      · have failing : fails package = true := by simpa using reads package .failed failed
        simp [failing]
    next => rfl

theorem backsUp (packed : PackedUp view user exchanges found) (named : "" ∉ view.applications user)
    (reads : ReadsAs fails user exchanges) :
    BacksUp (payloadOf found) (view.override? fails user) := by
  refine BacksUp.of_found (packed.get?_eq reads) (packed.filled named)

end PackedUp

namespace Agent

variable {η φ : Type} [Host η] [LawfulHost η] [FileSystem φ]

/-- A payload holds the preferences of installed packages that could be read and are not empty, and
there is none if there are no such preferences. What it says about a package is the same for other
packages, other failures and another table, and so is the payload if all preferences are. Live
preferences stay, and table and files change only by the sweep at the start. -/
theorem backup_overrides (agent : Agent η φ) (user : UserId) :
    let run := (backup user).run agent
    let swept := (sweepExpired : Operation η φ (List UserId)).run agent
    (Calm (callsSince agent run.2) → ∃ payload, run.1 = .ok payload) ∧
    run.2.sight.live = agent.sight.live ∧
    run.2.table = swept.2.table ∧ run.2.workspace.files = swept.2.workspace.files ∧
    ∀ fails payload, "" ∉ agent.sight.applications user →
      ReadsAs fails user (callsSince agent run.2) → run.1 = .ok payload →
        BacksUp payload (agent.sight.override? fails user) ∧
        ∀ {θ ψ : Type} [Host θ] [LawfulHost θ] [FileSystem ψ] (other : Agent θ ψ) unread another,
          "" ∉ other.sight.applications user →
          ReadsAs unread user (callsSince other ((backup user).run other).2) →
          ((backup user).run other).1 = .ok another →
            (∀ package, agent.sight.override? fails user package =
                other.sight.override? unread user package →
              entryOf another package = entryOf payload package) ∧
            ((∀ package, agent.sight.override? fails user package =
                other.sight.override? unread user package) → another = payload) := by
  intro run swept
  obtain ⟨heard, deed, went⟩ := went_backup agent user
  obtain ⟨_, _, went_sweep⟩ := went_sweepExpired agent
  obtain ⟨table, files⟩ := went.sweeps_alike went_sweep rfl rfl
  obtain ⟨seen, calls⟩ := callsSince_of_hears went.hears
  refine ⟨?_, ?_, table, files, ?_⟩
  · intro calm
    rw [calls] at calm
    exact returned_of_map (went.returns calm)
  · rw [seen]
    exact went.course.quiet_of_backup.live_replay agent.sight
  · intro fails payload named reads done
    obtain ⟨found, rfl, packed⟩ := packedUp_of_backup done
    have backsUp := packed.backsUp named reads
    refine ⟨backsUp, ?_⟩
    intro θ ψ _ _ _ other unread another named_other reads_other done_other
    obtain ⟨found_other, rfl, packed_other⟩ := packedUp_of_backup done_other
    have backsUp_other := packed_other.backsUp named_other reads_other
    constructor
    · intro package same
      rw [backsUp_other.entryOf_eq, backsUp.entryOf_eq]
      exact congrArg _ same.symm
    · intro same
      have overrides : agent.sight.override? fails user = other.sight.override? unread user :=
        funext same
      rw [overrides] at backsUp
      exact backsUp_other.unique backsUp

def threeInstalled : Agent Device FileTree :=
  let device := (((Device.new 1700000000000).install "com.a" 1).install "com.b" 1).install "com.c" 1
  let chosen := (device.setLive 1 "com.a" (LocaleList.ofTags "de,fr")).setLive 1 "com.b"
    (LocaleList.ofTags "ja")
  unused (chosen.breakPackage "com.b" ⟨true, false, false, false⟩)

def installedBackwards : Agent Device FileTree :=
  let device := (((Device.new 0).install "com.c" 1).install "com.b" 1).install "com.a" 1
  let chosen := (device.setLive 1 "com.a" (LocaleList.ofTags "de,fr")).setLive 1 "com.b"
    (LocaleList.ofTags "ja")
  let agent := unused ((chosen.breakPackage "com.b" ⟨true, false, false, false⟩).breakPackage "com.c"
    ⟨true, false, false, false⟩)
  { agent with table := agent.table.insert 1 ⟨0, SortedMap.ofList [("com.z", "it")]⟩ }

theorem readsAs_of_answers {fails : String → Bool} {user : UserId} {made : List Exchange}
    {packages : List String}
    (calls : made = ⟨.now, .done⟩ :: ⟨.installedPackages user, .done⟩ :: packages.map fun package =>
      ⟨.locales package user, if fails package then .failed else .done⟩) :
    ReadsAs fails user made := by
  subst calls
  intro package ended member
  have asked : package ∈ packages ∧ (if fails package then .failed else .done) = ended := by
    simpa using member
  exact asked.2.symm

theorem reads_threeInstalled : ReadsAs (fun package => package == "com.b") 1
    (callsSince threeInstalled ((backup 1).run threeInstalled).2) :=
  @readsAs_of_answers _ _ _ ["com.a", "com.b", "com.c"] (by decide +kernel)

theorem reads_installedBackwards :
    ReadsAs (fun package => package == "com.b" || package == "com.c") 1
      (callsSince installedBackwards ((backup 1).run installedBackwards).2) :=
  @readsAs_of_answers _ _ _ ["com.c", "com.b", "com.a"] (by decide +kernel)

theorem overrides_backwards (package : String) :
    threeInstalled.sight.override? (fun package => package == "com.b") 1 package =
      installedBackwards.sight.override?
        (fun package => package == "com.b" || package == "com.c") 1 package := by
  have first : threeInstalled.sight.applications 1 = ["com.a", "com.b", "com.c"] := by decide +kernel
  have second : installedBackwards.sight.applications 1 = ["com.c", "com.b", "com.a"] := by
    decide +kernel
  by_cases listed : package ∈ ["com.a", "com.b", "com.c"]
  · simp only [List.mem_cons, List.not_mem_nil, or_false] at listed
    rcases listed with rfl | rfl | rfl <;> decide +kernel
  · have other : package ∉ ["com.c", "com.b", "com.a"] := fun member =>
      listed (List.mem_reverse.1 member)
    rw [DeviceView.override?, DeviceView.override?, first, second, if_neg listed, if_neg other]

theorem backup_overrides_backwards :
    ∃ payload, ((backup 1).run threeInstalled).1 = .ok payload ∧
      entryOf payload "com.a" = some "de,fr" ∧ entryOf payload "com.b" = none ∧
      ((backup 1).run installedBackwards).1 = .ok payload := by
  obtain ⟨returns, _, _, _, packs⟩ := backup_overrides threeInstalled 1
  obtain ⟨payload, done⟩ := returns (by unfold Calm; decide +kernel)
  obtain ⟨another, done_other⟩ := (backup_overrides installedBackwards 1).1
    (by unfold Calm; decide +kernel)
  obtain ⟨backsUp, independent⟩ := packs _ payload (by decide +kernel) reads_threeInstalled done
  obtain ⟨_, same⟩ := independent installedBackwards _ another (by decide +kernel)
    reads_installedBackwards done_other
  refine ⟨payload, done, ?_, ?_, ?_⟩
  · rw [backsUp.entryOf_eq]
    decide +kernel
  · rw [backsUp.entryOf_eq]
    decide +kernel
  · rw [done_other, same overrides_backwards]

end Agent
end LocaleStaging
