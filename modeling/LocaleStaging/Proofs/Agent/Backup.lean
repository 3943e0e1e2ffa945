import LocaleStaging.Proofs.Agent.Calls
import LocaleStaging.Proofs.Document.RoundTrip
import LocaleStaging.Proofs.LocaleList

namespace LocaleStaging

def IsRead (view : DeviceView) (exchanges : List Exchange) (user : UserId) (package : String) : Prop :=
  ⟨.locales package user, .done⟩ ∈ exchanges ∧ view.live user package ≠ .empty

structure Collected (user : UserId) (earlier : Preferences) (view : DeviceView)
    (exchanges : List Exchange) (found : Preferences) : Prop where
  read : ∀ package, IsRead view exchanges user package →
    found.get? package = some (view.live user package).toTags
  kept : ∀ package, ¬IsRead view exchanges user package → found.get? package = earlier.get? package

theorem Collected.after_collect {user : UserId} {package : String} {ended : Ended}
    {earlier middle found : Preferences} {view : DeviceView} {exchanges : List Exchange}
    (collected : Collected user middle view exchanges found)
    (added : middle = if ended = .done ∧ view.live user package ≠ .empty
      then earlier.insert package (view.live user package).toTags else earlier) :
    Collected user earlier view (⟨.locales package user, ended⟩ :: exchanges) found := by
  have first (other : String) :
      IsRead view (⟨.locales package user, ended⟩ :: exchanges) user other ↔
        (other = package ∧ ended = .done ∧ view.live user other ≠ .empty) ∨
          IsRead view exchanges user other := by
    simp only [IsRead, List.mem_cons, Exchange.mk.injEq, DeviceCall.locales.injEq, and_true,
      @eq_comm Ended .done]
    rw [or_and_right, and_assoc]
  constructor
  · intro other read
    by_cases again : IsRead view exchanges user other
    · exact collected.read other again
    · obtain ⟨rfl, done, filled⟩ := ((first other).1 read).resolve_right again
      rw [collected.kept other again, added, if_pos ⟨done, filled⟩]
      exact SortedMap.get?_insert_self _ _ _
  · intro other unread
    rw [first, not_or] at unread
    rw [collected.kept other unread.2, added]
    split
    next done =>
      refine SortedMap.get?_insert_of_ne _ _ ?_
      rintro rfl
      exact unread.1 ⟨rfl, done⟩
    next => rfl

/-! ## What is heard -/

section Collecting
variable {user : UserId} {earlier found : Preferences} {packages : List String}
  {heard : List Heard} {view : DeviceView}

theorem asked_of_collects {answer : Except Panic Preferences} {given : Preferences}
    (collects : InTurn (Collects user) earlier packages heard answer) (done : answer = .ok given) :
    ∀ package ∈ packages, ∃ query, ⟨.locales package user, .ok query⟩ ∈ heard := by
  induction collects with
  | done found => simp
  | stopped first => cases done
  | next first later ih =>
      obtain ⟨result, rfl, answered⟩ := first.made
      obtain ⟨query, rfl⟩ := answered _ rfl
      rw [List.forall_mem_cons]
      refine ⟨⟨query, List.mem_cons_self⟩, fun package listed => ?_⟩
      obtain ⟨query, member⟩ := ih done package listed
      exact ⟨query, List.mem_cons_of_mem _ member⟩

theorem collected_of_collects {answer : Except Panic Preferences}
    (collects : InTurn (Collects user) earlier packages heard answer)
    (honest : ∀ one ∈ heard, one.IsHonest view) (done : answer = .ok found) :
    Collected user earlier view (exchangesOf heard) found := by
  induction collects with
  | done found =>
      cases done
      exact ⟨fun _ read => absurd read.1 List.not_mem_nil, fun _ _ => rfl⟩
  | stopped first => cases done
  | next first later ih =>
      obtain ⟨here, behind⟩ := List.forall_mem_append.1 honest
      have collected := ih behind done
      cases first with
      | failed fault => exact collected.after_collect rfl
      | bare bare =>
          obtain rfl := here _ List.mem_cons_self
          exact collected.after_collect (by simp [LocaleList.eq_empty_of_isEmpty bare])
      | found filled =>
          obtain rfl := here _ List.mem_cons_self
          refine collected.after_collect ?_
          rw [if_pos ⟨rfl, LocaleList.isEmpty_eq_false_iff.1 filled⟩]

end Collecting

/-- What a backup that has come to its end has found. It has asked for the preferences of the packages
that the user has, and of no others. -/
structure PackedUp (view : DeviceView) (user : UserId) (exchanges : List Exchange)
    (found : Preferences) : Prop where
  collected : Collected user ∅ view exchanges found
  asked : ∀ package ∈ view.applications user,
    ⟨.locales package user, .done⟩ ∈ exchanges ∨ ⟨.locales package user, .failed⟩ ∈ exchanges
  listed : ∀ package ended, ⟨.locales package user, ended⟩ ∈ exchanges →
    package ∈ view.applications user

theorem PackedUp.filled {view : DeviceView} {user : UserId} {exchanges : List Exchange}
    {found : Preferences} (packed : PackedUp view user exchanges found)
    (named : "" ∉ view.applications user) : Document.Filled ⟨none, found⟩ := by
  rintro ⟨package, tags⟩ member
  have bound := SortedMap.get?_eq_some_iff.2 member
  by_cases read : IsRead view exchanges user package
  · have same := (packed.collected.read package read).symm.trans bound
    have blank : package ≠ "" := by
      rintro rfl
      exact named (packed.listed _ _ read.1)
    rw [← Option.some.inj same]
    simp [Document.isFilled, blank, LocaleList.toTags_ne_empty read.2]
  · cases (packed.collected.kept package read).symm.trans bound

theorem preferencesIn_of_payloadOf {found : Preferences} (filled : Document.Filled ⟨none, found⟩)
    {payload : Bytes} (given : some payload = payloadOf found) : preferencesIn payload = found := by
  unfold payloadOf at given
  cases bare : found.isEmpty with
  | true =>
      rw [bare] at given
      cases given
  | false =>
      rw [bare] at given
      cases given
      rw [preferencesIn, Document.decode_encode_eq bare, Document.withoutBlanks_of_filled filled]

theorem packedUp_of_collects {user : UserId} {found : Preferences} {heard : List Heard}
    {view : DeviceView}
    (collects : InTurn (Collects user) ∅ (view.applications user) heard (.ok found))
    (honest : ∀ one ∈ heard, one.IsHonest view) :
    PackedUp view user (exchangesOf heard) found := by
  refine ⟨collected_of_collects collects honest rfl, ?_, ?_⟩
  · intro package listed
    obtain ⟨query, member⟩ := asked_of_collects collects rfl package listed
    have exchanged := List.mem_map_of_mem (f := Heard.exchange) member
    cases query with
    | ok locales => exact .inl exchanged
    | error fault => exact .inr exchanged
  · intro package ended member
    obtain ⟨one, heard_one, same⟩ := List.mem_map.1 member
    obtain ⟨asked, listed, made⟩ := made_of_collects collects one heard_one
    cases made.symm.trans (congrArg Exchange.call same)
    exact listed

theorem PackedUp.cons {view : DeviceView} {user : UserId} {exchange : Exchange}
    {exchanges : List Exchange} {found : Preferences}
    (packed : PackedUp view user exchanges found)
    (other : ∀ package, exchange.call ≠ .locales package user) :
    PackedUp view user (exchange :: exchanges) found := by
  have same (package : String) (ended : Ended) :
      ⟨.locales package user, ended⟩ ∈ exchange :: exchanges ↔
        ⟨.locales package user, ended⟩ ∈ exchanges := by
    rw [List.mem_cons, or_iff_right]
    rintro rfl
    exact other package rfl
  obtain ⟨⟨read, kept⟩, asked, listed⟩ := packed
  simp only [IsRead] at read kept
  exact ⟨⟨by simpa only [IsRead, same] using read, by simpa only [IsRead, same] using kept⟩,
    by simpa only [same] using asked, by simpa only [same] using listed⟩

namespace Agent

variable {η φ : Type} [Host η] [LawfulHost η] [FileSystem φ]

theorem packedUp_of_went {user : UserId} {before after : Standing η φ} {heard : List Heard}
    {deed : Deed} {payload : Option Bytes}
    (went : Went (.backup user) before heard deed (.ok (.backedUp payload)) after) :
    ∃ found, payload = payloadOf found ∧
      PackedUp (LawfulHost.view before.host) user (exchangesOf heard) found := by
  obtain ⟨honest, _⟩ := honest_of_hears went.hears
  have course := went.course
  have known := honest.of_quiet course.quiet_of_backup
  cases course with
  | backedUp now collects =>
      obtain ⟨_, listing, behind⟩ :=
        List.forall_mem_cons.1 known |>.imp_right List.forall_mem_cons.1
      obtain rfl := listing
      refine ⟨_, rfl, PackedUp.cons (PackedUp.cons ?_ ?_) ?_⟩
      · exact packedUp_of_collects collects behind
      · simp [Heard.exchange]
      · simp [Heard.exchange]

theorem packedUp_of_backup {agent : Agent η φ} {user : UserId} {payload : Option Bytes}
    (done : ((backup user).run agent).1 = .ok payload) :
    ∃ found, payload = payloadOf found ∧
      PackedUp agent.sight user (callsSince agent ((backup user).run agent).2) found := by
  obtain ⟨heard, deed, went⟩ := went_backup agent user
  rw [(callsSince_of_hears went.hears).2]
  rw [done] at went
  exact packedUp_of_went went

end Agent
end LocaleStaging
