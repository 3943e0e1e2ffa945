import LocaleStaging.Proofs.Agent.Handled
import LocaleStaging.Proofs.LocaleList

namespace LocaleStaging

/-- Calls that were made both times have ended the same way. -/
def Alike (made others : List Exchange) : Prop :=
  ∀ exchange ∈ made, ∀ other ∈ others, exchange.call = other.call → exchange.ended = other.ended

/-! ## Resolutions -/

/-- How the calls about a package end when a preference is restored for it, and the locales that it has
then. Locales that were read stay unless there are none. Else the restored ones are set, and if that
fails, those that were there stay all the same. -/
inductive Resolution (user : UserId) (package tags : String) (current : LocaleList) :
    List Exchange → LocaleList → Prop where
  | kept (chosen : current ≠ .empty) :
      Resolution user package tags current [⟨.locales package user, .done⟩] current
  | restored {query : Ended} (unset : query = .failed ∨ query = .done ∧ current = .empty) :
      Resolution user package tags current
        [⟨.locales package user, query⟩, ⟨.setLocales package user (LocaleList.ofTags tags), .done⟩]
        (LocaleList.ofTags tags)
  | refused {query : Ended} (unset : query = .failed ∨ query = .done ∧ current = .empty) :
      Resolution user package tags current
        [⟨.locales package user, query⟩, ⟨.setLocales package user (LocaleList.ofTags tags), .failed⟩]
        current

namespace Resolution

variable {user : UserId} {package tags : String} {current left : LocaleList} {made : List Exchange}

theorem live (resolution : Resolution user package tags current made left) :
    ((settingsOf made user package).getLast?).getD current = left := by
  cases resolution with
  | kept chosen => rfl
  | restored unset => simp [settingsOf, Exchange.locales?]
  | refused unset => rfl

theorem settingsOf_of_ne (resolution : Resolution user package tags current made left)
    {owner : UserId} (apart : owner ≠ user) : settingsOf made owner package = [] := by
  cases resolution <;> simp [settingsOf, Exchange.locales?, Ne.symm apart]

theorem again {last : LocaleList} {others : List Exchange}
    (first : Resolution user package tags current made left)
    (second : Resolution user package tags left others last)
    (done : ∀ exchange ∈ made, exchange.ended = .done)
    (done_again : ∀ exchange ∈ others, exchange.ended = .done) : last = left := by
  cases second with
  | kept chosen => rfl
  | refused unset => simp at done_again
  | restored unset =>
      have bare : left = .empty := by
        rcases unset with rfl | ⟨_, bare⟩
        · simp at done_again
        · exact bare
      cases first with
      | kept chosen => exact absurd bare chosen
      | restored unset => rfl
      | refused unset => simp at done

theorem left_unique {others : List Exchange} {another : LocaleList}
    (first : Resolution user package tags current made left)
    (second : Resolution user package tags current others another)
    (alike : Alike made others) : left = another := by
  have apart {query : Ended} (chosen : current ≠ .empty)
      (unset : query = .failed ∨ query = .done ∧ current = .empty) : query ≠ .done := by
    rcases unset with rfl | ⟨_, bare⟩
    · simp
    · exact absurd bare chosen
  cases first with
  | kept chosen =>
      cases second with
      | kept _ => rfl
      | refused _ => rfl
      | restored unset =>
          exact absurd (alike _ List.mem_cons_self _ List.mem_cons_self rfl).symm (apart chosen unset)
  | refused unset =>
      cases second with
      | kept _ => rfl
      | refused _ => rfl
      | restored _ =>
          have same := alike ⟨.setLocales package user (LocaleList.ofTags tags), .failed⟩ (by simp)
            ⟨.setLocales package user (LocaleList.ofTags tags), .done⟩ (by simp) rfl
          cases same
  | restored unset =>
      cases second with
      | kept chosen =>
          exact absurd (alike _ List.mem_cons_self _ List.mem_cons_self rfl) (apart chosen unset)
      | restored _ => rfl
      | refused _ =>
          have same := alike ⟨.setLocales package user (LocaleList.ofTags tags), .done⟩ (by simp)
            ⟨.setLocales package user (LocaleList.ofTags tags), .failed⟩ (by simp) rfl
          cases same
end Resolution

structure Resolved (user : UserId) (applied : String → Option String) (view : DeviceView)
    (made : List Exchange) : Prop where
  resolved : ∀ package tags, applied package = some tags → ∃ left,
    Resolution user package tags (view.live user package) (callsAbout made package) left
  unasked : ∀ package, applied package = none → callsAbout made package = []

namespace Resolved

variable {user : UserId} {applied : String → Option String} {view : DeviceView} {made : List Exchange}

theorem live_of_some (resolved : Resolved user applied view made) {package tags : String}
    (found : applied package = some tags) :
    Resolution user package tags (view.live user package) (callsAbout made package)
      ((view.replay made).live user package) := by
  obtain ⟨left, resolution⟩ := resolved.resolved package tags found
  rw [DeviceView.live_replay_callsAbout, resolution.live]
  exact resolution

theorem live_of_none (resolved : Resolved user applied view made) {package : String}
    (absent : applied package = none) (owner : UserId) :
    (view.replay made).live owner package = view.live owner package := by
  rw [DeviceView.live_replay_callsAbout, resolved.unasked package absent]
  rfl

theorem live_of_ne (resolved : Resolved user applied view made) {owner : UserId} (apart : owner ≠ user)
    (package : String) : (view.replay made).live owner package = view.live owner package := by
  cases found : applied package with
  | none => exact resolved.live_of_none found owner
  | some tags =>
      obtain ⟨left, resolution⟩ := resolved.resolved package tags found
      rw [DeviceView.live_replay_callsAbout, resolution.settingsOf_of_ne apart]
      rfl

theorem append {later : String → Option String} {others : List Exchange}
    (first : Resolved user applied view made)
    (second : Resolved user later (view.replay made) others)
    (apart : ∀ package, applied package = none ∨ later package = none) :
    Resolved user (fun package => (applied package).or (later package)) view (made ++ others) := by
  constructor
  · intro package tags found
    rw [callsAbout_append]
    rcases apart package with absent | absent
    · have resolution := second.live_of_some (show later package = some tags by simpa [absent] using found)
      rw [first.unasked package absent, List.nil_append, ← first.live_of_none absent user]
      exact ⟨_, resolution⟩
    · rw [second.unasked package absent, List.append_nil]
      exact first.resolved package tags (by simpa [absent] using found)
  · intro package absent
    obtain ⟨before, after⟩ := Option.or_eq_none_iff.1 absent
    rw [callsAbout_append, first.unasked package before, second.unasked package after]
    rfl

theorem live_congr {others : List Exchange} (first : Resolved user applied view made)
    (second : Resolved user applied view others) (alike : Alike made others) :
    (view.replay made).live = (view.replay others).live := by
  funext owner package
  by_cases here : owner = user
  · subst here
    cases found : applied package with
    | none => rw [first.live_of_none found, second.live_of_none found]
    | some tags =>
        refine (first.live_of_some found).left_unique (second.live_of_some found) ?_
        intro exchange member other again
        exact alike exchange (List.mem_filter.1 member).1 other (List.mem_filter.1 again).1
  · rw [first.live_of_ne here, second.live_of_ne here]

end Resolved

/-! ## What is heard -/

theorem resolution_of_applies {package tags : String} {user : UserId} {view : DeviceView}
    {heard : List Heard} (honest : Honest view heard)
    (applies : Applies package tags user heard (.ok ())) :
    ∃ left, Resolution user package tags (view.live user package) (exchangesOf heard) left := by
  cases applies with
  | kept chosen =>
      obtain rfl := honest.1
      exact ⟨_, .kept (LocaleList.isEmpty_eq_false_iff.1 chosen)⟩
  | @set query report unset =>
      have way : DeviceCall.ended (.locales package user) (.ok query) = .failed ∨
          DeviceCall.ended (.locales package user) (.ok query) = .done ∧
            view.live user package = .empty := by
        cases query with
        | error fault => exact .inl rfl
        | ok current =>
            obtain rfl := honest.1
            exact .inr ⟨rfl, LocaleList.eq_empty_of_isEmpty (unset _ rfl)⟩
      cases report with
      | ok done => exact ⟨_, .restored way⟩
      | error fault => exact ⟨_, .refused way⟩

theorem resolved_of_applies {package tags : String} {user : UserId} {view : DeviceView}
    {heard : List Heard} {installed : Except Panic Bool}
    (honest : Honest view (⟨.isInstalled package user, installed⟩ :: heard))
    (applies : Applies package tags user heard (.ok ())) :
    Resolved user (fun other => if other = package then some tags else none) view
      (exchangesOf (⟨.isInstalled package user, installed⟩ :: heard)) := by
  have about (other : String) :
      callsAbout (exchangesOf (⟨.isInstalled package user, installed⟩ :: heard)) other =
        exchangesOf (if other = package then heard else []) := by
    rw [← applies.about other]
    exact callsAbout_exchangesOf _ other
  constructor
  · intro other found same
    split at same
    next here =>
      cases same
      subst here
      rw [about, if_pos rfl]
      obtain ⟨left, resolution⟩ := resolution_of_applies honest.2 applies
      exact ⟨left, resolution⟩
    next => cases same
  · intro other absent
    split at absent
    next => cases absent
    next apart => rw [about, if_neg apart, exchangesOf, List.map_nil]

def Calm (made : List Exchange) : Prop := ∀ exchange ∈ made, exchange.ended ≠ .panicked

theorem Agent.Went.returns {η φ : Type} [Host η] [FileSystem φ] {request : Request}
    {before after : Standing η φ} {heard : List Heard} {deed : Deed} {answer : Except Panic Reply}
    (went : Went request before heard deed answer after) (calm : Calm (exchangesOf heard)) :
    ∃ reply, answer = .ok reply := by
  cases answer with
  | ok reply => exact ⟨reply, rfl⟩
  | error panic =>
      obtain ⟨made, panic, member⟩ := went.leads.panicked
      exact absurd (made.ended_error panic) (calm _ (List.mem_map_of_mem member))

end LocaleStaging
