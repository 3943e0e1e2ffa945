import LocaleStaging.Device

namespace LocaleStaging

inductive Ended where
  | done
  | failed
  | panicked
deriving DecidableEq

structure Exchange where
  call : DeviceCall
  ended : Ended
deriving DecidableEq

def Ended.ofAnswer {α : Type} : Except Panic α → Ended
  | .ok _ => done
  | .error _ => panicked

def Ended.ofReport {α : Type} : Except Panic (Except HostFault α) → Ended
  | .ok (.ok _) => done
  | .ok (.error _) => failed
  | .error _ => panicked

def Exchange.locales? (exchange : Exchange) (user : UserId) (package : String) : Option LocaleList :=
  match exchange with
  | ⟨.setLocales other owner locales, .done⟩ =>
    if other = package ∧ owner = user then some locales else none
  | _ => none

def settingsOf (exchanges : List Exchange) (user : UserId) (package : String) : List LocaleList :=
  exchanges.filterMap fun exchange => exchange.locales? user package

@[ext] structure DeviceView where
  live : UserId → String → LocaleList
  applications : UserId → List String
  history : List Exchange

namespace DeviceView

def after (view : DeviceView) (exchange : Exchange) : DeviceView where
  live user package := (exchange.locales? user package).getD (view.live user package)
  applications := view.applications
  history := view.history ++ [exchange]

def replay (view : DeviceView) (exchanges : List Exchange) : DeviceView := exchanges.foldl after view

theorem replay_append (view : DeviceView) (first second : List Exchange) :
    view.replay (first ++ second) = (view.replay first).replay second :=
  List.foldl_append

theorem history_replay (view : DeviceView) (exchanges : List Exchange) :
    (view.replay exchanges).history = view.history ++ exchanges := by
  induction exchanges generalizing view with
  | nil => exact (List.append_nil _).symm
  | cons exchange exchanges ih =>
      rw [replay, List.foldl_cons]
      exact (ih (view.after exchange)).trans (List.append_assoc _ _ _)

theorem live_replay (view : DeviceView) (exchanges : List Exchange) (user : UserId)
    (package : String) :
    (view.replay exchanges).live user package =
      ((settingsOf exchanges user package).getLast?).getD (view.live user package) := by
  induction exchanges generalizing view with
  | nil => rfl
  | cons exchange exchanges ih =>
      rw [replay, List.foldl_cons]
      refine (ih (view.after exchange)).trans ?_
      cases set : exchange.locales? user package with
      | none => simp only [settingsOf, List.filterMap_cons, set, after, Option.getD_none]
      | some locales =>
          simp only [settingsOf, List.filterMap_cons, set, after, Option.getD_some,
            List.getLast?_cons]

end DeviceView

structure Noted {η : Type} (view : η → DeviceView) (works : η → Prop) (host : η)
    (call : DeviceCall) (ended : Ended) (after : η) : Prop where
  view_after : view after = (view host).after ⟨call, ended⟩
  works_after : works host → works after ∧ ended = .done

/-- A device that can be observed, and keeps its word. -/
class LawfulHost (η : Type) [Host η] where
  view : η → DeviceView
  /-- No call fails or panics from here on. -/
  works : η → Prop
  now_noted : ∀ host, Noted view works host .now (.ofAnswer (Host.now host).1) (Host.now host).2
  isInstalled_noted : ∀ host package user, Noted view works host (.isInstalled package user)
    (.ofAnswer (Host.isInstalled package user host).1) (Host.isInstalled package user host).2
  isInstalled_answer : ∀ host package user found, (Host.isInstalled package user host).1 = .ok found →
    (found = true ↔ package ∈ (view host).applications user)
  installedPackages_noted : ∀ host user, Noted view works host (.installedPackages user)
    (.ofAnswer (Host.installedPackages user host).1) (Host.installedPackages user host).2
  installedPackages_answer : ∀ host user packages, (Host.installedPackages user host).1 = .ok packages →
    packages = (view host).applications user
  locales_noted : ∀ host package user, Noted view works host (.locales package user)
    (.ofReport (Host.locales package user host).1) (Host.locales package user host).2
  locales_answer : ∀ host package user found, (Host.locales package user host).1 = .ok (.ok found) →
    found = (view host).live user package
  setLocales_noted : ∀ host package user locales, Noted view works host
    (.setLocales package user locales) (.ofReport (Host.setLocales package user locales host).1)
    (Host.setLocales package user locales host).2
  dataChanged_noted : ∀ host key, Noted view works host (.dataChanged key)
    (.ofAnswer (Host.dataChanged key host).1) (Host.dataChanged key host).2

end LocaleStaging
