import LocaleStaging.Agent

namespace LocaleStaging

inductive Request where
  | restore (payload : Option Bytes) (user : UserId)
  | event (event : Event)
  | sweep
  | backup (user : UserId)

inductive Reply where
  | done
  | swept (users : List UserId)
  | backedUp (payload : Option Bytes)

def Event.user : Event → UserId
  | packageAdded _ uid => userOf uid
  | packageDataCleared _ uid => userOf uid
  | packageRemoved _ uid => userOf uid
  | userRemoved user => user

def Event.notifies : Event → Bool
  | packageDataCleared _ _ => true
  | packageRemoved _ _ => true
  | _ => false

/-- The preferences in a payload. One that cannot be read has none. -/
def preferencesIn (payload : Bytes) : Preferences :=
  match Document.decode payload with
  | .ok document => document.preferences
  | .error _ => ∅

namespace Request

def user? : Request → Option UserId
  | restore _ user => some user
  | event made => some made.user
  | sweep => none
  | backup user => some user

def sweeps : Request → Bool
  | sweep => true
  | backup _ => true
  | _ => false

def payload? : Request → Option (Bytes × UserId)
  | .restore (some payload) user => some (payload, user)
  | _ => none

end Request

namespace Agent

variable {η φ : Type} [Host η] [FileSystem φ]

def perform : Request → Operation η φ Reply
  | .restore payload user => do
    restore payload user
    return .done
  | .event event => do
    handle event
    return .done
  | .sweep => return .swept (← sweepExpired)
  | .backup user => return .backedUp (← backup user)

def performed (request : Request) (agent : Agent η φ) : Agent η φ :=
  ((perform request).run agent).2

/-! ## Runs -/

inductive Turn (η : Type) where
  | request (made : Request)
  /-- The device changes without the agent. -/
  | elsewhere (change : η → η)

def turn (agent : Agent η φ) : Turn η → Agent η φ
  | .request made => ((perform made).run agent).2
  | .elsewhere change => { agent with host := change agent.host }

def after (agent : Agent η φ) (turns : List (Turn η)) : Agent η φ := turns.foldl turn agent

def replies (agent : Agent η φ) : List (Turn η) → List (Request × Except Panic Reply)
  | [] => []
  | .request made :: rest =>
    (made, ((perform made).run agent).1) :: (agent.turn (.request made)).replies rest
  | .elsewhere change :: rest => (agent.turn (.elsewhere change)).replies rest

theorem after_concat (agent : Agent η φ) (turns : List (Turn η)) (last : Turn η) :
    agent.after (turns ++ [last]) = (agent.after turns).turn last := by
  rw [after, after, List.foldl_append]
  rfl

end Agent
end LocaleStaging
