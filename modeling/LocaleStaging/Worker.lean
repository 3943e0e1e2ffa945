import LocaleStaging.Agent

namespace LocaleStaging

inductive Monitor where
  | running (posted : List Event)
  | stopped
deriving DecidableEq

inductive MonitorError where
  | closed (event : Event)
  | workerLost
deriving DecidableEq

def MonitorError.message : MonitorError → String
  | closed event => "event worker stopped, dropped " ++ event.details
  | workerLost => "event worker was lost"

namespace Monitor

def start : Monitor := running []

def post (monitor : Monitor) (event : Event) : Except MonitorError Monitor :=
  match monitor with
  | running posted => .ok (running (posted ++ [event]))
  | stopped => .error (.closed event)

variable {η φ : Type} [Host η] [FileSystem φ]

def handleSafely (event : Event) : StateM (Agent η φ) Unit := do
  let _ ← (Agent.note (.handling event)).run
  match ← (Agent.handle event).run with
  | .ok () => return
  | .error panic =>
    let _ ← (Agent.note (.handlerPanicked panic)).run

def handleAll : List Event → StateM (Agent η φ) Unit
  | [] => return
  | event :: rest => do
    handleSafely event
    handleAll rest

def shutDown (monitor : Monitor) : StateM (Agent η φ) (Except MonitorError Unit) := do
  match monitor with
  | stopped => return .error .workerLost
  | running posted =>
    handleAll posted
    let _ ← (Agent.note .workerStopped).run
    return .ok ()

end Monitor
end LocaleStaging
