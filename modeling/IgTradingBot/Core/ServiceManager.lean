import IgTradingBot.Library.Machines
import Mathlib.Data.List.Basic
import Mathlib.Data.List.Nodup
import Mathlib.Data.Rat.Defs
import Mathlib.Algebra.Order.Ring.Rat

/-!
# Service manager

Starting, stopping and restarting of services in `src/core/service_manager.py`, from await to
await. A call is suspended while a start or a stop function runs; the handler of an error sleeps
between its decision to restart a service and the restart.
-/

namespace IgTradingBot

/-- State of a service. -/
inductive ServiceStatus where
  | stopped
  | starting
  | running
  | restarting
  | failed
  deriving DecidableEq, Repr

/-- Record of a restart. -/
structure RestartRecord where
  timestamp : ℚ
  error : String
  deriving DecidableEq, Repr

/-- A registered service. Its functions are known by whether they are there. -/
structure ServiceState where
  status : ServiceStatus := .stopped
  hasStart : Bool := true
  hasStop : Bool := false
  restartHistory : List RestartRecord := []
  lastError : Option String := none
  startedAt : Option ℚ := none
  deriving DecidableEq, Repr

/-- The services in the order in which they were registered, each name once. -/
structure ServiceManager where
  services : List (String × ServiceState)
  distinct : (services.map Prod.fst).Nodup
  maxRestartAttempts : ℤ := 3
  restartWindowSeconds : ℚ := 300
  running : Bool := false

/-- What the handler of an error decides. -/
inductive ErrorDecision where
  | unknown
  | exhausted
  | restart
  deriving DecidableEq, Repr

namespace ServiceManager

/-- The service of a name. -/
def lookup (manager : ServiceManager) (name : String) : Option ServiceState :=
  (manager.services.find? (·.1 = name)).map (·.2)

/-- The names of the services. -/
def names (manager : ServiceManager) : List String := manager.services.map Prod.fst

/-- Change the service of a name. -/
def modify (manager : ServiceManager) (name : String) (change : ServiceState → ServiceState) :
    ServiceManager :=
  { manager with
    services := manager.services.map fun entry =>
      if entry.1 = name then (entry.1, change entry.2) else entry
    distinct := by
      have same : (fun entry : String × ServiceState =>
          (if entry.1 = name then (entry.1, change entry.2) else entry).1) = Prod.fst := by
        funext entry
        split_ifs <;> rfl
      rw [List.map_map, Function.comp_def, same]
      exact manager.distinct }

/-- The status of a service, if it is registered. -/
def getStatus (manager : ServiceManager) (name : String) : Option ServiceStatus :=
  (manager.lookup name).map (·.status)

/-- A service that is registered with a start function. -/
def canStart (manager : ServiceManager) (name : String) : Bool :=
  (manager.lookup name).any (·.hasStart)

/-- `start_service` up to the call of the start function, if it comes to that. -/
def beginStart (manager : ServiceManager) (name : String) : Option ServiceManager :=
  if manager.canStart name then
    some (manager.modify name fun state => { state with status := .starting })
  else none

/-- The start function has returned or raised. -/
def endStart (manager : ServiceManager) (name : String) (error : Option String) (now : ℚ) :
    ServiceManager :=
  manager.modify name fun state =>
    match error with
    | none => { state with status := .running, startedAt := some now, lastError := none }
    | some message => { state with status := .failed, lastError := some message }

/-- The stop function has returned or raised, or there is none. -/
def endStop (manager : ServiceManager) (name : String) : ServiceManager :=
  manager.modify name fun state => { state with status := .stopped, startedAt := none }

/-- The restarts of a service within the window. -/
def recentRestarts (manager : ServiceManager) (state : ServiceState) (now : ℚ) :
    List RestartRecord :=
  state.restartHistory.filter (now - manager.restartWindowSeconds ≤ ·.timestamp)

/-- `handle_service_error` up to its first await. -/
def handleError (manager : ServiceManager) (name error : String) (now : ℚ) :
    ServiceManager × ErrorDecision :=
  match manager.lookup name with
  | none => (manager, .unknown)
  | some state =>
    if manager.maxRestartAttempts ≤ (manager.recentRestarts state now).length then
      (manager.modify name fun state =>
        { state with status := .failed, lastError := some error }, .exhausted)
    else
      (manager.modify name fun state =>
        { state with
          status := .restarting
          lastError := some error
          restartHistory := state.restartHistory ++ [⟨now, error⟩] }, .restart)

end ServiceManager

/-- Where a call is suspended. A handler of an error knows whether its service was stopped, or has
failed for good, since its decision; the source does not keep that. -/
inductive ServiceTask where
  /-- `handle_service_error` sleeps before the restart -/
  | sleeping (name : String) (overruled : Bool)
  /-- `handle_service_error` awaits the start function -/
  | restarting (name : String) (overruled : Bool)
  /-- `start_service`, or `start_all` with what remains, awaits the start function -/
  | starting (name : String) (remaining : List String)
  /-- `stop_service`, or `stop_all` with what remains, awaits the stop function -/
  | stopping (name : String) (remaining : List String)
  | finished
  deriving DecidableEq, Repr

/-- A call of a start function: the status that it found, and whether its caller is a handler whose
decision was overruled. -/
structure ServiceStart where
  name : String
  found : Option ServiceStatus
  overruled : Bool
  deriving DecidableEq, Repr

/-- The manager with its calls. The other fields are the history: the calls of start functions, and
the services that came up through a handler whose decision was overruled. -/
structure ServiceRun where
  manager : ServiceManager
  tasks : List ServiceTask := []
  starts : List ServiceStart := []
  revived : List String := []

/-- What happens between two awaits. A call is known by its place in the list of calls. -/
inductive ServiceMove where
  | startCalled (name : String)
  | startAllCalled
  | stopCalled (name : String)
  | stopAllCalled
  | errorReported (name error : String) (now : ℚ)
  | woken (task : ℕ)
  | startEnded (task : ℕ) (error : Option String) (now : ℚ)
  | stopEnded (task : ℕ)

/-- A service was stopped or has failed for good: the pending handlers of its errors are
overruled. -/
def ServiceTask.overrule (name : String) : ServiceTask → ServiceTask
  | .sleeping other overruled => .sleeping other (overruled || other = name)
  | .restarting other overruled => .restarting other (overruled || other = name)
  | task => task

namespace ServiceRun

/-- A new call. -/
def spawn (called : ServiceRun × ServiceTask) : ServiceRun :=
  { called.1 with tasks := called.1.tasks ++ [called.2] }

/-- A call goes on. -/
def proceed (task : ℕ) (called : ServiceRun × ServiceTask) : ServiceRun :=
  { called.1 with tasks := called.1.tasks.set task called.2 }

/-- Call the start function of a service. -/
def start (run : ServiceRun) (name : String) (overruled : Bool) : Option ServiceRun :=
  (run.manager.beginStart name).map fun manager =>
    { run with
      manager := manager
      starts := run.starts ++ [⟨name, run.manager.getStatus name, overruled⟩] }

/-- Start services one after the other, up to the first call of a start function. -/
def startNext (run : ServiceRun) : List String → ServiceRun × ServiceTask
  | [] => (run, .finished)
  | name :: remaining =>
    match run.start name false with
    | some started => (started, .starting name remaining)
    | none => run.startNext remaining

/-- A service is stopped. -/
def endStop (run : ServiceRun) (name : String) : ServiceRun :=
  { run with
    manager := run.manager.endStop name
    tasks := run.tasks.map (ServiceTask.overrule name) }

/-- `stop_all` from one of its services on, up to the first call of a stop function. -/
def stopNext (run : ServiceRun) : List String → ServiceRun × ServiceTask
  | [] => (run, .finished)
  | name :: remaining =>
    match run.manager.lookup name with
    | some state =>
      if state.status = .running ∨ state.status = .restarting then
        if state.hasStop then (run, .stopping name remaining)
        else (run.endStop name).stopNext remaining
      else run.stopNext remaining
    | none => run.stopNext remaining

/-- A call of `stop_service`. -/
def stop (run : ServiceRun) (name : String) : ServiceRun :=
  match run.manager.lookup name with
  | none => run
  | some state =>
    if state.hasStop then spawn (run, .stopping name []) else run.endStop name

/-- A call of `handle_service_error`. -/
def report (run : ServiceRun) (name error : String) (now : ℚ) : ServiceRun :=
  match run.manager.handleError name error now with
  | (_, .unknown) => run
  | (manager, .exhausted) =>
    { run with manager := manager, tasks := run.tasks.map (ServiceTask.overrule name) }
  | (manager, .restart) => spawn ({ run with manager := manager }, .sleeping name false)

/-- The handler of an error wakes up. It asks whether the manager is running. -/
def wake (run : ServiceRun) (task : ℕ) : ServiceRun :=
  match run.tasks[task]? with
  | some (.sleeping name overruled) =>
    match if run.manager.running then run.start name overruled else none with
    | some started => proceed task (started, .restarting name overruled)
    | none => proceed task (run, .finished)
  | _ => run

/-- A start function has returned or raised. -/
def endStart (run : ServiceRun) (task : ℕ) (error : Option String) (now : ℚ) : ServiceRun :=
  match run.tasks[task]? with
  | some (.restarting name overruled) =>
    proceed task
      ({ run with
          manager := run.manager.endStart name error now
          revived := if overruled && error.isNone then run.revived ++ [name] else run.revived },
        .finished)
  | some (.starting name remaining) =>
    proceed task ({ run with manager := run.manager.endStart name error now }.startNext remaining)
  | _ => run

/-- A stop function has returned or raised. -/
def stopEnded (run : ServiceRun) (task : ℕ) : ServiceRun :=
  match run.tasks[task]? with
  | some (.stopping name remaining) => proceed task ((run.endStop name).stopNext remaining)
  | _ => run

/-- One move. -/
def step (run : ServiceRun) : ServiceMove → ServiceRun
  | .startCalled name => spawn (run.startNext [name])
  | .startAllCalled =>
    spawn ({ run with manager := { run.manager with running := true } }.startNext
      run.manager.names)
  | .stopCalled name => run.stop name
  | .stopAllCalled =>
    spawn ({ run with manager := { run.manager with running := false } }.stopNext
      run.manager.names)
  | .errorReported name error now => run.report name error now
  | .woken task => run.wake task
  | .startEnded task error now => run.endStart task error now
  | .stopEnded task => run.stopEnded task

end ServiceRun

end IgTradingBot
