import IgTradingBot.Library.Histories
import Mathlib.Data.List.Basic
import Mathlib.Data.List.Count

/-!
# Tasks of the trading loop

`start`, `stop`, `_run_loop` and `_snapshot_loop` of `trading_loop.py` as tasks that go on one await at
a time. The routes of the API and the end of the application call `start` and `stop` whenever they like,
so a run is any order of calls and of steps. A start while a stop still awaits a task is accepted, since
`stop` takes `running` down before it awaits anything.
-/

namespace IgTradingBot

open Machines

/-- What a task of `_run_loop` awaits. -/
inductive RunPhase where
  | created
  | connecting
  | cycling
  | sleeping
  | ended
  deriving DecidableEq, Repr

/-- What a task of `_snapshot_loop` awaits. -/
inductive PollPhase where
  | created
  | polling
  | sleeping
  | ended
  deriving DecidableEq, Repr

structure RunTask where
  phase : RunPhase := .created
  cancelled : Bool := false
  deriving DecidableEq, Repr

structure PollTask where
  phase : PollPhase := .created
  cancelled : Bool := false
  deriving DecidableEq, Repr

/-- What a call of `stop` awaits. It takes both tasks when it is called, before it awaits the first. -/
inductive StopPhase where
  | poller (poller : ℕ) (task : Option ℕ)
  | loop (task : ℕ)
  | client
  | returned
  deriving DecidableEq, Repr

/-- The loop with all its tasks. `task` and `snapshotTask` are its handles, `client` says whether there
is a client. `overlapped` counts the starts that were accepted during a stop; the loop does not keep
it. -/
structure LoopTasks where
  running : Bool := false
  connected : Bool := false
  errors : ℕ := 0
  client : Bool := false
  task : Option ℕ := none
  snapshotTask : Option ℕ := none
  loops : List RunTask := []
  pollers : List PollTask := []
  stops : List StopPhase := []
  overlapped : ℕ := 0
  deriving Repr

/-- What can happen next: a call, or what a task or a call of `stop` awaits comes. It succeeds when the
client starts, when the cycle raises nothing, and when the caller of `stop` has not given up on it. -/
inductive LoopTasksMove where
  | start
  | stop
  | loopStep (loop : ℕ) (succeeds : Bool)
  | pollerStep (poller : ℕ)
  | stopStep (stop : ℕ) (succeeds : Bool)
  deriving DecidableEq, Repr

/-- A task that has not ended. -/
def RunPhase.isLive (phase : RunPhase) : Bool := phase ≠ .ended

/-- The loops that a stop still has to wait for. -/
def StopPhase.awaited : StopPhase → List ℕ
  | poller _ task => task.toList
  | loop task => [task]
  | client => []
  | returned => []

/-- A move is a step of a loop. -/
def LoopTasksMove.stepsLoop (loop : ℕ) : LoopTasksMove → Bool
  | loopStep other _ => other = loop
  | start => false
  | stop => false
  | pollerStep _ => false
  | stopStep _ _ => false

/-- A move is a step of a poller. -/
def LoopTasksMove.stepsPoller (poller : ℕ) : LoopTasksMove → Bool
  | pollerStep other => other = poller
  | start => false
  | stop => false
  | loopStep _ _ => false
  | stopStep _ _ => false

namespace LoopTasks

/-- The errors after which a loop gives up. -/
def maximumErrors : ℕ := 50

def loopPhase (tasks : LoopTasks) (loop : ℕ) : RunPhase :=
  (tasks.loops[loop]?.map RunTask.phase).getD .ended

def pollerPhase (tasks : LoopTasks) (poller : ℕ) : PollPhase :=
  (tasks.pollers[poller]?.map PollTask.phase).getD .ended

/-- A stop is not over. -/
def stopping (tasks : LoopTasks) : Bool := tasks.stops.any (· ≠ .returned)

def setLoop (loop : ℕ) (phase : RunPhase) (tasks : LoopTasks) : LoopTasks :=
  { tasks with loops := tasks.loops.modify loop fun task => { task with phase } }

def setPoller (poller : ℕ) (phase : PollPhase) (tasks : LoopTasks) : LoopTasks :=
  { tasks with pollers := tasks.pollers.modify poller fun task => { task with phase } }

def cancelLoop (loop : ℕ) (tasks : LoopTasks) : LoopTasks :=
  { tasks with loops := tasks.loops.modify loop fun task => { task with cancelled := true } }

def cancelPoller (poller : ℕ) (tasks : LoopTasks) : LoopTasks :=
  { tasks with
    pollers := tasks.pollers.modify poller fun task => { task with cancelled := true } }

/-- The end of `_run_loop`: whatever state the loop has by then is no longer running. -/
def finishLoop (loop : ℕ) (tasks : LoopTasks) : LoopTasks :=
  { tasks.setLoop loop .ended with running := false }

/-- The head of the `while` of `_run_loop`. A cycle without a client makes one. -/
def enterCycle (configured : Bool) (loop : ℕ) (tasks : LoopTasks) : LoopTasks :=
  if tasks.running then
    { tasks.setLoop loop .cycling with client := tasks.client || configured }
  else tasks.finishLoop loop

/-- `_connect_to_ig` has returned `True`. -/
def pollSnapshots (tasks : LoopTasks) : LoopTasks :=
  { tasks with
    connected := true
    snapshotTask := some tasks.pollers.length
    pollers := tasks.pollers ++ [{}] }

/-- A cycle has raised an exception. -/
def countError (loop : ℕ) (tasks : LoopTasks) : LoopTasks :=
  let counted := { tasks with errors := tasks.errors + 1 }
  if maximumErrors < counted.errors then counted.finishLoop loop
  else counted.setLoop loop .sleeping

/-- A step of `_run_loop`. A task that is cancelled before its first step never enters the `try`. -/
def loopStep (configured : Bool) (loop : ℕ) (succeeds : Bool) (tasks : LoopTasks) : LoopTasks :=
  match tasks.loops[loop]? with
  | none => tasks
  | some task =>
    match task.phase, task.cancelled with
    | .ended, _ => tasks
    | .created, true => tasks.setLoop loop .ended
    | _, true => tasks.finishLoop loop
    | .created, false =>
      -- without a key `_connect_to_ig` returns at once
      if configured then { tasks.setLoop loop .connecting with client := true }
      else tasks.finishLoop loop
    | .connecting, false =>
      if succeeds then tasks.pollSnapshots.enterCycle configured loop else tasks.finishLoop loop
    | .cycling, false =>
      if succeeds then tasks.setLoop loop .sleeping else tasks.countError loop
    | .sleeping, false => tasks.enterCycle configured loop

/-- A step of `_snapshot_loop`. -/
def pollerStep (poller : ℕ) (tasks : LoopTasks) : LoopTasks :=
  match tasks.pollers[poller]? with
  | none => tasks
  | some task =>
    match task.phase, task.cancelled with
    | .ended, _ => tasks
    | _, true => tasks.setPoller poller .ended
    | .polling, false => tasks.setPoller poller .sleeping
    | _, false => tasks.setPoller poller (if tasks.running then .polling else .ended)

/-- The rest of `stop` once both tasks have ended, up to its next await. -/
def closeClient (tasks : LoopTasks) : StopPhase × LoopTasks :=
  let forgotten := { tasks with snapshotTask := none, task := none }
  if tasks.client then (.client, forgotten)
  else (.returned, { forgotten with connected := false })

/-- The second turn of the loop of `stop`. -/
def stopLoop (loop : Option ℕ) (tasks : LoopTasks) : StopPhase × LoopTasks :=
  match loop with
  | some loop => (.loop loop, tasks.cancelLoop loop)
  | none => tasks.closeClient

/-- The first turn of the loop of `stop`. -/
def stopPoller (tasks : LoopTasks) : StopPhase × LoopTasks :=
  match tasks.snapshotTask with
  | some poller => (.poller poller tasks.task, tasks.cancelPoller poller)
  | none => tasks.stopLoop tasks.task

def start (tasks : LoopTasks) : LoopTasks :=
  if tasks.running then tasks
  else
    { tasks with
      running := true
      connected := false
      errors := 0
      task := some tasks.loops.length
      loops := tasks.loops ++ [{}]
      overlapped := if tasks.stopping then tasks.overlapped + 1 else tasks.overlapped }

def stop (tasks : LoopTasks) : LoopTasks :=
  let stopped := { tasks with running := false }.stopPoller
  { stopped.2 with stops := tasks.stops ++ [stopped.1] }

/-- A call of `stop` goes on. `wait_for` comes back only when the task that it cancelled has ended, and a
caller who gives up on `stop` meanwhile is not heard: `CancelledError` is caught there, but not where
the client is awaited. -/
def stopStep (call : ℕ) (succeeds : Bool) (tasks : LoopTasks) : LoopTasks :=
  match tasks.stops[call]? with
  | some (.poller poller loop) =>
    if tasks.pollerPhase poller = .ended then
      let stopped := tasks.stopLoop loop
      { stopped.2 with stops := tasks.stops.set call stopped.1 }
    else tasks
  | some (.loop loop) =>
    if tasks.loopPhase loop = .ended then
      let stopped := tasks.closeClient
      { stopped.2 with stops := tasks.stops.set call stopped.1 }
    else tasks
  | some .client =>
    if succeeds then
      { tasks with
        client := false
        connected := false
        stops := tasks.stops.set call .returned }
    else { tasks with stops := tasks.stops.set call .returned }
  | some .returned => tasks
  | none => tasks

/-- One move. `configured` says whether the settings have a key of the broker. -/
def step (configured : Bool) (tasks : LoopTasks) : LoopTasksMove → LoopTasks
  | .start => tasks.start
  | .stop => tasks.stop
  | .loopStep loop succeeds => tasks.loopStep configured loop succeeds
  | .pollerStep poller => tasks.pollerStep poller
  | .stopStep call succeeds => tasks.stopStep call succeeds

/-! ## What a step does to the loops -/

def phases (tasks : LoopTasks) : List RunPhase := tasks.loops.map RunTask.phase

def pollPhases (tasks : LoopTasks) : List PollPhase := tasks.pollers.map PollTask.phase

def cancellations (tasks : LoopTasks) : List Bool := tasks.loops.map RunTask.cancelled

/-- How many tasks of `_run_loop` have not ended. -/
def liveLoops (tasks : LoopTasks) : ℕ := tasks.phases.countP RunPhase.isLive

/-- The loops that the stops still have to wait for. -/
def awaited (tasks : LoopTasks) : List ℕ := tasks.stops.flatMap StopPhase.awaited

section Loops

variable {configured : Bool} {tasks : LoopTasks} {loop poller : ℕ} {phase : RunPhase}

theorem loopPhase_eq (tasks : LoopTasks) (loop : ℕ) :
    tasks.loopPhase loop = (tasks.phases[loop]?).getD .ended := by
  rw [loopPhase, phases, List.getElem?_map]

@[simp] theorem phases_setLoop (loop : ℕ) (phase : RunPhase) (tasks : LoopTasks) :
    (tasks.setLoop loop phase).phases = tasks.phases.set loop phase := by
  refine List.ext_getElem? fun other => ?_
  simp only [phases, setLoop, List.getElem?_map, List.getElem?_modify, List.set_eq_modify]
  cases tasks.loops[other]? with
  | none => rfl
  | some task => by_cases same : loop = other <;> simp [same]

@[simp] theorem cancellations_setLoop (loop : ℕ) (phase : RunPhase) (tasks : LoopTasks) :
    (tasks.setLoop loop phase).cancellations = tasks.cancellations := by
  refine List.ext_getElem? fun other => ?_
  simp only [cancellations, setLoop, List.getElem?_map, List.getElem?_modify]
  cases tasks.loops[other]? with
  | none => rfl
  | some task => by_cases same : loop = other <;> simp [same]

@[simp] theorem phases_cancelLoop (loop : ℕ) (tasks : LoopTasks) :
    (tasks.cancelLoop loop).phases = tasks.phases := by
  refine List.ext_getElem? fun other => ?_
  simp only [phases, cancelLoop, List.getElem?_map, List.getElem?_modify]
  cases tasks.loops[other]? with
  | none => rfl
  | some task => by_cases same : loop = other <;> simp [same]

/-- Another loop is as it was. -/
theorem cancellations_cancelLoop {other : ℕ} (different : loop ≠ other) (tasks : LoopTasks) :
    (tasks.cancelLoop loop).cancellations[other]? = tasks.cancellations[other]? := by
  simp only [cancellations, cancelLoop, List.getElem?_map, List.getElem?_modify, if_neg different]
  cases tasks.loops[other]? <;> rfl

@[simp] theorem pollPhases_setPoller (poller : ℕ) (phase : PollPhase) (tasks : LoopTasks) :
    (tasks.setPoller poller phase).pollPhases = tasks.pollPhases.set poller phase := by
  refine List.ext_getElem? fun other => ?_
  simp only [pollPhases, setPoller, List.getElem?_map, List.getElem?_modify, List.set_eq_modify]
  cases tasks.pollers[other]? with
  | none => rfl
  | some task => by_cases same : poller = other <;> simp [same]

@[simp] theorem pollPhases_cancelPoller (poller : ℕ) (tasks : LoopTasks) :
    (tasks.cancelPoller poller).pollPhases = tasks.pollPhases := by
  refine List.ext_getElem? fun other => ?_
  simp only [pollPhases, cancelPoller, List.getElem?_map, List.getElem?_modify]
  cases tasks.pollers[other]? with
  | none => rfl
  | some task => by_cases same : poller = other <;> simp [same]

/-- How many of its steps a loop can make at most once `running` is down. -/
def stepsLeft : RunPhase → ℕ
  | .created => 2
  | .connecting => 1
  | .cycling => 2
  | .sleeping => 1
  | .ended => 0

/-- A live loop goes on to a phase: what this may change besides. -/
structure Advances (loop : ℕ) (next : RunPhase) (before after : LoopTasks) : Prop where
  phases : after.phases = before.phases.set loop next
  cancellations : after.cancellations = before.cancellations
  task : after.task = before.task
  stops : after.stops = before.stops
  overlapped : after.overlapped = before.overlapped
  goesOn : next ≠ .ended → after.running = before.running
  ends : next = .ended → after.running = false ∨ before.cancellations[loop]? = some true
  staysDown : before.running = false → after.running = false
  downhill : before.running = false → stepsLeft next < stepsLeft (before.loopPhase loop)

/-- The end of a loop. -/
theorem advances_finishLoop (live : tasks.loopPhase loop ≠ .ended) :
    Advances loop .ended tasks (tasks.finishLoop loop) where
  phases := phases_setLoop loop .ended tasks
  cancellations := cancellations_setLoop loop .ended tasks
  task := rfl
  stops := rfl
  overlapped := rfl
  goesOn := fun different => absurd rfl different
  ends := fun _ => .inl rfl
  staysDown := fun _ => rfl
  downhill := fun _ => by
    cases isPhase : tasks.loopPhase loop <;> simp_all [stepsLeft]

/-- A loop goes on to another phase. -/
theorem advances_setLoop (live : phase ≠ .ended)
    (downhill : tasks.running = false → stepsLeft phase < stepsLeft (tasks.loopPhase loop)) :
    Advances loop phase tasks (tasks.setLoop loop phase) where
  phases := phases_setLoop loop phase tasks
  cancellations := cancellations_setLoop loop phase tasks
  task := rfl
  stops := rfl
  overlapped := rfl
  goesOn := fun _ => rfl
  ends := fun ended => absurd ended live
  staysDown := id
  downhill := downhill

/-- The head of the `while`. -/
theorem advances_enterCycle (configured : Bool) (live : tasks.loopPhase loop ≠ .ended) :
    ∃ next, Advances loop next tasks (tasks.enterCycle configured loop) := by
  rw [enterCycle]
  split
  · next running =>
    have advances : Advances loop .cycling tasks (tasks.setLoop loop .cycling) :=
      advances_setLoop (by decide) fun down => by simp [down] at running
    exact ⟨.cycling, { advances with }⟩
  · exact ⟨.ended, advances_finishLoop live⟩

/-- A cycle that raised an exception. -/
theorem advances_countError (isCycling : tasks.loopPhase loop = .cycling) :
    ∃ next, Advances loop next tasks (tasks.countError loop) := by
  rw [countError]
  split
  · have live : tasks.loopPhase loop ≠ .ended := by rw [isCycling]; decide
    have advances := advances_finishLoop live
    exact ⟨.ended, { advances with }⟩
  · have advances : Advances loop .sleeping tasks (tasks.setLoop loop .sleeping) :=
      advances_setLoop (by decide) fun _ => by rw [isCycling]; decide
    exact ⟨.sleeping, { advances with }⟩

/-- A loop that has ended does nothing. -/
theorem loopStep_ended (configured succeeds : Bool) (ended : tasks.loopPhase loop = .ended) :
    tasks.loopStep configured loop succeeds = tasks := by
  rw [loopStep]
  cases found : tasks.loops[loop]? with
  | none => rfl
  | some task =>
    rw [loopPhase, found] at ended
    obtain ⟨phase, cancelled⟩ := task
    obtain rfl : phase = .ended := ended
    rfl

/-- Any other loop goes on to its next phase. -/
theorem advances_loopStep (configured succeeds : Bool) (live : tasks.loopPhase loop ≠ .ended) :
    ∃ next, Advances loop next tasks (tasks.loopStep configured loop succeeds) := by
  rw [loopStep]
  cases found : tasks.loops[loop]? with
  | none => exact absurd (by rw [loopPhase, found]; rfl) live
  | some task =>
    have isPhase : tasks.loopPhase loop = task.phase := by rw [loopPhase, found]; rfl
    obtain ⟨phase, cancelled⟩ := task
    cases cancelled with
    | true =>
      have isCancelled : tasks.cancellations[loop]? = some true := by
        rw [cancellations, List.getElem?_map, found]
        rfl
      have stopped : Advances loop .ended tasks (tasks.finishLoop loop) := advances_finishLoop live
      cases phase with
      | created =>
        -- the body has not begun, so `finally` is not reached
        exact ⟨.ended, { stopped with
          goesOn := fun different => absurd rfl different
          ends := fun _ => .inr isCancelled
          staysDown := id }⟩
      | connecting => exact ⟨.ended, stopped⟩
      | cycling => exact ⟨.ended, stopped⟩
      | sleeping => exact ⟨.ended, stopped⟩
      | ended => exact absurd isPhase live
    | false =>
      cases phase with
      | created =>
        dsimp only
        split
        · have advances : Advances loop .connecting tasks (tasks.setLoop loop .connecting) :=
            advances_setLoop (by decide) fun _ => by rw [isPhase]; decide
          exact ⟨.connecting, { advances with }⟩
        · exact ⟨.ended, advances_finishLoop live⟩
      | connecting =>
        dsimp only
        split
        · have polled : tasks.pollSnapshots.loopPhase loop ≠ .ended := live
          obtain ⟨next, advances⟩ := advances_enterCycle configured polled
          exact ⟨next, { advances with }⟩
        · exact ⟨.ended, advances_finishLoop live⟩
      | cycling =>
        dsimp only
        split
        · exact ⟨.sleeping, advances_setLoop (by decide) fun _ => by rw [isPhase]; decide⟩
        · exact advances_countError isPhase
      | sleeping => exact advances_enterCycle configured live
      | ended => exact absurd isPhase live

/-- A poller has nothing to do with the loops. -/
theorem pollerStep_loops (poller : ℕ) (tasks : LoopTasks) :
    ∃ pollers, tasks.pollerStep poller = { tasks with pollers } := by
  rw [pollerStep]
  cases tasks.pollers[poller]? with
  | none => exact ⟨tasks.pollers, rfl⟩
  | some task =>
    obtain ⟨phase, cancelled⟩ := task
    cases phase <;> cases cancelled <;> exact ⟨_, rfl⟩

/-- Any live loop is one of those counted. -/
theorem liveLoops_pos (live : tasks.loopPhase loop ≠ .ended) : 0 < tasks.liveLoops := by
  rw [loopPhase_eq] at live
  cases found : tasks.phases[loop]? with
  | none => exact absurd (by rw [found]; rfl) live
  | some phase =>
    rw [found] at live
    exact List.countP_pos_iff.mpr ⟨phase, List.mem_of_getElem? found, decide_eq_true live⟩

variable {next : RunPhase} {after : LoopTasks}

/-- The phases after a step. -/
theorem Advances.loopPhase (advances : Advances loop next tasks after)
    (live : tasks.loopPhase loop ≠ .ended) (other : ℕ) :
    after.loopPhase other = if loop = other then next else tasks.loopPhase other := by
  rw [loopPhase_eq] at live
  rw [loopPhase_eq, loopPhase_eq, advances.phases, List.getElem?_set]
  by_cases same : loop = other
  · rw [if_pos same, if_pos same]
    split
    · rfl
    · next outside =>
      rw [List.getElem?_eq_none (not_lt.mp outside)] at live
      exact absurd rfl live
  · rw [if_neg same, if_neg same]

/-- A loop that ends is one less. -/
theorem Advances.liveLoops (advances : Advances loop next tasks after)
    (live : tasks.loopPhase loop ≠ .ended) :
    after.liveLoops + (if next = .ended then 1 else 0) = tasks.liveLoops := by
  have positive := liveLoops_pos live
  rw [loopPhase_eq] at live
  cases found : tasks.phases[loop]? with
  | none => exact absurd (by rw [found]; rfl) live
  | some phase =>
    rw [found] at live
    obtain ⟨inside, isPhase⟩ := List.getElem?_eq_some_iff.mp found
    have counted : tasks.phases[loop].isLive = true := by
      rw [isPhase]
      exact decide_eq_true live
    rw [LoopTasks.liveLoops] at positive ⊢
    rw [LoopTasks.liveLoops, advances.phases, List.countP_set inside, if_pos counted]
    by_cases ended : next = .ended
    · rw [if_pos ended, if_neg (by rw [ended]; decide)]
      omega
    · have goesOn : next.isLive = true := decide_eq_true ended
      rw [if_neg ended, if_pos goesOn]
      omega

end Loops

/-! ## What a call of `stop` does -/

section Stops

variable {tasks : LoopTasks} {loop : Option ℕ} {call : ℕ}

/-- What `stop` leaves of the loops while it goes on: it waits for `loop` from here on. -/
structure WaitsFor (loop : Option ℕ) (before : LoopTasks) (stopped : StopPhase × LoopTasks) :
    Prop where
  awaited : stopped.1.awaited = loop.toList
  phases : stopped.2.phases = before.phases
  pollPhases : stopped.2.pollPhases = before.pollPhases
  running : stopped.2.running = before.running
  overlapped : stopped.2.overlapped = before.overlapped
  task : stopped.2.task = before.task ∨ stopped.2.task = none
  cancellations : ∀ other, loop ≠ some other →
    stopped.2.cancellations[other]? = before.cancellations[other]?

theorem waitsFor_closeClient (tasks : LoopTasks) : WaitsFor none tasks tasks.closeClient := by
  rw [closeClient]
  split <;> exact ⟨rfl, rfl, rfl, rfl, rfl, .inr rfl, fun _ _ => rfl⟩

theorem waitsFor_stopLoop (loop : Option ℕ) (tasks : LoopTasks) :
    WaitsFor loop tasks (tasks.stopLoop loop) := by
  cases loop with
  | none => exact waitsFor_closeClient tasks
  | some loop =>
    exact {
      awaited := rfl
      phases := phases_cancelLoop loop tasks
      pollPhases := rfl
      running := rfl
      overlapped := rfl
      task := .inl rfl
      cancellations := fun other different =>
        cancellations_cancelLoop (fun same => different (congrArg some same)) tasks }

theorem waitsFor_stopPoller (tasks : LoopTasks) : WaitsFor tasks.task tasks tasks.stopPoller := by
  rw [stopPoller]
  split
  · exact ⟨rfl, rfl, pollPhases_cancelPoller _ tasks, rfl, rfl, .inl rfl, fun _ _ => rfl⟩
  · exact waitsFor_stopLoop tasks.task tasks

/-- What a step of `stop` does: nothing, or it goes on to a phase in which it waits for no other loop
than before, and for every loop that is live. -/
theorem stopStep_cases (call : ℕ) (succeeds : Bool) (tasks : LoopTasks) :
    tasks.stopStep call succeeds = tasks ∨
      ∃ phase loop stopped, tasks.stops[call]? = some phase ∧ phase ≠ .returned ∧
        WaitsFor loop tasks stopped ∧
        tasks.stopStep call succeeds =
          { stopped.2 with stops := tasks.stops.set call stopped.1 } ∧
        loop.toList ⊆ phase.awaited ∧
        ∀ other ∈ phase.awaited, tasks.loopPhase other ≠ .ended → other ∈ loop.toList := by
  rw [stopStep]
  cases found : tasks.stops[call]? with
  | none => exact .inl rfl
  | some phase =>
    cases phase with
    | poller poller loop =>
      dsimp only
      split
      · exact .inr ⟨_, loop, tasks.stopLoop loop, rfl, nofun, waitsFor_stopLoop loop tasks, rfl,
          List.Subset.refl _, fun other member _ => member⟩
      · exact .inl rfl
    | loop loop =>
      dsimp only
      split
      · next ended =>
        refine .inr ⟨_, none, tasks.closeClient, rfl, nofun, waitsFor_closeClient tasks, rfl,
          List.nil_subset _, fun other member live => ?_⟩
        obtain rfl := List.mem_singleton.mp member
        exact absurd ended live
      · exact .inl rfl
    | client =>
      have waits (client connected : Bool) : WaitsFor none tasks
          (.returned, { tasks with client, connected }) :=
        ⟨rfl, rfl, rfl, rfl, rfl, .inl rfl, fun _ _ => rfl⟩
      dsimp only
      split
      · exact .inr ⟨_, none, _, rfl, nofun, waits false false, rfl, List.nil_subset _,
          fun _ member _ => member⟩
      · exact .inr ⟨_, none, _, rfl, nofun, waits tasks.client tasks.connected, rfl, List.nil_subset _,
          fun _ member _ => member⟩
    | returned => exact .inl rfl

theorem stopping_of_mem_awaited {loop : ℕ} (member : loop ∈ tasks.awaited) :
    tasks.stopping = true := by
  obtain ⟨phase, among, waits⟩ := List.mem_flatMap.mp member
  refine List.any_eq_true.mpr ⟨phase, among, decide_eq_true ?_⟩
  rintro rfl
  cases waits

end Stops

/-! ## How many loops there are -/

/-- The loops that the next stop will wait for, or the present ones do. -/
def watched (tasks : LoopTasks) : List ℕ :=
  if tasks.stopping then tasks.awaited else tasks.task.toList

/-- At most one live loop is watched, and each of the others was started during a stop. While the loop
is running, its newest task goes on and no stop waits for it. -/
structure Accounted (tasks : LoopTasks) : Prop where
  handleInside : ∀ loop ∈ tasks.task.toList, loop < tasks.loops.length
  awaitedInside : ∀ loop ∈ tasks.awaited, loop < tasks.loops.length
  atMost : tasks.liveLoops ≤ tasks.overlapped + 1
  surplus : tasks.overlapped < tasks.liveLoops →
    ∃ loop ∈ tasks.watched, tasks.loopPhase loop ≠ .ended
  idle : tasks.stopping = false → tasks.running = false → tasks.liveLoops ≤ tasks.overlapped
  newest : tasks.running = true → ∃ loop, tasks.loopPhase loop ≠ .ended ∧
    tasks.cancellations[loop]? = some false ∧ loop ∉ tasks.awaited

section Accounting

variable {configured : Bool} {tasks after : LoopTasks} {loop : ℕ} {next : RunPhase}

/-- It is enough that a stop waits for the surplus. -/
theorem watched_of_awaited (tasks : LoopTasks)
    (surplus : tasks.overlapped < tasks.liveLoops →
      ∃ loop ∈ tasks.awaited, tasks.loopPhase loop ≠ .ended) :
    (tasks.overlapped < tasks.liveLoops →
      ∃ loop ∈ tasks.watched, tasks.loopPhase loop ≠ .ended) ∧
    (tasks.stopping = false → tasks.running = false → tasks.liveLoops ≤ tasks.overlapped) := by
  constructor
  · intro more
    obtain ⟨loop, member, live⟩ := surplus more
    refine ⟨loop, ?_, live⟩
    rwa [watched, if_pos (stopping_of_mem_awaited member)]
  · intro idle _
    by_contra more
    obtain ⟨loop, member, _⟩ := surplus (not_le.mp more)
    rw [stopping_of_mem_awaited member] at idle
    cases idle

theorem length_phases (tasks : LoopTasks) : tasks.phases.length = tasks.loops.length :=
  List.length_map _

/-- A step of a live loop. -/
theorem Accounted.advances (accounted : Accounted tasks) (live : tasks.loopPhase loop ≠ .ended)
    (advances : Advances loop next tasks after) : Accounted after := by
  have counted := advances.liveLoops live
  have phase := advances.loopPhase live
  have awaited : after.awaited = tasks.awaited := by
    rw [LoopTasks.awaited, LoopTasks.awaited, advances.stops]
  have stopping : after.stopping = tasks.stopping := by
    rw [LoopTasks.stopping, LoopTasks.stopping, advances.stops]
  have watched : after.watched = tasks.watched := by
    rw [LoopTasks.watched, LoopTasks.watched, stopping, awaited, advances.task]
  have length : after.loops.length = tasks.loops.length := by
    rw [← length_phases, advances.phases, List.length_set, length_phases]
  have atMost := accounted.atMost
  refine {
    handleInside := by rw [advances.task, length]; exact accounted.handleInside
    awaitedInside := by rw [awaited, length]; exact accounted.awaitedInside
    atMost := by rw [advances.overlapped]; omega
    surplus := ?_
    idle := ?_
    newest := ?_ }
  · rw [advances.overlapped, watched]
    intro more
    have goesOn : next ≠ .ended := by
      intro ended
      rw [if_pos ended] at counted
      omega
    rw [if_neg goesOn, Nat.add_zero] at counted
    obtain ⟨other, member, otherLive⟩ := accounted.surplus (counted ▸ more)
    refine ⟨other, member, ?_⟩
    rw [phase]
    split
    · exact goesOn
    · exact otherLive
  · rw [stopping, advances.overlapped]
    intro idle down
    by_cases ended : next = .ended
    · rw [if_pos ended] at counted
      omega
    · have before := accounted.idle idle (advances.goesOn ended ▸ down)
      omega
  · intro running
    have wasRunning : tasks.running = true := by
      by_contra down
      have := advances.staysDown (eq_false_of_ne_true down)
      rw [this] at running
      cases running
    obtain ⟨other, otherLive, uncancelled, unawaited⟩ := accounted.newest wasRunning
    refine ⟨other, ?_, by rw [advances.cancellations]; exact uncancelled, by rwa [awaited]⟩
    rw [phase]
    split
    · next same =>
      subst same
      intro ended
      obtain down | cancelled := advances.ends ended
      · rw [down] at running
        cases running
      · rw [cancelled] at uncancelled
        cases uncancelled
    · exact otherLive

/-- What an accepted start does to the loops. -/
structure Begins (before after : LoopTasks) : Prop where
  running : after.running = true
  task : after.task = some before.loops.length
  phases : after.phases = before.phases ++ [.created]
  cancellations : after.cancellations = before.cancellations ++ [false]
  stops : after.stops = before.stops
  overlapped : after.overlapped = before.overlapped + if before.stopping then 1 else 0

theorem begins_start (down : tasks.running = false) : Begins tasks tasks.start := by
  rw [LoopTasks.start, down, if_neg Bool.false_ne_true]
  refine ⟨rfl, rfl, List.map_append, List.map_append, rfl, ?_⟩
  cases tasks.stopping <;> rfl

/-- An accepted start. Without a stop every live loop was accounted for; with one, the new loop is. -/
theorem Accounted.begins (accounted : Accounted tasks) (down : tasks.running = false)
    (begins : Begins tasks after) : Accounted after := by
  have length : after.loops.length = tasks.loops.length + 1 := by
    rw [← length_phases, begins.phases, List.length_append, length_phases]
    rfl
  have counted : after.liveLoops = tasks.liveLoops + 1 := by
    rw [liveLoops, begins.phases, List.countP_append]
    rfl
  have awaited : after.awaited = tasks.awaited := by
    rw [LoopTasks.awaited, LoopTasks.awaited, begins.stops]
  have stopping : after.stopping = tasks.stopping := by
    rw [LoopTasks.stopping, LoopTasks.stopping, begins.stops]
  have earlier (other : ℕ) (inside : other < tasks.loops.length) :
      after.loopPhase other = tasks.loopPhase other := by
    rw [loopPhase_eq, loopPhase_eq, begins.phases,
      List.getElem?_append_left (by rwa [length_phases])]
  have isNewest : after.loopPhase tasks.loops.length = .created := by
    rw [loopPhase_eq, begins.phases, ← length_phases, List.getElem?_concat_length]
    rfl
  have overlapped := begins.overlapped
  have atMost := accounted.atMost
  refine {
    handleInside := fun other member => ?_
    awaitedInside := fun other member => ?_
    atMost := ?_
    surplus := fun more => ?_
    idle := fun _ idle => ?_
    newest := fun _ => ⟨tasks.loops.length, ?_, ?_, ?_⟩ }
  · rw [begins.task] at member
    obtain rfl := List.mem_singleton.mp member
    omega
  · rw [length]
    exact Nat.lt_succ_of_lt (accounted.awaitedInside other (awaited ▸ member))
  · cases isStopping : tasks.stopping with
    | true =>
      rw [isStopping, if_pos rfl] at overlapped
      omega
    | false =>
      have few := accounted.idle isStopping down
      omega
  · rw [watched, stopping, awaited, begins.task]
    cases isStopping : tasks.stopping with
    | true =>
      rw [isStopping, if_pos rfl] at overlapped
      obtain ⟨other, member, live⟩ := accounted.surplus (by omega)
      rw [watched, if_pos isStopping] at member
      refine ⟨other, member, ?_⟩
      rwa [earlier other (accounted.awaitedInside other member)]
    | false =>
      refine ⟨tasks.loops.length, List.mem_singleton.mpr rfl, ?_⟩
      rw [isNewest]
      decide
  · rw [begins.running] at idle
    cases idle
  · rw [isNewest]
    decide
  · have same : tasks.loops.length = tasks.cancellations.length := (List.length_map _).symm
    rw [begins.cancellations, same, List.getElem?_concat_length]
  · intro member
    exact Nat.lt_irrefl _ (accounted.awaitedInside _ (awaited ▸ member))

/-- Stops that go on, or a new one, which takes `running` down: they wait for the same live loops as
before. -/
theorem Accounted.waits {stopped : StopPhase × LoopTasks} {waited : Option ℕ}
    (accounted : Accounted tasks) {runs : Bool} (lowered : runs = true → tasks.running = true)
    (waits : WaitsFor waited { tasks with running := runs } stopped) {stops : List StopPhase}
    (afterwards : { stopped.2 with stops }.awaited ⊆ waited.toList ++ tasks.awaited)
    (inside : ∀ other ∈ waited.toList, other < tasks.loops.length)
    (still : ∀ other ∈ tasks.watched, tasks.loopPhase other ≠ .ended →
      other ∈ { stopped.2 with stops }.awaited)
    (unawaited : runs = true → waited.toList ⊆ tasks.awaited) :
    Accounted { stopped.2 with stops } := by
  have phases : { stopped.2 with stops }.phases = tasks.phases := waits.phases
  have same (other : ℕ) : { stopped.2 with stops }.loopPhase other = tasks.loopPhase other := by
    rw [loopPhase_eq, phases, ← loopPhase_eq]
  have length : stopped.2.loops.length = tasks.loops.length := by
    rw [← length_phases, waits.phases]
    exact length_phases tasks
  have counted : { stopped.2 with stops }.liveLoops = tasks.liveLoops := by
    rw [liveLoops, phases, ← liveLoops]
  have overlapped : { stopped.2 with stops }.overlapped = tasks.overlapped := waits.overlapped
  have watches := watched_of_awaited { stopped.2 with stops } fun more => by
    rw [counted, overlapped] at more
    obtain ⟨other, member, live⟩ := accounted.surplus more
    exact ⟨other, still other member live, by rwa [same]⟩
  refine {
    handleInside := fun other member => ?_
    awaitedInside := fun other member => ?_
    atMost := by rw [counted, overlapped]; exact accounted.atMost
    surplus := watches.1
    idle := watches.2
    newest := fun running => ?_ }
  · rw [length]
    obtain kept | forgotten := waits.task
    · exact accounted.handleInside other (kept ▸ member)
    · have none : other ∈ (Option.none : Option ℕ).toList := forgotten ▸ member
      cases none
  · rw [length]
    obtain here | there := List.mem_append.mp (afterwards member)
    · exact inside other here
    · exact accounted.awaitedInside other there
  · have stillRuns : runs = true := waits.running.symm.trans running
    obtain ⟨other, live, uncancelled, free⟩ := accounted.newest (lowered stillRuns)
    refine ⟨other, by rwa [same], ?_, fun member => ?_⟩
    · refine (waits.cancellations other fun isWaited => free ?_).trans uncancelled
      exact unawaited stillRuns (isWaited ▸ List.mem_singleton.mpr rfl)
    · obtain here | there := List.mem_append.mp (afterwards member)
      · exact free (unawaited stillRuns here)
      · exact free there

/-- A new call of `stop` waits for the handle, besides what the calls before it wait for. -/
theorem Accounted.stop (accounted : Accounted tasks) : Accounted tasks.stop := by
  have waits := waitsFor_stopPoller { tasks with running := false }
  have awaited : tasks.stop.awaited = tasks.awaited ++ tasks.task.toList := by
    rw [LoopTasks.awaited, LoopTasks.stop, List.flatMap_append, List.flatMap_singleton, waits.awaited]
    rfl
  refine accounted.waits (fun up => absurd up Bool.false_ne_true) waits ?_ accounted.handleInside ?_
    (fun up => absurd up Bool.false_ne_true)
  · intro other member
    exact List.mem_append.mpr (List.mem_append.mp (awaited ▸ member)).symm
  · intro other member _
    refine awaited ▸ List.mem_append.mpr ?_
    rw [watched] at member
    split at member
    · exact .inl member
    · exact .inr member

/-- A call of `stop` goes on. -/
theorem Accounted.stopStep (accounted : Accounted tasks) (call : ℕ) (succeeds : Bool) :
    Accounted (tasks.stopStep call succeeds) := by
  obtain unchanged | ⟨phase, waited, stopped, found, unfinished, waits, changed, fewer, live⟩ :=
    stopStep_cases call succeeds tasks
  · rw [unchanged]
    exact accounted
  · have among : phase ∈ tasks.stops := List.mem_of_getElem? found
    have isAwaited : waited.toList ⊆ tasks.awaited := fun other member =>
      List.mem_flatMap.mpr ⟨phase, among, fewer member⟩
    have inside := (List.getElem?_eq_some_iff.mp found).1
    rw [changed]
    refine accounted.waits id waits ?_ (fun other member =>
      accounted.awaitedInside other (isAwaited member)) ?_ fun _ => isAwaited
    · intro other member
      obtain ⟨later, isLater, waitsFor⟩ := List.mem_flatMap.mp member
      obtain earlier | rfl := List.mem_or_eq_of_mem_set isLater
      · exact List.mem_append_right _ (List.mem_flatMap.mpr ⟨later, earlier, waitsFor⟩)
      · exact List.mem_append_left _ (waits.awaited ▸ waitsFor)
    · intro other member otherLive
      have isStopping : tasks.stopping = true :=
        List.any_eq_true.mpr ⟨phase, among, decide_eq_true unfinished⟩
      rw [watched, if_pos isStopping] at member
      obtain ⟨earlier, isEarlier, waitsFor⟩ := List.mem_flatMap.mp member
      obtain ⟨index, bound, rfl⟩ := List.mem_iff_getElem.mp isEarlier
      by_cases same : call = index
      · -- the call itself, which still waits for what is live
        subst same
        obtain rfl : tasks.stops[call] = phase :=
          Option.some.inj ((List.getElem?_eq_getElem bound).symm.trans found)
        refine List.mem_flatMap.mpr ⟨stopped.1, List.mem_set bound _, ?_⟩
        rw [waits.awaited]
        exact live other waitsFor otherLive
      · refine List.mem_flatMap.mpr ⟨tasks.stops[index], ?_, waitsFor⟩
        refine List.mem_iff_getElem?.mpr ⟨index, ?_⟩
        exact (List.getElem?_set_ne same).trans (List.getElem?_eq_getElem bound)

end Accounting

section Runs

variable {tasks : LoopTasks}

/-- Every move keeps the account. -/
theorem Accounted.step (accounted : Accounted tasks) (configured : Bool) (move : LoopTasksMove) :
    Accounted (tasks.step configured move) := by
  cases move with
  | start =>
    cases isRunning : tasks.running with
    | true =>
      have unchanged : tasks.step configured .start = tasks := if_pos isRunning
      rwa [unchanged]
    | false => exact accounted.begins isRunning (begins_start isRunning)
  | stop => exact accounted.stop
  | loopStep loop succeeds =>
    by_cases live : tasks.loopPhase loop = .ended
    · have unchanged : tasks.step configured (.loopStep loop succeeds) = tasks :=
        loopStep_ended configured succeeds live
      rwa [unchanged]
    · obtain ⟨next, advances⟩ := advances_loopStep configured succeeds live
      exact accounted.advances live advances
  | pollerStep poller =>
    obtain ⟨pollers, changed⟩ := pollerStep_loops poller tasks
    rw [LoopTasks.step, changed]
    exact { accounted with }
  | stopStep call succeeds => exact accounted.stopStep call succeeds

theorem accounted_initial : Accounted {} where
  handleInside := fun _ impossible => nomatch impossible
  awaitedInside := fun _ impossible => nomatch impossible
  atMost := Nat.zero_le _
  surplus := fun impossible => absurd impossible (Nat.lt_irrefl 0)
  idle := fun _ _ => le_rfl
  newest := fun impossible => nomatch impossible

/-- In every order of calls and steps there is at most one trading loop, besides one for each start that
was accepted while a stop was going on. The loop never says that it is running when it is not, and when
it says that it is not and no stop is going on, no loop is left but such ones. -/
theorem live_loops_accounted (configured : Bool) (moves : List LoopTasksMove) :
    let tasks := after (step configured) {} moves
    tasks.liveLoops ≤ tasks.overlapped + 1 ∧
      (tasks.running = true → 0 < tasks.liveLoops) ∧
      (tasks.running = false → tasks.stopping = false → tasks.liveLoops ≤ tasks.overlapped) := by
  have accounted := after_keeps_always
    (fun (tasks : LoopTasks) move (account : Accounted tasks) => account.step configured move)
    moves accounted_initial
  refine ⟨accounted.atMost, fun running => ?_, fun down idle => accounted.idle idle down⟩
  obtain ⟨loop, live, _⟩ := accounted.newest running
  exact liveLoops_pos live

/-- A start during a stop can leave two loops that trade beside each other once the stop is over. -/
example :
    let tasks := after (step true) {} [.start, .loopStep 0 true, .loopStep 0 true, .stop, .start,
      .pollerStep 0, .stopStep 0 true, .loopStep 0 true, .stopStep 0 true, .stopStep 0 true, .start]
    tasks.stopping = false ∧ tasks.liveLoops = 2 ∧ tasks.overlapped = 1 := by
  decide

end Runs

/-! ## What is left once the loop is stopped -/

section Draining

variable {configured : Bool} {tasks : LoopTasks} {loop poller : ℕ} {move : LoopTasksMove}

/-- No move but a start takes `running` up. -/
theorem running_step (down : tasks.running = false) (other : move ≠ .start) :
    (tasks.step configured move).running = false := by
  cases move with
  | start => exact absurd rfl other
  | stop => exact (waitsFor_stopPoller { tasks with running := false }).running
  | loopStep loop succeeds =>
    by_cases ended : tasks.loopPhase loop = .ended
    · have unchanged : tasks.step configured (.loopStep loop succeeds) = tasks :=
        loopStep_ended configured succeeds ended
      rwa [unchanged]
    · obtain ⟨next, advances⟩ := advances_loopStep configured succeeds ended
      exact advances.staysDown down
  | pollerStep poller =>
    obtain ⟨pollers, changed⟩ := pollerStep_loops poller tasks
    rw [LoopTasks.step, changed]
    exact down
  | stopStep call succeeds =>
    obtain unchanged | ⟨_, _, stopped, _, _, waits, changed, _⟩ :=
      stopStep_cases call succeeds tasks
    · rw [LoopTasks.step, unchanged]
      exact down
    · rw [LoopTasks.step, changed]
      exact waits.running.trans down

/-- Only its own steps move a loop. -/
theorem loopPhase_step (other : move ≠ .start) (quiet : move.stepsLoop loop = false) :
    (tasks.step configured move).loopPhase loop = tasks.loopPhase loop := by
  cases move with
  | start => exact absurd rfl other
  | stop =>
    have phases : (tasks.step configured .stop).phases = tasks.phases :=
      (waitsFor_stopPoller { tasks with running := false }).phases
    rw [loopPhase_eq, phases, ← loopPhase_eq]
  | loopStep stepped succeeds =>
    by_cases ended : tasks.loopPhase stepped = .ended
    · exact congrArg (LoopTasks.loopPhase · loop) (loopStep_ended configured succeeds ended)
    · obtain ⟨next, advances⟩ := advances_loopStep configured succeeds ended
      exact (advances.loopPhase ended loop).trans (if_neg (of_decide_eq_false quiet))
  | pollerStep poller =>
    obtain ⟨pollers, changed⟩ := pollerStep_loops poller tasks
    rw [LoopTasks.step, changed]
    rfl
  | stopStep call succeeds =>
    obtain unchanged | ⟨_, _, stopped, _, _, waits, changed, _⟩ :=
      stopStep_cases call succeeds tasks
    · exact congrArg (LoopTasks.loopPhase · loop) unchanged
    · have phases : (tasks.step configured (.stopStep call succeeds)).phases = tasks.phases :=
        (congrArg LoopTasks.phases changed).trans waits.phases
      rw [loopPhase_eq, phases, ← loopPhase_eq]

/-- Once `running` is down, a loop has at most two steps left. -/
theorem stepsLeft_step (down : tasks.running = false) (other : move ≠ .start) :
    stepsLeft ((tasks.step configured move).loopPhase loop) ≤
      stepsLeft (tasks.loopPhase loop) - if move.stepsLoop loop then 1 else 0 := by
  cases own : move.stepsLoop loop with
  | false =>
    rw [loopPhase_step other own]
    exact le_rfl
  | true =>
    cases move with
    | loopStep stepped succeeds =>
      obtain rfl : stepped = loop := of_decide_eq_true own
      by_cases ended : tasks.loopPhase stepped = .ended
      · have unchanged : tasks.step configured (.loopStep stepped succeeds) = tasks :=
          loopStep_ended configured succeeds ended
        rw [unchanged, ended]
        decide
      · obtain ⟨next, advances⟩ := advances_loopStep configured succeeds ended
        have phase : (tasks.step configured (.loopStep stepped succeeds)).loopPhase stepped = next :=
          (advances.loopPhase ended stepped).trans (if_pos rfl)
        rw [phase]
        exact Nat.le_sub_one_of_lt (advances.downhill down)
    | start => cases own
    | stop => cases own
    | pollerStep poller => cases own
    | stopStep call succeeds => cases own

/-- How many of its steps a poller can make at most once `running` is down. -/
def pollsLeft : PollPhase → ℕ
  | .created => 1
  | .polling => 2
  | .sleeping => 1
  | .ended => 0

theorem pollerPhase_eq (tasks : LoopTasks) (poller : ℕ) :
    tasks.pollerPhase poller = (tasks.pollPhases[poller]?).getD .ended := by
  rw [pollerPhase, pollPhases, List.getElem?_map]

/-- A step of a loop makes at most one poller. -/
theorem pollers_loopStep (configured : Bool) (loop : ℕ) (succeeds : Bool) (tasks : LoopTasks) :
    tasks.pollers <+: (tasks.loopStep configured loop succeeds).pollers := by
  have cycle (tasks : LoopTasks) : (tasks.enterCycle configured loop).pollers = tasks.pollers := by
    rw [enterCycle]
    split <;> rfl
  rw [loopStep]
  cases tasks.loops[loop]? with
  | none => exact List.prefix_refl _
  | some task =>
    obtain ⟨phase, cancelled⟩ := task
    cases cancelled with
    | true => cases phase <;> exact List.prefix_refl _
    | false =>
      cases phase with
      | created =>
        dsimp only
        split <;> exact List.prefix_refl _
      | connecting =>
        dsimp only
        split
        · rw [cycle]
          exact List.prefix_append _ _
        · exact List.prefix_refl _
      | cycling =>
        dsimp only
        split
        · exact List.prefix_refl _
        · rw [countError]
          split <;> exact List.prefix_refl _
      | sleeping => exact (cycle tasks) ▸ List.prefix_refl _
      | ended => exact List.prefix_refl _

/-- Only its own steps move a poller. -/
theorem pollerPhase_step (inside : poller < tasks.pollers.length)
    (quiet : move.stepsPoller poller = false) :
    (tasks.step configured move).pollerPhase poller = tasks.pollerPhase poller := by
  cases move with
  | start =>
    rw [LoopTasks.step, LoopTasks.start]
    split <;> rfl
  | stop =>
    have phases : (tasks.step configured .stop).pollPhases = tasks.pollPhases :=
      (waitsFor_stopPoller { tasks with running := false }).pollPhases
    rw [pollerPhase_eq, phases, ← pollerPhase_eq]
  | loopStep loop succeeds =>
    obtain ⟨more, longer⟩ := pollers_loopStep configured loop succeeds tasks
    rw [LoopTasks.step, pollerPhase, ← longer, List.getElem?_append_left inside]
    rfl
  | pollerStep stepped =>
    have different : stepped ≠ poller := of_decide_eq_false quiet
    rw [LoopTasks.step, LoopTasks.pollerStep]
    have still (phase : PollPhase) :
        (tasks.setPoller stepped phase).pollerPhase poller = tasks.pollerPhase poller := by
      rw [pollerPhase_eq, pollPhases_setPoller, List.getElem?_set_ne different, ← pollerPhase_eq]
    cases tasks.pollers[stepped]? with
    | none => rfl
    | some task =>
      obtain ⟨phase, cancelled⟩ := task
      cases phase <;> cases cancelled <;> first | rfl | exact still _
  | stopStep call succeeds =>
    obtain unchanged | ⟨_, _, stopped, _, _, waits, changed, _⟩ :=
      stopStep_cases call succeeds tasks
    · exact congrArg (LoopTasks.pollerPhase · poller) unchanged
    · have phases : (tasks.step configured (.stopStep call succeeds)).pollPhases =
          tasks.pollPhases := (congrArg LoopTasks.pollPhases changed).trans waits.pollPhases
      rw [pollerPhase_eq, phases, ← pollerPhase_eq]

/-- Once `running` is down, a poller has at most two steps left. -/
theorem pollsLeft_step (down : tasks.running = false) (inside : poller < tasks.pollers.length) :
    pollsLeft ((tasks.step configured move).pollerPhase poller) ≤
      pollsLeft (tasks.pollerPhase poller) - if move.stepsPoller poller then 1 else 0 := by
  cases own : move.stepsPoller poller with
  | false =>
    rw [pollerPhase_step inside own]
    exact le_rfl
  | true =>
    cases move with
    | pollerStep stepped =>
      obtain rfl : stepped = poller := of_decide_eq_true own
      have found := List.getElem?_eq_getElem inside
      have phaseAfter (phase : PollPhase) :
          (tasks.setPoller stepped phase).pollerPhase stepped = phase := by
        rw [pollerPhase_eq, pollPhases_setPoller, List.getElem?_set_self (by simpa [pollPhases])]
        rfl
      have phase : tasks.pollerPhase stepped = tasks.pollers[stepped].phase := by
        rw [pollerPhase, found]
        rfl
      rw [LoopTasks.step, LoopTasks.pollerStep, found, phase]
      generalize isTask : tasks.pollers[stepped] = task at phase ⊢
      obtain ⟨before, cancelled⟩ := task
      cases before <;> cases cancelled <;> simp [phaseAfter, down, phase, pollsLeft]
    | start => cases own
    | stop => cases own
    | loopStep loop succeeds => cases own
    | stopStep call succeeds => cases own

/-- There is no poller less. -/
theorem length_pollers_step (configured : Bool) (tasks : LoopTasks) (move : LoopTasksMove) :
    tasks.pollers.length ≤ (tasks.step configured move).pollers.length := by
  have counted (tasks : LoopTasks) : tasks.pollPhases.length = tasks.pollers.length :=
    List.length_map _
  cases move with
  | start =>
    rw [LoopTasks.step, LoopTasks.start]
    split <;> exact le_rfl
  | stop =>
    have phases : (tasks.step configured .stop).pollPhases = tasks.pollPhases :=
      (waitsFor_stopPoller { tasks with running := false }).pollPhases
    rw [← counted, ← counted, phases]
  | loopStep loop succeeds => exact (pollers_loopStep configured loop succeeds tasks).length_le
  | pollerStep stepped =>
    rw [LoopTasks.step, LoopTasks.pollerStep]
    have still (phase : PollPhase) :
        tasks.pollers.length ≤ (tasks.setPoller stepped phase).pollers.length := by
      rw [← counted, ← counted, pollPhases_setPoller, List.length_set]
    cases tasks.pollers[stepped]? with
    | none => exact le_rfl
    | some task =>
      obtain ⟨phase, cancelled⟩ := task
      cases phase <;> cases cancelled <;> first | exact le_rfl | exact still _
  | stopStep call succeeds =>
    obtain unchanged | ⟨_, _, stopped, _, _, waits, changed, _⟩ :=
      stopStep_cases call succeeds tasks
    · rw [LoopTasks.step, unchanged]
    · have phases : (tasks.step configured (.stopStep call succeeds)).pollPhases =
          tasks.pollPhases := (congrArg LoopTasks.pollPhases changed).trans waits.pollPhases
      rw [← counted, ← counted, phases]

/-- Once `running` is down and until the next start, every task of the loop, also one that no handle
has and no stop waits for, ends with the second of its own steps, in whatever order the tasks go on. -/
theorem stopped_tasks_end (configured : Bool) (tasks : LoopTasks) (moves : List LoopTasksMove)
    (down : tasks.running = false) (noStart : .start ∉ moves) :
    (∀ loop, 2 ≤ moves.countP (LoopTasksMove.stepsLoop loop) →
      (after (step configured) tasks moves).loopPhase loop = .ended) ∧
    ∀ poller < tasks.pollers.length, 2 ≤ moves.countP (LoopTasksMove.stepsPoller poller) →
      (after (step configured) tasks moves).pollerPhase poller = .ended := by
  have allowed : ∀ move ∈ moves, move ≠ .start := fun move member isStart =>
    noStart (isStart ▸ member)
  have stays (tasks : LoopTasks) (move : LoopTasksMove) (down : tasks.running = false)
      (other : move ≠ .start) : (step configured tasks move).running = false :=
    running_step down other
  constructor
  · intro loop twice
    have left := Histories.potential_after_le (fun tasks => stepsLeft (tasks.loopPhase loop))
      (LoopTasksMove.stepsLoop loop) stays (fun _ _ down other => stepsLeft_step down other) down
      allowed
    have atMost : stepsLeft (tasks.loopPhase loop) ≤ 2 := by
      cases tasks.loopPhase loop <;> decide
    have nothing : stepsLeft ((after (step configured) tasks moves).loopPhase loop) = 0 := by omega
    cases isPhase : (after (step configured) tasks moves).loopPhase loop with
    | ended => rfl
    | created => rw [isPhase] at nothing; cases nothing
    | connecting => rw [isPhase] at nothing; cases nothing
    | cycling => rw [isPhase] at nothing; cases nothing
    | sleeping => rw [isPhase] at nothing; cases nothing
  · intro poller inside twice
    have kept (tasks : LoopTasks) (move : LoopTasksMove)
        (both : tasks.running = false ∧ poller < tasks.pollers.length) (other : move ≠ .start) :
        (step configured tasks move).running = false ∧
          poller < (step configured tasks move).pollers.length :=
      ⟨stays tasks move both.1 other, both.2.trans_le (length_pollers_step configured tasks move)⟩
    have left := Histories.potential_after_le (fun tasks => pollsLeft (tasks.pollerPhase poller))
      (LoopTasksMove.stepsPoller poller) kept (fun _ _ both _ => pollsLeft_step both.1 both.2)
      ⟨down, inside⟩ allowed
    have atMost : pollsLeft (tasks.pollerPhase poller) ≤ 2 := by
      cases tasks.pollerPhase poller <;> decide
    have nothing : pollsLeft ((after (step configured) tasks moves).pollerPhase poller) = 0 := by
      omega
    cases isPhase : (after (step configured) tasks moves).pollerPhase poller with
    | ended => rfl
    | created => rw [isPhase] at nothing; cases nothing
    | polling => rw [isPhase] at nothing; cases nothing
    | sleeping => rw [isPhase] at nothing; cases nothing

theorem stopped_tasks_end_after_start :
    let tasks := after (step true) {} [.start, .loopStep 0 true, .loopStep 0 true, .stop]
    let moves := [.pollerStep 0, .loopStep 0 true, .pollerStep 0, .loopStep 0 true]
    (after (step true) tasks moves).loopPhase 0 = .ended ∧
      (after (step true) tasks moves).pollerPhase 0 = .ended :=
  have ended := stopped_tasks_end true
    (after (step true) {} [.start, .loopStep 0 true, .loopStep 0 true, .stop])
    [.pollerStep 0, .loopStep 0 true, .pollerStep 0, .loopStep 0 true] (by decide) (by decide)
  ⟨ended.1 0 (by decide), ended.2 0 (by decide) (by decide)⟩

end Draining

end LoopTasks

end IgTradingBot
