import IgTradingBot.Library.Machines
import IgTradingBot.Stream.IGStream

/-!
# Runs of the price stream

The stream from await to await. Calls of `subscribe` are suspended while the server answers and
while they sleep between two attempts, calls of `unsubscribe` and the loops that subscribe again
after a connection while the server answers. The answer, the order in which suspended calls go on
and the lines of the server are chosen from outside.
-/

namespace IgTradingBot

/-- Where a call is suspended. -/
inductive StreamTask where
  | adding (epic : String) (attempt : ℕ)
  | resting (epic : String) (attempt : ℕ)
  | removing (epic : String) (tableKey : ℤ)
  /-- `_connect_and_stream`, or with `liveOnly` `_reconnect`, awaits the answer for the first of the
  remaining subscriptions -/
  | resubscribing (liveOnly : Bool) (remaining : List (String × ℤ))
  | finished
  deriving DecidableEq, Repr

/-- The stream with its calls. The other fields are the history: the updates that were received, and
the instruments whose `unsubscribe` has ended and that were not subscribed since. -/
structure StreamRun where
  stream : IGStream := {}
  tasks : List StreamTask := []
  updates : List StreamUpdate := []
  left : List String := []

/-- What happens between two awaits. A call is known by its place in the list of calls. -/
inductive StreamMove where
  | subscribed (epic : String) (now : ℚ)
  | unsubscribed (epic : String)
  | connected
  | reconnected
  /-- `_send_control` returns, or raises one of its exceptions -/
  | answered (task : ℕ) (accepted : Bool)
  | woken (task : ℕ)
  | stalenessChecked (now : ℚ)
  | lineReceived (line : String) (now : ℚ)
  | stopped

namespace StreamRun

open IGStream

/-- A call of `subscribe` up to its first request. -/
def subscribe (run : StreamRun) (epic : String) (now : ℚ) : StreamRun :=
  if run.stream.isOpen epic then { run with left := run.left.filter (· ≠ epic) }
  else
    { run with
      stream := run.stream.addTable epic now
      tasks := run.tasks ++ [.adding epic 0]
      left := run.left.filter (· ≠ epic) }

/-- A call of `unsubscribe` up to its request, with the table that its subscription has now. -/
def unsubscribe (run : StreamRun) (epic : String) : StreamRun :=
  match run.stream.tableOf epic with
  | none => { run with left := epic :: run.left }
  | some tableKey => { run with tasks := run.tasks ++ [.removing epic tableKey] }

/-- Whether a subscription of a snapshot is subscribed again by `_reconnect`. One that is in the map
no more has no influence on the stream. -/
def isLive (stream : IGStream) (epic : String) (tableKey : ℤ) : Bool :=
  match stream.subscriptions.lookup epic with
  | some state => state.tableKey ≠ tableKey || state.status = .active || state.status = .stale
  | none => true

/-- The subscriptions of a snapshot from the next one on that is subscribed again. -/
def pending (stream : IGStream) (liveOnly : Bool) (remaining : List (String × ℤ)) :
    List (String × ℤ) :=
  remaining.dropWhile fun entry => liveOnly && !isLive stream entry.1 entry.2

/-- The loop over a snapshot of the subscriptions, up to its first request. -/
def resubscribe (run : StreamRun) (liveOnly : Bool) : StreamRun :=
  { run with
    tasks := run.tasks ++
      [.resubscribing liveOnly (pending run.stream liveOnly
        (run.stream.subscriptions.entries.map fun entry => (entry.1, entry.2.tableKey)))] }

/-- The state of a subscription of a snapshot becomes active, also when it is not in the map any
more. -/
def activate (stream : IGStream) (epic : String) (tableKey : ℤ) : IGStream :=
  if stream.tableOf epic = some tableKey then (stream.setStatus epic .active).getD stream
  else stream

/-- An attempt of `subscribe` is over. It also fails when its subscription was removed. -/
def endAttempt (run : StreamRun) (task : ℕ) (epic : String) (attempt : ℕ) (accepted : Bool) :
    StreamRun :=
  match if accepted then run.stream.setStatus epic .active else none with
  | some changed => { run with stream := changed, tasks := run.tasks.set task .finished }
  | none =>
    if attempt + 1 < subscriptionRetryMaxAttempts then
      { run with tasks := run.tasks.set task (.resting epic (attempt + 1)) }
    else
      { run with
        stream := (run.stream.setStatus epic .error).getD run.stream
        tasks := run.tasks.set task .finished }

/-- The request of a call is answered. -/
def answer (run : StreamRun) (task : ℕ) (accepted : Bool) : StreamRun :=
  match run.tasks[task]? with
  | some (.adding epic attempt) => run.endAttempt task epic attempt accepted
  | some (.removing epic tableKey) =>
    { run with
      stream := (run.stream.removeTable epic tableKey).getD run.stream
      tasks := run.tasks.set task .finished
      left := epic :: run.left }
  | some (.resubscribing liveOnly ((epic, tableKey) :: remaining)) =>
    let stream := if accepted then activate run.stream epic tableKey else run.stream
    { run with
      stream := stream
      tasks := run.tasks.set task (.resubscribing liveOnly (pending stream liveOnly remaining)) }
  | _ => run

/-- A call wakes up for its next attempt. -/
def wake (run : StreamRun) (task : ℕ) : StreamRun :=
  match run.tasks[task]? with
  | some (.resting epic attempt) => { run with tasks := run.tasks.set task (.adding epic attempt) }
  | _ => run

/-- `stop` cancels the listener. -/
def cancel : StreamTask → StreamTask
  | .resubscribing false _ => .finished
  | task => task

/-- One move. -/
def step (run : StreamRun) : StreamMove → StreamRun
  | .subscribed epic now => run.subscribe epic now
  | .unsubscribed epic => run.unsubscribe epic
  | .connected => run.resubscribe false
  | .reconnected => run.resubscribe true
  | .answered task accepted => run.answer task accepted
  | .woken task => run.wake task
  | .stalenessChecked now => { run with stream := run.stream.staleCheck now }
  | .lineReceived line now =>
    { run with
      stream := (run.stream.receiveLine line now).1
      updates := run.updates ++ (run.stream.updateOf line).toList }
  | .stopped => { run with stream := run.stream.clear, tasks := run.tasks.map cancel }

/-- The tick that a move publishes. -/
def published (run : StreamRun) : StreamMove → Option MarketTick
  | .lineReceived line now => (run.stream.receiveLine line now).2
  | _ => none

section Laws

variable {run : StreamRun}

/-- To activate a subscription changes no table. -/
theorem activate_same (stream : IGStream) (epic : String) (tableKey : ℤ) :
    SameTables stream (activate stream epic tableKey) := by
  unfold activate
  split_ifs
  · cases set : stream.setStatus epic .active with
    | none => exact .refl stream
    | some changed => exact set_status_same set
  · exact .refl stream

/-- The end of an attempt changes no table. -/
theorem end_attempt_same (run : StreamRun) (task : ℕ) (epic : String) (attempt : ℕ)
    (accepted : Bool) :
    SameTables run.stream (run.endAttempt task epic attempt accepted).stream ∧
      (run.endAttempt task epic attempt accepted).left = run.left := by
  unfold endAttempt
  split
  · rename_i changed succeeded
    split_ifs at succeeded
    exact ⟨set_status_same succeeded, rfl⟩
  · split_ifs
    · exact ⟨.refl _, rfl⟩
    · refine ⟨?_, rfl⟩
      cases set : run.stream.setStatus epic .error with
      | none => exact .refl _
      | some changed => exact set_status_same set

/-- Only the end of an `unsubscribe` changes a table when a request is answered. -/
theorem answer_cases (run : StreamRun) (task : ℕ) (accepted : Bool) :
    (∃ epic tableKey, run.tasks[task]? = some (.removing epic tableKey) ∧
      (run.answer task accepted).stream =
        (run.stream.removeTable epic tableKey).getD run.stream ∧
      (run.answer task accepted).left = epic :: run.left) ∨
    (∀ epic tableKey, run.tasks[task]? ≠ some (.removing epic tableKey)) ∧
      SameTables run.stream (run.answer task accepted).stream ∧
      (run.answer task accepted).left = run.left := by
  unfold answer
  split
  · rename_i epic attempt found
    right
    refine ⟨by simp [found], ?_⟩
    exact run.end_attempt_same task epic attempt accepted
  · rename_i epic tableKey found
    exact .inl ⟨epic, tableKey, found, rfl, rfl⟩
  · rename_i liveOnly epic tableKey remaining found
    right
    refine ⟨by simp [found], ?_, rfl⟩
    dsimp only
    split_ifs
    · exact activate_same run.stream epic tableKey
    · exact .refl _
  · rename_i other _
    right
    exact ⟨fun epic tableKey => other epic tableKey, .refl _, rfl⟩

/-- To wake up changes nothing but the call. -/
theorem wake_same (run : StreamRun) (task : ℕ) :
    (run.wake task).stream = run.stream ∧ (run.wake task).left = run.left := by
  unfold wake
  split <;> exact ⟨rfl, rfl⟩

end Laws

end StreamRun

end IgTradingBot
