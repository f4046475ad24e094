import IgTradingBot.Library.Machines
import IgTradingBot.Risk.KillSwitch
import Mathlib.Data.List.Chain
import Mathlib.Tactic.Linarith

/-!
# Concurrent use of the kill switch

Several tasks call `activate` and `deactivate` on one switch. A call of `activate` waits for
the lock, and holds it while it awaits the publisher; everything before that await is one
uninterrupted step. A call of `deactivate` takes no lock and has no await. Which waiting
call obtains the lock, when the publisher answers and which tasks are cancelled is left to
the schedule, and so are the readings of the clock.
-/

namespace IgTradingBot

/-- A call of `activate`. -/
structure ActivateCall where
  id : ℕ
  reason : String
  triggerSource : String
  deriving DecidableEq, Repr

/-- How a call of `activate` ends: it returns an answer, or its task is cancelled. -/
inductive ActivateEnd where
  | returned (activated : Bool)
  | cancelled
  deriving DecidableEq, Repr

/-- A successful change of the switch. -/
inductive SwitchEvent where
  /-- a trigger record with `activated=True` is appended -/
  | activation (record : TriggerRecord)
  /-- a deactivation answers true -/
  | deactivation (time : ℚ)
  deriving DecidableEq, Repr

/-- The switch with the tasks that use it. The lock is held exactly while an activation is
announced. The last three fields are what an observer records, the latest first, except
for the records, which stand in the order of the audit trail. -/
structure SwitchTasks where
  switch : KillSwitch
  hasPublisher : Bool
  calls : ℕ := 0
  waiting : List ActivateCall := []
  announcing : Option ActivateCall := none
  recorded : List (ℕ × TriggerRecord) := []
  ended : List (ℕ × ActivateEnd) := []
  events : List SwitchEvent := []
  deriving DecidableEq, Repr

/-- What the schedule may choose next. -/
inductive SwitchMove where
  | activateCalled (reason triggerSource : String)
  | lockAcquired (id : ℕ) (now : ℚ)
  | waitCancelled (id : ℕ)
  /-- the publisher has returned or raised; the handler of the source catches both -/
  | announced
  | announcementCancelled
  | deactivateCalled (now : ℚ) (confirmationToken : String)
  deriving DecidableEq, Repr

/-- The record of an activation. -/
def SwitchEvent.record? : SwitchEvent → Option TriggerRecord
  | .activation record => some record
  | .deactivation _ => none

/-- A deactivation follows an activation that is old enough, and an activation follows a
deactivation. -/
def SwitchEvent.Follows (minActiveDuration : ℚ) (later earlier : SwitchEvent) : Prop :=
  match later, earlier with
  | .activation _, .deactivation _ => True
  | .deactivation time, .activation record => minActiveDuration ≤ time - record.timestamp
  | _, _ => False

/-- Events, the latest first, begin with an activation and alternate. -/
def Alternating (minActiveDuration : ℚ) (events : List SwitchEvent) : Prop :=
  events.IsChain (SwitchEvent.Follows minActiveDuration) ∧
    ∀ first ∈ events.getLast?, first.record?.isSome = true

/-- An event joins the others when it follows the latest of them, or begins with an
activation. -/
theorem Alternating.cons {minActiveDuration : ℚ} {events : List SwitchEvent} {event : SwitchEvent}
    (alternating : Alternating minActiveDuration events)
    (follows : ∀ earlier, events.head? = some earlier → event.Follows minActiveDuration earlier)
    (begins : events = [] → event.record?.isSome = true) :
    Alternating minActiveDuration (event :: events) := by
  refine ⟨List.isChain_cons.mpr ⟨follows, alternating.1⟩, ?_⟩
  cases events with
  | nil =>
    intro first only
    obtain rfl := Option.some.inj only
    exact begins rfl
  | cons latest rest =>
    intro first last
    rw [List.getLast?_cons_cons] at last
    exact alternating.2 first last

namespace SwitchTasks

/-- A new switch that no task uses yet. -/
def constructed (minActiveDuration : ℚ) (hasPublisher : Bool) : SwitchTasks :=
  { switch := { minActiveDuration }, hasPublisher }

/-- The records of one call. -/
def recordsOf (tasks : SwitchTasks) (id : ℕ) : List TriggerRecord :=
  (tasks.recorded.filter (·.1 = id)).map (·.2)

/-- A call leaves the queue. -/
def leave (tasks : SwitchTasks) (call : ActivateCall) : SwitchTasks :=
  { tasks with waiting := tasks.waiting.filter (·.id ≠ call.id) }

/-- A call returns or is cancelled. -/
def finish (tasks : SwitchTasks) (call : ActivateCall) (ending : ActivateEnd) : SwitchTasks :=
  { tasks with ended := (call.id, ending) :: tasks.ended }

/-- The audit trail grows by the records that a call appends. -/
def observe (tasks : SwitchTasks) (call : ActivateCall) (changed : KillSwitch) : SwitchTasks :=
  let appended := changed.triggerSources.drop tasks.switch.triggerSources.length
  { tasks with
      switch := changed
      recorded := tasks.recorded ++ appended.map fun record => (call.id, record)
      events := ((appended.filter (·.activated)).reverse.map .activation) ++ tasks.events }

/-- A call that has the lock runs until it returns or awaits the publisher. -/
def enter (tasks : SwitchTasks) (call : ActivateCall) (now : ℚ) : SwitchTasks :=
  let (changed, activated) := tasks.switch.activate now call.reason call.triggerSource
  let entered := (tasks.leave call).observe call changed
  if activated && tasks.hasPublisher then { entered with announcing := some call }
  else entered.finish call (.returned activated)

/-- A deactivation runs from its call to its end. -/
def deactivate (tasks : SwitchTasks) (now : ℚ) (confirmationToken : String) : SwitchTasks :=
  match tasks.switch.deactivate now confirmationToken with
  | .ok (changed, true) =>
    { tasks with switch := changed, events := .deactivation now :: tasks.events }
  | .ok (changed, false) => { tasks with switch := changed }
  | .error _ => tasks

/-- One move. -/
def step (tasks : SwitchTasks) : SwitchMove → SwitchTasks
  | .activateCalled reason triggerSource =>
    { tasks with
        calls := tasks.calls + 1
        waiting := tasks.waiting ++ [⟨tasks.calls, reason, triggerSource⟩] }
  | .lockAcquired id now =>
    match tasks.announcing, tasks.waiting.find? (·.id = id) with
    | none, some call => tasks.enter call now
    | _, _ => tasks
  | .waitCancelled id =>
    match tasks.waiting.find? (·.id = id) with
    | some call => (tasks.leave call).finish call .cancelled
    | none => tasks
  | .announced =>
    match tasks.announcing with
    | some call => { tasks with announcing := none }.finish call (.returned true)
    | none => tasks
  | .announcementCancelled =>
    match tasks.announcing with
    | some call => { tasks with announcing := none }.finish call .cancelled
    | none => tasks
  | .deactivateCalled now confirmationToken => tasks.deactivate now confirmationToken

/-- The audit trail and the calls belong together: a call that has returned has appended one
record, which says what it has answered. -/
structure Audited (tasks : SwitchTasks) : Prop where
  auditTrail : tasks.recorded.map (·.2) = tasks.switch.triggerSources
  recordOfCall : ∀ id activated, (id, .returned activated) ∈ tasks.ended →
    (tasks.recordsOf id).map (·.activated) = [activated]

/-- Activations and deactivations alternate, each deactivation comes long enough after the
activation before it, and the switch is active exactly after an activation. -/
structure Alternates (minActiveDuration : ℚ) (tasks : SwitchTasks) : Prop where
  activations :
    tasks.events.reverse.filterMap (·.record?) = tasks.switch.triggerSources.filter (·.activated)
  alternating : Alternating minActiveDuration tasks.events
  active_iff : tasks.switch.isActive = true ↔
    ∃ record, tasks.events.head? = some (.activation record)

/-- The calls that are still to be answered: a call has no record before it has the lock, and
an activation one while it is announced. -/
structure Pending (tasks : SwitchTasks) : Prop extends Audited tasks where
  unissued : ∀ id, tasks.calls ≤ id → tasks.recordsOf id = []
  queued : ∀ call ∈ tasks.waiting, call.id < tasks.calls ∧ tasks.recordsOf call.id = []
  announced : ∀ call, tasks.announcing = some call →
    (tasks.recordsOf call.id).map (·.activated) = [true]

/-- While the switch is active, its activation time is that of the latest activation. -/
structure Timed (minActiveDuration : ℚ) (tasks : SwitchTasks) : Prop
    extends Alternates minActiveDuration tasks where
  minimum : tasks.switch.minActiveDuration = minActiveDuration
  latest : ∀ record, tasks.events.head? = some (.activation record) →
    tasks.switch.activationTime = some record.timestamp

section Steps

variable {tasks : SwitchTasks} {minActiveDuration : ℚ}

variable (tasks) in
/-- A call with the lock appends one record, which is an event when it activates. -/
theorem observe_activate (call : ActivateCall) (now : ℚ) :
    tasks.observe call (tasks.switch.activate now call.reason call.triggerSource).1 =
      { tasks with
          switch := (tasks.switch.activate now call.reason call.triggerSource).1
          recorded := tasks.recorded ++
            [(call.id, ⟨call.triggerSource, call.reason, now, !tasks.switch.isActive⟩)]
          events :=
            if tasks.switch.isActive then tasks.events
            else .activation ⟨call.triggerSource, call.reason, now, true⟩ :: tasks.events } := by
  obtain ⟨appended, _⟩ := tasks.switch.activate_appends now call.reason call.triggerSource
  cases active : tasks.switch.isActive <;> simp [observe, appended, active]

variable (tasks) in
/-- A record of one call is no record of another. -/
theorem records_of_append (entry : ℕ × TriggerRecord) (id : ℕ) :
    { tasks with recorded := tasks.recorded ++ [entry] }.recordsOf id =
      tasks.recordsOf id ++ if entry.1 = id then [entry.2] else [] := by
  by_cases same : entry.1 = id <;> simp [recordsOf, same]

/-- A call that ends has one record, which says what the call answers. -/
theorem Pending.finished (pending : Pending tasks) {call : ActivateCall} {ending : ActivateEnd}
    (told : ∀ activated, ending = .returned activated →
      (tasks.recordsOf call.id).map (·.activated) = [activated]) :
    Pending (tasks.finish call ending) where
  auditTrail := pending.auditTrail
  recordOfCall id activated returned := by
    obtain latest | earlier := List.mem_cons.mp returned
    · obtain ⟨rfl, same⟩ := Prod.mk.inj latest
      exact told activated same.symm
    · exact pending.recordOfCall id activated earlier
  unissued := pending.unissued
  queued := pending.queued
  announced := pending.announced

/-- A call may leave the queue. -/
theorem Pending.left (pending : Pending tasks) (call : ActivateCall) :
    Pending (tasks.leave call) where
  auditTrail := pending.auditTrail
  recordOfCall := pending.recordOfCall
  unissued := pending.unissued
  queued other member := pending.queued other (List.mem_of_mem_filter member)
  announced := pending.announced

/-- The lock may be released. -/
theorem Pending.released (pending : Pending tasks) : Pending { tasks with announcing := none } where
  auditTrail := pending.auditTrail
  recordOfCall := pending.recordOfCall
  unissued := pending.unissued
  queued := pending.queued
  announced _ impossible := by cases impossible

/-- The lock may be kept by a call whose record says that it has activated the switch. -/
theorem Pending.kept (pending : Pending tasks) {call : ActivateCall}
    (told : (tasks.recordsOf call.id).map (·.activated) = [true]) :
    Pending { tasks with announcing := some call } where
  auditTrail := pending.auditTrail
  recordOfCall := pending.recordOfCall
  unissued := pending.unissued
  queued := pending.queued
  announced _ holder := by
    obtain rfl := Option.some.inj holder
    exact told

/-- A new call joins the queue. -/
theorem Pending.called (pending : Pending tasks) (reason triggerSource : String) :
    Pending (tasks.step (.activateCalled reason triggerSource)) where
  auditTrail := pending.auditTrail
  recordOfCall := pending.recordOfCall
  unissued id issued := pending.unissued id (Nat.le_of_succ_le issued)
  queued call member := by
    obtain earlier | latest := List.mem_append.mp member
    · obtain ⟨issued, unrecorded⟩ := pending.queued call earlier
      exact ⟨Nat.lt_succ_of_lt issued, unrecorded⟩
    · obtain rfl := List.mem_singleton.mp latest
      exact ⟨Nat.lt_succ_self _, pending.unissued _ le_rfl⟩
  announced := pending.announced

/-- The call that obtains the lock appends its only record. -/
theorem Pending.observed (pending : Pending tasks) {call : ActivateCall} (now : ℚ)
    (unlocked : tasks.announcing = none) (member : call ∈ tasks.waiting) :
    let entered := (tasks.leave call).observe call
      (tasks.switch.activate now call.reason call.triggerSource).1
    Pending entered ∧
      (entered.recordsOf call.id).map (·.activated) = [!tasks.switch.isActive] := by
  intro entered
  obtain ⟨issued, unrecorded⟩ := pending.queued call member
  obtain ⟨appended, _⟩ := tasks.switch.activate_appends now call.reason call.triggerSource
  let record : TriggerRecord := ⟨call.triggerSource, call.reason, now, !tasks.switch.isActive⟩
  have same : entered = _ := observe_activate (tasks.leave call) call now
  have recorded : ∀ id, entered.recordsOf id =
      tasks.recordsOf id ++ if call.id = id then [record] else [] := by
    intro id
    rw [same]
    exact records_of_append tasks (call.id, record) id
  have others : ∀ id, call.id ≠ id → entered.recordsOf id = tasks.recordsOf id := by
    intro id different
    rw [recorded, if_neg different, List.append_nil]
  refine ⟨⟨⟨?_, ?_⟩, ?_, ?_, ?_⟩, ?_⟩
  · rw [same]
    simp only [List.map_append, leave, pending.auditTrail, List.map_cons, List.map_nil]
    exact appended.symm
  · intro id activated returned
    rw [same] at returned
    have told := pending.recordOfCall id activated returned
    have different : call.id ≠ id := by
      rintro rfl
      rw [unrecorded] at told
      cases told
    rw [others id different]
    exact told
  · intro id unissued
    rw [same] at unissued
    have different : call.id ≠ id := by
      rintro rfl
      exact absurd issued (Nat.not_lt_of_le unissued)
    rw [others id different]
    exact pending.unissued id unissued
  · intro other queued
    rw [same] at queued ⊢
    obtain ⟨stays, different⟩ := List.mem_filter.mp queued
    obtain ⟨otherIssued, otherUnrecorded⟩ := pending.queued other stays
    have apart : call.id ≠ other.id := Ne.symm (of_decide_eq_true different)
    refine ⟨otherIssued, ?_⟩
    rw [← same, others other.id apart]
    exact otherUnrecorded
  · intro holder impossible
    rw [same] at impossible
    have locked : tasks.announcing = some holder := impossible
    rw [unlocked] at locked
    cases locked
  · rw [recorded, unrecorded, if_pos rfl]
    rfl

/-- A waiting call that obtains the lock answers what its record says, or goes on to announce
its activation. -/
theorem Pending.entered (pending : Pending tasks) {call : ActivateCall} (now : ℚ)
    (unlocked : tasks.announcing = none) (member : call ∈ tasks.waiting) :
    Pending (tasks.enter call now) := by
  obtain ⟨observed, told⟩ := pending.observed now unlocked member
  obtain ⟨_, answer⟩ := tasks.switch.activate_appends now call.reason call.triggerSource
  rw [← answer] at told
  simp only [enter]
  split_ifs with announces
  · obtain ⟨activated, _⟩ := Bool.and_eq_true_iff.mp announces
    rw [activated] at told
    exact observed.kept told
  · apply observed.finished
    rintro activated same
    obtain rfl := ActivateEnd.returned.inj same
    exact told

/-- A deactivation touches neither the audit trail nor the calls. -/
theorem Pending.deactivated (pending : Pending tasks) (now : ℚ) (token : String) :
    Pending (tasks.deactivate now token) := by
  cases answered : tasks.switch.deactivate now token with
  | error text =>
    simp only [deactivate, answered]
    exact pending
  | ok answer =>
    obtain ⟨changed, succeeded⟩ := answer
    have trail : changed.triggerSources = tasks.switch.triggerSources := by
      cases succeeded with
      | true =>
        obtain ⟨rfl, _⟩ := KillSwitch.deactivate_succeeds answered
        rfl
      | false =>
        obtain rfl := KillSwitch.deactivate_refused answered
        rfl
    cases succeeded <;>
    · simp only [deactivate, answered]
      exact ⟨⟨pending.auditTrail.trans trail.symm, pending.recordOfCall⟩, pending.unissued,
        pending.queued, pending.announced⟩

/-- Every move keeps the calls in order. -/
theorem Pending.step (pending : Pending tasks) (move : SwitchMove) : Pending (tasks.step move) := by
  cases move with
  | activateCalled reason triggerSource => exact pending.called reason triggerSource
  | lockAcquired id now =>
    simp only [SwitchTasks.step]
    split
    next call unlocked found =>
      exact pending.entered now unlocked (List.mem_of_find?_eq_some found)
    next => exact pending
  | waitCancelled id =>
    simp only [SwitchTasks.step]
    split
    next call found =>
      apply (pending.left call).finished
      intro activated impossible
      cases impossible
    next => exact pending
  | announced =>
    simp only [SwitchTasks.step]
    split
    next call holder =>
      apply pending.released.finished
      intro activated same
      obtain rfl := ActivateEnd.returned.inj same
      exact pending.announced call holder
    next => exact pending
  | announcementCancelled =>
    simp only [SwitchTasks.step]
    split
    next call holder =>
      apply pending.released.finished
      intro activated impossible
      cases impossible
    next => exact pending
  | deactivateCalled now token => exact pending.deactivated now token

/-- The events depend on the switch only, so what moves the calls keeps them. -/
theorem Timed.of_same (timed : Timed minActiveDuration tasks) {changed : SwitchTasks}
    (sameSwitch : changed.switch = tasks.switch) (sameEvents : changed.events = tasks.events) :
    Timed minActiveDuration changed := by
  refine ⟨⟨?_, ?_, ?_⟩, ?_, ?_⟩
  · rw [sameSwitch, sameEvents]
    exact timed.activations
  · rw [sameEvents]
    exact timed.alternating
  · rw [sameSwitch, sameEvents]
    exact timed.active_iff
  · rw [sameSwitch]
    exact timed.minimum
  · rw [sameSwitch, sameEvents]
    exact timed.latest

/-- A record that activates the switch follows a deactivation or is the first event. -/
theorem Timed.observed (timed : Timed minActiveDuration tasks) (call : ActivateCall) (now : ℚ) :
    Timed minActiveDuration
      (tasks.observe call (tasks.switch.activate now call.reason call.triggerSource).1) := by
  obtain ⟨appended, _⟩ := tasks.switch.activate_appends now call.reason call.triggerSource
  obtain ⟨sameMinimum, time⟩ := tasks.switch.activate_state now call.reason call.triggerSource
  have becomes := tasks.switch.activate_is_active now call.reason call.triggerSource
  rw [observe_activate]
  cases active : tasks.switch.isActive with
  | true =>
    obtain ⟨record, latest⟩ := timed.active_iff.mp active
    simp only [active, if_true, Bool.not_true] at appended time ⊢
    refine ⟨⟨?_, timed.alternating, ?_⟩, sameMinimum.trans timed.minimum, ?_⟩
    · rw [appended, timed.activations]
      simp
    · exact iff_of_true becomes ⟨record, latest⟩
    · rw [time]
      exact timed.latest
  | false =>
    simp only [active, Bool.false_eq_true, if_false, Bool.not_false] at appended time ⊢
    have ended : ∀ record, tasks.events.head? ≠ some (.activation record) := by
      intro record latest
      have stillActive := timed.active_iff.mpr ⟨record, latest⟩
      rw [active] at stillActive
      cases stillActive
    refine ⟨⟨?_, ?_, ?_⟩, sameMinimum.trans timed.minimum, ?_⟩
    · rw [appended, List.reverse_cons, List.filterMap_append, timed.activations]
      simp [SwitchEvent.record?]
    · apply timed.alternating.cons
      · intro earlier latest
        cases earlier with
        | activation record => exact absurd latest (ended record)
        | deactivation time => trivial
      · intro _
        rfl
    · exact iff_of_true becomes ⟨_, rfl⟩
    · intro record latest
      obtain rfl := SwitchEvent.activation.inj (Option.some.inj latest)
      exact time

/-- A successful deactivation follows an activation that is old enough. -/
theorem Timed.deactivated (timed : Timed minActiveDuration tasks) (now : ℚ) (token : String) :
    Timed minActiveDuration (tasks.deactivate now token) := by
  cases answered : tasks.switch.deactivate now token with
  | error text =>
    simp only [deactivate, answered]
    exact timed
  | ok answer =>
    obtain ⟨changed, succeeded⟩ := answer
    cases succeeded with
    | false =>
      obtain rfl := KillSwitch.deactivate_refused answered
      simp only [deactivate, answered]
      exact timed
    | true =>
      obtain ⟨rfl, active, activated, since, elapsed⟩ := KillSwitch.deactivate_succeeds answered
      obtain ⟨record, latest⟩ := timed.active_iff.mp active
      have same : record.timestamp = activated :=
        Option.some.inj ((timed.latest record latest).symm.trans since)
      simp only [deactivate, answered]
      rw [timed.minimum] at elapsed
      refine ⟨⟨?_, ?_, ?_⟩, timed.minimum, ?_⟩
      · rw [List.reverse_cons, List.filterMap_append, timed.activations]
        simp [SwitchEvent.record?]
      · apply timed.alternating.cons
        · intro earlier found
          obtain rfl := Option.some.inj (latest.symm.trans found)
          simpa only [SwitchEvent.Follows, same] using elapsed
        · intro none
          rw [none] at latest
          cases latest
      · simp [KillSwitch.isActive]
      · intro later impossible
        cases impossible

/-- Every move keeps the events in order. -/
theorem Timed.step (timed : Timed minActiveDuration tasks) (move : SwitchMove) :
    Timed minActiveDuration (tasks.step move) := by
  cases move with
  | activateCalled reason triggerSource => exact timed.of_same rfl rfl
  | lockAcquired id now =>
    simp only [SwitchTasks.step]
    split
    next call unlocked found =>
      have left : Timed minActiveDuration (tasks.leave call) := timed.of_same rfl rfl
      have observed := left.observed call now
      simp only [enter]
      split_ifs
      · exact observed.of_same rfl rfl
      · exact observed.of_same rfl rfl
    next => exact timed
  | waitCancelled id =>
    simp only [SwitchTasks.step]
    split
    next => exact timed.of_same rfl rfl
    next => exact timed
  | announced =>
    simp only [SwitchTasks.step]
    split
    next => exact timed.of_same rfl rfl
    next => exact timed
  | announcementCancelled =>
    simp only [SwitchTasks.step]
    split
    next => exact timed.of_same rfl rfl
    next => exact timed
  | deactivateCalled now token => exact timed.deactivated now token

end Steps

/-- Nothing has been asked of a new switch. -/
theorem constructed_pending (minActiveDuration : ℚ) (hasPublisher : Bool) :
    Pending (constructed minActiveDuration hasPublisher) where
  auditTrail := rfl
  recordOfCall _ _ impossible := by cases impossible
  unissued _ _ := rfl
  queued _ impossible := by cases impossible
  announced _ impossible := by cases impossible

theorem constructed_timed (minActiveDuration : ℚ) (hasPublisher : Bool) :
    Timed minActiveDuration (constructed minActiveDuration hasPublisher) where
  activations := rfl
  alternating := ⟨List.isChain_nil, by simp [constructed]⟩
  active_iff := by simp [constructed, KillSwitch.isActive]
  minimum := rfl
  latest _ impossible := by cases impossible

/-- After every schedule of a new switch, every call of `activate` that has returned has
appended one record with its answer, the activations in the audit trail alternate with the
successful deactivations, the switch is active exactly when the latest of them is an
activation, and each deactivation came at least the minimum duration after the activation
that it ended. -/
theorem schedule_coherent (minActiveDuration : ℚ) (hasPublisher : Bool)
    (moves : List SwitchMove) :
    Audited (Machines.after step (constructed minActiveDuration hasPublisher) moves) ∧
      Alternates minActiveDuration
        (Machines.after step (constructed minActiveDuration hasPublisher) moves) := by
  have kept : ∀ (tasks : SwitchTasks) (move : SwitchMove),
      Pending tasks ∧ Timed minActiveDuration tasks →
        Pending (step tasks move) ∧ Timed minActiveDuration (step tasks move) := by
    rintro tasks move ⟨pending, timed⟩
    exact ⟨pending.step move, timed.step move⟩
  obtain ⟨pending, timed⟩ := Machines.after_keeps_always kept moves
    ⟨constructed_pending minActiveDuration hasPublisher,
      constructed_timed minActiveDuration hasPublisher⟩
  exact ⟨pending.toAudited, timed.toAlternates⟩

/-- A deactivation comes in while the activation before it is still announced: the call then
answers true although the switch is inactive again. -/
example :
    let tasks := Machines.after step (constructed 300 true)
      [.activateCalled "drawdown" "drawdown", .lockAcquired 0 1000, .activateCalled "vix" "vix",
        .lockAcquired 1 1100, .deactivateCalled 1299 "token", .deactivateCalled 1300 "token",
        .announced, .lockAcquired 1 1400]
    tasks.ended = [(0, .returned true)] ∧ tasks.switch.isActive = true ∧
      tasks.events.map (·.record?.isSome) = [true, false, true] := by
  decide +kernel

end SwitchTasks

end IgTradingBot
