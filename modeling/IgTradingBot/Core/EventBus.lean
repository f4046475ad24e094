import IgTradingBot.Library.LastOfKey
import IgTradingBot.Library.Machines
import IgTradingBot.Library.SharedObjects
import Mathlib.Data.Finset.Erase
import Mathlib.Data.Finset.Insert

/-!
# The event bus

Handlers subscribe to channels of a server, which sends the messages of a channel to those who are
subscribed to it. The calls of the bus run as tasks of one event loop, so they interleave where they
await: a run is any order of their parts, of what the server does, and of messages.

The table of handlers holds list objects. A dispatch goes through the object that it found, whatever
becomes of the table meanwhile: a handler that subscribes during the dispatch is in the same object
and gets its turn, and one that was unsubscribed gets it all the same.
-/

namespace IgTradingBot

open LastOfKey Machines

/-- What the bus asks of the server. -/
inductive ChannelCommand where
  | subscribe (channel : String)
  | unsubscribe (channel : String)
  deriving DecidableEq, Repr

/-- A dispatch that awaits a handler. `handlers` refers to the list that it goes through; which
handlers were in it at first, and which joined since, is kept for the theorems. -/
structure EventDispatch (H E : Type) where
  event : E
  handlers : ℕ
  position : ℕ
  invoked : List H
  atStart : List H
  joined : List H
  deriving Repr

/-- A dispatch that is over. -/
structure EventDelivery (H E : Type) where
  event : E
  invoked : List H := []
  atStart : List H := []
  joined : List H := []
  deriving DecidableEq, Repr

/-- The bus, its server, and what happened since the start, which the program never reads. `objects`
are the lists of handlers that were ever created; the table of the channels refers to them. -/
structure EventBus (H D E : Type) where
  running : Bool := false
  objects : List (List H) := []
  table : List (String × ℕ) := []
  waiting : List (String × H) := []
  dispatching : Option (EventDispatch H E) := none
  commands : List ChannelCommand := []
  subscribed : Finset String := ∅
  inbox : List (String × D) := []
  received : List D := []
  delivered : List (EventDelivery H E) := []

/-- What can happen next. Whether a command gets on its way to the server, and how a wait ends, is
up to the connection. -/
inductive BusMove (H D : Type) where
  | start
  | stop
  | subscribe (channel : String) (handler : H) (sent : Bool)
  | resume (place : ℕ) (succeeds : Bool)
  | unsubscribe (channel : String) (sent : Bool)
  | serve
  | publish (channel : String) (data : D)
  | listen
  | handlerEnds (raised : Bool)
  deriving DecidableEq, Repr

/-- What the server makes of a command. -/
def ChannelCommand.apply (subscribed : Finset String) : ChannelCommand → Finset String
  | subscribe channel => insert channel subscribed
  | unsubscribe channel => subscribed.erase channel

namespace EventBus

variable {H D E : Type}

/-- The list object of a channel. -/
def handlersOf (bus : EventBus H D E) (channel : String) : Option ℕ := bus.table.lookup channel

/-- Where nothing runs, a connection is made. -/
def start (bus : EventBus H D E) : EventBus H D E :=
  if bus.running then bus
  else { bus with
    running := true
    commands := []
    subscribed := ∅
    inbox := []
    received := []
    delivered := [] }

/-- The listener is cancelled, whatever it awaits, and the connection is closed. -/
def stop (bus : EventBus H D E) : EventBus H D E :=
  { bus with
    running := false
    table := []
    dispatching := none
    commands := []
    subscribed := ∅
    inbox := [] }

/-- A handler at the end of a list object. The dispatch that goes through it will get there. -/
def append (bus : EventBus H D E) (reference : ℕ) (handler : H) : EventBus H D E :=
  { bus with
    objects := SharedObjects.assign reference (· ++ [handler]) bus.objects
    dispatching := bus.dispatching.map fun dispatch =>
      if dispatch.handlers = reference then { dispatch with joined := dispatch.joined ++ [handler] }
      else dispatch }

/-- A new channel gets an empty list. -/
def enter (bus : EventBus H D E) (channel : String) : EventBus H D E :=
  { bus with
    objects := bus.objects ++ [[]]
    table := (channel, bus.objects.length) :: bus.table }

/-- The entry of a channel is deleted. -/
def delete (bus : EventBus H D E) (channel : String) : EventBus H D E :=
  { bus with table := bus.table.filter fun entry => entry.1 ≠ channel }

/-- A command is on its way to the server. -/
def ask (bus : EventBus H D E) (command : ChannelCommand) : EventBus H D E :=
  { bus with commands := bus.commands ++ [command] }

/-- A call of `subscribe` waits. -/
def await (bus : EventBus H D E) (channel : String) (handler : H) : EventBus H D E :=
  { bus with waiting := bus.waiting ++ [(channel, handler)] }

/-- `subscribe` up to its await, which is only reached for a new channel. Where the command does not
get out, the exception leaves the new list in the table. -/
def subscribe (bus : EventBus H D E) (channel : String) (handler : H) (sent : Bool) :
    EventBus H D E :=
  if bus.running then
    match bus.handlersOf channel with
    | some reference => bus.append reference handler
    | none =>
      if sent then ((bus.enter channel).ask (.subscribe channel)).await channel handler
      else bus.enter channel
  else bus

/-- `subscribe` after its await. A channel that is gone from the table is a `KeyError`. -/
def resume (bus : EventBus H D E) (place : ℕ) (succeeds : Bool) : EventBus H D E :=
  match bus.waiting[place]? with
  | none => bus
  | some (channel, handler) =>
    let resumed := { bus with waiting := bus.waiting.eraseIdx place }
    match if succeeds then bus.handlersOf channel else none with
    | some reference => resumed.append reference handler
    | none => resumed

/-- `unsubscribe`: the entry is deleted before the server is asked. -/
def unsubscribe (bus : EventBus H D E) (channel : String) (sent : Bool) : EventBus H D E :=
  if bus.running ∧ (bus.handlersOf channel).isSome then
    if sent then (bus.delete channel).ask (.unsubscribe channel) else bus.delete channel
  else bus

/-- The server takes the next command. -/
def serve (bus : EventBus H D E) : EventBus H D E :=
  match bus.commands with
  | [] => bus
  | command :: later => { bus with commands := later, subscribed := command.apply bus.subscribed }

/-- Somebody publishes on a channel. -/
def publish (bus : EventBus H D E) (channel : String) (data : D) : EventBus H D E :=
  if bus.running ∧ channel ∈ bus.subscribed then
    { bus with inbox := bus.inbox ++ [(channel, data)], received := bus.received ++ [data] }
  else bus

/-- The loop of `_dispatch`: the next handler of the list object is called, if there is one. -/
def proceed (bus : EventBus H D E) (dispatch : EventDispatch H E) : EventBus H D E :=
  match bus.objects[dispatch.handlers]?.bind (·[dispatch.position]?) with
  | some handler =>
    { bus with dispatching := some { dispatch with
        position := dispatch.position + 1
        invoked := dispatch.invoked ++ [handler] } }
  | none =>
    { bus with
      dispatching := none
      delivered := bus.delivered ++
        [⟨dispatch.event, dispatch.invoked, dispatch.atStart, dispatch.joined⟩] }

/-- `_dispatch` of an event. A channel without entry has no handlers. -/
def dispatch (bus : EventBus H D E) (channel : String) (event : E) : EventBus H D E :=
  match bus.handlersOf channel with
  | some reference =>
    bus.proceed ⟨event, reference, 0, [], (bus.objects[reference]?).getD [], []⟩
  | none => { bus with delivered := bus.delivered ++ [{ event }] }

/-- A pass of `_listen`: the next message is read and dispatched. One that is no event is skipped. -/
def listen (parse : D → Option E) (bus : EventBus H D E) : EventBus H D E :=
  match bus.dispatching, bus.inbox with
  | none, (channel, data) :: later =>
    let taken := { bus with inbox := later }
    match parse data with
    | some event => taken.dispatch channel event
    | none => taken
  | _, _ => bus

/-- The handler that the dispatch awaits comes to its end, with an exception or without. -/
def handlerEnds (bus : EventBus H D E) : EventBus H D E :=
  match bus.dispatching with
  | some dispatch => bus.proceed dispatch
  | none => bus

/-- One move of a run. -/
def step (parse : D → Option E) (bus : EventBus H D E) : BusMove H D → EventBus H D E
  | .start => bus.start
  | .stop => bus.stop
  | .subscribe channel handler sent => bus.subscribe channel handler sent
  | .resume place succeeds => bus.resume place succeeds
  | .unsubscribe channel sent => bus.unsubscribe channel sent
  | .serve => bus.serve
  | .publish channel data => bus.publish channel data
  | .listen => bus.listen parse
  | .handlerEnds _ => bus.handlerEnds

/-! ## Subscriptions -/

/-- The channels of the server when it has taken all commands. -/
def settled (bus : EventBus H D E) : Finset String :=
  bus.commands.foldl ChannelCommand.apply bus.subscribed

/-- The bus has an entry for a channel exactly when the server is, or will be, sending it. -/
def Coherent (channel : String) (bus : EventBus H D E) : Prop :=
  channel ∈ bus.settled ↔ (bus.handlersOf channel).isSome = true

/-- A command about a channel does not get out. -/
def FailsOn (channel : String) (bus : EventBus H D E) : BusMove H D → Prop
  | .subscribe other _ sent =>
    other = channel ∧ bus.running = true ∧ (bus.handlersOf channel).isSome = false ∧ sent = false
  | .unsubscribe other sent =>
    other = channel ∧ bus.running = true ∧ (bus.handlersOf channel).isSome = true ∧ sent = false
  | _ => False

/-- A bus that does not run holds nothing of a connection. -/
structure Quiet (bus : EventBus H D E) : Prop where
  table : bus.table = []
  commands : bus.commands = []
  subscribed : bus.subscribed = ∅
  dispatching : bus.dispatching = none
  inbox : bus.inbox = []

section Subscriptions

variable {bus next : EventBus H D E} {channel other : String} {parse : D → Option E}

/-- One more command is taken after the others. -/
theorem settled_append (command : ChannelCommand) (same : next.subscribed = bus.subscribed)
    (more : next.commands = bus.commands ++ [command]) :
    next.settled = command.apply bus.settled := by
  rw [settled, settled, same, more, List.foldl_append]
  rfl

/-- What the bus and the server say of a channel depends on the commands and the table only. -/
theorem coherent_congr (subscribed : next.subscribed = bus.subscribed)
    (commands : next.commands = bus.commands) (table : next.table = bus.table) :
    next.Coherent channel ↔ bus.Coherent channel := by
  rw [Coherent, Coherent, settled, settled, handlersOf, handlersOf, subscribed, commands, table]

/-- A new entry of the table. -/
theorem handlersOf_enter :
    (bus.enter other).handlersOf channel =
      if channel = other then some bus.objects.length else bus.handlersOf channel :=
  lookup_cons_entry other channel bus.objects.length bus.table

/-- A deleted entry of the table. -/
theorem handlersOf_delete :
    (bus.delete other).handlersOf channel =
      if channel = other then none else bus.handlersOf channel :=
  lookup_without bus.table other channel

/-- The calls that append a handler leave the table and the server alone. -/
theorem coherent_append (reference : ℕ) (handler : H) :
    (bus.append reference handler).Coherent channel ↔ bus.Coherent channel :=
  coherent_congr rfl rfl rfl

/-- The loop of a dispatch leaves them alone. -/
theorem coherent_proceed (dispatch : EventDispatch H E) :
    (bus.proceed dispatch).Coherent channel ↔ bus.Coherent channel := by
  rw [proceed]
  split <;> exact coherent_congr rfl rfl rfl

/-- A new channel whose command gets out is coherent, and so is every other that was. -/
theorem coherent_enter_ask (holds : bus.Coherent channel) :
    ((bus.enter other).ask (.subscribe other)).Coherent channel := by
  have more : ((bus.enter other).ask (.subscribe other)).settled = insert other bus.settled :=
    settled_append (.subscribe other) rfl rfl
  have entered : ((bus.enter other).ask (.subscribe other)).handlersOf channel = _ :=
    handlersOf_enter
  rw [Coherent, more, entered, Finset.mem_insert]
  by_cases same : channel = other
  · simp [same]
  · rw [if_neg same]
    exact (or_iff_right same).trans holds

/-- A new channel whose command fails is not coherent, and every other is as it was. -/
theorem coherent_enter_iff (holds : bus.Coherent channel)
    (unknown : bus.handlersOf other = none) :
    (bus.enter other).Coherent channel ↔ channel ≠ other := by
  rw [Coherent, handlersOf_enter]
  by_cases same : channel = other
  · subst same
    have absent : channel ∉ (bus.enter channel).settled := by
      intro settles
      have known := holds.mp settles
      rw [unknown] at known
      cases known
    simp [absent]
  · rw [if_neg same]
    exact iff_of_true holds same

/-- A channel that is given up by a command that gets out is coherent, and so is every other that
was. -/
theorem coherent_delete_ask (holds : bus.Coherent channel) :
    ((bus.delete other).ask (.unsubscribe other)).Coherent channel := by
  have more : ((bus.delete other).ask (.unsubscribe other)).settled = bus.settled.erase other :=
    settled_append (.unsubscribe other) rfl rfl
  have deleted : ((bus.delete other).ask (.unsubscribe other)).handlersOf channel = _ :=
    handlersOf_delete
  rw [Coherent, more, deleted, Finset.mem_erase]
  by_cases same : channel = other
  · simp [same]
  · rw [if_neg same]
    exact (and_iff_right same).trans holds

/-- A channel that is given up by a command that fails is not coherent, and every other is as it
was. -/
theorem coherent_delete_iff (holds : bus.Coherent channel)
    (known : (bus.handlersOf other).isSome = true) :
    (bus.delete other).Coherent channel ↔ channel ≠ other := by
  rw [Coherent, handlersOf_delete]
  by_cases same : channel = other
  · subst same
    have present : channel ∈ (bus.delete channel).settled := holds.mpr known
    simp [present]
  · rw [if_neg same]
    exact iff_of_true holds same

/-- A call of `subscribe` keeps a channel coherent exactly when its command does not fail. -/
theorem coherent_subscribe_iff (holds : bus.Coherent channel) (handler : H) (sent : Bool) :
    (bus.subscribe other handler sent).Coherent channel ↔
      ¬bus.FailsOn channel (.subscribe other handler sent : BusMove H D) := by
  rw [subscribe, FailsOn]
  split
  case isFalse stopped => exact iff_of_true holds fun fails => stopped fails.2.1
  case isTrue runs =>
    split
    case h_1 reference found =>
      refine iff_of_true ((coherent_append reference handler).mpr holds) ?_
      rintro ⟨rfl, -, unknown, -⟩
      rw [found] at unknown
      cases unknown
    case h_2 unknown =>
      cases sent with
      | true =>
        refine iff_of_true ?_ (by simp)
        exact (coherent_congr rfl rfl rfl).mpr (coherent_enter_ask holds)
      | false =>
        rw [if_neg (by simp), coherent_enter_iff holds unknown]
        by_cases same : channel = other
        · subst same
          simp [runs, unknown]
        · simp [same, Ne.symm same]

/-- A call of `unsubscribe` keeps a channel coherent exactly when its command does not fail. -/
theorem coherent_unsubscribe_iff (holds : bus.Coherent channel) (sent : Bool) :
    (bus.unsubscribe other sent).Coherent channel ↔
      ¬bus.FailsOn channel (.unsubscribe other sent : BusMove H D) := by
  rw [unsubscribe, FailsOn]
  split
  case isFalse refuses =>
    refine iff_of_true holds ?_
    rintro ⟨rfl, runs, known, -⟩
    exact refuses ⟨runs, known⟩
  case isTrue accepts =>
    cases sent with
    | true => exact iff_of_true (coherent_delete_ask holds) (by simp)
    | false =>
      rw [if_neg (by simp), coherent_delete_iff holds accepts.2]
      by_cases same : channel = other
      · subst same
        simp [accepts]
      · simp [same, Ne.symm same]

/-- The other moves leave a channel as coherent as it was. -/
theorem coherent_resume (place : ℕ) (succeeds : Bool) (holds : bus.Coherent channel) :
    (bus.resume place succeeds).Coherent channel := by
  rw [resume]
  split
  · exact holds
  · split
    · exact (coherent_append _ _).mpr ((coherent_congr rfl rfl rfl).mpr holds)
    · exact (coherent_congr rfl rfl rfl).mpr holds

/-- A pass of the listener leaves a channel as it was. -/
theorem coherent_listen (holds : bus.Coherent channel) : (bus.listen parse).Coherent channel := by
  rw [listen]
  split
  · split
    · rw [dispatch]
      split
      · exact (coherent_proceed _).mpr ((coherent_congr rfl rfl rfl).mpr holds)
      · exact (coherent_congr rfl rfl rfl).mpr holds
    · exact (coherent_congr rfl rfl rfl).mpr holds
  · exact holds

/-- The server that takes a command settles where it would have settled. -/
theorem coherent_serve (holds : bus.Coherent channel) : bus.serve.Coherent channel := by
  rw [serve]
  cases queued : bus.commands with
  | nil => exact holds
  | cons command later =>
    rw [Coherent, settled, queued, List.foldl_cons] at holds
    exact holds

/-- One step: a coherent channel stays so exactly when no command about it fails. -/
theorem coherent_step_iff (quiet : bus.running = false → bus.Quiet)
    (holds : bus.Coherent channel) (move : BusMove H D) :
    (bus.step parse move).Coherent channel ↔ ¬bus.FailsOn channel move := by
  cases move with
  | start =>
    refine iff_of_true ?_ not_false
    rw [step, start]
    cases runs : bus.running with
    | true => exact holds
    | false =>
      rw [if_neg (by simp), Coherent, handlersOf, (quiet runs).table]
      simp [settled]
  | stop => exact iff_of_true (by simp [step, stop, Coherent, settled, handlersOf]) not_false
  | subscribe other handler sent => exact coherent_subscribe_iff holds handler sent
  | resume place succeeds => exact iff_of_true (coherent_resume place succeeds holds) not_false
  | unsubscribe other sent => exact coherent_unsubscribe_iff holds sent
  | serve => exact iff_of_true (coherent_serve holds) not_false
  | publish other data =>
    refine iff_of_true ?_ not_false
    rw [step, publish]
    split_ifs
    · exact (coherent_congr rfl rfl rfl).mpr holds
    · exact holds
  | listen => exact iff_of_true (coherent_listen holds) not_false
  | handlerEnds raised =>
    refine iff_of_true ?_ not_false
    rw [step, handlerEnds]
    split
    · exact (coherent_proceed _).mpr holds
    · exact holds

end Subscriptions

/-! ## What a move does -/

/-- The effects that a move can have on a bus. -/
inductive Effect (parse : D → Option E) (bus : EventBus H D E) : EventBus H D E → Prop where
  | same : Effect parse bus bus
  | started (stopped : bus.running = false) : Effect parse bus bus.start
  | stopped : Effect parse bus bus.stop
  | waits (waiting : List (String × H)) : Effect parse bus { bus with waiting }
  | appended {channel : String} {reference : ℕ} (found : bus.handlersOf channel = some reference)
      (waiting : List (String × H)) (handler : H) :
      Effect parse bus (append { bus with waiting } reference handler)
  | entered (runs : bus.running = true) (channel : String) (commands : List ChannelCommand)
      (waiting : List (String × H)) : Effect parse bus { bus.enter channel with commands, waiting }
  | deleted (runs : bus.running = true) (channel : String) (commands : List ChannelCommand) :
      Effect parse bus { bus.delete channel with commands }
  | served {command : ChannelCommand} {later : List ChannelCommand}
      (queued : bus.commands = command :: later) (subscribed : Finset String) :
      Effect parse bus { bus with commands := later, subscribed }
  | received (runs : bus.running = true) (channel : String) (data : D) :
      Effect parse bus { bus with
        inbox := bus.inbox ++ [(channel, data)]
        received := bus.received ++ [data] }
  | taken {channel : String} {data : D} {later : List (String × D)}
      (idle : bus.dispatching = none) (queued : bus.inbox = (channel, data) :: later) :
      Effect parse bus (match parse data with
        | some event => dispatch { bus with inbox := later } channel event
        | none => { bus with inbox := later })
  | proceeded {dispatch : EventDispatch H E} (busy : bus.dispatching = some dispatch) :
      Effect parse bus (bus.proceed dispatch)

section Effects

variable {bus next : EventBus H D E} {channel : String} {parse : D → Option E}

/-- Every move has one of the effects. -/
theorem step_effect (move : BusMove H D) : Effect parse bus (bus.step parse move) := by
  cases move with
  | start =>
    cases runs : bus.running with
    | true =>
      rw [step, start, if_pos runs]
      exact .same
    | false => exact .started runs
  | stop => exact .stopped
  | subscribe channel handler sent =>
    rw [step, subscribe]
    split
    case isTrue runs =>
      split
      case h_1 reference found => exact .appended found bus.waiting handler
      case h_2 =>
        cases sent with
        | true => exact .entered runs channel _ _
        | false => exact .entered runs channel bus.commands bus.waiting
    case isFalse => exact .same
  | resume place succeeds =>
    rw [step, resume]
    split
    case h_1 => exact .same
    case h_2 channel handler _ =>
      dsimp only
      split
      case h_1 reference found =>
        split_ifs at found
        exact .appended found _ handler
      case h_2 => exact .waits _
  | unsubscribe channel sent =>
    rw [step, unsubscribe]
    split
    case isTrue accepts =>
      cases sent with
      | true => exact .deleted accepts.1 channel _
      | false => exact .deleted accepts.1 channel bus.commands
    case isFalse => exact .same
  | serve =>
    rw [step, serve]
    split
    case h_1 => exact .same
    case h_2 queued => exact .served queued _
  | publish channel data =>
    rw [step, publish]
    split
    case isTrue accepts => exact .received accepts.1 channel data
    case isFalse => exact .same
  | listen =>
    rw [step, listen]
    split
    case h_1 idle queued => exact .taken idle queued
    case h_2 => exact .same
  | handlerEnds raised =>
    rw [step, handlerEnds]
    split
    case h_1 busy => exact .proceeded busy
    case h_2 => exact .same

@[simp] theorem running_proceed (dispatch : EventDispatch H E) :
    (bus.proceed dispatch).running = bus.running := by
  rw [proceed]
  split <;> rfl

@[simp] theorem running_dispatch (event : E) : (bus.dispatch channel event).running = bus.running := by
  rw [dispatch]
  split
  · exact running_proceed _
  · rfl

/-- A bus that does not run stays quiet until the start. -/
theorem Effect.quiet (effect : Effect parse bus next) (quiet : bus.running = false → bus.Quiet)
    (stopped : next.running = false) : next.Quiet := by
  cases effect with
  | same => exact quiet stopped
  | started silent => rw [start, if_neg (by simp [silent])] at stopped; cases stopped
  | stopped => exact ⟨rfl, rfl, rfl, rfl, rfl⟩
  | waits waiting =>
    obtain ⟨table, commands, subscribed, dispatching, inbox⟩ := quiet stopped
    exact ⟨table, commands, subscribed, dispatching, inbox⟩
  | appended found waiting handler =>
    rw [handlersOf, (quiet stopped).table] at found
    cases found
  | entered runs channel commands waiting => exact absurd (runs.symm.trans stopped) (by decide)
  | deleted runs channel commands => exact absurd (runs.symm.trans stopped) (by decide)
  | served queued subscribed =>
    rw [(quiet stopped).commands] at queued
    cases queued
  | received runs channel data => exact absurd (runs.symm.trans stopped) (by decide)
  | taken idle queued =>
    have silent : bus.running = false := by
      split at stopped
      · rwa [running_dispatch] at stopped
      · exact stopped
    rw [(quiet silent).inbox] at queued
    cases queued
  | proceeded busy =>
    rw [running_proceed] at stopped
    rw [(quiet stopped).dispatching] at busy
    cases busy

end Effects

/-! ## Deliveries -/

/-- A dispatch follows its list object: the handlers of the object are those that were in it at
first and those that joined, and the ones before its position have been called. -/
def Follows (bus : EventBus H D E) (dispatch : EventDispatch H E) : Prop :=
  bus.objects[dispatch.handlers]? = some (dispatch.atStart ++ dispatch.joined) ∧
    dispatch.position ≤ (dispatch.atStart ++ dispatch.joined).length ∧
    dispatch.invoked = (dispatch.atStart ++ dispatch.joined).take dispatch.position

/-- The events that were dispatched, or are. -/
def handled (bus : EventBus H D E) : List E :=
  bus.delivered.map EventDelivery.event ++ bus.dispatching.toList.map EventDispatch.event

/-- What holds of the dispatches of a bus in every state. -/
structure Orderly (parse : D → Option E) (bus : EventBus H D E) : Prop where
  quiet : bus.running = false → bus.Quiet
  entries : ∀ entry ∈ bus.table, entry.2 < bus.objects.length
  following : ∀ dispatch ∈ bus.dispatching, bus.Follows dispatch
  complete : ∀ delivery ∈ bus.delivered, delivery.invoked = delivery.atStart ++ delivery.joined
  inOrder : bus.running = true →
    bus.received.filterMap parse = bus.handled ++ bus.inbox.filterMap fun message => parse message.2

section Deliveries

variable {bus next : EventBus H D E} {channel : String} {parse : D → Option E}
  {dispatch : EventDispatch H E}

/-- The loop of a dispatch calls the next handler of its object, or ends when it has called them
all. -/
theorem proceed_cases (follows : bus.Follows dispatch) :
    (∃ later, bus.proceed dispatch = { bus with dispatching := some later } ∧
      later.event = dispatch.event ∧ bus.Follows later) ∨
    ∃ delivery, bus.proceed dispatch =
        { bus with dispatching := none, delivered := bus.delivered ++ [delivery] } ∧
      delivery.event = dispatch.event ∧ delivery.invoked = delivery.atStart ++ delivery.joined := by
  obtain ⟨object, -, invoked⟩ := follows
  rw [proceed, object, Option.bind_some]
  cases called : (dispatch.atStart ++ dispatch.joined)[dispatch.position]? with
  | some handler =>
    refine Or.inl ⟨_, rfl, rfl, object, (List.getElem?_eq_some_iff.mp called).1, ?_⟩
    rw [List.take_add_one, called, invoked]
    rfl
  | none =>
    refine Or.inr ⟨_, rfl, rfl, ?_⟩
    rw [invoked]
    exact List.take_of_length_le (List.getElem?_eq_none_iff.mp called)

/-- A handler at the end of a list object: the dispatch that goes through it has it to come. -/
theorem Follows.append (follows : bus.Follows dispatch) (waiting : List (String × H))
    (reference : ℕ) (handler : H) :
    (EventBus.append { bus with waiting } reference handler).Follows
      (if dispatch.handlers = reference then
        { dispatch with joined := dispatch.joined ++ [handler] } else dispatch) := by
  obtain ⟨object, within, invoked⟩ := follows
  by_cases same : dispatch.handlers = reference
  · rw [if_pos same]
    refine ⟨?_, ?_, ?_⟩
    · change (SharedObjects.assign _ _ bus.objects)[dispatch.handlers]? = _
      rw [SharedObjects.getElem_assign, if_pos same.symm, object]
      simp
    · simp only [List.length_append] at within ⊢
      omega
    · rw [← List.append_assoc, List.take_append_of_le_length within, invoked]
  · rw [if_neg same]
    refine ⟨?_, within, invoked⟩
    change (SharedObjects.assign _ _ bus.objects)[dispatch.handlers]? = _
    rw [SharedObjects.getElem_assign, if_neg (Ne.symm same), object]

/-- A dispatch of an event that was next. -/
theorem Orderly.proceed (quiet : (bus.proceed dispatch).running = false → (bus.proceed dispatch).Quiet)
    (entries : ∀ entry ∈ bus.table, entry.2 < bus.objects.length)
    (complete : ∀ delivery ∈ bus.delivered, delivery.invoked = delivery.atStart ++ delivery.joined)
    (follows : bus.Follows dispatch)
    (inOrder : bus.running = true → bus.received.filterMap parse =
      bus.delivered.map EventDelivery.event ++ [dispatch.event] ++
        bus.inbox.filterMap fun message => parse message.2) :
    Orderly parse (bus.proceed dispatch) := by
  obtain ⟨later, goesOn, sameEvent, still⟩ | ⟨delivery, ends, sameEvent, whole⟩ :=
    proceed_cases follows
  · rw [goesOn] at quiet ⊢
    refine ⟨quiet, entries, ?_, complete, ?_⟩
    · rintro other isLater
      obtain rfl := Option.some.inj isLater
      exact still
    · intro runs
      rw [inOrder runs, ← sameEvent]
      rfl
  · rw [ends] at quiet ⊢
    refine ⟨quiet, entries, by simp, ?_, ?_⟩
    · intro other known
      obtain before | isNew := List.mem_append.mp known
      · exact complete other before
      · rw [List.mem_singleton.mp isNew]
        exact whole
    · intro runs
      rw [inOrder runs, handled, ← sameEvent]
      simp

/-- A dispatch of the event that was next, which starts from the first handler of its object. -/
theorem Orderly.dispatched {event : E}
    (quiet : (bus.dispatch channel event).running = false → (bus.dispatch channel event).Quiet)
    (entries : ∀ entry ∈ bus.table, entry.2 < bus.objects.length)
    (complete : ∀ delivery ∈ bus.delivered, delivery.invoked = delivery.atStart ++ delivery.joined)
    (idle : bus.dispatching = none)
    (inOrder : bus.running = true → bus.received.filterMap parse =
      bus.delivered.map EventDelivery.event ++ [event] ++
        bus.inbox.filterMap fun message => parse message.2) :
    Orderly parse (bus.dispatch channel event) := by
  rw [EventBus.dispatch] at quiet ⊢
  split at quiet
  case h_1 reference found =>
    have known : (channel, reference) ∈ bus.table := by
      obtain ⟨before, after, split, -⟩ := List.lookup_eq_some_iff.mp found
      exact split ▸ by simp
    have object := List.getElem?_eq_getElem (entries _ known)
    refine Orderly.proceed quiet entries complete ⟨?_, Nat.zero_le _, rfl⟩ inOrder
    rw [object]
    simp
  case h_2 =>
    refine ⟨quiet, entries, by simp [idle], ?_, ?_⟩
    · intro delivery known
      obtain before | isNew := List.mem_append.mp known
      · exact complete delivery before
      · rw [List.mem_singleton.mp isNew]
        rfl
    · intro runs
      rw [inOrder runs, handled, idle]
      simp

/-- One step keeps the dispatches in order. -/
theorem Effect.orderly (effect : Effect parse bus next) (orderly : Orderly parse bus) :
    Orderly parse next := by
  have quiet := effect.quiet orderly.quiet
  obtain ⟨silent, entries, following, complete, inOrder⟩ := orderly
  cases effect with
  | same => exact ⟨silent, entries, following, complete, inOrder⟩
  | started stopped =>
    rw [start, if_neg (by simp [stopped])] at quiet ⊢
    refine ⟨quiet, entries, following, by simp, fun _ => ?_⟩
    simp [handled, (silent stopped).dispatching]
  | stopped => exact ⟨quiet, by simp [stop], by simp [stop], complete, by simp [stop]⟩
  | waits waiting => exact ⟨quiet, entries, following, complete, inOrder⟩
  | appended found waiting handler =>
    rename_i reference
    refine ⟨quiet, ?_, ?_, complete, ?_⟩
    · intro entry known
      have length : (SharedObjects.assign reference (· ++ [handler]) bus.objects).length =
          bus.objects.length := List.length_modify ..
      exact (entries entry known).trans_eq length.symm
    · intro later isLater
      obtain ⟨dispatch, busy, rfl⟩ := Option.mem_map.mp isLater
      exact (following dispatch busy).append waiting reference handler
    · intro runs
      rw [show (append { bus with waiting } reference handler).received = bus.received from rfl,
        inOrder runs, handled, handled]
      cases busy : bus.dispatching with
      | none => simp [append]
      | some dispatch => by_cases same : dispatch.handlers = reference <;> simp [append, same]
  | entered runs channel commands waiting =>
    refine ⟨quiet, ?_, ?_, complete, inOrder⟩
    · intro entry known
      have longer : (bus.objects ++ [[]]).length = bus.objects.length + 1 := by simp
      obtain rfl | before := List.mem_cons.mp known
      · exact longer ▸ Nat.lt_succ_self _
      · exact longer ▸ (entries entry before).trans (Nat.lt_succ_self _)
    · intro dispatch busy
      obtain ⟨object, within, invoked⟩ := following dispatch busy
      refine ⟨?_, within, invoked⟩
      exact (List.getElem?_append_left (List.getElem?_eq_some_iff.mp object).1).trans object
  | deleted runs channel commands =>
    exact ⟨quiet, fun entry known => entries entry (List.mem_filter.mp known).1, following, complete,
      inOrder⟩
  | served queued subscribed => exact ⟨quiet, entries, following, complete, inOrder⟩
  | received runs channel data =>
    refine ⟨quiet, entries, following, complete, fun _ => ?_⟩
    rw [List.filterMap_append, inOrder runs, List.filterMap_append, List.append_assoc]
    rfl
  | taken idle queued =>
    rename_i channel data later
    have nothing : bus.handled = bus.delivered.map EventDelivery.event := by
      rw [handled, idle]
      exact List.append_nil _
    cases event : parse data with
    | none =>
      simp only [event] at quiet ⊢
      refine ⟨quiet, entries, following, complete, fun runs => ?_⟩
      rw [inOrder runs, queued]
      exact congrArg (bus.handled ++ ·) (List.filterMap_cons_none event)
    | some event' =>
      simp only [event] at quiet ⊢
      have next : bus.running = true → bus.received.filterMap parse =
          bus.delivered.map EventDelivery.event ++ [event'] ++
            later.filterMap fun message => parse message.2 := by
        intro runs
        rw [inOrder runs, nothing, queued, List.append_assoc]
        exact congrArg (_ ++ ·) (List.filterMap_cons_some event)
      have dispatched : Orderly parse (dispatch { bus with inbox := later } channel event') :=
        Orderly.dispatched quiet entries complete idle next
      exact dispatched
  | proceeded busy =>
    rename_i dispatch
    refine Orderly.proceed quiet entries complete (following dispatch busy) fun runs => ?_
    rw [inOrder runs, handled, busy]
    rfl

end Deliveries

end EventBus

end IgTradingBot
