import IgTradingBot.Broker.IGClient
import IgTradingBot.Loop.Database
import IgTradingBot.Risk.RiskEngine

/-!
# The state of the trading loop and of the world around it

The attributes of `AutonomousTradingLoop` in `src/trading/trading_loop.py`, the
database it writes to, the clock it reads, and what an observer of the broker
sees. The attributes are grouped by who changes them: the daily books, the risk
engine, and the desk with everything else.

Wherever the source awaits, other tasks run: the kill switch is operated, a
snapshot is polled, the loop is stopped, and at the broker a position may be
closed by its stop or limit. An awaited call carries these interruptions in
order. The clock never goes backwards, but it may advance at every reading.
-/

namespace IgTradingBot

open Sequential Sequential.Program

/-- A snapshot of an instrument; a stored snapshot has both prices. -/
structure Snapshot where
  bid : ℚ
  offer : ℚ
  deriving DecidableEq, Repr

/-- The fields of a position dictionary of the broker that the loop reads. -/
structure PositionFields where
  dealId : Option String := none
  dealIdField : Option String := none
  direction : Option String := none
  size : Option Numeral := none
  dealSize : Option Numeral := none
  level : Option Numeral := none
  openLevel : Option Numeral := none
  epic : Option String := none
  deriving DecidableEq, Repr

/-- One entry of the position list: the parts under `position` and `market`, when
they are present, and the fields of the entry itself. -/
structure PositionDict where
  position : Option PositionFields := none
  market : Option (Option String) := none
  fields : PositionFields := {}
  deriving DecidableEq, Repr

namespace PositionDict

/-- `pos.get("position", pos)`. -/
def data (entry : PositionDict) : PositionFields := entry.position.getD entry.fields

/-- `pos.get("market", {}).get("epic")`. -/
def marketEpic (entry : PositionDict) : Option String := entry.market.getD none

end PositionDict

/-- A strategy signal. Every analysis puts the instrument, a price, both distances
and the average true range into it; the size is added by the risk controls. -/
structure Signal where
  epic : String
  direction : String
  currentPrice : ℚ
  stopDistance : ℚ
  limitDistance : ℚ
  atr : ℚ
  confidence : ℤ
  riskPerTrade : ℚ := 1 / 100
  strategyName : String := "legacy_sma_atr"
  tp1Distance : Option ℚ := none
  partialCloseFraction : ℚ := 1 / 2
  trailingEnabled : Bool := false
  extraConfirmation : Bool := false
  size : Option ℚ := none
  deriving DecidableEq, Repr

/-- Management data of a position that the professional strategy opened. -/
structure ProfessionalPosition where
  direction : String
  entryLevel : ℚ
  tp1Level : ℚ
  finalTargetLevel : Numeral
  partialCloseFraction : ℚ
  size : ℚ
  partialTaken : Bool := false
  trailingEnabled : Bool := false
  deriving DecidableEq, Repr

/-- Identifiers of the rows of a deal. -/
structure DealRecord where
  tradeId : String
  positionId : String
  deriving DecidableEq, Repr

/-- Keys of the rows of an opened trade, with its broker deal. -/
structure RowKeys where
  tradeId : String
  positionId : String
  dealId : String
  deriving DecidableEq, Repr

/-- The settings of a loop. Instruments come with the inputs of a cycle. -/
structure LoopConfig where
  strategyMode : String := "PROFESSIONAL"
  accountType : String := "DEMO"
  professionalLiveApproved : Bool := false
  professionalDemoForwardApproved : Bool := false
  hasMistakeAnalyzer : Bool := false
  hasNewsSafetyLayer : Bool := false
  deriving DecidableEq, Repr

/-- The daily books: a date with the counters of that date, and the time of the
last counted opening of each instrument. -/
structure Books where
  dailyTradeDate : ℤ
  dailyTradeCount : ℕ := 0
  dailyRealizedPnl : ℚ := 0
  lastTradeTimeByEpic : AList (fun _ : String => ℚ) := ∅

/-- The remaining attributes of the loop, with the database. -/
structure Desk where
  running : Bool := true
  signalsGenerated : ℕ := 0
  tradesExecuted : ℕ := 0
  tradesRejected : ℕ := 0
  tradesClosed : ℕ := 0
  totalPnl : ℚ := 0
  errors : ℕ := 0
  accountEquity : ℚ := 20000
  openPositions : List PositionDict := []
  lastAccountRefresh : ℚ := 0
  lastSnapshots : AList (fun _ : String => Snapshot) := ∅
  dealRecords : AList (fun _ : String => DealRecord) := ∅
  missingPositionCounts : AList (fun _ : String => ℕ) := ∅
  professionalPositions : AList (fun _ : String => ProfessionalPosition) := ∅
  database : Database := {}

/-- An opening order as it is submitted. -/
structure OpeningOrder where
  epic : String
  direction : String
  size : ℚ
  stopDistance : ℚ
  limitDistance : ℚ
  deriving DecidableEq, Repr

/-- A close request as it is submitted. -/
structure CloseRequest where
  dealId : String
  direction : String
  size : ℚ
  deriving DecidableEq, Repr

/-- What an observer of the loop and of the broker records. -/
inductive LoopEvent where
  /-- the entry gate reads the realised profit of the day -/
  | realizedRead (today : ℤ) (dailyRealizedPnl : ℚ)
  /-- an opening order is submitted while the kill switch is in a state -/
  | orderSubmitted (order : OpeningOrder) (killSwitchActive : Bool)
  /-- the broker opens a position while the loop lists so many positions and so
  many are open at the broker -/
  | positionOpened (epic : String) (time : ℚ) (listed openAtBroker : ℕ)
  /-- a close request of the loop is answered; the counter date is the one at the
  time of booking -/
  | closeAnswered (request : CloseRequest) (full accepted : Bool) (profit : ℚ)
      (today counterDate : ℤ)
  /-- a deal that the broker has closed is booked from the transaction history; the session
  that closes its rows keeps its changes, or does not -/
  | closeReconciled (dealId : String) (profit : ℚ) (persisted : Bool) (today counterDate : ℤ)
  /-- a position is closed at the broker, by its stop or limit or from outside, or
  by a close request that the broker carries out in full -/
  | positionClosed
  /-- the loop begins to manage a position -/
  | managementStarted (dealId : String)
  /-- the close of a part of a position is requested: whether the broker accepts it, and
  whether the loop gets to its own record of it -/
  | partialCloseRequested (request : CloseRequest) (accepted settled : Bool)
  /-- the rows of an opened trade are about to be inserted -/
  | openingPersisted (keys : RowKeys)
  deriving DecidableEq, Repr

/-- The event is about the management of a position. -/
def LoopEvent.isManagement : LoopEvent → Bool
  | .managementStarted _ => true
  | .partialCloseRequested _ _ _ => true
  | _ => false

/-- The event is about what the loop itself keeps of a position. -/
def LoopEvent.isNote : LoopEvent → Bool
  | .managementStarted _ => true
  | .partialCloseRequested _ _ _ => true
  | .openingPersisted _ => true
  | _ => false

theorem LoopEvent.note_of_management {event : LoopEvent} (management : event.isManagement = true) :
    event.isNote = true := by
  cases event with
  | managementStarted => rfl
  | partialCloseRequested => rfl
  | _ => cases management

/-- The loop with its surroundings. The schedule answers the readings of the
clock; a reading that would go backwards repeats the last one. -/
structure World where
  clock : ℚ
  schedule : ℕ → ℚ
  reads : ℕ := 0
  books : Books
  engine : RiskEngine
  desk : Desk := {}
  openAtBroker : ℕ := 0
  history : List LoopEvent := []

/-- Programs of the loop. -/
abbrev LoopProgram := Program Failure World

/-- What other tasks and the broker do while the loop awaits. -/
inductive Interference where
  | killSwitchActivated (reason triggerSource : String)
  | killSwitchDeactivated (confirmationToken : String)
  | snapshotPolled (epic : String) (snapshot : Snapshot)
  | loopStopped
  | positionClosed
  deriving DecidableEq, Repr

/-- An awaited call: what happens meanwhile, and its outcome. -/
structure Awaited (α : Type) where
  meanwhile : List Interference := []
  reply : Except Failure α

namespace TradingLoop

/-- Assign attributes of the desk. -/
def setDesk (change : Desk → Desk) : LoopProgram Unit :=
  modify fun world => { world with desk := change world.desk }

/-- Assign attributes of the daily books. -/
def setBooks (change : Books → Books) : LoopProgram Unit :=
  modify fun world => { world with books := change world.books }

/-- Assign attributes of the risk engine. -/
def setEngine (change : RiskEngine → RiskEngine) : LoopProgram Unit :=
  modify fun world => { world with engine := change world.engine }

/-- Record an event that depends on the state. -/
def record (event : World → LoopEvent) : LoopProgram Unit :=
  modify fun world => { world with history := event world :: world.history }

/-- Read the clock. -/
def readClock : LoopProgram ℚ := fun world =>
  let now := max world.clock (world.schedule world.reads)
  (.ok now, { world with clock := now, reads := world.reads + 1 })

/-- A position leaves the broker's list. -/
def brokerCloses (world : World) : World :=
  { world with
      openAtBroker := world.openAtBroker - 1
      history := .positionClosed :: world.history }

/-- The broker closes a position. -/
def closeAtBroker : LoopProgram Unit := modify brokerCloses

/-- One interruption takes effect. -/
def interrupt (interference : Interference) : LoopProgram Unit := do
  let now ← readClock
  match interference with
  | .killSwitchActivated reason triggerSource =>
    setEngine fun engine =>
      { engine with killSwitch := (engine.killSwitch.activate now reason triggerSource).1 }
  | .killSwitchDeactivated confirmationToken =>
    setEngine fun engine =>
      { engine with killSwitch := engine.killSwitch.afterDeactivation now confirmationToken }
  | .snapshotPolled epic snapshot =>
    setDesk fun desk => { desk with lastSnapshots := desk.lastSnapshots.insert epic snapshot }
  | .loopStopped => setDesk fun desk => { desk with running := false }
  | .positionClosed => closeAtBroker

/-- Wait for a call; interruptions take effect before it is answered. -/
def await {α : Type} (awaited : Awaited α) : LoopProgram α := do
  forEach awaited.meanwhile interrupt
  ofExcept awaited.reply

/-- Two desks with the same position list and the same records of deals, in memory and in the
database. -/
structure SameRecords (desk other : Desk) : Prop where
  openPositions : desk.openPositions = other.openPositions
  professionalPositions : desk.professionalPositions = other.professionalPositions
  dealRecords : desk.dealRecords = other.dealRecords
  database : desk.database = other.database

/-- What the tasks of the loop may do to its risk engine: operate the kill switch, and move the
day and the peak of the monitor as the check of a trade does. -/
structure EngineMoves (before after : RiskEngine) : Prop where
  exposureManager : after.exposureManager = before.exposureManager
  drawdownMonitor : after.drawdownMonitor = before.drawdownMonitor ∨
    ∃ now equity, after.drawdownMonitor = (before.drawdownMonitor.checkTradeAllowed now equity).1

/-- A property of the world is ambient when it survives whatever may happen at an await, and
whatever the loop changes outside its books, its orders and its records of positions and
deals. -/
structure Ambient (invariant : World → Prop) : Prop where
  clock : ∀ world now, world.clock ≤ now → invariant world →
    invariant { world with clock := now, reads := world.reads + 1 }
  engine : ∀ world engine, EngineMoves world.engine engine → invariant world →
    invariant { world with engine }
  aside : ∀ world desk, SameRecords desk world.desk → invariant world →
    invariant { world with desk }
  closed : ∀ world, invariant world → invariant (brokerCloses world)

/-- A property of the world is clerical when it also survives changes of the records of deals,
and the end of the management of a position. -/
structure Clerical (invariant : World → Prop) : Prop extends Ambient invariant where
  clerk : ∀ world desk, desk.openPositions = world.desk.openPositions →
    desk.professionalPositions = world.desk.professionalPositions → invariant world →
    invariant { world with desk }
  released : ∀ world dealId, invariant world →
    invariant
      { world with
        desk :=
          { world.desk with
            professionalPositions := world.desk.professionalPositions.erase dealId } }
  persisted : ∀ world keys, invariant world →
    invariant { world with history := .openingPersisted keys :: world.history }
  aside := fun world changed same holds =>
    clerk world changed same.openPositions same.professionalPositions holds

/-- A property of the world is incidental when it also survives whatever the loop records of
a position. -/
structure Incidental (invariant : World → Prop) : Prop extends Clerical invariant where
  desk : ∀ world desk, desk.openPositions = world.desk.openPositions → invariant world →
    invariant { world with desk }
  noted : ∀ world event, event.isNote = true → invariant world →
    invariant { world with history := event :: world.history }
  clerk := fun world changed listed _ holds => desk world changed listed holds
  released := fun world _ holds => desk world _ rfl holds
  persisted := fun world _ holds => noted world _ rfl holds

section Frames

variable {invariant : World → Prop}

/-- A reading of the clock returns the time at which it leaves the world. -/
theorem Ambient.ensures_readClock (stable : Ambient invariant) {raised : Failure → World → Prop} :
    Ensures invariant readClock (fun now world => invariant world ∧ world.clock = now) raised := by
  intro world holds
  have later : world.clock ≤ max world.clock (world.schedule world.reads) := le_max_left _ _
  exact ⟨stable.clock world _ later holds, rfl⟩

theorem Ambient.keeps_readClock (stable : Ambient invariant) : Keeps invariant readClock :=
  stable.ensures_readClock.weaken (fun _ entry => entry) (fun _ _ ended => ended.1)
    (fun _ _ ended => ended)

theorem Ambient.keeps_setEngine (stable : Ambient invariant) {change : RiskEngine → RiskEngine}
    (moves : ∀ engine, EngineMoves engine (change engine)) : Keeps invariant (setEngine change) :=
  keeps_modify fun world holds => stable.engine world _ (moves world.engine) holds

/-- The desk may change wherever the position list and the records of deals do not. -/
theorem Ambient.keeps_setAside (stable : Ambient invariant) {change : Desk → Desk}
    (same : ∀ desk, SameRecords (change desk) desk) : Keeps invariant (setDesk change) :=
  keeps_modify fun world holds => stable.aside world _ (same world.desk) holds

/-- The desk may change wherever its position list and the management data do not. -/
theorem Clerical.keeps_setDesk (stable : Clerical invariant) {change : Desk → Desk}
    (listed : ∀ desk, (change desk).openPositions = desk.openPositions)
    (managed : ∀ desk, (change desk).professionalPositions = desk.professionalPositions) :
    Keeps invariant (setDesk change) :=
  keeps_modify fun world holds => stable.clerk world _ (listed world.desk) (managed world.desk) holds

/-- The desk may change wherever its position list does not. -/
theorem Incidental.keeps_setDesk (stable : Incidental invariant) {change : Desk → Desk}
    (listed : ∀ desk, (change desk).openPositions = desk.openPositions) :
    Keeps invariant (setDesk change) :=
  keeps_modify fun world holds => stable.desk world _ (listed world.desk) holds

/-- Whatever interrupts an await, an ambient property survives it. -/
theorem Ambient.keeps_interrupt (stable : Ambient invariant) (interference : Interference) :
    Keeps invariant (interrupt interference) := by
  apply keeps_bind stable.keeps_readClock
  intro now
  cases interference with
  | killSwitchActivated reason triggerSource =>
    exact stable.keeps_setEngine fun _ => ⟨rfl, Or.inl rfl⟩
  | killSwitchDeactivated confirmationToken =>
    exact stable.keeps_setEngine fun _ => ⟨rfl, Or.inl rfl⟩
  | snapshotPolled epic snapshot => exact stable.keeps_setAside fun _ => ⟨rfl, rfl, rfl, rfl⟩
  | loopStopped => exact stable.keeps_setAside fun _ => ⟨rfl, rfl, rfl, rfl⟩
  | positionClosed => exact keeps_modify stable.closed

theorem Ambient.keeps_interrupts (stable : Ambient invariant)
    (meanwhile : List Interference) : Keeps invariant (forEach meanwhile interrupt) :=
  keeps_forEach fun interference _ => stable.keeps_interrupt interference

/-- An interruption never raises. -/
theorem interrupt_returns (interference : Interference) (world : World) :
    interrupt interference world = (.ok (), final (interrupt interference) world) := by
  cases interference <;> rfl

theorem interrupts_return (meanwhile : List Interference) (world : World) :
    forEach meanwhile interrupt world = (.ok (), final (forEach meanwhile interrupt) world) := by
  induction meanwhile generalizing world with
  | nil => rfl
  | cons interference rest inductionHypothesis =>
    have sequence : forEach (interference :: rest) interrupt world =
        forEach rest interrupt (final (interrupt interference) world) :=
      bind_ok (interrupt_returns interference world)
    simp only [final, sequence]
    exact inductionHypothesis _

/-- An awaited call is answered as it is scripted, once its interruptions are over. -/
theorem await_run {α : Type} (awaited : Awaited α) (world : World) :
    await awaited world = (awaited.reply, final (forEach awaited.meanwhile interrupt) world) :=
  bind_ok (interrupts_return awaited.meanwhile world)

/-- An await preserves every ambient property, whichever way it is answered. -/
theorem Ambient.keeps_await (stable : Ambient invariant) {α : Type} (awaited : Awaited α) :
    Keeps invariant (await awaited) :=
  keeps_bind (stable.keeps_interrupts awaited.meanwhile) fun _ => keeps_ofExcept awaited.reply

/-- A call that is answered hands over its answer. -/
theorem Ambient.ensures_await_ok (stable : Ambient invariant) {α : Type} {awaited : Awaited α}
    {answer : α} (answered : awaited.reply = .ok answer) {raised : Failure → World → Prop} :
    Ensures invariant (await awaited) (fun found world => found = answer ∧ invariant world)
      raised := by
  intro world holds
  have kept := (stable.keeps_interrupts awaited.meanwhile).final holds
  rw [await_run, answered]
  exact ⟨rfl, kept⟩

end Frames

end TradingLoop

end IgTradingBot
