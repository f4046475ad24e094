import IgTradingBot.Loop.Reconciliation

/-!
# Trading cycle and run

`_trading_cycle` and `_run_loop`. The position list that decides between management
and entry is the one fetched at the head of the cycle; it stays the same while the
instruments are traded one after the other. The analysis of an instrument is an input:
an awaited call that answers with at most one signal of that instrument.
-/

namespace IgTradingBot

open Sequential Sequential.Program

/-- What the step of one instrument meets. -/
structure EpicInput where
  ready : Bool := true
  analysis : Awaited (Option Signal)
  manage : ManageScript := {}
  close : CloseScript := { request := { reply := .ok {} } }
  entry : EntryScript

/-- What a cycle meets: the connection, the account, the instruments in their order,
and the pause after the cycle. -/
structure CycleInput where
  connected : Bool := true
  connecting : List Interference := []
  account : AccountScript
  epics : List (String × EpicInput)
  pause : List Interference := []

/-- One start of the loop: whether it connects, and its cycles. -/
structure StartInput where
  connects : Bool := true
  cycles : List CycleInput

namespace TradingLoop

/-- Pass a signal through the gate and, when it is not rejected, on to the entry. -/
def gatedEntry (config : LoopConfig) (script : EntryScript) (signal : Signal) :
    LoopProgram Unit := do
  let rejection ← entryGateRejectionReason signal
  match rejection with
  | some _ => rejectTrade
  | none => enterSignal config script signal

/-- Whether a signal asks for the other direction than a position has. -/
def signalFlipped (position : PositionDict) (signal : Signal) : Bool :=
  truthyText position.data.direction && decide (position.data.direction ≠ some signal.direction)

/-- Manage a position; when the signal has flipped, close it and try the entry in the
new direction. -/
def managePosition (config : LoopConfig) (epic : String) (input : EpicInput)
    (signal : Option Signal) (position : PositionDict) : LoopProgram Unit := do
  manageProfessionalPosition input.manage position epic
  match signal with
  | some flipping =>
    if signalFlipped position flipping then do
      let closed ← closePosition config input.close position epic
      if closed then gatedEntry config input.entry flipping else pure ()
    else pure ()
  | none => pure ()

/-- Try an entry while fewer positions are listed than are allowed. -/
def tryEntry (config : LoopConfig) (input : EpicInput) (signal : Signal) : LoopProgram Unit := do
  let openPositions ← read (·.desk.openPositions)
  if openPositions.length < limits.maxOpenPositions then gatedEntry config input.entry signal
  else pure ()

/-- Trade one instrument; an exception ends its step only. -/
def tradeInstrument (config : LoopConfig) (epic : String) (input : EpicInput) :
    LoopProgram Unit :=
  rescue
    (do
      let analysed ← await input.analysis
      let signal := analysed.map fun found => { found with epic }
      let openPosition ← read fun world => getOpenPosition world.desk.openPositions epic
      match openPosition, signal with
      | some position, _ => managePosition config epic input signal position
      | none, some entering => tryEntry config input entering
      | none, none => pure ())
    (fun _ => pure ())

/-- Trade the instruments in their order until the loop is stopped. -/
def tradeInstruments (config : LoopConfig) : List (String × EpicInput) → LoopProgram Unit
  | [] => pure ()
  | (epic, input) :: rest => do
    let running ← read (·.desk.running)
    if running then do
      if input.ready then tradeInstrument config epic input else pure ()
      tradeInstruments config rest
    else pure ()

/-- One trading cycle. -/
def tradingCycle (config : LoopConfig) (input : CycleInput) : LoopProgram Unit :=
  if input.connected then do
    updateAccountState config input.account
    tradeInstruments config input.epics
  else forEach input.connecting interrupt

/-- Run a cycle and count its exception; true when there have been too many. -/
def guardedCycle (config : LoopConfig) (input : CycleInput) : LoopProgram Bool :=
  rescue
    (do
      tradingCycle config input
      pure false)
    (fun _ => do
      setDesk fun desk => { desk with errors := desk.errors + 1 }
      read fun world => decide (50 < world.desk.errors))

/-- Cycle after cycle, with a pause between them, while the loop runs. -/
def runCycles (config : LoopConfig) : List CycleInput → LoopProgram Unit
  | [] => pure ()
  | input :: rest => do
    let running ← read (·.desk.running)
    if running then do
      let stopping ← guardedCycle config input
      if stopping then pure ()
      else do
        forEach input.pause interrupt
        runCycles config rest
    else pure ()

/-- A start of the loop renews the counters of its state; the books, the position list
and the database stay. -/
def startState (desk : Desk) : Desk :=
  if desk.running then desk
  else
    { desk with
        running := true
        signalsGenerated := 0
        tradesExecuted := 0
        tradesRejected := 0
        tradesClosed := 0
        totalPnl := 0
        errors := 0 }

/-- One start of the loop, until it ends. -/
def runLoop (config : LoopConfig) (input : StartInput) : LoopProgram Unit := do
  setDesk startState
  if input.connects then runCycles config input.cycles else pure ()
  setDesk fun desk => { desk with running := false }

/-- A run: the loop is started any number of times. -/
def run (config : LoopConfig) (starts : List StartInput) : LoopProgram Unit :=
  forEach starts (runLoop config)

/-- The world when the loop is constructed: fresh books of the current day and no
events yet, with any risk engine, desk and broker. -/
def constructed (clock : ℚ) (schedule : ℕ → ℚ) (engine : RiskEngine) (desk : Desk)
    (openAtBroker : ℕ) : World :=
  { clock, schedule, books := { dailyTradeDate := utcDay clock }, engine, desk, openAtBroker }

/-- A demo loop whose strategy is approved for forward tests. -/
def demoConfig : LoopConfig := { professionalDemoForwardApproved := true }

/-- A world of the sixth day since the epoch, one second later at every reading of the
clock, with tight spreads and no position. -/
def demoWorld : World :=
  constructed 500000 (fun reading => 500000 + reading) { drawdownMonitor := .create 20000 500000 }
    { lastSnapshots :=
        (AList.singleton "CS.D.USDJPY.CFD.IP" ⟨150, 15001 / 100⟩).insert "CS.D.EURUSD.CFD.IP"
          ⟨11 / 10, 11001 / 10000⟩ } 0

/-- A long signal with a stop of three and a target of six average true ranges. -/
def demoSignal (epic : String) : Signal :=
  { epic
    direction := "BUY"
    currentPrice := 11 / 10
    stopDistance := 15 / 10000
    limitDistance := 30 / 10000
    atr := 5 / 10000
    confidence := 70 }

/-- An order that the broker accepts with one position. -/
def demoAcceptance (dealId : String) : ExecutionScript :=
  { steps := [.positionOpened]
    reply := .ok
      { dealStatus := some "ACCEPTED", dealId := some dealId, level := some (.number (11 / 10)) } }

/-- A step that finds a signal and meets an execution. -/
def demoStep (epic : String) (execution : ExecutionScript) : String × EpicInput :=
  (epic,
    { analysis := { reply := .ok (some (demoSignal epic)) }
      entry := { risk := { scalingFactor := { reply := .ok 10000 } }, execution } })

/-- A cycle over steps, with a position list that the broker answers. -/
def demoCycle (positions : List PositionDict) (epics : List (String × EpicInput)) : CycleInput :=
  { account := { positions := { reply := .ok positions } }, epics }

/-- Every step of a run meets a condition. -/
def EachStep (permitted : EpicInput → Prop) (starts : List StartInput) : Prop :=
  ∀ start ∈ starts, ∀ cycle ∈ start.cycles, ∀ step ∈ cycle.epics, permitted step.2

/-- Every step of a run meets a condition together with its instrument. -/
def EachEpicStep (permitted : String → EpicInput → Prop) (starts : List StartInput) : Prop :=
  ∀ start ∈ starts, ∀ cycle ∈ start.cycles, ∀ step ∈ cycle.epics, permitted step.1 step.2

/-- What an invariant needs for a whole run: it survives the gate, the closes, the management
of positions and the updates of the account state, and a gated entry that was tried below
the position limit, for every step that is permitted. -/
structure CycleContracts (config : LoopConfig) (permitted : EpicInput → Prop)
    (invariant : World → Prop) : Prop
    extends GateRules invariant, CloseContracts config invariant,
      AccountContracts config invariant where
  keepsManagement : ∀ script position epic,
    Keeps invariant (manageProfessionalPosition script position epic)
  entered : ∀ epic input found, permitted input → input.analysis.reply = .ok (some found) →
    Ensures
      (fun world => invariant world ∧
        world.desk.openPositions.length < limits.maxOpenPositions)
      (gatedEntry config input.entry { found with epic }) (fun _ => invariant) (fun _ => invariant)

/-- The same where a step is permitted together with its instrument. -/
structure StepContracts (config : LoopConfig) (permitted : String → EpicInput → Prop)
    (invariant : World → Prop) : Prop
    extends GateRules invariant, CloseContracts config invariant,
      AccountContracts config invariant where
  keepsManagement : ∀ script position epic,
    Keeps invariant (manageProfessionalPosition script position epic)
  entered : ∀ epic input found, permitted epic input → input.analysis.reply = .ok (some found) →
    Ensures
      (fun world => invariant world ∧
        world.desk.openPositions.length < limits.maxOpenPositions)
      (gatedEntry config input.entry { found with epic }) (fun _ => invariant) (fun _ => invariant)

/-- A condition on the step alone is one that does not look at the instrument. -/
theorem CycleContracts.byStep {config : LoopConfig} {permitted : EpicInput → Prop}
    {invariant : World → Prop} (contracts : CycleContracts config permitted invariant) :
    StepContracts config (fun _ => permitted) invariant where
  toGateRules := contracts.toGateRules
  answered := contracts.answered
  keepsPersistence := contracts.keepsPersistence
  listed := contracts.listed
  keepsReconciliation := contracts.keepsReconciliation
  keepsManagement := contracts.keepsManagement
  entered := contracts.entered

/-- An incidental property needs no contracts about the records of deals. -/
structure CycleRules (config : LoopConfig) (permitted : EpicInput → Prop)
    (invariant : World → Prop) : Prop
    extends GateRules invariant, CloseRules invariant, AccountRules invariant where
  entered : ∀ epic input found, permitted input → input.analysis.reply = .ok (some found) →
    Ensures
      (fun world => invariant world ∧
        world.desk.openPositions.length < limits.maxOpenPositions)
      (gatedEntry config input.entry { found with epic }) (fun _ => invariant) (fun _ => invariant)

theorem CycleRules.contracts {config : LoopConfig} {permitted : EpicInput → Prop}
    {invariant : World → Prop} (rules : CycleRules config permitted invariant) :
    CycleContracts config permitted invariant where
  toGateRules := rules.toGateRules
  answered := rules.answered
  keepsPersistence := rules.keeps_persistClosedTrade config
  listed := rules.listed
  keepsReconciliation := rules.toAccountRules.keeps_reconcile config
  keepsManagement := rules.toCloseRules.management.keeps_manageProfessionalPosition
  entered := rules.entered

/-- A gated entry preserves what satisfies the rules of the gate and the contracts of an
execution. -/
theorem EntryContracts.keeps_gatedEntry {invariant : World → Prop}
    (contracts : EntryContracts invariant) (gate : GateRules invariant) (config : LoopConfig)
    (script : EntryScript) (signal : Signal) : Keeps invariant (gatedEntry config script signal) := by
  apply keeps_bind (gate.keeps_gate signal)
  intro rejection
  cases rejection with
  | some reason => exact contracts.keeps_rejectTrade
  | none =>
    apply contracts.ensures_enterSignal config script signal (fun _ holds => holds)
      fun _ holds => holds
    intro approved
    exact (contracts.keeps_executeSignal config script.execution approved).enter
      (fun _ holds => holds.1)

/-- The position list stays the same through the gate and the closes. -/
theorem listing_incidental (positions : List PositionDict) :
    Incidental fun world => world.desk.openPositions = positions where
  clock _ _ _ holds := holds
  engine _ _ _ holds := holds
  desk _ _ listed holds := listed.trans holds
  noted _ _ _ holds := holds
  closed _ holds := holds

theorem listing_gate_rules (positions : List PositionDict) :
    GateRules fun world => world.desk.openPositions = positions where
  toAmbient := (listing_incidental positions).toAmbient
  rolled _ holds := holds
  realizedRead _ _ holds := holds

theorem listing_close_rules (positions : List PositionDict) :
    CloseRules fun world => world.desk.openPositions = positions where
  toIncidental := listing_incidental positions
  answered _ _ _ _ _ holds := holds

section Frames

variable {invariant : World → Prop} {config : LoopConfig} {permitted : String → EpicInput → Prop}

/-- After a strategy close the position is still in the list of this cycle, so the gate
rejects the entry in the new direction. -/
theorem GateRules.ensures_reentry (rules : GateRules invariant) (config : LoopConfig)
    (script : EntryScript) (signal : Signal) (positions : List PositionDict)
    (listed : getOpenPosition positions signal.epic ≠ none) :
    Ensures (fun world => invariant world ∧ world.desk.openPositions = positions)
      (gatedEntry config script signal) (fun _ => invariant) (fun _ => invariant) := by
  have gated := (rules.keeps_gate signal).beside
    ((listing_gate_rules positions).keeps_gate signal)
  apply ensures_bind gated.traced
  intro rejection
  cases rejection with
  | some reason =>
    exact rules.keeps_rejectTrade.enter (fun _ holds => holds.1.1)
  | none =>
    rintro world ⟨⟨_, same⟩, earlier, _, passed⟩
    have notListed := (gate_clears passed).notListed
    rw [same] at notListed
    exact absurd notListed listed

/-- The management of a listed position never enters. -/
theorem StepContracts.ensures_managePosition (contracts : StepContracts config permitted invariant)
    (epic : String) (input : EpicInput) (found : Option Signal) (position : PositionDict)
    (positions : List PositionDict) (listed : getOpenPosition positions epic ≠ none) :
    Ensures (fun world => invariant world ∧ world.desk.openPositions = positions)
      (managePosition config epic input (found.map fun signal => { signal with epic }) position)
      (fun _ => invariant) (fun _ => invariant) := by
  have leave : Ensures (fun world => invariant world ∧ world.desk.openPositions = positions)
      (pure () : LoopProgram Unit) (fun _ => invariant) (fun _ => invariant) :=
    ensures_pure () fun _ holds => holds.1
  apply ensures_bind ((contracts.keepsManagement input.manage position epic).beside
    ((listing_close_rules positions).management.keeps_manageProfessionalPosition input.manage
      position epic))
  intro _
  cases found with
  | none => exact leave
  | some signal =>
    by_cases flipped : signalFlipped position { signal with epic } = true
    · simp only [Option.map_some, flipped, if_true]
      apply ensures_bind ((contracts.keeps_closePosition input.close position epic).beside
        (((listing_close_rules positions).contracts config).keeps_closePosition input.close
          position epic))
      intro accepted
      cases accepted with
      | false => exact leave
      | true => exact contracts.ensures_reentry config input.entry _ positions listed
    · simp only [Option.map_some, flipped]
      exact leave

/-- An entry is tried only while fewer positions are listed than are allowed. -/
theorem StepContracts.ensures_tryEntry (contracts : StepContracts config permitted invariant)
    (epic : String) (input : EpicInput) (signal : Signal) (allowed : permitted epic input)
    (reply : input.analysis.reply = .ok (some signal)) :
    Keeps invariant (tryEntry config input { signal with epic }) := by
  apply ensures_read_bind
  intro openPositions
  by_cases below : openPositions.length < limits.maxOpenPositions
  · rw [if_pos below]
    rintro world ⟨holds, rfl⟩
    exact contracts.entered epic input signal allowed reply world ⟨holds, below⟩
  · rw [if_neg below]
    exact ensures_pure () fun _ holds => holds.1

/-- One instrument is traded by managing its position or by trying an entry. -/
theorem StepContracts.keeps_tradeInstrument (contracts : StepContracts config permitted invariant)
    (epic : String) (input : EpicInput) (allowed : permitted epic input) :
    Keeps invariant (tradeInstrument config epic input) := by
  apply keeps_rescue
  · apply ensures_bind (contracts.keeps_await input.analysis).traced
    intro analysed
    apply ensures_of_known (input.analysis.reply = .ok analysed)
    · rintro world ⟨_, earlier, _, answered⟩
      rw [await_run] at answered
      exact (Prod.mk.inj answered).1
    intro reply
    apply ensures_read_bind
    intro openPosition
    cases openPosition with
    | some position =>
      rintro world ⟨⟨holds, _⟩, found⟩
      have listed : getOpenPosition world.desk.openPositions epic ≠ none := by simp [found]
      exact contracts.ensures_managePosition epic input analysed position _ listed world ⟨holds, rfl⟩
    | none =>
      cases analysed with
      | none => exact ensures_pure () fun _ holds => holds.1.1
      | some signal =>
        have entered := contracts.ensures_tryEntry epic input signal allowed reply
        exact entered.enter (fun _ holds => holds.1.1)
  · intro _
    exact keeps_pure _

/-- The step lemma of a cycle, instrument after instrument. The induction is on the
instruments that are left. -/
theorem StepContracts.keeps_tradeInstruments (contracts : StepContracts config permitted invariant)
    (epics : List (String × EpicInput)) (allowed : ∀ step ∈ epics, permitted step.1 step.2) :
    Keeps invariant (tradeInstruments config epics) := by
  induction epics with
  | nil => exact keeps_pure ()
  | cons step rest inductionHypothesis =>
    have remaining : Keeps invariant (tradeInstruments config rest) :=
      inductionHypothesis fun later member => allowed later (List.mem_cons_of_mem step member)
    apply keeps_bind (keeps_read _)
    intro running
    apply keeps_ite
    · intro _
      apply keeps_ite
      · intro _
        exact keeps_bind (contracts.keeps_tradeInstrument step.1 step.2 (allowed step List.mem_cons_self))
          fun _ => remaining
      · intro _
        exact remaining
    · intro _
      exact keeps_pure _

/-- A cycle preserves whatever satisfies the rules of a run. -/
theorem StepContracts.keeps_tradingCycle (contracts : StepContracts config permitted invariant)
    (input : CycleInput) (allowed : ∀ step ∈ input.epics, permitted step.1 step.2) :
    Keeps invariant (tradingCycle config input) := by
  apply keeps_ite
  · intro _
    exact keeps_bind (contracts.keeps_updateAccountState input.account)
      fun _ => contracts.keeps_tradeInstruments input.epics allowed
  · intro _
    exact contracts.keeps_interrupts _

theorem StepContracts.keeps_guardedCycle (contracts : StepContracts config permitted invariant)
    (input : CycleInput) (allowed : ∀ step ∈ input.epics, permitted step.1 step.2) :
    Keeps invariant (guardedCycle config input) := by
  apply keeps_rescue
  · exact keeps_bind (contracts.keeps_tradingCycle input allowed) fun _ => keeps_pure _
  · intro _
    apply keeps_bind
    · exact contracts.keeps_setAside fun _ => ⟨rfl, rfl, rfl, rfl⟩
    · intro _
      exact keeps_read _

theorem StepContracts.keeps_runCycles (contracts : StepContracts config permitted invariant)
    (cycles : List CycleInput)
    (allowed : ∀ cycle ∈ cycles, ∀ step ∈ cycle.epics, permitted step.1 step.2) :
    Keeps invariant (runCycles config cycles) := by
  induction cycles with
  | nil => exact keeps_pure ()
  | cons cycle rest inductionHypothesis =>
    have remaining : Keeps invariant (runCycles config rest) :=
      inductionHypothesis fun later member => allowed later (List.mem_cons_of_mem cycle member)
    apply keeps_bind (keeps_read _)
    intro running
    apply keeps_ite
    · intro _
      apply keeps_bind (contracts.keeps_guardedCycle cycle (allowed cycle List.mem_cons_self))
      intro stopping
      apply keeps_ite
      · intro _
        exact keeps_pure _
      · intro _
        exact keeps_bind (contracts.keeps_interrupts _) fun _ => remaining
    · intro _
      exact keeps_pure _

/-- The run lemma: what every permitted step preserves, every run of permitted steps
preserves. -/
theorem StepContracts.keeps_run (contracts : StepContracts config permitted invariant)
    (starts : List StartInput) (allowed : EachEpicStep permitted starts) :
    Keeps invariant (run config starts) := by
  apply keeps_forEach
  intro start member
  apply keeps_bind
  · apply contracts.keeps_setAside
    intro desk
    by_cases running : desk.running = true
    · simp only [startState, running, if_true]
      exact ⟨rfl, rfl, rfl, rfl⟩
    · simp only [startState, running]
      exact ⟨rfl, rfl, rfl, rfl⟩
  intro _
  have stopped : Keeps invariant (setDesk fun desk => { desk with running := false }) :=
    contracts.keeps_setAside fun _ => ⟨rfl, rfl, rfl, rfl⟩
  apply keeps_ite
  · intro _
    exact keeps_bind (contracts.keeps_runCycles start.cycles (allowed start member)) fun _ => stopped
  · intro _
    exact stopped

/-- A cycle whose steps are permitted, whatever their instruments are. -/
theorem CycleContracts.keeps_tradingCycle {permitted : EpicInput → Prop}
    (contracts : CycleContracts config permitted invariant) (input : CycleInput)
    (allowed : ∀ step ∈ input.epics, permitted step.2) :
    Keeps invariant (tradingCycle config input) :=
  contracts.byStep.keeps_tradingCycle input allowed

theorem CycleContracts.keeps_run {permitted : EpicInput → Prop}
    (contracts : CycleContracts config permitted invariant) (starts : List StartInput)
    (allowed : EachStep permitted starts) : Keeps invariant (run config starts) :=
  contracts.byStep.keeps_run starts allowed

end Frames

end TradingLoop

end IgTradingBot
