import IgTradingBot.Loop.RiskControls

/-!
# News overlay and order execution

What happens to a signal after the risk controls: the news layer may drop it or
halve its size, and then the order is submitted, its reply is booked and the
trade is persisted. Every await of this path is a place where other tasks run;
while the order itself is on its way, the broker may open positions.
-/

namespace IgTradingBot

open Sequential Sequential.Program

/-- The action of a news decision. -/
inductive NewsAction where
  | allowNormal
  | requireExtraConfirmation
  | reduceSize
  | blockTrade
  deriving DecidableEq, Repr

/-- What happens while an order is on its way. -/
inductive OrderStep where
  | interrupted (interference : Interference)
  | positionOpened
  deriving DecidableEq, Repr

/-- What a database session meets, and how it ends. -/
structure DatabaseSession where
  meanwhile : List Interference := []
  ending : SessionEnd := .committed

/-- What the persistence of an opened trade meets: the identifiers of the new rows
and the session. -/
structure PersistOpenScript where
  tradeId : String := ""
  positionId : String := ""
  session : DatabaseSession := {}

/-- What an execution meets: the steps of the broker, the reply to the order, the
interruptions while the kill switch is activated, and the persistence. -/
structure ExecutionScript where
  steps : List OrderStep := []
  reply : Except Failure DealReply
  activation : List Interference := []
  persist : PersistOpenScript := {}

/-- Everything that an entry meets after the gate. -/
structure EntryScript where
  risk : RiskScript
  news : Awaited NewsAction := { reply := .ok .allowNormal }
  execution : ExecutionScript

namespace TradingLoop

/-- Leave a session. The block's changes are kept when the session commits; a failure
raises, and the changes are kept only if the commit went through before it was
reported as failed. -/
def leaveSession {α : Type} (ending : SessionEnd) (ended : Except Failure α × Database) :
    LoopProgram α :=
  match ended.1, ending with
  | .ok answer, .committed => do
      setDesk fun desk => { desk with database := ended.2 }
      pure answer
  | .ok _, .failed kept => do
      setDesk fun desk => { desk with database := if kept then ended.2 else desk.database }
      raise .database
  | .error failure, _ => raise failure

/-- Run a block inside a session, at the time of its clock reading. -/
def inSession {α : Type} (script : DatabaseSession) (block : ℚ → Database.Query α) :
    LoopProgram α := do
  forEach script.meanwhile interrupt
  let now ← readClock
  let database ← read (·.desk.database)
  leaveSession script.ending (block now database)

/-- What a news decision makes of a signal: it lets it through, drops it, or halves its
size. -/
def newsCheck (action : NewsAction) (signal : Signal) : Option Signal :=
  match action with
  | .blockTrade => none
  | .requireExtraConfirmation => if signal.extraConfirmation then some signal else none
  | .reduceSize => some { signal with size := some (signal.size.getD limits.tradeSize / 2) }
  | .allowNormal => some signal

/-- Apply the news layer. -/
def applyNewsSafety (config : LoopConfig) (news : Awaited NewsAction) (signal : Signal) :
    LoopProgram (Option Signal) :=
  if config.hasNewsSafetyLayer then do
    let action ← await news
    match newsCheck action signal with
    | some checked => pure (some checked)
    | none => do
        rejectTrade
        pure none
  else pure (some signal)

/-- The execution guards on account and strategy. -/
def executionBlocked (config : LoopConfig) : Option Failure :=
  if config.accountType = "LIVE" ∧ ¬ config.professionalLiveApproved then
    some (.runtime "Live execution is blocked: strategy is not approved")
  else if config.accountType = "LIVE" ∧ config.strategyMode = "LEGACY_SMA" then
    some (.runtime "Legacy SMA is never authorized for live execution")
  else if config.accountType = "DEMO" ∧
      (config.strategyMode = "PROFESSIONAL" ∨ config.strategyMode = "GUARDED_AUTO") ∧
      ¬ config.professionalDemoForwardApproved then
    some (.runtime "Demo execution is blocked: strategy is not approved for forward test")
  else none

/-- The order of a signal. -/
def openingOrder (signal : Signal) : OpeningOrder :=
  ⟨signal.epic, signal.direction, signal.size.getD limits.tradeSize, signal.stopDistance,
    signal.limitDistance⟩

/-- The broker opens a position. -/
def brokerOpens (epic : String) (world : World) : World :=
  { world with
      openAtBroker := world.openAtBroker + 1
      history :=
        .positionOpened epic world.clock world.desk.openPositions.length world.openAtBroker ::
          world.history }

/-- One step while an order is on its way. -/
def orderStep (epic : String) : OrderStep → LoopProgram Unit
  | .interrupted interference => interrupt interference
  | .positionOpened => do
      let _ ← readClock
      modify (brokerOpens epic)

/-- The submission of an order is recorded. -/
def recordOrder (order : OpeningOrder) (world : World) : World :=
  { world with
      history := .orderSubmitted order world.engine.killSwitch.isActive :: world.history }

/-- Submit an order and wait for its reply. -/
def placeOrder (script : ExecutionScript) (order : OpeningOrder) : LoopProgram DealReply := do
  modify (recordOrder order)
  forEach script.steps (orderStep order.epic)
  ofExcept script.reply

/-- `result.get("dealStatus", "unknown") == "ACCEPTED"`. -/
def reportsAccepted (reply : DealReply) : Bool := reply.dealStatus = some "ACCEPTED"

/-- Count an accepted opening in the books of the current day. -/
def countOpening (epic : String) : LoopProgram Unit := do
  setDesk fun desk => { desk with tradesExecuted := desk.tradesExecuted + 1 }
  resetDailyTradeCounterIfNeeded
  setBooks fun books => { books with dailyTradeCount := books.dailyTradeCount + 1 }
  let now ← readClock
  setBooks fun books =>
    { books with lastTradeTimeByEpic := books.lastTradeTimeByEpic.insert epic now }

/-- Activate the kill switch of the risk engine. -/
def activateKillSwitch (meanwhile : List Interference) (reason : String) : LoopProgram Unit := do
  forEach meanwhile interrupt
  let now ← readClock
  setEngine fun engine =>
    { engine with killSwitch := (engine.killSwitch.activate now reason "manual").1 }

/-- A protective level: the one that the broker reports, or the computed one. -/
def levelOr (reported : Option Numeral) (computed : ℚ) : Numeral :=
  match reported with
  | some level => if Numeral.truthy (some level) then level else .number computed
  | none => .number computed

/-- Rows of an opened trade and of its position. -/
def insertOpenTrade (script : PersistOpenScript) (signal : Signal) (entryPrice : ℚ)
    (dealId : String) (dealReference : Option String) (stopLoss takeProfit openedAt : ℚ) :
    Database.Query Unit := do
  let direction := if signal.direction = "BUY" then "LONG" else "SHORT"
  let size := signal.size.getD limits.tradeSize
  let igDealId := if dealId = "" then none else some dealId
  Database.createTrade
    { id := script.tradeId, instrument := signal.epic, direction, size, entryPrice, igDealId
      igDealReference := dealReference, strategy := signal.strategyName, openedAt
      confidenceScore := signal.confidence }
  Database.createPosition
    { id := script.positionId, tradeId := script.tradeId, instrument := signal.epic, direction
      size, entryPrice, igDealId, stopLoss := some stopLoss, takeProfit := some takeProfit }

/-- The insertion of the rows of an opened trade is recorded. -/
def recordRows (keys : RowKeys) (world : World) : World :=
  { world with history := .openingPersisted keys :: world.history }

/-- Persist an accepted trade and its open position; a failure is only reported. -/
def persistOpenTrade (script : PersistOpenScript) (signal : Signal) (dealId : String)
    (dealReference : Option String) (entryLevel stopLevel limitLevel : Numeral) :
    LoopProgram Unit :=
  rescue
    (do
      let entryPrice ← ofExcept entryLevel.parse
      let stopLoss ← ofExcept stopLevel.parse
      let takeProfit ← ofExcept limitLevel.parse
      modify (recordRows ⟨script.tradeId, script.positionId, dealId⟩)
      inSession script.session
        (insertOpenTrade script signal entryPrice dealId dealReference stopLoss takeProfit)
      if dealId = "" then pure ()
      else
        setDesk fun desk =>
          { desk with
              dealRecords := desk.dealRecords.insert dealId ⟨script.tradeId, script.positionId⟩ })
    (fun _ => pure ())

/-- The management data of a professional position. -/
def professionalPosition (signal : Signal) (price : ℚ) (limitLevel : Numeral) :
    ProfessionalPosition :=
  let tp1Distance := match signal.tp1Distance with
    | some distance => if distance = 0 then signal.stopDistance else distance
    | none => signal.stopDistance
  { direction := signal.direction
    entryLevel := price
    tp1Level :=
      if signal.direction = "BUY" then price + tp1Distance else price - tp1Distance
    finalTargetLevel := limitLevel
    partialCloseFraction := signal.partialCloseFraction
    size := signal.size.getD limits.tradeSize
    trailingEnabled := signal.trailingEnabled }

/-- The loop begins to manage a position. -/
def startManagement (dealId : String) (management : ProfessionalPosition) (world : World) :
    World :=
  { world with
      desk :=
        { world.desk with
          professionalPositions := world.desk.professionalPositions.insert dealId management }
      history := .managementStarted dealId :: world.history }

/-- Keep the management data and the rows of an accepted order. Without a deal
identifier or an entry level the kill switch is activated instead. -/
def keepOpening (script : ExecutionScript) (signal : Signal) (reply : DealReply) :
    LoopProgram Unit := do
  let dealId := reply.dealId.getD ""
  match reply.level with
  | some entryLevel =>
    if dealId ≠ "" ∧ Numeral.truthy (some entryLevel) then do
      let price ← ofExcept entryLevel.parse
      let long := signal.direction = "BUY"
      let stopLevel := levelOr reply.stopLevel (Decimals.quantizeHalfEven 5
        (if long then price - signal.stopDistance else price + signal.stopDistance))
      let limitLevel := levelOr reply.limitLevel (Decimals.quantizeHalfEven 5
        (if long then price + signal.limitDistance else price - signal.limitDistance))
      if signal.strategyName = "professional_ict" then
        modify (startManagement dealId (professionalPosition signal price limitLevel))
      else pure ()
      persistOpenTrade script.persist signal dealId reply.dealReference entryLevel stopLevel
        limitLevel
    else activateKillSwitch script.activation "Accepted trade missing deal ID or entry level"
  | none => activateKillSwitch script.activation "Accepted trade missing deal ID or entry level"

/-- Book the reply to an order. -/
def bookReply (script : ExecutionScript) (signal : Signal) (reply : DealReply) :
    LoopProgram Unit :=
  if reportsAccepted reply then do
    countOpening signal.epic
    keepOpening script signal reply
  else rejectTrade

/-- Execute an approved signal. Every exception counts as a rejected trade. -/
def executeSignal (config : LoopConfig) (script : ExecutionScript) (signal : Signal) :
    LoopProgram Unit :=
  rescue
    (match executionBlocked config with
      | some failure => raise failure
      | none => do
          let reply ← placeOrder script (openingOrder signal)
          bookReply script signal reply)
    (fun _ => rejectTrade)

/-- The path of a gated signal: risk controls, news layer, execution. -/
def enterSignal (config : LoopConfig) (script : EntryScript) (signal : Signal) :
    LoopProgram Unit := do
  let validated ← applyRiskControls config script.risk signal
  match validated with
  | none => pure ()
  | some validatedSignal => do
      let checked ← applyNewsSafety config script.news validatedSignal
      match checked with
      | none => pure ()
      | some approved => do
          setDesk fun desk => { desk with signalsGenerated := desk.signalsGenerated + 1 }
          executeSignal config script.execution approved

/-- The news layer changes nothing of a signal but its size. -/
theorem news_check_epic {action : NewsAction} {signal checked : Signal}
    (passed : newsCheck action signal = some checked) : checked.epic = signal.epic := by
  cases action with
  | allowNormal =>
    obtain rfl := Option.some.inj passed
    rfl
  | requireExtraConfirmation =>
    simp only [newsCheck] at passed
    split_ifs at passed
    obtain rfl := Option.some.inj passed
    rfl
  | reduceSize =>
    obtain rfl := Option.some.inj passed
    rfl
  | blockTrade => cases passed

/-- A signal that passes the news layer was let through by its decision, which came
after everything that happened meanwhile; without a layer it passes at once. -/
theorem apply_news_safety_passes {config : LoopConfig} {news : Awaited NewsAction}
    {signal approved : Signal} {world after : World}
    (passed : applyNewsSafety config news signal world = (.ok (some approved), after)) :
    (config.hasNewsSafetyLayer = false ∧ approved = signal ∧ after = world) ∨
      (config.hasNewsSafetyLayer = true ∧ ∃ action, news.reply = .ok action ∧
        newsCheck action signal = some approved ∧
        after = final (forEach news.meanwhile interrupt) world) := by
  unfold applyNewsSafety at passed
  split_ifs at passed with layer
  · right
    obtain ⟨action, middle, answered, checked⟩ := bind_eq_ok.mp passed
    rw [await_run] at answered
    obtain ⟨reply, rfl⟩ := Prod.mk.inj answered
    refine ⟨layer, action, reply, ?_⟩
    cases verdict : newsCheck action signal with
    | none =>
      simp only [verdict] at checked
      cases checked
    | some value =>
      simp only [verdict] at checked
      cases checked
      exact ⟨rfl, rfl⟩
  · left
    cases passed
    exact ⟨Bool.eq_false_iff.mpr layer, rfl, rfl⟩

/-- What an invariant needs for the counting of an opening: it survives the opening of
positions and the new counters. -/
structure CountingRules (invariant : World → Prop) : Prop extends Rolls invariant where
  opened : ∀ world epic, invariant world → invariant (brokerOpens epic world)
  counted : ∀ world count times, invariant world →
    invariant { world with
      books := { world.books with dailyTradeCount := count, lastTradeTimeByEpic := times } }

/-- What an invariant needs for the booking of a reply: besides, it survives the records that
are kept of an accepted order. -/
structure OpeningContracts (invariant : World → Prop) : Prop extends CountingRules invariant where
  keepsOpening : ∀ script signal reply, Keeps invariant (keepOpening script signal reply)

/-- An incidental property needs no contract about the records of an order. -/
structure OpeningRules (invariant : World → Prop) : Prop
    extends CountingRules invariant, Incidental invariant

/-- What an invariant needs for an execution: besides, it survives the submission of
orders. -/
structure EntryContracts (invariant : World → Prop) : Prop extends OpeningContracts invariant where
  submitted : ∀ world order, invariant world → invariant (recordOrder order world)

/-- An incidental property with the rules of an execution. -/
structure EntryRules (invariant : World → Prop) : Prop extends OpeningRules invariant where
  submitted : ∀ world order, invariant world → invariant (recordOrder order world)

/-- Every order that was submitted satisfies a condition, together with the state of the
kill switch at its submission. -/
def OrdersSatisfy (condition : OpeningOrder → Bool → Prop) (world : World) : Prop :=
  ∀ order active, .orderSubmitted order active ∈ world.history → condition order active

/-- How a signal comes to its execution: from a world, the risk controls approve it, and
the news layer lets it through. -/
structure Entering (config : LoopConfig) (script : EntryScript) (signal approved : Signal)
    (start world : World) : Prop where
  through : ∃ validated positionSize middle after,
    Approval config script.risk signal validated positionSize start middle ∧
      applyNewsSafety config script.news validated middle = (.ok (some approved), after) ∧
      world.engine = after.engine

/-- A signal stays in its instrument on the way to its execution. -/
theorem Entering.epic_eq {config : LoopConfig} {script : EntryScript} {signal approved : Signal}
    {start world : World} (entering : Entering config script signal approved start world) :
    approved.epic = signal.epic := by
  obtain ⟨validated, _, _, _, approval, passed, _⟩ := entering.through
  have validatedEpic : validated.epic = signal.epic := by rw [approval.validated_eq]
  obtain ⟨_, rfl, _⟩ | ⟨_, action, _, verdict, _⟩ := apply_news_safety_passes passed
  · exact validatedEpic
  · exact (news_check_epic verdict).trans validatedEpic

section Frames

variable {invariant : World → Prop}

/-- Other events leave the orders as they are. -/
theorem OrdersSatisfy.record {condition : OpeningOrder → Bool → Prop} {world : World}
    (holds : OrdersSatisfy condition world) (change : World) {event : LoopEvent}
    (recorded : change.history = event :: world.history)
    (other : ∀ order active, .orderSubmitted order active ≠ event) :
    OrdersSatisfy condition change := by
  intro order active member
  rw [recorded] at member
  obtain same | earlier := List.mem_cons.mp member
  · exact absurd same (other order active)
  · exact holds order active earlier

/-- A submitted order that satisfies the condition joins the others. -/
theorem OrdersSatisfy.submitted {condition : OpeningOrder → Bool → Prop} {world : World}
    (holds : OrdersSatisfy condition world) (order : OpeningOrder)
    (satisfied : condition order world.engine.killSwitch.isActive) :
    OrdersSatisfy condition (recordOrder order world) := by
  intro found active member
  obtain same | earlier := List.mem_cons.mp member
  · obtain ⟨rfl, rfl⟩ := LoopEvent.orderSubmitted.inj same
    exact satisfied
  · exact holds found active earlier

theorem orders_satisfy_openings (condition : OpeningOrder → Bool → Prop) :
    OpeningRules (OrdersSatisfy condition) where
  clock _ _ _ holds := holds
  engine _ _ _ holds := holds
  desk _ _ _ holds := holds
  closed _ holds := holds.record _ rfl (by simp)
  noted world event isNote holds := by
    apply holds.record _ rfl
    rintro order active rfl
    cases isNote
  rolled _ holds := holds
  opened _ _ holds := holds.record _ rfl (by simp)
  counted _ _ _ holds := holds

/-- The rule of sessions: the block runs on the database as it is after the interruptions, and
its changes are kept or not as the session ends. -/
theorem Ambient.ensures_inSession (stable : Ambient invariant) {α : Type}
    {script : DatabaseSession} {block : ℚ → Database.Query α} {after : α → World → Prop}
    {raised : Failure → World → Prop}
    (ended : ∀ world now answer database, invariant world →
      block now world.desk.database = (.ok answer, database) →
      (script.ending = .committed →
        after answer { world with desk := { world.desk with database } }) ∧
      ∀ kept, script.ending = .failed kept → raised .database
        { world with
          desk :=
            { world.desk with database := if kept then database else world.desk.database } })
    (failed : ∀ world now failure database, invariant world →
      block now world.desk.database = (.error failure, database) → raised failure world) :
    Ensures invariant (inSession script block) after raised := by
  have waited : Ensures invariant (forEach script.meanwhile interrupt) (fun _ => invariant) raised :=
    (stable.keeps_interrupts _).of_returns fun world =>
      ⟨(), _, interrupts_return script.meanwhile world⟩
  apply ensures_bind waited
  intro _
  apply ensures_bind stable.ensures_readClock
  intro now
  rintro world ⟨holds, _⟩
  rcases ran : block now world.desk.database with ⟨answer, database⟩
  have left : (do
      let database ← read (·.desk.database)
      leaveSession script.ending (block now database) : LoopProgram α) world =
        leaveSession script.ending (answer, database) world := by
    rw [← ran]
    rfl
  rw [left]
  cases answer with
  | error failure => exact failed world now failure database holds ran
  | ok answer =>
    obtain ⟨committed, failing⟩ := ended world now answer database holds ran
    cases ending : script.ending with
    | committed => exact committed ending
    | failed kept => exact failing kept ending

/-- A session that keeps its changes leaves what its block has made of the database; one that
does not, or whose block raises, leaves the database as it was. -/
theorem Ambient.ensures_session_end (stable : Ambient invariant) {α : Type}
    {script : DatabaseSession} {block : ℚ → Database.Query α} {ended : World → Prop}
    (changed : ∀ world now answer database, invariant world →
      block now world.desk.database = (.ok answer, database) →
      script.ending.keepsChanges = true → ended { world with desk := { world.desk with database } })
    (unchanged : ∀ world, invariant world → script.ending.keepsChanges = false ∨
      (∃ now failure database, block now world.desk.database = (.error failure, database)) →
      ended world) :
    Ensures invariant (inSession script block) (fun _ => ended) (fun _ => ended) := by
  apply stable.ensures_inSession
  · intro world now answer database holds returned
    refine ⟨fun ending => ?_, fun kept ending => ?_⟩
    · exact changed world now answer database holds returned (by rw [ending]; rfl)
    · cases kept with
      | true => exact changed world now answer database holds returned (by rw [ending]; rfl)
      | false => exact unchanged world holds (Or.inl (by rw [ending]; rfl))
  · intro world now failure database holds raised
    exact unchanged world holds (Or.inr ⟨now, failure, database, raised⟩)

/-- A session changes nothing but the database. -/
theorem Clerical.keeps_leaveSession (stable : Clerical invariant) {α : Type}
    (ending : SessionEnd) (ended : Except Failure α × Database) :
    Keeps invariant (leaveSession ending ended) := by
  obtain ⟨answer, database⟩ := ended
  cases answer with
  | error failure => exact keeps_raise failure
  | ok answer =>
    cases ending with
    | committed =>
      apply keeps_bind
      · exact stable.keeps_setDesk (fun _ => rfl) fun _ => rfl
      · intro _
        exact keeps_pure answer
    | failed kept =>
      apply keeps_bind
      · exact stable.keeps_setDesk (fun _ => rfl) fun _ => rfl
      · intro _
        exact keeps_raise _

theorem Clerical.keeps_inSession (stable : Clerical invariant) {α : Type}
    (script : DatabaseSession) (block : ℚ → Database.Query α) :
    Keeps invariant (inSession script block) := by
  apply keeps_bind (stable.keeps_interrupts _)
  intro _
  apply keeps_bind stable.keeps_readClock
  intro now
  exact keeps_bind (keeps_read _) fun database => stable.keeps_leaveSession _ _

/-- The news layer changes counters only; what it waits for is incidental. -/
theorem Ambient.keeps_applyNewsSafety (stable : Ambient invariant) (config : LoopConfig)
    (news : Awaited NewsAction) (signal : Signal) :
    Keeps invariant (applyNewsSafety config news signal) := by
  apply keeps_ite
  · intro _
    apply keeps_bind (stable.keeps_await news)
    intro action
    cases newsCheck action signal with
    | some checked => exact keeps_pure _
    | none => exact keeps_bind stable.keeps_rejectTrade fun _ => keeps_pure none
  · intro _
    exact keeps_pure _

theorem Ambient.keeps_activateKillSwitch (stable : Ambient invariant)
    (meanwhile : List Interference) (reason : String) :
    Keeps invariant (activateKillSwitch meanwhile reason) := by
  apply keeps_bind (stable.keeps_interrupts meanwhile)
  intro _
  exact keeps_bind stable.keeps_readClock fun _ =>
    stable.keeps_setEngine fun _ => ⟨rfl, Or.inl rfl⟩

theorem Clerical.keeps_persistOpenTrade (stable : Clerical invariant)
    (script : PersistOpenScript) (signal : Signal) (dealId : String)
    (dealReference : Option String) (entryLevel stopLevel limitLevel : Numeral) :
    Keeps invariant
      (persistOpenTrade script signal dealId dealReference entryLevel stopLevel limitLevel) := by
  apply keeps_rescue
  · apply keeps_bind (keeps_ofExcept _)
    intro entryPrice
    apply keeps_bind (keeps_ofExcept _)
    intro stopLoss
    apply keeps_bind (keeps_ofExcept _)
    intro takeProfit
    apply keeps_bind (keeps_modify fun world holds => stable.persisted world _ holds)
    intro _
    apply keeps_bind (stable.keeps_inSession _ _)
    intro _
    exact keeps_ite (fun _ => keeps_pure _)
      (fun _ => stable.keeps_setDesk (fun _ => rfl) fun _ => rfl)
  · intro _
    exact keeps_pure _

/-- What follows the counting of an accepted order preserves what the start of the management
and the persistence preserve. -/
theorem Ambient.keeps_keepOpening (stable : Ambient invariant)
    (started : ∀ world dealId signal price limitLevel, invariant world →
      invariant (startManagement dealId (professionalPosition signal price limitLevel) world))
    (persisted : ∀ script signal dealId dealReference entryLevel stopLevel limitLevel,
      dealId ≠ "" → Keeps invariant
        (persistOpenTrade script signal dealId dealReference entryLevel stopLevel limitLevel))
    (script : ExecutionScript) (signal : Signal) (reply : DealReply) :
    Keeps invariant (keepOpening script signal reply) := by
  cases levelOf : reply.level with
  | none =>
    simp only [keepOpening, levelOf]
    exact stable.keeps_activateKillSwitch _ _
  | some entryLevel =>
    simp only [keepOpening, levelOf]
    apply keeps_ite
    · rintro ⟨named, _⟩
      apply keeps_bind (keeps_ofExcept _)
      intro price
      apply keeps_ite
      · intro _
        apply keeps_bind
        · exact keeps_modify fun world holds => started world _ _ _ _ holds
        · intro _
          exact persisted _ _ _ _ _ _ _ named
      · intro _
        exact persisted _ _ _ _ _ _ _ named
    · intro _
      exact stable.keeps_activateKillSwitch _ _

/-- Incidental properties survive the start of the management. -/
theorem Incidental.keeps_keepOpening (stable : Incidental invariant) (script : ExecutionScript)
    (signal : Signal) (reply : DealReply) : Keeps invariant (keepOpening script signal reply) := by
  refine stable.toAmbient.keeps_keepOpening ?_
    (fun _ _ _ _ _ _ _ _ => stable.keeps_persistOpenTrade _ _ _ _ _ _ _) script signal reply
  intro world dealId signal price limitLevel holds
  let noted : World := { world with history := .managementStarted dealId :: world.history }
  have started : invariant noted := stable.noted world _ rfl holds
  exact stable.desk noted (startManagement dealId _ world).desk rfl started

theorem CountingRules.keeps_orderStep (rules : CountingRules invariant) (epic : String)
    (step : OrderStep) : Keeps invariant (orderStep epic step) := by
  cases step with
  | interrupted interference => exact rules.keeps_interrupt interference
  | positionOpened =>
    exact keeps_bind rules.keeps_readClock fun _ =>
      keeps_modify fun world holds => rules.opened world epic holds

/-- An incidental property survives the records of every accepted order. -/
theorem OpeningRules.contracts (rules : OpeningRules invariant) : OpeningContracts invariant where
  toCountingRules := rules.toCountingRules
  keepsOpening := rules.toIncidental.keeps_keepOpening

theorem EntryRules.entryContracts (rules : EntryRules invariant) : EntryContracts invariant where
  toOpeningContracts := rules.contracts
  submitted := rules.submitted

theorem CountingRules.keeps_countOpening (rules : CountingRules invariant) (epic : String) :
    Keeps invariant (countOpening epic) := by
  apply keeps_bind
  · exact rules.keeps_setAside fun _ => ⟨rfl, rfl, rfl, rfl⟩
  intro _
  apply keeps_bind rules.keeps_reset
  intro _
  apply keeps_bind (keeps_modify fun world holds => rules.counted world _ _ holds)
  intro _
  apply keeps_bind rules.keeps_readClock
  intro now
  exact keeps_modify fun world holds => rules.counted world _ _ holds

/-- An execution that is not blocked establishes what the record of its order does and
everything after it preserves. -/
theorem OpeningContracts.ensures_executeSignal (contracts : OpeningContracts invariant)
    {before : World → Prop} (config : LoopConfig) (script : ExecutionScript) (signal : Signal)
    (entry : ∀ world, before world → invariant world)
    (submitted : executionBlocked config = none → ∀ world, before world →
      invariant (recordOrder (openingOrder signal) world)) :
    Ensures before (executeSignal config script signal)
      (fun _ => invariant) (fun _ => invariant) := by
  have rejected : ∀ _ : Failure, Keeps invariant rejectTrade := fun _ => contracts.keeps_rejectTrade
  refine ensures_rescue ?_ rejected
  cases blocked : executionBlocked config with
  | some failure => exact ensures_raise failure entry
  | none =>
    have placed : Ensures before (placeOrder script (openingOrder signal))
        (fun _ => invariant) (fun _ => invariant) := by
      have recorded : Ensures before
          (modify (recordOrder (openingOrder signal)) : LoopProgram Unit)
          (fun _ => invariant) (fun _ => invariant) := ensures_modify _ (submitted blocked)
      apply ensures_bind recorded
      intro _
      apply keeps_bind (keeps_forEach fun step _ => contracts.keeps_orderStep _ step)
      intro _
      exact keeps_ofExcept _
    apply ensures_bind placed
    intro reply
    apply keeps_ite
    · intro _
      exact keeps_bind (contracts.keeps_countOpening _) fun _ => contracts.keepsOpening _ _ _
    · intro _
      exact contracts.keeps_rejectTrade

/-- An execution preserves whatever satisfies its contracts. -/
theorem EntryContracts.keeps_executeSignal (contracts : EntryContracts invariant)
    (config : LoopConfig) (script : ExecutionScript) (signal : Signal) :
    Keeps invariant (executeSignal config script signal) :=
  contracts.ensures_executeSignal config script signal (fun _ holds => holds)
    fun _ world holds => contracts.submitted world _ holds

/-- An entry ends as its execution does: nothing before it touches the books, the
position list or the orders. -/
theorem Ambient.ensures_enterSignal (stable : Ambient invariant) {before ended : World → Prop}
    (config : LoopConfig) (script : EntryScript) (signal : Signal)
    (started : ∀ world, before world → invariant world)
    (entry : ∀ world, invariant world → ended world)
    (executed : ∀ approved,
      Ensures (fun world => invariant world ∧
          ∃ start, before start ∧ Entering config script signal approved start world)
        (executeSignal config script.execution approved) (fun _ => ended) (fun _ => ended)) :
    Ensures before (enterSignal config script signal) (fun _ => ended) (fun _ => ended) := by
  have leave : ∀ {holds : World → Prop}, (∀ world, holds world → invariant world) →
      Ensures holds (pure () : LoopProgram Unit) (fun _ => ended) (fun _ => ended) :=
    fun known => ensures_pure () fun world holds => entry world (known world holds)
  have risked := (stable.keeps_applyRiskControls config script.risk signal).weaken started
    (fun _ _ holds => holds) (fun _ => entry)
  apply ensures_bind risked.traced
  intro validated
  cases validated with
  | none => exact leave fun _ holds => holds.1
  | some validatedSignal =>
    have passed := (stable.keeps_applyNewsSafety config script.news validatedSignal).weaken
      (fun world (holds : invariant world ∧ ∃ start, before start ∧
        applyRiskControls config script.risk signal start = (.ok (some validatedSignal), world)) =>
        holds.1) (fun _ _ holds => holds) (fun _ => entry)
    apply ensures_bind passed.traced
    intro checked
    cases checked with
    | none => exact leave fun _ holds => holds.1
    | some approved =>
      refine ensures_bind (ensures_modify _ ?_) fun _ => executed approved
      rintro after ⟨holds, middle, ⟨_, start, starting, approving⟩, through⟩
      obtain ⟨positionSize, approval⟩ := apply_risk_controls_approves approving
      refine ⟨stable.aside after _ ⟨rfl, rfl, rfl, rfl⟩ holds, start, starting, ?_⟩
      exact ⟨validatedSignal, positionSize, middle, after, approval, through, rfl⟩

end Frames

end TradingLoop

end IgTradingBot
