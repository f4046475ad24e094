import IgTradingBot.Loop.Execution

/-!
# Closes of the loop

`_close_position` and `_manage_professional_position`, with the persistence of a
closed trade. The profit of a full close goes into the daily books as they stand
when the reply arrives, whatever the reply says about its acceptance; the profit of
a partial close goes into no books at all.
-/

namespace IgTradingBot

open Sequential Sequential.Program

/-- What the persistence of a closed trade meets: its session, and the analyzer. -/
structure PersistCloseScript where
  session : DatabaseSession := {}
  learning : Awaited Unit := { reply := .ok () }

/-- What a full close meets: whether the broker carries it out, the reply, and the
persistence. -/
structure CloseScript where
  carriedOut : Bool := true
  request : Awaited DealReply
  persist : PersistCloseScript := {}

/-- What the management of a position meets: whether the broker accepts the partial close
although its reply does not say so, the reply, and the reply to the new stop. -/
structure ManageScript where
  acceptedUnseen : Bool := false
  partialClose : Awaited DealReply := { reply := .ok {} }
  update : Awaited Unit := { reply := .ok () }

namespace TradingLoop

/-- Rows of a deal that is closed: by the record of the deal, else by the deal
identifier, else the newest open rows of the instrument. -/
def closedRows (record : Option DealRecord) (dealId epic : String) :
    Database.Query (Option TradeRow × Option PositionRow) :=
  match record with
  | some ids => do
      let trade ← Database.getTrade ids.tradeId
      let position ← Database.getPosition ids.positionId
      pure (trade, position)
  | none => do
      let trade ← if dealId = "" then pure none else Database.getTradeByIgDealId dealId
      let position ← if dealId = "" then pure none else Database.getPositionByIgDealId dealId
      let openTrades ← Database.getOpenTrades epic
      let openPositions ← Database.getOpenPositions
      pure (trade.or openTrades.head?, position.or (openPositions.find? (·.instrument = epic)))

/-- Close the rows of a deal. Without an exit price the entry price is taken. -/
def closeRows (record : Option DealRecord) (dealId epic : String) (exitPrice pnl closedAt : ℚ) :
    Database.Query (Option TradeRow) := do
  let rows ← closedRows record dealId epic
  match rows.1 with
  | some trade =>
      Database.closeTrade trade.id (if exitPrice = 0 then trade.entryPrice else exitPrice) pnl
        closedAt
  | none => pure ()
  match rows.2 with
  | some position => Database.closePosition position.id
  | none => pure ()
  pure rows.1

/-- Persist the close of a trade; a failure is only reported. -/
def persistClosedTrade (config : LoopConfig) (script : PersistCloseScript) (dealId epic : String)
    (profit level closeLevel : Option Numeral) : LoopProgram Unit :=
  rescue
    (do
      let record ← read fun world => world.desk.dealRecords.lookup dealId
      let pnl ← ofExcept (Numeral.parseOrZero profit)
      let exitPrice ← ofExcept (Numeral.parseOrZero (Numeral.orElse level closeLevel))
      let closedTrade ← inSession script.session
        (closeRows record dealId epic exitPrice pnl)
      if closedTrade.isSome ∧ config.hasMistakeAnalyzer then await script.learning else pure ()
      if dealId = "" then pure ()
      else
        setDesk fun desk =>
          { desk with
              dealRecords := desk.dealRecords.erase dealId
              professionalPositions := desk.professionalPositions.erase dealId })
    (fun _ => pure ())

/-- The reply to a close request is taken up. Only a full close is booked, and the
books stay on the date they had. -/
def takeCloseReply (request : CloseRequest) (full accepted : Bool) (profit : ℚ) (world : World) :
    World :=
  { world with
      books :=
        if full then
          { world.books with dailyRealizedPnl := world.books.dailyRealizedPnl + profit }
        else world.books
      history :=
        .closeAnswered request full accepted profit (utcDay world.clock)
          world.books.dailyTradeDate :: world.history }

/-- Identifier of the deal of a position. -/
def dealIdOf (position : PositionDict) : String :=
  (orText position.data.dealId position.data.dealIdField).getD ""

/-- Direction of a deal that closes a position. -/
def closingDirection (direction : String) : String := if direction = "BUY" then "SELL" else "BUY"

/-- Size of a listed position, with a default where the list names none. -/
def sizeOf (position : PositionDict) (default : ℚ) : Except Failure ℚ :=
  match Numeral.orElse position.data.size position.data.dealSize with
  | some size => if Numeral.truthy (some size) then size.parse else .ok default
  | none => .ok default

/-- Submit a close request and wait for its reply. -/
def submitClose (script : CloseScript) : LoopProgram DealReply := do
  if script.carriedOut then closeAtBroker else pure ()
  await script.request

/-- Ask the broker for a full close and book its reply. -/
def requestClose (config : LoopConfig) (script : CloseScript) (position : PositionDict)
    (epic : String) : LoopProgram Bool := do
  let dealId := dealIdOf position
  let size ← ofExcept (sizeOf position limits.tradeSize)
  let request : CloseRequest :=
    ⟨dealId, closingDirection (position.data.direction.getD "BUY"), size⟩
  let reply ← submitClose script
  let _ ← readClock
  modify (takeCloseReply request true (reportsAccepted reply) (Numeral.amount reply.profit))
  setDesk fun desk =>
    { desk with
        totalPnl := desk.totalPnl + Numeral.amount reply.profit
        tradesClosed := desk.tradesClosed + 1 }
  persistClosedTrade config script.persist dealId epic reply.profit reply.level reply.closeLevel
  pure (reportsAccepted reply)

/-- Close a position; true when the broker reports acceptance. -/
def closePosition (config : LoopConfig) (script : CloseScript) (position : PositionDict)
    (epic : String) : LoopProgram Bool :=
  rescue (requestClose config script position epic) (fun _ => pure false)

/-- Mark the partial close of a position as done. -/
def markPartialTaken (dealId : String) (management : ProfessionalPosition) : LoopProgram Unit :=
  setDesk fun desk =>
    { desk with
        professionalPositions := desk.professionalPositions.insert dealId
          { management with partialTaken := true } }

/-- Whether the first target is reached at the side of the market that closes. -/
def reachesFirstTarget (direction : String) (management : ProfessionalPosition)
    (snapshot : Snapshot) : Bool :=
  if direction = "BUY" then decide (management.tp1Level ≤ snapshot.bid)
  else decide (snapshot.offer ≤ management.tp1Level)

/-- The reply to the partial close reports its acceptance. -/
def acceptanceSeen (script : ManageScript) : Bool :=
  match script.partialClose.reply with
  | .ok reply => reportsAccepted reply
  | .error _ => false

/-- The broker accepts the partial close. -/
def partialAccepted (script : ManageScript) : Bool :=
  acceptanceSeen script || script.acceptedUnseen

/-- The loop gets to its own record of the partial close: the reply reports the acceptance, the
final target is a number, and the update of the levels returns. -/
def partialSettled (script : ManageScript) (management : ProfessionalPosition) : Bool :=
  acceptanceSeen script && management.finalTargetLevel.parse.isOk && script.update.reply.isOk

/-- The request of a partial close is recorded. -/
def recordPartial (script : ManageScript) (request : CloseRequest)
    (management : ProfessionalPosition) (world : World) : World :=
  { world with
      history :=
        .partialCloseRequested request (partialAccepted script) (partialSettled script management) ::
          world.history }

/-- Take up the reply to a partial close; when it reports acceptance, move the stop of the rest
to the entry level, and only then mark the partial close as done. -/
def settlePartial (script : ManageScript) (request : CloseRequest)
    (management : ProfessionalPosition) : LoopProgram Unit := do
  let reply ← await script.partialClose
  let _ ← readClock
  modify (takeCloseReply request false (reportsAccepted reply) (Numeral.amount reply.profit))
  if reportsAccepted reply then do
    let _target ← ofExcept management.finalTargetLevel.parse
    await script.update
    markPartialTaken request.dealId management
  else pure ()

/-- Close a part of a position and move the stop of the rest to the entry level. -/
def takePartial (script : ManageScript) (request : CloseRequest)
    (management : ProfessionalPosition) : LoopProgram Unit := do
  modify (recordPartial script request management)
  settlePartial script request management

/-- Take the planned part of a position of the professional strategy once its first
target is reached. A part or a rest below a hundredth of a lot is not taken. -/
def manageProfessionalPosition (script : ManageScript) (position : PositionDict)
    (epic : String) : LoopProgram Unit := do
  let dealId := dealIdOf position
  let desk ← read (·.desk)
  match desk.professionalPositions.lookup dealId, desk.lastSnapshots.lookup epic with
  | some management, some snapshot =>
    let direction := if truthyText position.data.direction then position.data.direction.getD ""
      else management.direction
    if dealId = "" ∨ management.partialTaken ∨ ¬ reachesFirstTarget direction management snapshot
    then pure ()
    else do
      let totalSize ← ofExcept (sizeOf position management.size)
      let closeSize := Decimals.quantizeHalfEven 2 (totalSize * management.partialCloseFraction)
      if closeSize < 1 / 100 ∨ totalSize - closeSize < 1 / 100 then
        markPartialTaken dealId management
      else takePartial script ⟨dealId, closingDirection direction, closeSize⟩ management
  | _, _ => pure ()

/-- What an invariant needs for the closes of the loop: it survives the taking up of
every reply, whatever the books are at that time, and the persistence of a close. -/
structure CloseContracts (config : LoopConfig) (invariant : World → Prop) : Prop
    extends Ambient invariant where
  answered : ∀ world request full accepted profit, invariant world →
    invariant (takeCloseReply request full accepted profit world)
  keepsPersistence : ∀ script dealId epic profit level closeLevel,
    Keeps invariant (persistClosedTrade config script dealId epic profit level closeLevel)

/-- An incidental property needs no contract about the persistence of a close. -/
structure CloseRules (invariant : World → Prop) : Prop extends Incidental invariant where
  answered : ∀ world request full accepted profit, invariant world →
    invariant (takeCloseReply request full accepted profit world)

/-- What an invariant needs for the management of positions: it survives the taking up of
replies, the notes on the management, and any change of its data. -/
structure ManagementRules (invariant : World → Prop) : Prop extends Ambient invariant where
  answered : ∀ world request full accepted profit, invariant world →
    invariant (takeCloseReply request full accepted profit world)
  noted : ∀ world event, event.isManagement = true → invariant world →
    invariant { world with history := event :: world.history }
  managed : ∀ world professionalPositions, invariant world →
    invariant { world with desk := { world.desk with professionalPositions } }

section Frames

variable {invariant : World → Prop}

/-- The persistence of a close ends as its session does, unless the profit or the level cannot be
read; what follows the session is forgotten. -/
theorem Ambient.ensures_persistClosedTrade {before : World → Prop} (stable : Ambient invariant)
    (config : LoopConfig) (script : PersistCloseScript) (dealId epic : String)
    (profit level closeLevel : Option Numeral)
    (unread : (Numeral.parseOrZero profit).isOk = false ∨
      (Numeral.parseOrZero (Numeral.orElse level closeLevel)).isOk = false →
        ∀ world, before world → invariant world)
    (session : ∀ record exitPrice pnl, Ensures
      (fun world => before world ∧ world.desk.dealRecords.lookup dealId = record)
      (inSession script.session (closeRows record dealId epic exitPrice pnl))
      (fun _ => invariant) (fun _ => invariant))
    (forgotten : ∀ world, invariant world → invariant
      { world with
        desk :=
          { world.desk with
            dealRecords := world.desk.dealRecords.erase dealId
            professionalPositions := world.desk.professionalPositions.erase dealId } }) :
    Ensures before (persistClosedTrade config script dealId epic profit level closeLevel)
      (fun _ => invariant) (fun _ => invariant) := by
  have erased : Keeps invariant
      (if dealId = "" then pure ()
        else setDesk fun desk =>
          { desk with
              dealRecords := desk.dealRecords.erase dealId
              professionalPositions := desk.professionalPositions.erase dealId }) :=
    keeps_ite (fun _ => keeps_pure _) fun _ => keeps_modify forgotten
  refine ensures_rescue ?_ fun _ => keeps_pure ()
  apply ensures_read_bind
  intro record
  cases earned : Numeral.parseOrZero profit with
  | error failure =>
    exact ensures_raise failure fun world holds => unread (Or.inl (by rw [earned]; rfl)) world holds.1
  | ok pnl =>
    cases paid : Numeral.parseOrZero (Numeral.orElse level closeLevel) with
    | error failure =>
      exact ensures_raise failure fun world holds =>
        unread (Or.inr (by rw [paid]; rfl)) world holds.1
    | ok exitPrice =>
      apply ensures_bind (session record exitPrice pnl)
      intro closedTrade
      apply keeps_ite
      · intro _
        exact keeps_bind (stable.keeps_await _) fun _ => erased
      · intro _
        exact erased

/-- The persistence of a close touches the database and the records of the deal. -/
theorem Clerical.keeps_persistClosedTrade (stable : Clerical invariant) (config : LoopConfig)
    (script : PersistCloseScript) (dealId epic : String)
    (profit level closeLevel : Option Numeral) :
    Keeps invariant (persistClosedTrade config script dealId epic profit level closeLevel) := by
  apply stable.ensures_persistClosedTrade config script dealId epic profit level closeLevel
  · exact fun _ _ holds => holds
  · exact fun _ _ _ => (stable.keeps_inSession _ _).enter fun _ holds => holds.1
  · intro world holds
    let unmanaged : Desk :=
      { world.desk with
        professionalPositions := world.desk.professionalPositions.erase dealId }
    have kept : invariant { world with desk := unmanaged } := stable.released world dealId holds
    exact stable.clerk { world with desk := unmanaged }
      { unmanaged with dealRecords := world.desk.dealRecords.erase dealId } rfl rfl kept

theorem CloseRules.contracts (rules : CloseRules invariant) (config : LoopConfig) :
    CloseContracts config invariant where
  toAmbient := rules.toAmbient
  answered := rules.answered
  keepsPersistence := rules.keeps_persistClosedTrade config

theorem CloseContracts.keeps_takeReply {config : LoopConfig}
    (contracts : CloseContracts config invariant) (request : CloseRequest)
    (full accepted : Bool) (profit : ℚ) :
    Keeps invariant (modify (takeCloseReply request full accepted profit) : LoopProgram Unit) :=
  keeps_modify fun world holds => contracts.answered world request full accepted profit holds

theorem Ambient.keeps_submitClose (stable : Ambient invariant) (script : CloseScript) :
    Keeps invariant (submitClose script) := by
  apply keeps_ite
  · intro _
    exact keeps_bind (keeps_modify stable.closed) fun _ => stable.keeps_await _
  · intro _
    exact stable.keeps_await _

/-- A close preserves what the taking up of its reply and its persistence preserve. -/
theorem CloseContracts.keeps_closePosition {config : LoopConfig}
    (contracts : CloseContracts config invariant) (script : CloseScript) (position : PositionDict)
    (epic : String) : Keeps invariant (closePosition config script position epic) := by
  apply keeps_rescue
  · apply keeps_bind (keeps_ofExcept _)
    intro size
    apply keeps_bind (contracts.keeps_submitClose script)
    intro reply
    apply keeps_bind contracts.keeps_readClock
    intro _
    apply keeps_bind (contracts.keeps_takeReply _ _ _ _)
    intro _
    apply keeps_bind
    · exact contracts.keeps_setAside fun _ => ⟨rfl, rfl, rfl, rfl⟩
    intro _
    exact keeps_bind (contracts.keepsPersistence _ _ _ _ _ _) fun _ => keeps_pure _
  · intro _
    exact keeps_pure _

/-- An incidental property needs no contract about the management data. -/
theorem CloseRules.management (rules : CloseRules invariant) : ManagementRules invariant where
  toAmbient := rules.toAmbient
  answered := rules.answered
  noted world event managed holds :=
    rules.noted world event (LoopEvent.note_of_management managed) holds
  managed world _ holds := rules.desk world _ rfl holds

theorem ManagementRules.keeps_markPartialTaken (rules : ManagementRules invariant) (dealId : String)
    (management : ProfessionalPosition) : Keeps invariant (markPartialTaken dealId management) :=
  keeps_modify fun world holds => rules.managed world _ holds

/-- A partial close preserves what the taking up of its reply and the mark preserve. -/
theorem Ambient.keeps_settlePartial (stable : Ambient invariant) {management : ProfessionalPosition}
    (script : ManageScript) (request : CloseRequest)
    (answered : ∀ world full accepted profit, invariant world →
      invariant (takeCloseReply request full accepted profit world))
    (marked : Keeps invariant (markPartialTaken request.dealId management)) :
    Keeps invariant (settlePartial script request management) := by
  apply keeps_bind (stable.keeps_await _)
  intro reply
  apply keeps_bind stable.keeps_readClock
  intro _
  apply keeps_bind
  · exact keeps_modify fun world holds => answered world _ _ _ holds
  intro _
  apply keeps_ite
  · intro _
    apply keeps_bind (keeps_ofExcept _)
    intro _
    exact keeps_bind (stable.keeps_await _) fun _ => marked
  · intro _
    exact keeps_pure _

theorem ManagementRules.keeps_takePartial (rules : ManagementRules invariant)
    (script : ManageScript) (request : CloseRequest) (management : ProfessionalPosition) :
    Keeps invariant (takePartial script request management) := by
  apply keeps_bind
  · exact keeps_modify fun world holds => rules.noted world _ rfl holds
  intro _
  exact rules.keeps_settlePartial script request (fun world => rules.answered world request)
    (rules.keeps_markPartialTaken _ _)

/-- The management of a position preserves whatever satisfies its rules. -/
theorem ManagementRules.keeps_manageProfessionalPosition (rules : ManagementRules invariant)
    (script : ManageScript) (position : PositionDict) (epic : String) :
    Keeps invariant (manageProfessionalPosition script position epic) := by
  apply keeps_bind (keeps_read _)
  intro desk
  split
  · apply keeps_ite
    · intro _
      exact keeps_pure _
    · intro _
      apply keeps_bind (keeps_ofExcept _)
      intro totalSize
      apply keeps_ite
      · intro _
        exact rules.keeps_markPartialTaken _ _
      · intro _
        exact rules.keeps_takePartial _ _ _
  · exact keeps_pure _

end Frames

end TradingLoop

end IgTradingBot
