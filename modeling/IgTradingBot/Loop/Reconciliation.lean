import IgTradingBot.Loop.Closing

/-!
# Account state and reconciliation

`_update_account_state` at the head of a cycle: the position list is fetched, deals
that the database holds open but the broker no longer lists are booked from the
transaction history, and every five minutes the equity is refreshed. Deals must be
missing in two cycles before they are looked up.
-/

namespace IgTradingBot

open Sequential Sequential.Program

/-- A decoded value of a transaction: null, a truth value, a number, or a text. -/
inductive TransactionValue where
  | null
  | flag
  | number (value : ℚ)
  | text (characters : List Char)
  deriving DecidableEq, Repr

/-- The fields of a transaction that the loop reads. -/
structure Transaction where
  reference : Option String := none
  profitAndLoss : TransactionValue := .null
  closeLevel : TransactionValue := .null
  deriving DecidableEq, Repr

/-- The balance part of the account information. -/
structure AccountInfo where
  balance : Option Numeral := none
  equity : Option Numeral := none
  available : Option Numeral := none
  deriving DecidableEq, Repr

/-- What a reconciliation meets: the session of its query, the transactions, and the
persistence of each deal. -/
structure ReconcileScript where
  query : DatabaseSession := {}
  transactions : Awaited (List Transaction) := { reply := .ok [] }
  persist : String → PersistCloseScript := fun _ => {}

/-- What the update of the account state meets. -/
structure AccountScript where
  positions : Awaited (List PositionDict)
  reconcile : ReconcileScript := {}
  info : Awaited AccountInfo := { reply := .ok {} }

namespace TradingLoop

/-- The number that a list of decimal digits spells. -/
def digitsValue (digits : List Char) : ℕ :=
  digits.foldl (fun value digit => 10 * value + (digit.toNat - '0'.toNat)) 0

/-- The first decimal number of a text, `\d+(?:\.\d+)?`, with the text before it. -/
def firstDecimal (characters : List Char) : Option (List Char × ℚ) :=
  let before := characters.takeWhile (!·.isDigit)
  let found := characters.dropWhile (!·.isDigit)
  let whole := found.takeWhile (·.isDigit)
  let fraction := match found.dropWhile (·.isDigit) with
    | '.' :: rest => rest.takeWhile (·.isDigit)
    | _ => []
  if whole = [] then none
  else some (before, digitsValue whole + digitsValue fraction / 10 ^ fraction.length)

/-- The text of an amount without surrounding blanks and separators of thousands. -/
def amountText (characters : List Char) : List Char :=
  (((characters.dropWhile Char.isWhitespace).reverse.dropWhile Char.isWhitespace).reverse).filter
    (· ≠ ',')

/-- A numeric text with currency text or separators; negative by a sign before the
number or by the brackets of accounting. -/
def parseIgText (characters : List Char) : ℚ :=
  let text := amountText characters
  match firstDecimal text with
  | none => 0
  | some (before, value) =>
    if (text.head? = some '(' ∧ text.getLast? = some ')') ∨ '-' ∈ before then -value else value

/-- `_parse_ig_decimal`; the decimal text of a truth value is refused. -/
def parseIgDecimal : TransactionValue → Except Failure ℚ
  | .null => .ok 0
  | .flag => .error .notANumber
  | .number value => .ok value
  | .text characters => .ok (parseIgText characters)

/-- Deals that the broker lists. -/
def liveDealIds (positions : List PositionDict) : List String :=
  (positions.map dealIdOf).filter (· ≠ "")

/-- Broker deals of rows. -/
def persistedDealIds (rows : List PositionRow) : List String :=
  (rows.filterMap (·.igDealId)).filter (· ≠ "")

/-- Forget the counts of deals that are listed again or no longer held open. -/
def forgetCounts (live persisted : List String) (counts : AList (fun _ : String => ℕ)) :
    AList (fun _ : String => ℕ) :=
  counts.keys.foldl
    (fun kept dealId =>
      if dealId ∈ live ∨ dealId ∉ persisted then kept.erase dealId else kept) counts

/-- Count one more cycle for every row whose deal is not listed; rows that are missing
for the second time or longer are returned. -/
def countMissing (live : List String) (counts : AList (fun _ : String => ℕ)) :
    List PositionRow → AList (fun _ : String => ℕ) × List (String × PositionRow)
  | [] => (counts, [])
  | row :: rest =>
    let dealId := row.igDealId.getD ""
    if dealId = "" then countMissing live counts rest
    else if dealId ∈ live then countMissing live (counts.erase dealId) rest
    else
      let missingCount := (counts.lookup dealId).getD 0 + 1
      let counted := countMissing live (counts.insert dealId missingCount) rest
      (counted.1, if 2 ≤ missingCount then (dealId, row) :: counted.2 else counted.2)

/-- Transaction of a deal; of several the last one counts. -/
def transactionFor (transactions : List Transaction) (dealId : String) : Option Transaction :=
  transactions.reverse.find? fun transaction =>
    truthyText transaction.reference && transaction.reference = some dealId

/-- The profit of a reconciled deal is booked, on the date the books have. -/
def takeTransaction (dealId : String) (profit : ℚ) (persisted : Bool) (world : World) : World :=
  { world with
      books := { world.books with dailyRealizedPnl := world.books.dailyRealizedPnl + profit }
      history :=
        .closeReconciled dealId profit persisted (utcDay world.clock)
          world.books.dailyTradeDate :: world.history }

/-- Persist and book a deal that the broker has closed. -/
def reconcileDeal (config : LoopConfig) (script : ReconcileScript)
    (transactions : List Transaction) (missing : String × PositionRow) : LoopProgram Unit :=
  match transactionFor transactions missing.1 with
  | none => pure ()
  | some transaction => do
    let pnl ← ofExcept (parseIgDecimal transaction.profitAndLoss)
    let closeLevel ← ofExcept (parseIgDecimal transaction.closeLevel)
    persistClosedTrade config (script.persist missing.1) missing.1 missing.2.instrument
      (some (.number pnl)) none (some (.number closeLevel))
    let _ ← readClock
    modify (takeTransaction missing.1 pnl (script.persist missing.1).session.ending.keepsChanges)
    setDesk fun desk =>
      { desk with
          tradesClosed := desk.tradesClosed + 1
          totalPnl := desk.totalPnl + pnl
          missingPositionCounts := desk.missingPositionCounts.erase missing.1 }

/-- Book the deals that the broker has closed by stop, limit or expiry. -/
def reconcileBrokerClosedPositions (config : LoopConfig) (script : ReconcileScript)
    (livePositions : List PositionDict) : LoopProgram Unit := do
  let live := liveDealIds livePositions
  let rows ← inSession script.query fun _ => Database.getOpenPositions
  let counts ← read (·.desk.missingPositionCounts)
  let counted := countMissing live (forgetCounts live (persistedDealIds rows) counts) rows
  setDesk fun desk => { desk with missingPositionCounts := counted.1 }
  if counted.2 = [] then pure ()
  else do
    let transactions ← await script.transactions
    forEach counted.2 (reconcileDeal config script transactions)

/-- The equity that the account information reports. -/
def reportedEquity (info : AccountInfo) : Option Numeral :=
  Numeral.orElse info.balance (Numeral.orElse info.equity info.available)

/-- Fetch the position list and reconcile; a failure leaves the list as it was, or
ends the reconciliation where it is. -/
def refreshPositions (config : LoopConfig) (script : AccountScript) : LoopProgram Unit :=
  rescue
    (do
      let positions ← await script.positions
      setDesk fun desk => { desk with openPositions := positions }
      reconcileBrokerClosedPositions config script.reconcile positions)
    (fun _ => pure ())

/-- Fetch the equity; a failure leaves it as it was. -/
def refreshEquity (script : AccountScript) : LoopProgram Unit :=
  rescue
    (do
      let info ← await script.info
      match reportedEquity info with
      | some equity =>
        if Numeral.truthy (some equity) then do
          let accountEquity ← ofExcept equity.parse
          setDesk fun desk => { desk with accountEquity }
        else pure ()
      | none => pure ())
    (fun _ => pure ())

/-- Positions in every cycle, equity when the last refresh is long enough ago. -/
def updateAccountState (config : LoopConfig) (script : AccountScript) : LoopProgram Unit := do
  let now ← readClock
  refreshPositions config script
  let lastRefresh ← read (·.desk.lastAccountRefresh)
  if now - lastRefresh < limits.accountRefreshIntervalSeconds then pure ()
  else do
    setDesk fun desk => { desk with lastAccountRefresh := now }
    refreshEquity script

/-- What an invariant needs for the update of the account state: it survives a new
position list, and a reconciliation. -/
structure AccountContracts (config : LoopConfig) (invariant : World → Prop) : Prop
    extends Ambient invariant where
  listed : ∀ world positions, invariant world →
    invariant { world with desk := { world.desk with openPositions := positions } }
  keepsReconciliation : ∀ script livePositions,
    Keeps invariant (reconcileBrokerClosedPositions config script livePositions)

/-- What a clerical property needs for a reconciliation: it survives the booking of every
reconciled deal. -/
structure ReconcileRules (invariant : World → Prop) : Prop extends Clerical invariant where
  reconciled : ∀ world dealId profit persisted, invariant world →
    invariant (takeTransaction dealId profit persisted world)

/-- What a clerical property needs for the update of the account state: besides, it
survives a new position list. -/
structure AccountRules (invariant : World → Prop) : Prop extends ReconcileRules invariant where
  listed : ∀ world positions, invariant world →
    invariant { world with desk := { world.desk with openPositions := positions } }

section Frames

variable {invariant : World → Prop}

theorem ReconcileRules.keeps_reconcileDeal (rules : ReconcileRules invariant) (config : LoopConfig)
    (script : ReconcileScript) (transactions : List Transaction) (missing : String × PositionRow) :
    Keeps invariant (reconcileDeal config script transactions missing) := by
  cases found : transactionFor transactions missing.1 with
  | none =>
    simp only [reconcileDeal, found]
    exact keeps_pure ()
  | some transaction =>
    simp only [reconcileDeal, found]
    apply keeps_bind (keeps_ofExcept _)
    intro pnl
    apply keeps_bind (keeps_ofExcept _)
    intro closeLevel
    apply keeps_bind (rules.keeps_persistClosedTrade _ _ _ _ _ _ _)
    intro _
    apply keeps_bind rules.keeps_readClock
    intro _
    apply keeps_bind (keeps_modify fun world holds => rules.reconciled world _ _ _ holds)
    intro _
    exact rules.keeps_setDesk (fun _ => rfl) fun _ => rfl

theorem ReconcileRules.keeps_reconcile (rules : ReconcileRules invariant) (config : LoopConfig)
    (script : ReconcileScript) (livePositions : List PositionDict) :
    Keeps invariant (reconcileBrokerClosedPositions config script livePositions) := by
  apply keeps_bind (rules.keeps_inSession _ _)
  intro rows
  apply keeps_bind (keeps_read _)
  intro counts
  apply keeps_bind
  · exact rules.keeps_setDesk (fun _ => rfl) fun _ => rfl
  intro _
  apply keeps_ite
  · intro _
    exact keeps_pure _
  · intro _
    apply keeps_bind (rules.keeps_await _)
    intro transactions
    exact keeps_forEach fun missing _ => rules.keeps_reconcileDeal _ _ _ missing

theorem AccountRules.contracts (rules : AccountRules invariant) (config : LoopConfig) :
    AccountContracts config invariant where
  toAmbient := rules.toAmbient
  listed := rules.listed
  keepsReconciliation := rules.keeps_reconcile config

theorem AccountContracts.keeps_refreshPositions {config : LoopConfig}
    (contracts : AccountContracts config invariant) (script : AccountScript) :
    Keeps invariant (refreshPositions config script) := by
  apply keeps_rescue
  · apply keeps_bind (contracts.keeps_await _)
    intro positions
    apply keeps_bind (keeps_modify fun world holds => contracts.listed world positions holds)
    intro _
    exact contracts.keepsReconciliation _ _
  · intro _
    exact keeps_pure _

theorem Ambient.keeps_refreshEquity (stable : Ambient invariant) (script : AccountScript) :
    Keeps invariant (refreshEquity script) := by
  apply keeps_rescue
  · apply keeps_bind (stable.keeps_await _)
    intro info
    cases reportedEquity info with
    | none => exact keeps_pure _
    | some equity =>
      apply keeps_ite
      · intro _
        apply keeps_bind (keeps_ofExcept _)
        intro accountEquity
        exact stable.keeps_setAside fun _ => ⟨rfl, rfl, rfl, rfl⟩
      · intro _
        exact keeps_pure _
  · intro _
    exact keeps_pure _

/-- What follows the refresh of the positions touches the equity only. -/
theorem Ambient.keeps_afterPositions (stable : Ambient invariant) (script : AccountScript)
    (now : ℚ) :
    Keeps invariant (do
      let lastRefresh ← read (·.desk.lastAccountRefresh)
      if now - lastRefresh < limits.accountRefreshIntervalSeconds then pure ()
      else do
        setDesk fun desk => { desk with lastAccountRefresh := now }
        refreshEquity script : LoopProgram Unit) := by
  apply keeps_bind (keeps_read _)
  intro lastRefresh
  apply keeps_ite
  · intro _
    exact keeps_pure _
  · intro _
    apply keeps_bind
    · exact stable.keeps_setAside fun _ => ⟨rfl, rfl, rfl, rfl⟩
    · intro _
      exact stable.keeps_refreshEquity _

/-- The update of the account state preserves whatever satisfies its contracts. -/
theorem AccountContracts.keeps_updateAccountState {config : LoopConfig}
    (contracts : AccountContracts config invariant) (script : AccountScript) :
    Keeps invariant (updateAccountState config script) := by
  apply keeps_bind contracts.keeps_readClock
  intro now
  apply keeps_bind (contracts.keeps_refreshPositions _)
  intro _
  exact contracts.keeps_afterPositions script now

end Frames

example : parseIgText "(A$1,234.50)".toList = -1234.5 := by decide +kernel

end TradingLoop

end IgTradingBot
