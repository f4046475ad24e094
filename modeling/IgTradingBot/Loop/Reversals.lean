import IgTradingBot.Loop.DailyProfit

/-!
# Reversals

When the signal of an instrument turns against its open position, the cycle closes the
position and passes the signal through the entry gate, to re-enter in the new direction
immediately. The gate looks the instrument up in the position list that was fetched at the head of
the cycle. No close changes that list, so the gate still finds the position.
-/

namespace IgTradingBot

open Sequential Sequential.Program

namespace TradingLoop

/-- The part of a managed step before the gate: management of the position, and its close. -/
def flipClose (config : LoopConfig) (epic : String) (input : EpicInput)
    (position : PositionDict) : LoopProgram Bool := do
  manageProfessionalPosition input.manage position epic
  closePosition config input.close position epic

/-- The world with no position of an instrument in the list. -/
def withoutInstrument (epic : String) (world : World) : World :=
  { world with
      desk :=
        { world.desk with
            openPositions := world.desk.openPositions.filter fun entry =>
              (orText entry.marketEpic entry.fields.epic).getD "" ≠ epic } }

/-- The world in which the gate looks at prices and positions: the books are those of the
current day, and the realised profit was read. -/
def gateWorld (world : World) : World :=
  let rolled := final resetDailyTradeCounterIfNeeded world
  { rolled with
      history :=
        .realizedRead (utcDay rolled.clock) rolled.books.dailyRealizedPnl :: rolled.history }

/-- The gate as a decision on the books of the current day. -/
theorem entry_gate_run (signal : Signal) (world : World) :
    entryGateRejectionReason signal world =
      let rolled := final resetDailyTradeCounterIfNeeded world
      if limits.maxDailyTrades ≤ rolled.books.dailyTradeCount then
        (.ok (some .dailyTradeCap), rolled)
      else if rolled.books.dailyRealizedPnl ≤
          -world.desk.accountEquity * limits.professionalDailyMaxLossPct then
        (.ok (some .dailyLossCap), gateWorld world)
      else if (getOpenPosition world.desk.openPositions signal.epic).isSome then
        (.ok (some .openPosition), gateWorld world)
      else cooldownRejection signal (gateWorld world) := by
  have reset : resetDailyTradeCounterIfNeeded world =
      (.ok (), final resetDailyTradeCounterIfNeeded world) := rfl
  have recorded : record (fun rolled => .realizedRead (utcDay rolled.clock)
      rolled.books.dailyRealizedPnl) (final resetDailyTradeCounterIfNeeded world) =
      (.ok (), gateWorld world) := rfl
  have sameDesk : (gateWorld world).desk = world.desk := rfl
  rw [entryGateRejectionReason, bind_ok reset, bind_ok (read_run _ _)]
  simp only
  by_cases capped :
      limits.maxDailyTrades ≤ (final resetDailyTradeCounterIfNeeded world).books.dailyTradeCount
  · rw [if_pos capped, if_pos capped]
    rfl
  · rw [if_neg capped, if_neg capped, bind_ok recorded, bind_ok (read_run _ _), sameDesk]
    split_ifs with lossReached listed
    · rfl
    · rfl
    · rfl

/-- A position of the instrument is the reason of the gate where it has no other. -/
theorem gate_rejects_listed {signal : Signal} {world : World}
    (listed : (getOpenPosition world.desk.openPositions signal.epic).isSome = true)
    (admissible : outcome (entryGateRejectionReason signal)
      (withoutInstrument signal.epic world) = .ok none) :
    outcome (entryGateRejectionReason signal) world = .ok (some .openPosition) := by
  have sameBooks : (final resetDailyTradeCounterIfNeeded (withoutInstrument signal.epic world)).books =
      (final resetDailyTradeCounterIfNeeded world).books := rfl
  have sameEquity : (withoutInstrument signal.epic world).desk.accountEquity =
      world.desk.accountEquity := rfl
  rw [outcome, entry_gate_run] at admissible ⊢
  simp only [sameBooks, sameEquity] at admissible
  simp only [listed, if_true]
  split_ifs at admissible ⊢ with capped lossReached
  · cases admissible
  · cases admissible
  · rfl
  · rfl

/-- The close of a position leaves the position list as it is. -/
theorem flip_close_keeps_list (config : LoopConfig) (epic : String) (input : EpicInput)
    (position : PositionDict) (positions : List PositionDict) :
    Keeps (fun world => world.desk.openPositions = positions)
      (flipClose config epic input position) := by
  have rules := listing_close_rules positions
  apply keeps_bind (rules.management.keeps_manageProfessionalPosition input.manage position epic)
  intro _
  exact (rules.contracts config).keeps_closePosition input.close position epic

/-- A flipped signal goes to the gate in the world that the accepted close leaves. -/
theorem manage_position_flips {config : LoopConfig} {epic : String} {input : EpicInput}
    {signal : Signal} {position : PositionDict} {world : World}
    (flipped : signalFlipped position signal = true)
    (accepted : outcome (flipClose config epic input position) world = .ok true) :
    managePosition config epic input (some signal) position world =
      gatedEntry config input.entry signal (final (flipClose config epic input position) world) := by
  obtain ⟨_, managed, returned, closed⟩ := bind_eq_ok.mp
    (Prod.ext accepted rfl : flipClose config epic input position world =
      (.ok true, final (flipClose config epic input position) world))
  rw [managePosition, bind_ok returned]
  simp only [flipped, if_true]
  rw [bind_ok closed]
  rfl

/-- No reversal reverses: after the accepted close of a position that a signal has turned
against, the gate rejects the signal for the open position, also where it has no other
reason, and the step only counts the rejection. -/
theorem reversal_rejected (config : LoopConfig) (epic : String) (input : EpicInput)
    (found : Signal) (position : PositionDict) (world : World)
    (held : getOpenPosition world.desk.openPositions epic = some position)
    (flipped : signalFlipped position { found with epic } = true)
    (accepted : outcome (flipClose config epic input position) world = .ok true)
    (admissible : outcome (entryGateRejectionReason { found with epic })
      (withoutInstrument epic (final (flipClose config epic input position) world)) = .ok none) :
    let closed := final (flipClose config epic input position) world
    let gate := entryGateRejectionReason { found with epic }
    outcome gate closed = .ok (some .openPosition) ∧
      managePosition config epic input (some { found with epic }) position world =
        rejectTrade (final gate closed) := by
  intro closed gate
  have sameList : closed.desk.openPositions = world.desk.openPositions :=
    (flip_close_keeps_list config epic input position world.desk.openPositions).final rfl
  have listed : (getOpenPosition closed.desk.openPositions epic).isSome = true := by
    rw [sameList, held]
    rfl
  have rejected : outcome gate closed = .ok (some .openPosition) :=
    gate_rejects_listed listed admissible
  refine ⟨rejected, ?_⟩
  have gated : gate closed = (.ok (some .openPosition), final gate closed) := Prod.ext rejected rfl
  rw [manage_position_flips flipped accepted, gatedEntry, bind_ok gated]

/-- What the step of the flip run meets. -/
def flipInput : EpicInput where
  analysis := { reply := .ok (some (demoSignal "CS.D.EURUSD.CFD.IP")) }
  close := { request := { reply := .ok { dealStatus := some "ACCEPTED" } } }
  entry :=
    { risk := { scalingFactor := { reply := .ok 10000 } }
      execution := demoAcceptance "DEAL-2" }

/-- The demo world with the short position in the list. -/
def shortWorld : World :=
  { demoWorld with desk := { demoWorld.desk with openPositions := [shortPosition] } }

/-- The broker accepts the close of the short position, and nothing but the position stands
against the long signal: the gate rejects it all the same. -/
theorem flipped_short_rejected :
    let epic := "CS.D.EURUSD.CFD.IP"
    let closed := final (flipClose demoConfig epic flipInput shortPosition) shortWorld
    getOpenPosition shortWorld.desk.openPositions epic = some shortPosition ∧
      signalFlipped shortPosition (demoSignal epic) = true ∧
      outcome (flipClose demoConfig epic flipInput shortPosition) shortWorld = .ok true ∧
      outcome (entryGateRejectionReason (demoSignal epic)) (withoutInstrument epic closed) =
        .ok none ∧
      outcome (entryGateRejectionReason (demoSignal epic)) closed = .ok (some .openPosition) := by
  decide +kernel

/-- The step of the long signal only counts its rejection. -/
theorem flipped_short_step :
    managePosition demoConfig "CS.D.EURUSD.CFD.IP" flipInput
        (some (demoSignal "CS.D.EURUSD.CFD.IP")) shortPosition shortWorld =
      rejectTrade (final (entryGateRejectionReason (demoSignal "CS.D.EURUSD.CFD.IP"))
        (final (flipClose demoConfig "CS.D.EURUSD.CFD.IP" flipInput shortPosition) shortWorld)) :=
  (reversal_rejected demoConfig "CS.D.EURUSD.CFD.IP" flipInput
    (demoSignal "CS.D.EURUSD.CFD.IP") shortPosition shortWorld (by decide +kernel)
    (by decide +kernel) (by decide +kernel) (by decide +kernel)).2

end TradingLoop

end IgTradingBot
