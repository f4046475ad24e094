import IgTradingBot.Library.PeriodTotals
import IgTradingBot.Loop.PositionLimit

/-!
# Currency exposures of open positions

The correlation gate compares a signal with the position list that was fetched at the head
of the cycle. Under the position limit an entry is tried with an empty list only, so what
keeps the exposures of open positions apart is that the list is up to date: while it is, at
most one position of the loop is open.
-/

namespace IgTradingBot

open Sequential Sequential.Program PeriodTotals

/-- A position that the loop has opened. -/
structure OpenedPosition where
  epic : String
  direction : String
  deriving DecidableEq, Repr

/-- What happens to the positions at the broker. -/
inductive PositionMove where
  | opened (position : OpenedPosition)
  | closed
  deriving DecidableEq, Repr

/-- Direction of the order that was submitted last. -/
def submittedDirection : List LoopEvent → String
  | [] => ""
  | .orderSubmitted order _ :: _ => order.direction
  | _ :: earlier => submittedDirection earlier

/-- The openings and closes of a history, the latest first. A position has the direction of
the order that is on its way. -/
def positionMoves : List LoopEvent → List PositionMove
  | [] => []
  | .positionOpened epic _ _ _ :: earlier =>
    .opened ⟨epic, submittedDirection earlier⟩ :: positionMoves earlier
  | .positionClosed :: earlier => .closed :: positionMoves earlier
  | _ :: earlier => positionMoves earlier

/-- After some moves these positions of the loop may be open, beside so many others. A close
may concern any position that is open. -/
inductive MayBeOpen (others : ℕ) : List PositionMove → List OpenedPosition → ℕ → Prop
  | start : MayBeOpen others [] [] others
  | opened {moves positions remaining} (position : OpenedPosition)
      (before : MayBeOpen others moves positions remaining) :
      MayBeOpen others (.opened position :: moves) (position :: positions) remaining
  | closed {moves positions remaining} (position : OpenedPosition)
      (before : MayBeOpen others moves positions remaining) (member : position ∈ positions) :
      MayBeOpen others (.closed :: moves) (positions.erase position) remaining
  | otherClosed {moves positions remaining}
      (before : MayBeOpen others moves positions (remaining + 1)) :
      MayBeOpen others (.closed :: moves) positions remaining
  | noneClosed {moves} (before : MayBeOpen others moves [] 0) :
      MayBeOpen others (.closed :: moves) [] 0

/-- Number of open positions after some moves. -/
def openAfter (others : ℕ) : List PositionMove → ℕ
  | [] => others
  | .opened _ :: earlier => openAfter others earlier + 1
  | .closed :: earlier => openAfter others earlier - 1

/-- The moves say how many positions are open. -/
theorem MayBeOpen.number {others : ℕ} {moves : List PositionMove}
    {positions : List OpenedPosition} {remaining : ℕ}
    (holding : MayBeOpen others moves positions remaining) :
    positions.length + remaining = openAfter others moves := by
  induction holding with
  | start => simp [openAfter]
  | opened position _ inductionHypothesis =>
    simp only [List.length_cons, openAfter, ← inductionHypothesis]
    omega
  | closed position _ member inductionHypothesis =>
    have positive := List.length_pos_of_mem member
    simp only [List.length_erase_of_mem member, openAfter, ← inductionHypothesis]
    omega
  | otherClosed _ inductionHypothesis =>
    simp only [openAfter, ← inductionHypothesis]
    omega
  | noneClosed _ inductionHypothesis => simp [openAfter, ← inductionHypothesis]

/-- An opening was tried below the position limit, and it reports the number of positions that
were open. -/
def LoopEvent.OpenedBelowLimit (others : ℕ) (event : LoopEvent) (earlier : List LoopEvent) : Prop :=
  match event with
  | .positionOpened _ _ listed openAtBroker =>
    listed < TradingLoop.limits.maxOpenPositions ∧
      openAtBroker = openAfter others (positionMoves earlier)
  | _ => True

namespace TradingLoop

/-- Two positions carry no signed exposure in common. -/
def ExposuresApart (position other : OpenedPosition) : Prop :=
  ∀ exposure ∈ currencyExposures position.epic position.direction,
    exposure ∉ currencyExposures other.epic other.direction

instance : DecidableRel ExposuresApart := fun _ _ =>
  inferInstanceAs (Decidable (∀ exposure ∈ _, exposure ∉ _))

/-- At every time of a history, whichever positions were closed, the open positions of the
loop carry no signed exposure in common. -/
def NoSharedExposure (others : ℕ) (history : List LoopEvent) : Prop :=
  ∀ reached, reached <:+ history → ∀ positions remaining,
    MayBeOpen others (positionMoves reached) positions remaining →
      positions.Pairwise ExposuresApart

/-- The account of the open positions: openings were tried below the limit, and the number at
the broker is the one that the moves leave. -/
structure OpenAccount (others : ℕ) (world : World) : Prop where
  belowLimit : Throughout (LoopEvent.OpenedBelowLimit others) world.history
  counted : world.openAtBroker = openAfter others (positionMoves world.history)

/-- Other events leave the account of the open positions as it is. -/
theorem position_moves_other {event : LoopEvent} (unmoved : event.movesPosition = false)
    (earlier : List LoopEvent) : positionMoves (event :: earlier) = positionMoves earlier := by
  cases event with
  | positionOpened => cases unmoved
  | positionClosed => cases unmoved
  | _ => rfl

theorem open_account_rules (others : ℕ) : BrokerRules (OpenAccount others) where
  of_same world change sameHistory sameNumber account := by
    constructor
    · rw [sameHistory]
      exact account.belowLimit
    · rw [sameHistory, sameNumber]
      exact account.counted
  recorded world change event unmoved recorded same account := by
    constructor
    · rw [recorded]
      refine ⟨?_, account.belowLimit⟩
      cases event with
      | positionOpened => cases unmoved
      | _ => trivial
    · rw [recorded, same, position_moves_other unmoved]
      exact account.counted
  closed world account := by
    refine ⟨⟨trivial, account.belowLimit⟩, ?_⟩
    simp only [brokerCloses, positionMoves, openAfter, account.counted]
  opened world epic account below := by
    refine ⟨⟨⟨below, account.counted⟩, account.belowLimit⟩, ?_⟩
    simp only [brokerOpens, positionMoves, openAfter, account.counted]

/-- While every opening finds the list up to date, the loop has at most one open position. The
induction is on the history; an opening finds nothing open. -/
theorem at_most_one_open {others : ℕ} {history : List LoopEvent}
    (belowLimit : Throughout (LoopEvent.OpenedBelowLimit others) history)
    (upToDate : ∀ event ∈ history, event.isStaleOpening = false)
    {positions : List OpenedPosition} {remaining : ℕ}
    (holding : MayBeOpen others (positionMoves history) positions remaining) :
    positions.length ≤ 1 := by
  induction history generalizing positions remaining with
  | nil =>
    cases holding
    exact Nat.zero_le 1
  | cons event earlier inductionHypothesis =>
    have before : ∀ {positions : List OpenedPosition} {remaining : ℕ},
        MayBeOpen others (positionMoves earlier) positions remaining → positions.length ≤ 1 :=
      inductionHypothesis belowLimit.2 fun other member =>
        upToDate other (List.mem_cons_of_mem event member)
    by_cases unmoved : event.movesPosition = false
    · rw [position_moves_other unmoved] at holding
      exact before holding
    · cases event with
      | positionOpened epic time listed openAtBroker =>
        obtain ⟨below, counted⟩ := belowLimit.1
        have current := upToDate _ List.mem_cons_self
        simp only [LoopEvent.isStaleOpening, decide_eq_false_iff_not, not_lt] at current
        have one : limits.maxOpenPositions = 1 := rfl
        cases holding with
        | opened position earlierHolding =>
          have number := earlierHolding.number
          simp only [List.length_cons]
          omega
      | positionClosed =>
        cases holding with
        | closed position earlierHolding member =>
          exact (List.length_erase_le).trans (before earlierHolding)
        | otherClosed earlierHolding => exact before earlierHolding
        | noneClosed earlierHolding => exact before earlierHolding
      | _ => exact absurd rfl unmoved

/-- In every run whose openings all find the list up to date, no two positions of the loop that
are open at the same time carry the same signed exposure to one currency. -/
theorem run_exposures_apart (config : LoopConfig) (starts : List StartInput) (clock : ℚ)
    (schedule : ℕ → ℚ) (engine : RiskEngine) (desk : Desk) (openAtBroker : ℕ)
    (upToDate : ∀ event ∈
      (final (run config starts) (constructed clock schedule engine desk openAtBroker)).history,
      event.isStaleOpening = false) :
    NoSharedExposure openAtBroker
      (final (run config starts) (constructed clock schedule engine desk openAtBroker)).history := by
  have initial : OpenAccount openAtBroker (constructed clock schedule engine desk openAtBroker) :=
    ⟨trivial, rfl⟩
  have account := (((open_account_rules openAtBroker).cycleRules config).contracts.keeps_run starts
    fun _ _ _ _ _ _ => trivial).final initial
  intro reached suffix positions remaining holding
  have single : positions.length ≤ 1 :=
    at_most_one_open (account.belowLimit.of_suffix suffix)
      (fun event member => upToDate event (suffix.subset member)) holding
  match positions, single with
  | [], _ => exact List.Pairwise.nil
  | [position], _ => exact List.pairwise_singleton _ position

/-- A cycle that buys two currencies for dollars. -/
def twoDollarSales : CycleInput :=
  { demoCycle []
      [demoStep "CS.D.EURUSD.CFD.IP" (demoAcceptance "DEAL-1"),
        demoStep "CS.D.GBPUSD.CFD.IP" (demoAcceptance "DEAL-2")] with
    account :=
      { positions :=
          { meanwhile := [.snapshotPolled "CS.D.GBPUSD.CFD.IP" ⟨11 / 10, 11001 / 10000⟩]
            reply := .ok [] } } }

/-- Both orders pass the gate on the same empty list, and both positions are short in
dollars. -/
theorem two_dollar_sales_share_exposure :
    ¬ NoSharedExposure 0
      (final (run demoConfig [{ cycles := [twoDollarSales] }]) demoWorld).history := by
  intro apart
  have moves : positionMoves
      (final (run demoConfig [{ cycles := [twoDollarSales] }]) demoWorld).history =
        [.opened ⟨"CS.D.GBPUSD.CFD.IP", "BUY"⟩, .opened ⟨"CS.D.EURUSD.CFD.IP", "BUY"⟩] := by
    decide +kernel
  have holding : MayBeOpen 0 _ _ 0 :=
    .opened ⟨"CS.D.GBPUSD.CFD.IP", "BUY"⟩ (.opened ⟨"CS.D.EURUSD.CFD.IP", "BUY"⟩ .start)
  rw [← moves] at holding
  have pairwise := apart _ List.suffix_rfl _ _ holding
  revert pairwise
  decide +kernel

/-- One of the two orders shares nothing. -/
theorem one_dollar_sale_shares_nothing :
    NoSharedExposure 0
      (final (run demoConfig [{ cycles := [demoCycle []
        [demoStep "CS.D.EURUSD.CFD.IP" (demoAcceptance "DEAL-1")]] }]) demoWorld).history := by
  apply run_exposures_apart
  decide +kernel

end TradingLoop

end IgTradingBot
