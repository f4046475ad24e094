import IgTradingBot.Broker.StopLevels

/-!
# Trailing stops after a partial take-profit

A partial take-profit closes a part of a position through the routine that closes positions, then moves
the stop to break-even. The routine forgets the trailing stop of the deal as soon as the close is
answered, for a part as for the whole, and the move to break-even finds none to update.
-/

namespace IgTradingBot

namespace OrderDesk

open OrderManager

/-- A partial take-profit of a deal goes through: its request is valid and its close returns. -/
structure TakesPartial (desk : OrderDesk) (env : PartialEnvironment) (id : String) (createdAt : ℚ)
    (dealId : String) (closePct : ℚ) (request : PartialRequest) : Prop where
  requested : partialRequest env.position closePct = .ok request
  returned : (closeOrder env.orders desk.manager id createdAt dealId
    (closeDirection request.direction) request.closeSize).1.isOk = true

section Stops

variable {desk : OrderDesk} {dealId : String}

/-- Marking an order leaves the trailing stops alone. -/
theorem mark_partially_closed_stops (deal : String) (desk : OrderDesk) :
    (desk.markPartiallyClosed deal).manager.activeTrailingStops =
      desk.manager.activeTrailingStops := by
  unfold markPartiallyClosed
  split <;> rfl

/-- The move to break-even updates a trailing stop that there is. -/
theorem break_even_lookup (dealId : String) (level : ℚ) (desk : OrderDesk) :
    (desk.breakEven dealId level).manager.activeTrailingStops.lookup dealId =
      (desk.manager.activeTrailingStops.lookup dealId).map fun config =>
        { config with dealId, currentStop := level } := by
  have sent : (desk.sendStop dealId level).manager.activeTrailingStops =
      desk.manager.activeTrailingStops := rfl
  simp only [breakEven, mark_partially_closed_stops, sent]
  cases found : desk.manager.activeTrailingStops.lookup dealId with
  | none => simp only [sent, found, Option.map_none]
  | some config => simp only [setConfig, AList.lookup_insert, Option.map_some]

/-- What a partial take-profit that goes through leaves of the trailing stop of its deal. -/
theorem TakesPartial.lookup {env : PartialEnvironment} {id : String} {createdAt closePct : ℚ}
    {request : PartialRequest} (takes : desk.TakesPartial env id createdAt dealId closePct request) :
    (desk.step (.partialTakeProfit env id createdAt dealId
        closePct)).manager.activeTrailingStops.lookup dealId =
      ((stopsAfterClose env.orders dealId desk.manager.activeTrailingStops).lookup dealId).map
        fun config => { config with dealId, currentStop := request.breakevenStop } := by
  have returned := takes.returned
  simp only [step, takes.requested]
  split
  · rename_i failure raised
    rw [raised] at returned
    exact absurd returned (by simp [Except.isOk, Except.toBool])
  · rw [break_even_lookup]
    exact congrArg (fun stops => Option.map _ (AList.lookup dealId stops))
      (close_program_stops env.orders dealId _)

end Stops

/-- A partial take-profit that goes through, on a deal with a trailing stop, keeps the trailing stop
and moves it to break-even exactly when the close request was not answered with a dictionary, so that
it is the retry that returned. -/
theorem partial_keeps_trailing_iff (desk : OrderDesk) (env : PartialEnvironment) (id : String)
    (createdAt : ℚ) (dealId : String) (closePct : ℚ) (request : PartialRequest)
    (config : TrailingStopConfig)
    (configured : desk.manager.activeTrailingStops.lookup dealId = some config)
    (takes : desk.TakesPartial env id createdAt dealId closePct request) :
    (desk.step (.partialTakeProfit env id createdAt dealId
        closePct)).manager.activeTrailingStops.lookup dealId =
          some { config with dealId, currentStop := request.breakevenStop } ↔
      closeAnswered env.orders = false := by
  rw [takes.lookup, stopsAfterClose]
  cases answered : closeAnswered env.orders with
  | true =>
    rw [if_pos rfl, AList.lookup_erase]
    simp
  | false =>
    rw [if_neg Bool.false_ne_true, configured]
    simp

/-- The close request of this environment is lost, and the order that retries it is answered. -/
def lostClose : PartialEnvironment where
  position := longPosition
  orders := { answeredEnvironment with closeReply := .error (.other "Timeout") }

/-- A desk with a trailing stop of the long position. -/
def trailingDesk : OrderDesk :=
  OrderDesk.step {} (.setupTrailingStop "DEAL-1" (1 / 100) "BUY" "CS.D.EURUSD.CFD.IP" (11 / 10)
    (109 / 100))

/-- A lost close request leaves the trailing stop. -/
theorem lost_close_keeps_trailing :
    (trailingDesk.step (.partialTakeProfit lostClose "ORD-2" 60 "DEAL-1"
        (1 / 2))).manager.activeTrailingStops.lookup "DEAL-1" =
          some ⟨"DEAL-1", "CS.D.EURUSD.CFD.IP", "BUY", 1 / 100, 10999 / 10000, 11 / 10, 999999⟩ ↔
      closeAnswered lostClose.orders = false :=
  partial_keeps_trailing_iff trailingDesk lostClose "ORD-2" 60 "DEAL-1" (1 / 2)
    ⟨"BUY", 1, 10999 / 10000⟩
    ⟨"DEAL-1", "CS.D.EURUSD.CFD.IP", "BUY", 1 / 100, 109 / 100, 11 / 10, 999999⟩
    (by decide +kernel) ⟨half_closed_request, by decide +kernel⟩

/-- The close of half a position is answered, and its trailing stop is gone: the next prices send no
stop for the deal. -/
theorem half_closed_forgets_trailing :
    trailingDesk.TakesPartial { position := longPosition, orders := answeredEnvironment } "ORD-2" 60
        "DEAL-1" (1 / 2) ⟨"BUY", 1, 10999 / 10000⟩ ∧
      (trailingDesk.step halfClosed).manager.activeTrailingStops.lookup "DEAL-1" = none ∧
      ((trailingDesk.step halfClosed).step (.priceTick "CS.D.EURUSD.CFD.IP" 2)).levels "DEAL-1" =
        [10999 / 10000] :=
  ⟨⟨half_closed_request, by decide +kernel⟩, by decide +kernel, by decide +kernel⟩

end OrderDesk

end IgTradingBot
