import IgTradingBot.Library.Machines
import IgTradingBot.Risk.HftRisk

/-!
# Order rates

Runs of the high-frequency risk manager in which an order is recorded only right after the
check of the rates has allowed it. Everything else that the manager offers may happen in
between, in any order.
-/

namespace IgTradingBot

open SlidingWindows

/-- What happens to the manager. An order takes one reading for its check and one for its
record; the moves of the circuit breaker read the calendar clock. -/
inductive HftMove where
  | ordered (checkedAt recordedAt : ℚ) (instrument : String)
  | rateChecked (now : ℚ) (instrument : String)
  | globalRateChecked (now : ℚ)
  | instrumentRateChecked (now : ℚ) (instrument : String)
  | rejected (now : ℚ)
  | throttleAsked (now : ℚ)
  | statusRead (now calendarNow : ℚ)
  | pnlUpdated (calendarNow activationNow pnl accountEquity : ℚ)
  | permissionAsked (calendarNow : ℚ)
  | deactivated
  | reEnabled

/-- The monotonic clock does not run backwards. -/
def HftMove.Forward (clock : ℚ) : HftMove → Prop
  | .ordered checkedAt recordedAt _ => clock ≤ checkedAt ∧ checkedAt ≤ recordedAt
  | .rateChecked now _ | .globalRateChecked now | .instrumentRateChecked now _ | .rejected now
  | .throttleAsked now | .statusRead now _ => clock ≤ now
  | .pnlUpdated _ _ _ _ | .permissionAsked _ | .deactivated | .reEnabled => True

instance (clock : ℚ) (move : HftMove) : Decidable (move.Forward clock) :=
  match move with
  | .ordered _ _ _ => inferInstanceAs (Decidable (_ ∧ _))
  | .rateChecked _ _ | .globalRateChecked _ | .instrumentRateChecked _ _ | .rejected _
  | .throttleAsked _ | .statusRead _ _ => inferInstanceAs (Decidable (_ ≤ _))
  | .pnlUpdated _ _ _ _ | .permissionAsked _ | .deactivated | .reEnabled =>
    inferInstanceAs (Decidable True)

/-- The manager, the last reading of the monotonic clock, and the recorded orders. -/
structure RatedOrders where
  clock : ℚ
  manager : HFTRiskManager
  orders : List (String × ℚ) := []

/-- The times of some orders. -/
def orderTimes (orders : List (String × ℚ)) : List ℚ := orders.map Prod.snd

/-- The orders for an instrument. -/
def ordersFor (instrument : String) (orders : List (String × ℚ)) : List (String × ℚ) :=
  orders.filter fun order => order.1 = instrument

theorem order_times_append (orders : List (String × ℚ)) (order : String × ℚ) :
    orderTimes (orders ++ [order]) = orderTimes orders ++ [order.2] :=
  List.map_append

/-- A new order joins the orders of its instrument. -/
theorem orders_for_append_same (instrument : String) (time : ℚ) (orders : List (String × ℚ)) :
    ordersFor instrument (orders ++ [(instrument, time)]) =
      ordersFor instrument orders ++ [(instrument, time)] := by
  simp [ordersFor, List.filter_append]

/-- A new order leaves the orders of the other instruments as they are. -/
theorem orders_for_append_other {instrument other : String} (different : other ≠ instrument)
    (time : ℚ) (orders : List (String × ℚ)) :
    ordersFor other (orders ++ [(instrument, time)]) = ordersFor other orders := by
  simp [ordersFor, List.filter_append, Ne.symm different]

/-- Counting orders of a window is counting their times. -/
theorem length_within_order_times (width start : ℚ) (orders : List (String × ℚ)) :
    (within id width start (orderTimes orders)).length =
      (within Prod.snd width start orders).length := by
  simp [within, orderTimes, List.filter_map, Function.comp_def]

namespace SlidingWindowCounter

/-- A counter shows the trailing windows of a history from a reading on. -/
structure ShowsWindow (counter : SlidingWindowCounter) (width clock : ℚ) (history : List ℚ) :
    Prop where
  sameWidth : counter.windowSeconds = width
  mirrors : Mirrors id width clock counter.timestamps history

/-- A counter of one second shows a history from a reading on. -/
structure Shows (counter : SlidingWindowCounter) (clock : ℚ) (history : List ℚ) : Prop where
  oneSecond : counter.windowSeconds = 1
  mirrors : Mirrors id 1 clock counter.timestamps history

section Showing

variable {counter : SlidingWindowCounter} {width clock now : ℚ} {history : List ℚ}

theorem ShowsWindow.wait (shows : counter.ShowsWindow width clock history) (later : clock ≤ now) :
    counter.ShowsWindow width now history :=
  ⟨shows.sameWidth, shows.mirrors.wait later⟩

theorem ShowsWindow.prune (shows : counter.ShowsWindow width clock history) (later : clock ≤ now) :
    (counter.prune now).ShowsWindow width now history := by
  refine ⟨shows.sameWidth, ?_⟩
  simp only [SlidingWindowCounter.prune, shows.sameWidth]
  exact shows.mirrors.prune later

/-- A count is the number of recent events of the history. -/
theorem ShowsWindow.count (shows : counter.ShowsWindow width clock history) (later : clock ≤ now) :
    (counter.count now).2 = (recent id width now history).length := by
  simp only [SlidingWindowCounter.count, SlidingWindowCounter.prune, shows.sameWidth]
  rw [shows.mirrors now later]

/-- A record joins the history. -/
theorem ShowsWindow.record (shows : counter.ShowsWindow width clock history)
    (later : clock ≤ now) : (counter.record now).ShowsWindow width now (history ++ [now]) := by
  have joined : { counter with timestamps := counter.timestamps ++ [now] }.ShowsWindow width clock
      (history ++ [now]) := ⟨shows.sameWidth, shows.mirrors.append now⟩
  exact joined.prune later

/-- To show a history in a counter of one second is to show its windows of one second. -/
theorem shows_iff : counter.Shows clock history ↔ counter.ShowsWindow 1 clock history :=
  ⟨fun shows => ⟨shows.oneSecond, shows.mirrors⟩, fun shows => ⟨shows.sameWidth, shows.mirrors⟩⟩

theorem Shows.wait (shows : counter.Shows clock history) (later : clock ≤ now) :
    counter.Shows now history :=
  shows_iff.mpr ((shows_iff.mp shows).wait later)

theorem Shows.prune (shows : counter.Shows clock history) (later : clock ≤ now) :
    (counter.prune now).Shows now history :=
  shows_iff.mpr ((shows_iff.mp shows).prune later)

/-- A count is the number of events of the history in the last second. -/
theorem Shows.count (shows : counter.Shows clock history) (later : clock ≤ now) :
    (counter.count now).2 = (recent id 1 now history).length :=
  (shows_iff.mp shows).count later

/-- A record joins the history. -/
theorem Shows.record (shows : counter.Shows clock history) (later : clock ≤ now) :
    (counter.record now).Shows now (history ++ [now]) :=
  shows_iff.mpr ((shows_iff.mp shows).record later)

end Showing

end SlidingWindowCounter

namespace HFTRiskManager

/-- The counter of an instrument; one that does not exist yet is empty. -/
def counterOf (manager : HFTRiskManager) (instrument : String) : SlidingWindowCounter :=
  (manager.instrumentRateCounters.lookup instrument).getD {}

/-- Two managers have the same rates and the same counters of orders. -/
structure SameRates (before after : HFTRiskManager) : Prop where
  globalRate : after.maxOrderRate = before.maxOrderRate
  instrumentRate : after.maxPerInstrumentRate = before.maxPerInstrumentRate
  globalCounter : after.globalRateCounter = before.globalRateCounter
  instrumentCounters : after.instrumentRateCounters = before.instrumentRateCounters

section Frames

variable (manager : HFTRiskManager)

theorem SameRates.trans {first second third : HFTRiskManager} (one : first.SameRates second)
    (two : second.SameRates third) : first.SameRates third :=
  ⟨two.globalRate.trans one.globalRate, two.instrumentRate.trans one.instrumentRate,
    two.globalCounter.trans one.globalCounter,
    two.instrumentCounters.trans one.instrumentCounters⟩

theorem record_rejection_same_rates (now : ℚ) : manager.SameRates (manager.recordRejection now) :=
  ⟨rfl, rfl, rfl, rfl⟩

theorem get_rejection_rate_same_rates (now : ℚ) :
    manager.SameRates (manager.getRejectionRate now).1 := by
  simp only [getRejectionRate]
  split_ifs <;> exact ⟨rfl, rfl, rfl, rfl⟩

theorem should_throttle_same_rates (now : ℚ) :
    manager.SameRates (manager.shouldThrottle now).1 :=
  get_rejection_rate_same_rates manager now

theorem update_pnl_same_rates (now activationNow pnl accountEquity : ℚ) :
    manager.SameRates (manager.updatePnl now activationNow pnl accountEquity) := by
  simp only [updatePnl]
  split_ifs <;> exact ⟨rfl, rfl, rfl, rfl⟩

theorem is_hft_allowed_same_rates (now : ℚ) :
    manager.SameRates (manager.isHftAllowed now).1 := by
  simp only [isHftAllowed]
  split_ifs
  · exact ⟨rfl, rfl, rfl, rfl⟩
  · cases manager.circuitBreakerActivatedAt with
    | none => exact ⟨rfl, rfl, rfl, rfl⟩
    | some activatedAt =>
      simp only
      split_ifs <;> exact ⟨rfl, rfl, rfl, rfl⟩
  · exact ⟨rfl, rfl, rfl, rfl⟩

end Frames

/-- The counters of a manager show the recorded orders, in total and for every instrument. -/
structure ShowsOrders (manager : HFTRiskManager) (clock : ℚ) (orders : List (String × ℚ)) :
    Prop where
  total : manager.globalRateCounter.Shows clock (orderTimes orders)
  each : ∀ instrument,
    (manager.counterOf instrument).Shows clock (orderTimes (ordersFor instrument orders))

section Counting

variable {manager : HFTRiskManager} {clock now : ℚ} {orders : List (String × ℚ)}

theorem ShowsOrders.wait (shows : manager.ShowsOrders clock orders) (later : clock ≤ now) :
    manager.ShowsOrders now orders :=
  ⟨shows.total.wait later, fun instrument => (shows.each instrument).wait later⟩

theorem ShowsOrders.same_rates {after : HFTRiskManager}
    (shows : manager.ShowsOrders clock orders) (same : manager.SameRates after) :
    after.ShowsOrders clock orders := by
  constructor
  · rw [same.globalCounter]
    exact shows.total
  · intro instrument
    simp only [counterOf, same.instrumentCounters]
    exact shows.each instrument

/-- Counting all orders keeps the counters. -/
theorem ShowsOrders.count_global (shows : manager.ShowsOrders clock orders)
    (later : clock ≤ now) :
    { manager with globalRateCounter := (manager.globalRateCounter.count now).1 }.ShowsOrders now
      orders :=
  ⟨shows.total.prune later, fun instrument => (shows.each instrument).wait later⟩

/-- Counting the orders of an instrument gives the number of its recent ones, and keeps the
counters. -/
theorem ShowsOrders.count_instrument (shows : manager.ShowsOrders clock orders)
    (later : clock ≤ now) (instrument : String) :
    (manager.countInstrument now instrument).2 =
        (recent id 1 now (orderTimes (ordersFor instrument orders))).length ∧
      (manager.countInstrument now instrument).1.ShowsOrders now orders ∧
      (manager.countInstrument now instrument).1.maxOrderRate = manager.maxOrderRate ∧
      (manager.countInstrument now instrument).1.maxPerInstrumentRate =
        manager.maxPerInstrumentRate := by
  have counted := (shows.each instrument).count later
  cases found : manager.instrumentRateCounters.lookup instrument with
  | none =>
    have empty : manager.counterOf instrument = {} := by simp [counterOf, found]
    rw [empty] at counted
    simp only [countInstrument, found]
    exact ⟨counted, shows.wait later, trivial, trivial⟩
  | some counter =>
    have present : manager.counterOf instrument = counter := by simp [counterOf, found]
    rw [present] at counted
    simp only [countInstrument, found]
    refine ⟨counted, ⟨shows.total.wait later, ?_⟩, trivial, trivial⟩
    intro other
    by_cases same : other = instrument
    · subst same
      simp only [counterOf, AList.lookup_insert, Option.getD_some]
      rw [← present]
      exact (shows.each other).prune later
    · simp only [counterOf, AList.lookup_insert_ne same]
      exact (shows.each other).wait later

/-- A recorded order joins the orders that the counters show. -/
theorem ShowsOrders.record_order (shows : manager.ShowsOrders clock orders)
    (later : clock ≤ now) (instrument : String) :
    (manager.recordOrder now instrument).ShowsOrders now (orders ++ [(instrument, now)]) := by
  constructor
  · rw [order_times_append]
    exact shows.total.record later
  · intro other
    by_cases same : other = instrument
    · subst same
      rw [orders_for_append_same, order_times_append]
      simp only [counterOf, recordOrder, AList.lookup_insert, Option.getD_some]
      exact (shows.each other).record later
    · rw [orders_for_append_other same]
      simp only [counterOf, recordOrder, AList.lookup_insert_ne same]
      exact (shows.each other).wait later

/-- The check of the rates keeps the counters, and allows an order only if both rates have
room for it. -/
theorem ShowsOrders.check_rate_limit (shows : manager.ShowsOrders clock orders)
    (later : clock ≤ now) (instrument : String) :
    (manager.checkRateLimit now instrument).1.ShowsOrders now orders ∧
      (manager.checkRateLimit now instrument).1.maxOrderRate = manager.maxOrderRate ∧
      (manager.checkRateLimit now instrument).1.maxPerInstrumentRate =
        manager.maxPerInstrumentRate ∧
      ((manager.checkRateLimit now instrument).2.allowed = true →
        ((recent id 1 now (orderTimes orders)).length : ℤ) < manager.maxOrderRate ∧
          ((recent id 1 now (orderTimes (ordersFor instrument orders))).length : ℤ) <
            manager.maxPerInstrumentRate) := by
  have globalCount := shows.total.count later
  obtain ⟨instrumentCount, counted, sameGlobal, sameInstrument⟩ :=
    (shows.count_global later).count_instrument (le_refl now) instrument
  simp only [checkRateLimit, globalCount, instrumentCount]
  split_ifs with globalFull instrumentFull
  · exact ⟨counted.same_rates (record_rejection_same_rates _ now), sameGlobal, sameInstrument,
      False.elim⟩
  · exact ⟨counted.same_rates (record_rejection_same_rates _ now), sameGlobal, sameInstrument,
      False.elim⟩
  · exact ⟨counted, sameGlobal, sameInstrument,
      fun _ => ⟨not_le.mp globalFull, not_le.mp instrumentFull⟩⟩

/-- The report counts all orders and keeps the counters. -/
theorem ShowsOrders.get_status (shows : manager.ShowsOrders clock orders) (later : clock ≤ now)
    (calendarNow : ℚ) :
    (manager.getStatus now calendarNow).1.ShowsOrders now orders ∧
      (manager.getStatus now calendarNow).1.maxOrderRate = manager.maxOrderRate ∧
      (manager.getStatus now calendarNow).1.maxPerInstrumentRate =
        manager.maxPerInstrumentRate := by
  have asked := is_hft_allowed_same_rates manager calendarNow
  have counted := (shows.same_rates asked).count_global later
  have reported : SameRates
      { (manager.isHftAllowed calendarNow).1 with
        globalRateCounter :=
          ((manager.isHftAllowed calendarNow).1.globalRateCounter.count now).1 }
      (manager.getStatus now calendarNow).1 :=
    (get_rejection_rate_same_rates _ now).trans (should_throttle_same_rates _ now)
  exact ⟨counted.same_rates reported, reported.globalRate.trans asked.globalRate,
    reported.instrumentRate.trans asked.instrumentRate⟩

end Counting

end HFTRiskManager

namespace RatedOrders

open HFTRiskManager

/-- One move. -/
def step (rated : RatedOrders) : HftMove → RatedOrders
  | .ordered checkedAt recordedAt instrument =>
    let checked := rated.manager.checkRateLimit checkedAt instrument
    if checked.2.allowed then
      { clock := recordedAt
        manager := checked.1.recordOrder recordedAt instrument
        orders := rated.orders ++ [(instrument, recordedAt)] }
    else { rated with clock := recordedAt, manager := checked.1 }
  | .rateChecked now instrument =>
    { rated with clock := now, manager := (rated.manager.checkRateLimit now instrument).1 }
  | .globalRateChecked now =>
    { rated with clock := now, manager := (rated.manager.checkGlobalRate now).1 }
  | .instrumentRateChecked now instrument =>
    { rated with clock := now, manager := (rated.manager.checkInstrumentRate now instrument).1 }
  | .rejected now => { rated with clock := now, manager := rated.manager.recordRejection now }
  | .throttleAsked now =>
    { rated with clock := now, manager := (rated.manager.shouldThrottle now).1 }
  | .statusRead now calendarNow =>
    { rated with clock := now, manager := (rated.manager.getStatus now calendarNow).1 }
  | .pnlUpdated calendarNow activationNow pnl accountEquity =>
    { rated with
      manager := rated.manager.updatePnl calendarNow activationNow pnl accountEquity }
  | .permissionAsked calendarNow =>
    { rated with manager := (rated.manager.isHftAllowed calendarNow).1 }
  | .deactivated => { rated with manager := rated.manager.deactivateCircuitBreaker }
  | .reEnabled => { rated with manager := rated.manager.reEnableHft }

/-- A new manager at a reading of the clock. -/
def constructed (clock : ℚ) (maxOrderRate maxPerInstrumentRate : ℤ) : RatedOrders :=
  { clock := clock, manager := create maxOrderRate maxPerInstrumentRate }

/-- The condition on a move in a state. -/
def Forward (rated : RatedOrders) (move : HftMove) : Prop := move.Forward rated.clock

instance (rated : RatedOrders) (move : HftMove) : Decidable (rated.Forward move) :=
  inferInstanceAs (Decidable (move.Forward rated.clock))

/-- The counters show the recorded orders, whose windows are within the rates. -/
structure WithinRates (maxOrderRate maxPerInstrumentRate : ℤ) (rated : RatedOrders) : Prop where
  sameGlobal : rated.manager.maxOrderRate = maxOrderRate
  sameInstrument : rated.manager.maxPerInstrumentRate = maxPerInstrumentRate
  counters : rated.manager.ShowsOrders rated.clock rated.orders
  total : Limited id 1 rated.clock maxOrderRate.toNat (orderTimes rated.orders)
  each : ∀ instrument, Limited id 1 rated.clock maxPerInstrumentRate.toNat
    (orderTimes (ordersFor instrument rated.orders))

section Steps

variable {maxOrderRate maxPerInstrumentRate : ℤ} {rated : RatedOrders}

/-- A call that records no order keeps the orders within the rates. -/
theorem WithinRates.after_call {now : ℚ}
    (held : rated.WithinRates maxOrderRate maxPerInstrumentRate) (later : rated.clock ≤ now)
    {manager : HFTRiskManager} (sameGlobal : manager.maxOrderRate = rated.manager.maxOrderRate)
    (sameInstrument : manager.maxPerInstrumentRate = rated.manager.maxPerInstrumentRate)
    (shows : manager.ShowsOrders now rated.orders) :
    WithinRates maxOrderRate maxPerInstrumentRate
      { rated with clock := now, manager := manager } :=
  ⟨sameGlobal.trans held.sameGlobal, sameInstrument.trans held.sameInstrument, shows,
    held.total.wait later, fun instrument => (held.each instrument).wait later⟩

/-- A call that leaves the counters of orders alone keeps the orders within the rates. -/
theorem WithinRates.same_rates {now : ℚ}
    (held : rated.WithinRates maxOrderRate maxPerInstrumentRate) (later : rated.clock ≤ now)
    {manager : HFTRiskManager} (same : rated.manager.SameRates manager) :
    WithinRates maxOrderRate maxPerInstrumentRate
      { rated with clock := now, manager := manager } :=
  held.after_call later same.globalRate same.instrumentRate
    ((held.counters.wait later).same_rates same)

/-- An order that the check has allowed keeps the orders within the rates. -/
theorem WithinRates.ordered {checkedAt recordedAt : ℚ} {instrument : String}
    (held : rated.WithinRates maxOrderRate maxPerInstrumentRate)
    (forward : rated.Forward (.ordered checkedAt recordedAt instrument)) :
    (rated.step (.ordered checkedAt recordedAt instrument)).WithinRates maxOrderRate
      maxPerInstrumentRate := by
  obtain ⟨later, recordedLater⟩ := forward
  obtain ⟨shows, sameGlobal, sameInstrument, room⟩ :=
    held.counters.check_rate_limit later instrument
  simp only [step]
  split_ifs with allowed
  · obtain ⟨globalRoom, instrumentRoom⟩ := room allowed
    rw [held.sameGlobal] at globalRoom
    rw [held.sameInstrument] at instrumentRoom
    -- what is recent at the record was recent at the check
    have fewer : ∀ times : List ℚ,
        (recent id 1 recordedAt times).length ≤ (recent id 1 checkedAt times).length := by
      intro times
      rw [← recent_recent recordedLater]
      exact List.length_filter_le _ _
    constructor
    · exact sameGlobal.trans held.sameGlobal
    · exact sameInstrument.trans held.sameInstrument
    · exact shows.record_order recordedLater instrument
    · rw [order_times_append]
      apply held.total.append (later.trans recordedLater)
      have bounded := fewer (orderTimes rated.orders)
      simp only [id_eq]
      omega
    · intro other
      by_cases same : other = instrument
      · subst same
        rw [orders_for_append_same, order_times_append]
        apply (held.each other).append (later.trans recordedLater)
        have bounded := fewer (orderTimes (ordersFor other rated.orders))
        simp only [id_eq]
        omega
      · rw [orders_for_append_other same]
        exact (held.each other).wait (later.trans recordedLater)
  · exact held.after_call (later.trans recordedLater) sameGlobal sameInstrument
      (shows.wait recordedLater)

/-- Every move keeps the orders within the rates. -/
theorem WithinRates.step {move : HftMove}
    (held : rated.WithinRates maxOrderRate maxPerInstrumentRate) (forward : rated.Forward move) :
    (rated.step move).WithinRates maxOrderRate maxPerInstrumentRate := by
  cases move with
  | ordered checkedAt recordedAt instrument => exact held.ordered forward
  | rateChecked now instrument =>
    obtain ⟨shows, sameGlobal, sameInstrument, _⟩ :=
      held.counters.check_rate_limit forward instrument
    exact held.after_call forward sameGlobal sameInstrument shows
  | globalRateChecked now =>
    exact held.after_call forward rfl rfl (held.counters.count_global forward)
  | instrumentRateChecked now instrument =>
    obtain ⟨_, shows, sameGlobal, sameInstrument⟩ :=
      held.counters.count_instrument forward instrument
    simp only [RatedOrders.step, checkInstrumentRate]
    split_ifs
    · exact held.after_call forward sameGlobal sameInstrument shows
    · exact held.after_call forward rfl rfl (held.counters.wait forward)
  | rejected now => exact held.same_rates forward (record_rejection_same_rates _ now)
  | throttleAsked now => exact held.same_rates forward (should_throttle_same_rates _ now)
  | statusRead now calendarNow =>
    obtain ⟨shows, sameGlobal, sameInstrument⟩ := held.counters.get_status forward calendarNow
    exact held.after_call forward sameGlobal sameInstrument shows
  | pnlUpdated calendarNow activationNow pnl accountEquity =>
    exact held.same_rates (le_refl _) (update_pnl_same_rates _ _ _ _ _)
  | permissionAsked calendarNow =>
    exact held.same_rates (le_refl _) (is_hft_allowed_same_rates _ _)
  | deactivated => exact held.same_rates (le_refl _) ⟨rfl, rfl, rfl, rfl⟩
  | reEnabled => exact held.same_rates (le_refl _) ⟨rfl, rfl, rfl, rfl⟩

end Steps

/-- Every run keeps the orders within the rates. -/
theorem run_within_rates (clock : ℚ) (maxOrderRate maxPerInstrumentRate : ℤ)
    {moves : List HftMove}
    (forward : Machines.Conforms step Forward
      (constructed clock maxOrderRate maxPerInstrumentRate) moves) :
    (Machines.after step (constructed clock maxOrderRate maxPerInstrumentRate)
      moves).WithinRates (create maxOrderRate maxPerInstrumentRate).maxOrderRate
        maxPerInstrumentRate := by
  apply Machines.after_keeps (fun _ _ held => WithinRates.step held) ?_ forward
  constructor
  · rfl
  · rfl
  · exact ⟨⟨rfl, mirrors_nil clock⟩, fun _ => ⟨rfl, mirrors_nil clock⟩⟩
  · exact limited_nil clock _
  · exact fun _ => limited_nil clock _

/-- In every run whose orders are recorded right after the check has allowed them, every
half-open window of one second has at most the maximal number of orders, in total and for
each instrument. A negative maximum of an instrument admits none. -/
theorem recorded_orders_within_rates (clock : ℚ) (maxOrderRate maxPerInstrumentRate : ℤ)
    (moves : List HftMove)
    (forward : Machines.Conforms step Forward
      (constructed clock maxOrderRate maxPerInstrumentRate) moves) (start : ℚ) :
    let orders := (Machines.after step (constructed clock maxOrderRate maxPerInstrumentRate)
      moves).orders
    ((within Prod.snd 1 start orders).length : ℤ) ≤
        (create maxOrderRate maxPerInstrumentRate).maxOrderRate ∧
      ∀ instrument, ((within Prod.snd 1 start (ordersFor instrument orders)).length : ℤ) ≤
        max 0 maxPerInstrumentRate := by
  intro orders
  have held := run_within_rates clock maxOrderRate maxPerInstrumentRate forward
  constructor
  · have bounded : (within Prod.snd 1 start orders).length ≤
        (create maxOrderRate maxPerInstrumentRate).maxOrderRate.toNat := by
      rw [← length_within_order_times]
      exact held.total.windows start
    have positive : 10 ≤ (create maxOrderRate maxPerInstrumentRate).maxOrderRate :=
      le_max_left 10 _
    omega
  · intro instrument
    have bounded : (within Prod.snd 1 start (ordersFor instrument orders)).length ≤
        maxPerInstrumentRate.toNat := by
      rw [← length_within_order_times]
      exact (held.each instrument).windows start
    omega

/-- Twelve orders at once, where ten are allowed. -/
theorem burst_within_rates :
    ((within Prod.snd 1 0 (Machines.after step (constructed 0 10 50)
      (List.replicate 12 (.ordered 0 0 "EURUSD"))).orders).length : ℤ) ≤ 10 :=
  (recorded_orders_within_rates 0 10 50 (List.replicate 12 (.ordered 0 0 "EURUSD"))
    (by decide +kernel) 0).1

end RatedOrders

end IgTradingBot
