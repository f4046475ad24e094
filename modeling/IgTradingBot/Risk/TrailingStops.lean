import IgTradingBot.Risk.StopManager
import Mathlib.Data.List.Infix

/-!
# Trailing stops

A position follows a path of prices, each with the average true range of its moment: a new
stop becomes the current one. The sign and the size of the range may change at every step.
-/

namespace IgTradingBot

namespace TradeDirection

/-- A price is at least as favourable to a trade as another. -/
def AtLeast : TradeDirection → ℚ → ℚ → Prop
  | .long, price, other => other ≤ price
  | .short, price, other => price ≤ other

/-- A price moved by a distance in a trade's favour. -/
def ahead : TradeDirection → ℚ → ℚ → ℚ
  | .long, price, distance => price + distance
  | .short, price, distance => price - distance

theorem at_least_refl (direction : TradeDirection) (price : ℚ) :
    direction.AtLeast price price := by
  cases direction <;> exact le_refl price

theorem AtLeast.trans {direction : TradeDirection} {first second third : ℚ}
    (better : direction.AtLeast first second) (good : direction.AtLeast second third) :
    direction.AtLeast first third := by
  cases direction with
  | long => exact le_trans good better
  | short => exact le_trans better good

end TradeDirection

namespace StopManager

/-- A price with the average true range of its moment. -/
structure PriceTick where
  price : ℚ
  atr : ℚ

namespace Position

/-- The initial risk, one R. -/
def riskDistance (position : Position) : ℚ := |position.entryPrice - position.initialStop|

/-- The price has moved by the initial risk in the trade's favour. -/
def ReachedOneR (position : Position) (price : ℚ) : Prop :=
  position.direction.AtLeast price
    (position.direction.ahead position.entryPrice position.riskDistance)

/-- Take a price: a new stop becomes the current one. -/
def follow (position : Position) (tick : PriceTick) : Position :=
  match updateTrailingStop position tick.price tick.atr with
  | none => position
  | some newStop => { position with currentStop := newStop }

/-- Take the prices of a path. -/
def followPath (position : Position) (path : List PriceTick) : Position :=
  path.foldl follow position

/-- The stop a price calls for lies between the entry and one initial risk behind the price. -/
structure Trails (position : Position) (price newStop : ℚ) : Prop where
  reached : position.ReachedOneR price
  fromEntry : position.direction.AtLeast newStop position.entryPrice
  behind : position.direction.AtLeast price
    (position.direction.ahead newStop position.riskDistance)

/-- A new stop is better than the current one and trails the price. -/
theorem update_moves {position : Position} {price atr newStop : ℚ}
    (moved : updateTrailingStop position price atr = some newStop) :
    position.direction.AtLeast newStop position.currentStop ∧
      position.Trails price newStop := by
  obtain ⟨entry, direction, initialStop, currentStop, atrAtEntry⟩ := position
  simp only [updateTrailingStop] at moved
  cases direction with
  | long =>
    simp only at moved
    split_ifs at moved with noRisk below noStep back
    obtain rfl := Option.some.inj moved
    obtain ⟨advanced, bounded⟩ :=
      Decimals.mul_truncate_div (sub_nonneg.mpr (not_lt.mp below)) noStep
    refine ⟨(not_le.mp back).le, ?_, ?_, ?_⟩
    all_goals
      simp only [ReachedOneR, riskDistance, TradeDirection.AtLeast, TradeDirection.ahead]
      linarith
  | short =>
    simp only at moved
    split_ifs at moved with noRisk below noStep back
    obtain rfl := Option.some.inj moved
    obtain ⟨advanced, bounded⟩ :=
      Decimals.mul_truncate_div (sub_nonneg.mpr (not_lt.mp below)) noStep
    refine ⟨(not_le.mp back).le, ?_, ?_, ?_⟩
    all_goals
      simp only [ReachedOneR, riskDistance, TradeDirection.AtLeast, TradeDirection.ahead]
      linarith

/-- Where a price that has reached one R calls for no new stop, the current stop is not on the
losing side of the entry. -/
theorem update_rests {position : Position} {price atr : ℚ} (risk : position.riskDistance ≠ 0)
    (reached : position.ReachedOneR price) (nonzero : atr ≠ 0)
    (rests : updateTrailingStop position price atr = none) :
    position.direction.AtLeast position.currentStop position.entryPrice := by
  obtain ⟨entry, direction, initialStop, currentStop, atrAtEntry⟩ := position
  have stepNonzero : atr * (1 / 2) ≠ 0 := mul_ne_zero nonzero (by norm_num)
  simp only [updateTrailingStop, riskDistance] at rests risk
  simp only [ReachedOneR, riskDistance, TradeDirection.AtLeast, TradeDirection.ahead] at reached
  cases direction with
  | long =>
    have profit : ¬ price - entry < |entry - initialStop| := by linarith
    have advanced := (Decimals.mul_truncate_div (sub_nonneg.mpr (not_lt.mp profit))
      stepNonzero).1
    simp only [risk, profit, stepNonzero, if_false] at rests
    split_ifs at rests with back
    exact le_trans (by linarith) back
  | short =>
    have profit : ¬ entry - price < |entry - initialStop| := by linarith
    have advanced := (Decimals.mul_truncate_div (sub_nonneg.mpr (not_lt.mp profit))
      stepNonzero).1
    simp only [risk, profit, stepNonzero, if_false] at rests
    split_ifs at rests with back
    exact le_trans back (by linarith)

section Steps

variable (position : Position) (tick : PriceTick) (path : List PriceTick)

@[simp] theorem follow_entry_price : (position.follow tick).entryPrice = position.entryPrice := by
  cases moved : updateTrailingStop position tick.price tick.atr <;> simp [follow, moved]

@[simp] theorem follow_direction : (position.follow tick).direction = position.direction := by
  cases moved : updateTrailingStop position tick.price tick.atr <;> simp [follow, moved]

@[simp] theorem follow_initial_stop :
    (position.follow tick).initialStop = position.initialStop := by
  cases moved : updateTrailingStop position tick.price tick.atr <;> simp [follow, moved]

@[simp] theorem follow_path_nil : position.followPath [] = position := rfl

@[simp] theorem follow_path_cons :
    position.followPath (tick :: path) = (position.follow tick).followPath path := rfl

/-- A path is followed part by part. -/
theorem follow_path_append (second : List PriceTick) :
    position.followPath (path ++ second) = (position.followPath path).followPath second :=
  List.foldl_append

@[simp] theorem follow_path_entry_price :
    (position.followPath path).entryPrice = position.entryPrice := by
  induction path generalizing position with
  | nil => rfl
  | cons tick rest inductionHypothesis =>
    rw [follow_path_cons, inductionHypothesis, follow_entry_price]

@[simp] theorem follow_path_direction :
    (position.followPath path).direction = position.direction := by
  induction path generalizing position with
  | nil => rfl
  | cons tick rest inductionHypothesis =>
    rw [follow_path_cons, inductionHypothesis, follow_direction]

@[simp] theorem follow_path_initial_stop :
    (position.followPath path).initialStop = position.initialStop := by
  induction path generalizing position with
  | nil => rfl
  | cons tick rest inductionHypothesis =>
    rw [follow_path_cons, inductionHypothesis, follow_initial_stop]

/-- The initial risk stays what it was. -/
@[simp] theorem follow_path_risk :
    (position.followPath path).riskDistance = position.riskDistance := by
  simp [riskDistance]

/-- A price never makes the stop worse. -/
theorem follow_advances :
    position.direction.AtLeast (position.follow tick).currentStop position.currentStop := by
  cases moved : updateTrailingStop position tick.price tick.atr with
  | none =>
    simp only [follow, moved]
    exact position.direction.at_least_refl _
  | some newStop =>
    simp only [follow, moved]
    exact (update_moves moved).1

/-- After a price that has reached one R the stop is not on the losing side of the entry. -/
theorem follow_breaks_even (risk : position.riskDistance ≠ 0) (nonzero : tick.atr ≠ 0)
    (reached : position.ReachedOneR tick.price) :
    position.direction.AtLeast (position.follow tick).currentStop position.entryPrice := by
  cases moved : updateTrailingStop position tick.price tick.atr with
  | none =>
    simp only [follow, moved]
    exact update_rests risk reached nonzero moved
  | some newStop =>
    simp only [follow, moved]
    exact (update_moves moved).2.fromEntry

/-- Along a path the stop never gets worse. -/
theorem follow_path_advances :
    position.direction.AtLeast (position.followPath path).currentStop position.currentStop := by
  induction path generalizing position with
  | nil => exact position.direction.at_least_refl _
  | cons tick rest inductionHypothesis =>
    have advances := inductionHypothesis (position.follow tick)
    rw [follow_direction] at advances
    exact advances.trans (follow_advances position tick)

end Steps

/-- The three guarantees of the trailing stop, on every path of prices whose average true
ranges are not zero. At no two moments is the later stop worse than the earlier one; every
price that moves the stop leaves it one initial risk or more behind; and once a price has
reached one R the stop is not on the losing side of the entry. A position that risks nothing
has its one R at the entry and is never moved, so there the stop has to start on the right
side. -/
theorem trailing_stop_guarantees (position : Position) (path : List PriceTick)
    (nonzero : ∀ tick ∈ path, tick.atr ≠ 0) :
    (∀ earlier later, earlier <+: later → later <+: path →
        position.direction.AtLeast (position.followPath later).currentStop
          (position.followPath earlier).currentStop) ∧
      (∀ before tick newStop, before ++ [tick] <+: path →
        updateTrailingStop (position.followPath before) tick.price tick.atr = some newStop →
          position.direction.AtLeast tick.price
            (position.direction.ahead newStop position.riskDistance)) ∧
      ((position.riskDistance ≠ 0 ∨
          position.direction.AtLeast position.currentStop position.entryPrice) →
        ∀ before tick later, before ++ tick :: later = path →
          position.ReachedOneR tick.price →
            position.direction.AtLeast (position.followPath path).currentStop
              position.entryPrice) := by
  refine ⟨?_, ?_, ?_⟩
  · rintro earlier later ⟨further, rfl⟩ _
    have advances := follow_path_advances (position.followPath earlier) further
    rw [follow_path_direction] at advances
    rw [follow_path_append]
    exact advances
  · intro before tick newStop _ moved
    have trails := (update_moves moved).2.behind
    rw [follow_path_direction, follow_path_risk] at trails
    exact trails
  · rintro (risk | started) before tick later rfl reached
    · have sameReached : (position.followPath before).ReachedOneR tick.price := by
        simp only [ReachedOneR, follow_path_direction, follow_path_entry_price,
          follow_path_risk]
        exact reached
      have breaksEven := follow_breaks_even (position.followPath before) tick
        (by rw [follow_path_risk]; exact risk) (nonzero tick (by simp)) sameReached
      have advances := follow_path_advances ((position.followPath before).follow tick) later
      simp only [follow_direction, follow_path_direction, follow_path_entry_price]
        at breaksEven advances
      rw [follow_path_append, follow_path_cons]
      exact advances.trans breaksEven
    · exact (follow_path_advances position _).trans started

/-- A long position that risks ten, bought at a hundred. -/
def longFromHundred : Position where
  entryPrice := 100
  direction := .long
  initialStop := 90
  currentStop := 90
  atrAtEntry := 4

/-- The price rises beyond one R and falls back; the stop ends at the entry or above. -/
theorem trailing_stop_after_rise :
    longFromHundred.direction.AtLeast
      (longFromHundred.followPath [⟨105, 4⟩, ⟨117, 4⟩, ⟨103, -2⟩]).currentStop 100 :=
  (trailing_stop_guarantees longFromHundred [⟨105, 4⟩, ⟨117, 4⟩, ⟨103, -2⟩]
    (by decide +kernel)).2.2 (Or.inl (by decide +kernel)) [⟨105, 4⟩] ⟨117, 4⟩ [⟨103, -2⟩] rfl
    (by simp only [ReachedOneR, riskDistance, longFromHundred, TradeDirection.AtLeast,
          TradeDirection.ahead]
        norm_num)

example : (longFromHundred.followPath [⟨105, 4⟩, ⟨117, 4⟩, ⟨103, -2⟩]).currentStop = 106 := by
  decide +kernel

end Position

end StopManager

end IgTradingBot
