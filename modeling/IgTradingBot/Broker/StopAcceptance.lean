import IgTradingBot.Broker.PartialTrailing
import Mathlib.Data.List.Chain

/-!
# Stop levels that the broker accepts

Prices advance the trailing stop of a deal, and every advance is sent to the broker. A failure of the
update is only reported. The manager is at the new level by then, and sends the next level when the
price advances the stop again, but never the failed one.
-/

namespace IgTradingBot

/-- The stop that the broker has for a deal after some updates, the latest first. The broker accepts an
update or fails, by the place of the update among all that are sent. -/
def acceptedStop (accepts : ℕ → Bool) (dealId : String) (initialStop : ℚ) : List SentStop → ℚ
  | [] => initialStop
  | sent :: older =>
    if sent.dealId = dealId ∧ accepts older.length = true then sent.level
    else acceptedStop accepts dealId initialStop older

/-- The latest update that was sent for a deal, if there is one, was accepted. -/
def LatestAccepted (accepts : ℕ → Bool) (dealId : String) : List SentStop → Prop
  | [] => True
  | sent :: older =>
    if sent.dealId = dealId then accepts older.length = true else LatestAccepted accepts dealId older

/-- The levels among some updates that are for a deal. -/
def levelsOf (dealId : String) (sentStops : List SentStop) : List ℚ :=
  (sentStops.filter fun sent => sent.dealId = dealId).map (·.level)

/-- A level is ahead of another one, in the direction of a trailing stop. -/
def Ahead (direction : String) (later earlier : ℚ) : Prop :=
  if direction = "BUY" then earlier < later else later < earlier

section Levels

variable {direction : String}

theorem Ahead.trans {first second third : ℚ} (one : Ahead direction first second)
    (two : Ahead direction second third) : Ahead direction first third := by
  unfold Ahead at *
  split_ifs at one two ⊢
  · exact two.trans one
  · exact one.trans two

theorem Ahead.ne {later earlier : ℚ} (ahead : Ahead direction later earlier) : later ≠ earlier := by
  unfold Ahead at ahead
  split_ifs at ahead
  · exact ahead.ne'
  · exact ahead.ne

instance : IsTrans ℚ (Ahead direction) := ⟨fun _ _ _ => Ahead.trans⟩

/-- The broker has one of the levels that were sent, or the first stop. -/
theorem accepted_stop_mem (accepts : ℕ → Bool) (dealId : String) (initialStop : ℚ)
    (sentStops : List SentStop) :
    acceptedStop accepts dealId initialStop sentStops ∈ levelsOf dealId sentStops ++ [initialStop] := by
  induction sentStops with
  | nil => simp [acceptedStop]
  | cons sent older inductionHypothesis =>
    by_cases own : sent.dealId = dealId
    · by_cases accepted : accepts older.length = true
      · simp [acceptedStop, levelsOf, own, accepted]
      · simp only [acceptedStop, levelsOf, own, accepted, List.filter_cons]
        exact List.mem_cons_of_mem _ inductionHypothesis
    · simpa [acceptedStop, levelsOf, own] using inductionHypothesis

/-- An update for the deal is its latest level. -/
theorem levels_of_own {dealId : String} {sent : SentStop} (own : sent.dealId = dealId)
    (older : List SentStop) : levelsOf dealId (sent :: older) = sent.level :: levelsOf dealId older := by
  simp [levelsOf, own]

/-- An update for another deal leaves the levels. -/
theorem levels_of_other {dealId : String} {sent : SentStop} (other : sent.dealId ≠ dealId)
    (older : List SentStop) : levelsOf dealId (sent :: older) = levelsOf dealId older := by
  simp [levelsOf, other]

/-- Where every level is ahead of the earlier ones, the latest level is the one that the broker has
exactly when the latest update was accepted. The induction is on the updates. -/
theorem latest_level_accepted_iff (accepts : ℕ → Bool) (dealId : String) (initialStop : ℚ)
    (sentStops : List SentStop)
    (advance : (levelsOf dealId sentStops ++ [initialStop]).Pairwise (Ahead direction)) :
    (levelsOf dealId sentStops).head?.getD initialStop =
        acceptedStop accepts dealId initialStop sentStops ↔
      LatestAccepted accepts dealId sentStops := by
  induction sentStops with
  | nil => simp [levelsOf, acceptedStop, LatestAccepted]
  | cons sent older inductionHypothesis =>
    by_cases own : sent.dealId = dealId
    · rw [levels_of_own own, List.cons_append, List.pairwise_cons] at advance
      rw [levels_of_own own, List.head?_cons, Option.getD_some, acceptedStop, LatestAccepted, if_pos own]
      by_cases accepted : accepts older.length = true
      · simp [own, accepted]
      -- a failed update leaves the broker at an earlier level, behind the latest one
      · have behind := advance.1 _ (accepted_stop_mem accepts dealId initialStop older)
        simp [accepted, behind.ne]
    · rw [levels_of_other own] at advance ⊢
      rw [acceptedStop, if_neg fun held => own held.1, LatestAccepted, if_neg own]
      exact inductionHypothesis advance

end Levels

/-- A new stop is ahead of where the trailing stop is. -/
theorem TrailingStopConfig.new_stop_ahead {config : TrailingStopConfig} {level : ℚ}
    (advanced : config.newStop = some level) : Ahead config.direction level config.currentStop := by
  unfold newStop at advanced
  unfold Ahead
  split_ifs at advanced ⊢ with long ahead short ahead
  · exact (Option.some.inj advanced) ▸ ahead
  · exact (Option.some.inj advanced) ▸ ahead

namespace OrderDesk

/-- A trailing stop is at the latest level that was sent for its deal, or where it began, and each of
these levels is ahead of the earlier ones. -/
structure Trails (dealId : String) (began : TrailingStopConfig) (desk : OrderDesk) : Prop where
  stored : ∃ config, desk.manager.activeTrailingStops.lookup dealId = some config ∧
    config.direction = began.direction ∧
      config.currentStop = (levelsOf dealId desk.sentStops).head?.getD began.currentStop
  advance : (levelsOf dealId desk.sentStops ++ [began.currentStop]).IsChain (Ahead began.direction)

section Prices

variable {dealId : String} {began : TrailingStopConfig} {desk : OrderDesk}

/-- The trailing stop of another deal. -/
theorem Trails.configured_other (trails : desk.Trails dealId began) {changed : TrailingStopConfig}
    (different : changed.dealId ≠ dealId) : (desk.setConfig changed).Trails dealId began := by
  obtain ⟨⟨config, found, sameDirection, sameStop⟩, advance⟩ := trails
  exact ⟨⟨config, (AList.lookup_insert_ne different.symm).trans found, sameDirection, sameStop⟩,
    advance⟩

/-- A level for another deal. -/
theorem Trails.sent_other (trails : desk.Trails dealId began) {deal : String}
    (different : deal ≠ dealId) (level : ℚ) : (desk.sendStop deal level).Trails dealId began := by
  have same := levels_of_other (show (⟨deal, level⟩ : SentStop).dealId ≠ dealId from different) desk.sentStops
  obtain ⟨⟨config, found, sameDirection, sameStop⟩, advance⟩ := trails
  refine ⟨⟨config, found, sameDirection, ?_⟩, ?_⟩
  · rw [sendStop, same]
    exact sameStop
  · rw [sendStop, same]
    exact advance

/-- A trailing stop that is followed stays where it is. -/
theorem Trails.followed (trails : desk.Trails dealId began) {config changed : TrailingStopConfig}
    (found : desk.manager.activeTrailingStops.lookup dealId = some config)
    (sameDeal : changed.dealId = dealId) (sameDirection : changed.direction = config.direction)
    (sameStop : changed.currentStop = config.currentStop) :
    (desk.setConfig changed).Trails dealId began := by
  subst sameDeal
  obtain ⟨⟨stored, known, direction, stop⟩, advance⟩ := trails
  obtain rfl : config = stored := Option.some.inj (found.symm.trans known)
  exact ⟨⟨_, AList.lookup_insert _, sameDirection.trans direction, sameStop.trans stop⟩, advance⟩

/-- A trailing stop that is moved ahead is at the level that is sent. -/
theorem Trails.moved (trails : desk.Trails dealId began) {config changed : TrailingStopConfig}
    (found : desk.manager.activeTrailingStops.lookup dealId = some config)
    (sameDeal : changed.dealId = dealId) (sameDirection : changed.direction = config.direction)
    (ahead : Ahead config.direction changed.currentStop config.currentStop) :
    ((desk.setConfig changed).sendStop dealId changed.currentStop).Trails dealId began := by
  subst sameDeal
  obtain ⟨⟨stored, known, direction, stop⟩, advance⟩ := trails
  obtain rfl : config = stored := Option.some.inj (found.symm.trans known)
  rw [direction, stop] at ahead
  have latest := levels_of_own (show (⟨changed.dealId, changed.currentStop⟩ : SentStop).dealId = _ from rfl)
    desk.sentStops
  refine ⟨⟨_, AList.lookup_insert _, sameDirection.trans direction, ?_⟩, ?_⟩
  · change _ = (levelsOf _ (_ :: desk.sentStops)).head?.getD _
    rw [latest, List.head?_cons, Option.getD_some]
  · change (levelsOf _ (_ :: desk.sentStops) ++ [_]).IsChain _
    rw [latest, List.cons_append]
    cases levels : levelsOf changed.dealId desk.sentStops with
    | nil => simpa [levels] using ahead
    | cons last past =>
      rw [levels] at ahead advance
      exact List.isChain_cons_cons.mpr ⟨ahead, advance⟩

/-- One price keeps what a trailing stop is at. -/
theorem Trails.advance_stop (trails : desk.Trails dealId began) (instrument : String) (price : ℚ)
    (deal : String) : (desk.advanceStop instrument price deal).Trails dealId began := by
  obtain unchanged | ⟨config, found, ⟨-, followed⟩ | ⟨level, advanced, moved⟩⟩ :=
    desk.advance_stop_cases instrument price deal
  · rwa [unchanged]
  · rw [followed]
    by_cases same : deal = dealId
    · subst same
      obtain ⟨sameDirection, sameStop⟩ := config.track_frame price
      exact trails.followed found rfl sameDirection sameStop
    · exact trails.configured_other same
  · rw [moved]
    by_cases same : deal = dealId
    · subst same
      obtain ⟨sameDirection, sameStop⟩ := config.track_frame price
      have ahead := TrailingStopConfig.new_stop_ahead advanced
      rw [sameDirection, sameStop] at ahead
      exact trails.moved found rfl sameDirection ahead
    · exact (trails.configured_other same).sent_other same level

/-- The induction is on the deals with a trailing stop. -/
theorem Trails.advance_stops (trails : desk.Trails dealId began) (instrument : String) (price : ℚ)
    (deals : List String) :
    (deals.foldl (advanceStop instrument price) desk).Trails dealId began := by
  induction deals generalizing desk with
  | nil => exact trails
  | cons deal rest inductionHypothesis =>
    exact inductionHypothesis (trails.advance_stop instrument price deal)

/-- The induction is on the prices. -/
theorem Trails.prices (trails : desk.Trails dealId began) (prices : List (String × ℚ)) :
    (Machines.after step desk
      (prices.map fun price => .priceTick price.1 price.2)).Trails dealId began := by
  induction prices generalizing desk with
  | nil => exact trails
  | cons price rest inductionHypothesis =>
    exact inductionHypothesis (trails.advance_stops price.1 price.2 _)

end Prices

/-- After every sequence of prices, for every deal that began with a trailing stop, and whichever
updates the broker fails: the stored stop is the one that the broker has accepted last exactly when
the latest update of the deal, if one was sent, was accepted. -/
theorem stored_stop_accepted_iff (desk : OrderDesk) (unsent : desk.sentStops = []) (dealId : String)
    (began : TrailingStopConfig)
    (configured : desk.manager.activeTrailingStops.lookup dealId = some began)
    (prices : List (String × ℚ)) (accepts : ℕ → Bool) :
    let reached := Machines.after step desk
      (prices.map fun price => .priceTick price.1 price.2)
    ∃ config, reached.manager.activeTrailingStops.lookup dealId = some config ∧
      (config.currentStop =
          acceptedStop accepts dealId began.currentStop reached.sentStops ↔
        LatestAccepted accepts dealId reached.sentStops) := by
  intro reached
  have initial : desk.Trails dealId began := by
    constructor
    · exact ⟨began, configured, rfl, by simp [unsent, levelsOf]⟩
    · simp [unsent, levelsOf]
  obtain ⟨⟨config, found, _, sameStop⟩, advance⟩ := initial.prices prices
  refine ⟨config, found, ?_⟩
  rw [sameStop]
  exact latest_level_accepted_iff accepts dealId began.currentStop reached.sentStops
    (List.isChain_iff_pairwise.mp advance)

/-- The price of the long position rises twice. -/
def risingPrices : List (String × ℚ) :=
  [("CS.D.EURUSD.CFD.IP", 112 / 100), ("CS.D.EURUSD.CFD.IP", 115 / 100)]

/-- The broker fails the first of the updates for the rising prices. -/
theorem rising_stop_accepted :
    let reached := Machines.after step trailingDesk
      (risingPrices.map fun price => .priceTick price.1 price.2)
    ∃ config, reached.manager.activeTrailingStops.lookup "DEAL-1" = some config ∧
      (config.currentStop = acceptedStop (0 < ·) "DEAL-1" (109 / 100) reached.sentStops ↔
        LatestAccepted (0 < ·) "DEAL-1" reached.sentStops) :=
  stored_stop_accepted_iff trailingDesk (by decide +kernel) "DEAL-1"
    ⟨"DEAL-1", "CS.D.EURUSD.CFD.IP", "BUY", 1 / 100, 109 / 100, 11 / 10, 999999⟩ (by decide +kernel)
    risingPrices (0 < ·)

/-- The broker fails every update and stays at the first stop, and the same price again sends no
other update. -/
theorem failed_update_is_not_repeated :
    let price : String × ℚ := ("CS.D.EURUSD.CFD.IP", 112 / 100)
    let reached := Machines.after step trailingDesk
      ([price, price].map fun price => .priceTick price.1 price.2)
    (reached.manager.activeTrailingStops.lookup "DEAL-1").map (·.currentStop) = some (111 / 100) ∧
      acceptedStop (fun _ => false) "DEAL-1" (109 / 100) reached.sentStops = 109 / 100 ∧
      levelsOf "DEAL-1" reached.sentStops = [111 / 100] := by
  decide +kernel

end OrderDesk

end IgTradingBot
