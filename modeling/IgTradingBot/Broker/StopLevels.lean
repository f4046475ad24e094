import IgTradingBot.Broker.OrderLifecycle

/-!
# The stop levels of a deal

Two operations send stop levels for a deal: a price, through its trailing stop, and a partial
take-profit, which moves the stop to break-even. A price advances the trailing stop from where
it is, and so its level is never behind the last one as long as the configuration is not.
Break-even is sent without a look at the last level; the levels of a run advance when none of
its break-even stops, and no stop from which a trailing stop is set up, is behind it.
-/

namespace IgTradingBot

open Sequential Sequential.Program

/-- The side of a deal. -/
inductive Side where
  | long
  | short
  deriving DecidableEq, Repr

namespace Side

/-- The direction of a deal as the manager spells it. -/
def direction : Side → String
  | long => "BUY"
  | short => "SELL"

/-- A level is not behind an earlier one, in the favour of the deal. -/
def Advances : Side → ℚ → ℚ → Prop
  | long, earlier, later => earlier ≤ later
  | short, earlier, later => later ≤ earlier

instance (side : Side) (earlier later : ℚ) : Decidable (side.Advances earlier later) := by
  cases side <;> exact inferInstanceAs (Decidable (_ ≤ _))

theorem advances_refl (side : Side) (level : ℚ) : side.Advances level level := by
  cases side <;> exact le_refl level

theorem Advances.trans {side : Side} {first second third : ℚ} (one : side.Advances first second)
    (two : side.Advances second third) : side.Advances first third := by
  cases side with
  | long =>
    have forward : first ≤ second := one
    exact forward.trans two
  | short =>
    have forward : third ≤ second := two
    exact forward.trans one

end Side

/-- Levels never move backward; the latest is first. -/
def LevelsAdvance (side : Side) (levels : List ℚ) : Prop :=
  levels.Pairwise fun later earlier => side.Advances earlier later

/-- No level has been sent that is ahead of this one. -/
def NotBehind (side : Side) (levels : List ℚ) (level : ℚ) : Prop :=
  ∀ last ∈ levels.head?, side.Advances last level

instance (side : Side) (levels : List ℚ) (level : ℚ) : Decidable (NotBehind side levels level) :=
  inferInstanceAs (Decidable (∀ _ ∈ levels.head?, _))

instance (side : Side) (levels : List ℚ) : Decidable (LevelsAdvance side levels) :=
  inferInstanceAs (Decidable (levels.Pairwise _))

/-- Levels that advance still do with one more that is not behind the last. -/
theorem LevelsAdvance.cons {side : Side} {levels : List ℚ} {level : ℚ}
    (advance : LevelsAdvance side levels) (notBehind : NotBehind side levels level) :
    LevelsAdvance side (level :: levels) := by
  refine List.Pairwise.cons ?_ advance
  cases levels with
  | nil => exact fun _ member => absurd member (by simp)
  | cons last past =>
    have reached : side.Advances last level := notBehind last rfl
    intro earlier member
    rcases List.mem_cons.mp member with rfl | before
    · exact reached
    · exact ((List.pairwise_cons.mp advance).1 earlier before).trans reached

namespace OrderManager

section Calls

variable {kept : AList (fun _ : String => TrailingStopConfig) → Prop}

/-- What is said of the trailing stops of a call. -/
def OfStops (kept : AList (fun _ : String => TrailingStopConfig) → Prop) (call : OrderCall) : Prop :=
  kept call.manager.activeTrailingStops

/-- The trailing stop of a deal, if there is one, is known. -/
def StopKnown (dealId : String) (known : TrailingStopConfig → Prop) (call : OrderCall) : Prop :=
  ∀ config, call.manager.activeTrailingStops.lookup dealId = some config → known config

/-- Assigning attributes of the order concerns no trailing stop. -/
theorem keeps_stop_set_order (change : Order → Order) :
    Keeps (OfStops kept) (setOrder change) := keeps_modify fun _ holds => holds

theorem keeps_stop_notify (env : OrderEnvironment) (alert : OrderAlert) :
    Keeps (OfStops kept) (notify env alert) :=
  ensures_notify env alert (fun _ _ holds => holds) fun _ _ _ holds => holds

theorem keeps_stop_attempt_fill (env : OrderEnvironment) :
    Keeps (OfStops kept) (attemptFill env) := by
  apply keeps_bind
  · exact keeps_of_final fun _ holds => holds
  intro body
  apply keeps_bind
  · apply keeps_bind (keeps_stop_set_order _)
    intro _
    cases body with
    | notADict => exact keeps_raise _
    | dict reply =>
      apply keeps_bind (keeps_read _)
      intro exchanged
      apply keeps_bind (keeps_stop_set_order _)
      intro _
      cases reply.entryPrice with
      | none => exact keeps_stop_set_order _
      | some numeral => exact keeps_bind (keeps_ofExcept _) fun _ => keeps_stop_set_order _
  · exact fun _ => keeps_read _

theorem keeps_stop_mark_failed (cause : Failure) :
    Keeps (OfStops kept) (markFailed cause) :=
  keeps_bind (keeps_stop_set_order _) fun _ => keeps_raise _

theorem keeps_stop_handle_failure (env : OrderEnvironment) (cause : Failure) :
    Keeps (OfStops kept) (handleFailure env cause) := by
  apply keeps_bind (keeps_read _)
  intro order
  apply keeps_bind (keeps_stop_notify env _)
  intro _
  apply keeps_ite
  · intro _
    apply keeps_bind (keeps_stop_set_order _)
    intro _
    apply keeps_rescue (keeps_stop_attempt_fill env)
    exact fun _ => keeps_bind (keeps_stop_notify env _) fun _ => keeps_stop_mark_failed cause
  · exact fun _ => keeps_stop_mark_failed cause

/-- A placement concerns no trailing stop. -/
theorem keeps_stop_place_order (env : OrderEnvironment) :
    Keeps (OfStops kept) (placeOrder env) := by
  apply keeps_bind (keeps_stop_set_order _)
  intro _
  apply keeps_bind (keeps_read _)
  intro order
  apply keeps_bind (keeps_ofExcept _)
  intro verdict
  cases verdict with
  | some reason =>
    apply keeps_bind (keeps_stop_set_order _)
    exact fun _ => keeps_bind (keeps_stop_notify env _) fun _ => keeps_raise _
  | none =>
    apply keeps_bind (keeps_stop_set_order _)
    intro _
    apply keeps_rescue (keeps_stop_attempt_fill env)
    exact fun _ => keeps_stop_handle_failure env _

theorem StopKnown.place_order {dealId : String} {known : TrailingStopConfig → Prop}
    {call : OrderCall} (holds : StopKnown dealId known call) (env : OrderEnvironment) :
    StopKnown dealId known (placeOrder env call).2 :=
  (@keeps_stop_place_order
    (fun stops => ∀ config, stops.lookup dealId = some config → known config) env).final holds

/-- Whether a close request is answered with a dictionary. -/
def closeAnswered (env : OrderEnvironment) : Bool :=
  match env.closeReply with
  | .ok (.dict _) => true
  | _ => false

/-- The trailing stops that the close of a deal leaves of some. -/
def stopsAfterClose (env : OrderEnvironment) (closedDeal : String)
    (stops : AList fun _ : String => TrailingStopConfig) :
    AList fun _ : String => TrailingStopConfig :=
  if closeAnswered env then stops.erase closedDeal else stops

/-- The attempt of a close ends well exactly when its request is answered, and only then forgets
the trailing stop of its deal. -/
theorem attempt_close_stops (env : OrderEnvironment) (closedDeal : String) (call : OrderCall) :
    (attemptClose env closedDeal call).1.isOk = closeAnswered env ∧
      (attemptClose env closedDeal call).2.manager.activeTrailingStops =
        stopsAfterClose env closedDeal call.manager.activeTrailingStops := by
  unfold stopsAfterClose closeAnswered
  cases reply : env.closeReply with
  | error failure =>
    simp only [attemptClose, closeOnIg, bind_run, reply]
    exact ⟨rfl, rfl⟩
  | ok body =>
    cases body with
    | notADict =>
      simp only [attemptClose, closeOnIg, bind_run, reply]
      exact ⟨rfl, rfl⟩
    | dict answer =>
      simp only [attemptClose, closeOnIg, bind_run, reply]
      exact ⟨rfl, rfl⟩

/-- The trailing stops that a close leaves. A failure of its attempt is handled without them. -/
theorem close_program_stops (env : OrderEnvironment) (closedDeal : String) (call : OrderCall) :
    (closeProgram env closedDeal call).2.manager.activeTrailingStops =
      stopsAfterClose env closedDeal call.manager.activeTrailingStops := by
  obtain ⟨_, left⟩ := attempt_close_stops env closedDeal (setOrder (fun order => order) call).2
  change (rescue (attemptClose env closedDeal) (fun failure => handleFailure env (causeOf failure))
    (setOrder (fun order => order) call).2).2.manager.activeTrailingStops = _
  rw [rescue_run]
  rcases result : attemptClose env closedDeal (setOrder (fun order => order) call).2 with
    ⟨ending, last⟩
  rw [result] at left
  cases ending with
  | ok order => exact left
  | error failure =>
    have same : OfStops (· = stopsAfterClose env closedDeal call.manager.activeTrailingStops) last :=
      left
    exact (keeps_stop_handle_failure env (causeOf failure)).final same

/-- A close forgets a trailing stop, or none. -/
theorem StopKnown.close_program {dealId : String} {known : TrailingStopConfig → Prop}
    {call : OrderCall} (holds : StopKnown dealId known call) (env : OrderEnvironment)
    (closedDeal : String) : StopKnown dealId known (closeProgram env closedDeal call).2 := by
  intro config found
  rw [close_program_stops, stopsAfterClose] at found
  split_ifs at found
  · by_cases same : dealId = closedDeal
    · subst same
      rw [AList.lookup_erase] at found
      exact absurd found (by simp)
    · exact holds config ((AList.lookup_erase_ne same).symm.trans found)
  · exact holds config found


end Calls

end OrderManager

namespace TrailingStopConfig

/-- A price changes neither the direction of a trailing stop nor where it is. -/
theorem track_frame (price : ℚ) (config : TrailingStopConfig) :
    (config.track price).direction = config.direction ∧
      (config.track price).currentStop = config.currentStop := by
  unfold track
  split_ifs <;> exact ⟨rfl, rfl⟩

/-- A new stop is an advance. -/
theorem new_stop_advances {side : Side} {config : TrailingStopConfig} {level : ℚ}
    (sameSide : config.direction = side.direction) (advanced : config.newStop = some level) :
    side.Advances config.currentStop level := by
  unfold newStop at advanced
  rw [sameSide] at advanced
  cases side with
  | long =>
    by_cases ahead : config.currentStop < config.highestPrice - config.trailDistance
    · obtain rfl : config.highestPrice - config.trailDistance = level := by
        simpa [Side.direction, ahead] using advanced
      exact ahead.le
    · simp [Side.direction, ahead] at advanced
  | short =>
    by_cases ahead : config.lowestPrice + config.trailDistance < config.currentStop
    · obtain rfl : config.lowestPrice + config.trailDistance = level := by
        simpa [Side.direction, ahead] using advanced
      exact ahead.le
    · simp [Side.direction, ahead] at advanced

end TrailingStopConfig

namespace OrderDesk

open OrderManager

/-- The levels sent for a deal, the latest first. -/
def levels (dealId : String) (desk : OrderDesk) : List ℚ :=
  (desk.sentStops.filter fun sent => sent.dealId = dealId).map (·.level)

/-- The condition on an operation: a trailing stop of the deal is set up for its side, from a stop
that is not behind the last level, and no break-even stop of the deal is behind it either. -/
def AdvancesStop (dealId : String) (side : Side) (desk : OrderDesk) : OrderOperation → Prop
  | .setupTrailingStop deal trailDistance direction _ _ currentStop =>
    deal = dealId → 0 < trailDistance →
      direction = side.direction ∧ NotBehind side (desk.levels dealId) currentStop
  | .partialTakeProfit env _ _ deal closePct =>
    deal = dealId → OrderProgress.closeReturns env.orders = true →
      ∀ request, partialRequest env.position closePct = .ok request →
        NotBehind side (desk.levels dealId) request.breakevenStop
  | _ => True

/-- An operation takes the deal for one of its side. -/
def FitsSide (dealId : String) (side : Side) : OrderOperation → Prop
  | .setupTrailingStop deal _ direction _ _ _ => deal = dealId → direction = side.direction
  | .partialTakeProfit env _ _ deal closePct =>
    deal = dealId → ∀ request, partialRequest env.position closePct = .ok request →
      request.direction = side.direction
  | _ => True

/-- The invariant of the run: the levels advance, and the trailing stop of the deal is for its side
and not behind the last level. -/
structure StopKept (dealId : String) (side : Side) (desk : OrderDesk) : Prop where
  advance : LevelsAdvance side (desk.levels dealId)
  known : ∀ config, desk.manager.activeTrailingStops.lookup dealId = some config →
    config.direction = side.direction ∧ NotBehind side (desk.levels dealId) config.currentStop

section Runs

variable {dealId : String} {side : Side} {desk : OrderDesk}

/-- A level of another deal is not one of this one. -/
theorem levels_send_other {deal : String} (different : deal ≠ dealId) (level : ℚ) :
    (desk.sendStop deal level).levels dealId = desk.levels dealId := by
  simp [levels, sendStop, different]

/-- A level of the deal is its latest. -/
theorem levels_send (level : ℚ) :
    (desk.sendStop dealId level).levels dealId = level :: desk.levels dealId := by
  simp [levels, sendStop]

/-- A configuration of another deal is not the one of this one. -/
theorem StopKept.configured_other (kept : desk.StopKept dealId side) {config : TrailingStopConfig}
    (different : config.dealId ≠ dealId) : (desk.setConfig config).StopKept dealId side where
  advance := kept.advance
  known stored found :=
    kept.known stored ((AList.lookup_insert_ne different.symm).symm.trans found)

/-- A configuration of the deal for its side that is not behind. -/
theorem StopKept.configured (kept : desk.StopKept dealId side) {config : TrailingStopConfig}
    (sameDeal : config.dealId = dealId) (sameSide : config.direction = side.direction)
    (notBehind : NotBehind side (desk.levels dealId) config.currentStop) :
    (desk.setConfig config).StopKept dealId side where
  advance := kept.advance
  known stored found := by
    have inserted : some config = some stored := by
      simpa [setConfig, sameDeal] using found
    obtain rfl := Option.some.inj inserted
    exact ⟨sameSide, notBehind⟩

/-- A level for another deal. -/
theorem StopKept.sent_other (kept : desk.StopKept dealId side) {deal : String}
    (different : deal ≠ dealId) (level : ℚ) : (desk.sendStop deal level).StopKept dealId side where
  advance := by
    rw [levels_send_other different]
    exact kept.advance
  known := by
    rw [levels_send_other different]
    exact kept.known

/-- A level for the deal that is not behind, at which its trailing stop is from then on. -/
theorem StopKept.moved (kept : desk.StopKept dealId side) {config : TrailingStopConfig}
    (sameDeal : config.dealId = dealId) (sameSide : config.direction = side.direction)
    (notBehind : NotBehind side (desk.levels dealId) config.currentStop) :
    ((desk.sendStop dealId config.currentStop).setConfig config).StopKept dealId side where
  advance := by
    change LevelsAdvance side ((desk.sendStop dealId config.currentStop).levels dealId)
    rw [levels_send]
    exact kept.advance.cons notBehind
  known stored found := by
    have inserted : some config = some stored := by
      simpa [setConfig, sameDeal] using found
    obtain rfl := Option.some.inj inserted
    refine ⟨sameSide, ?_⟩
    change NotBehind side ((desk.sendStop dealId config.currentStop).levels dealId) _
    rw [levels_send]
    intro last latest
    obtain rfl : config.currentStop = last := Option.some.inj latest
    exact side.advances_refl _

/-- What an operation does to the orders concerns no stop. -/
theorem StopKept.congr (kept : desk.StopKept dealId side) {changed : OrderDesk}
    (sameLevels : changed.sentStops = desk.sentStops)
    (known : ∀ config, changed.manager.activeTrailingStops.lookup dealId = some config →
      desk.manager.activeTrailingStops.lookup dealId = some config) :
    changed.StopKept dealId side where
  advance := by
    unfold levels
    rw [sameLevels]
    exact kept.advance
  known config found := by
    unfold levels
    rw [sameLevels]
    exact kept.known config (known config found)

/-- What a price does to the trailing stop of a deal: nothing, or it is followed without a new stop, or
it moves the stop to a level that is sent. -/
theorem advance_stop_cases (desk : OrderDesk) (instrument : String) (price : ℚ) (deal : String) :
    desk.advanceStop instrument price deal = desk ∨
      ∃ config, desk.manager.activeTrailingStops.lookup deal = some config ∧
        (((config.track price).newStop = none ∧ desk.advanceStop instrument price deal =
            desk.setConfig { config.track price with dealId := deal }) ∨
          ∃ level, (config.track price).newStop = some level ∧
            desk.advanceStop instrument price deal =
              (desk.setConfig { config.track price with dealId := deal, currentStop := level }).sendStop
                deal level) := by
  unfold advanceStop
  cases found : desk.manager.activeTrailingStops.lookup deal with
  | none => exact .inl rfl
  | some config =>
    simp only
    split
    · exact .inl rfl
    · refine .inr ⟨config, rfl, ?_⟩
      cases (config.track price).newStop with
      | none => exact .inl ⟨rfl, rfl⟩
      | some level => exact .inr ⟨level, rfl, rfl⟩

/-- One price keeps the invariant: the trailing stop advances from where it is. -/
theorem StopKept.advance_stop (kept : desk.StopKept dealId side) (instrument : String) (price : ℚ)
    (deal : String) : (desk.advanceStop instrument price deal).StopKept dealId side := by
  obtain unchanged | ⟨config, found, ⟨-, followed⟩ | ⟨level, advanced, moved⟩⟩ :=
    desk.advance_stop_cases instrument price deal
  · rwa [unchanged]
  · rw [followed]
    by_cases same : deal = dealId
    · subst same
      obtain ⟨sameSide, notBehind⟩ := kept.known config found
      obtain ⟨sameDirection, sameStop⟩ := config.track_frame price
      exact kept.configured rfl (sameDirection.trans sameSide) (sameStop ▸ notBehind)
    · exact kept.configured_other same
  · rw [moved]
    by_cases same : deal = dealId
    · subst same
      obtain ⟨sameSide, notBehind⟩ := kept.known config found
      obtain ⟨sameDirection, sameStop⟩ := config.track_frame price
      have trackedSide : (config.track price).direction = side.direction :=
        sameDirection.trans sameSide
      refine kept.moved rfl trackedSide fun last latest => ?_
      have reached := TrailingStopConfig.new_stop_advances trackedSide advanced
      rw [sameStop] at reached
      exact (notBehind last latest).trans reached
    · exact (kept.configured_other same).sent_other same level

/-- The induction is on the deals with a trailing stop. -/
theorem StopKept.advance_stops (kept : desk.StopKept dealId side) (instrument : String) (price : ℚ)
    (deals : List String) :
    (deals.foldl (advanceStop instrument price) desk).StopKept dealId side := by
  induction deals generalizing desk with
  | nil => exact kept
  | cons deal rest inductionHypothesis =>
    exact inductionHypothesis (kept.advance_stop instrument price deal)

/-- Marking an order concerns no stop. -/
theorem StopKept.mark_partially_closed (kept : desk.StopKept dealId side) (deal : String) :
    (desk.markPartiallyClosed deal).StopKept dealId side := by
  unfold markPartiallyClosed
  split
  · exact kept
  · exact kept.congr rfl fun _ found => found

/-- A break-even stop that is not behind keeps the invariant, and one of another deal does. -/
theorem StopKept.break_even (kept : desk.StopKept dealId side) {deal : String} {level : ℚ}
    (notBehind : deal = dealId → NotBehind side (desk.levels dealId) level) :
    (desk.breakEven deal level).StopKept dealId side := by
  unfold breakEven
  apply mark_partially_closed
  by_cases same : deal = dealId
  · subst same
    cases found : (desk.sendStop deal level).manager.activeTrailingStops.lookup deal with
    | none =>
      refine ⟨?_, fun config tracked => ?_⟩
      · rw [levels_send]
        exact kept.advance.cons (notBehind rfl)
      · rw [found] at tracked
        exact absurd tracked (by simp)
    | some config =>
      have sameSide := (kept.known config found).1
      exact kept.moved rfl sameSide (notBehind rfl)
  · cases found : (desk.sendStop deal level).manager.activeTrailingStops.lookup deal with
    | none => exact kept.sent_other same level
    | some config => exact (kept.sent_other same level).configured_other same

/-- A call keeps the invariant when it forgets trailing stops at most. -/
theorem StopKept.enter (kept : desk.StopKept dealId side) (kind : OrderKind) {call : OrderCall}
    (known : StopKnown dealId
      (fun config => desk.manager.activeTrailingStops.lookup dealId = some config) call) :
    (desk.enter kind call).StopKept dealId side := kept.congr rfl known

/-- An operation that meets the condition keeps the invariant. -/
theorem stop_step_keeps (operation : OrderOperation) (kept : desk.StopKept dealId side)
    (advances : desk.AdvancesStop dealId side operation) :
    (desk.step operation).StopKept dealId side := by
  have unknown : ∀ order, StopKnown dealId
      (fun config => desk.manager.activeTrailingStops.lookup dealId = some config)
      { manager := desk.manager, order } := fun _ _ found => found
  cases operation with
  | place env id createdAt placement =>
    refine kept.enter .opening ?_
    rw [Placement.call_eq]
    exact StopKnown.place_order (unknown _) env
  | closeOrder env id createdAt deal direction size =>
    exact kept.enter .closing (StopKnown.close_program (unknown _) env deal)
  | partialTakeProfit env id createdAt deal closePct =>
    simp only [step]
    cases requested : partialRequest env.position closePct with
    | error failure => exact kept
    | ok request =>
      have entered : (desk.enter .closing (closeOrder env.orders desk.manager id createdAt deal
          (closeDirection request.direction) request.closeSize).2).StopKept dealId side :=
        kept.enter .closing (StopKnown.close_program (unknown _) env.orders deal)
      simp only
      split
      · exact entered
      · rename_i order returned
        apply entered.break_even
        intro same
        have ended := close_order_returns env.orders desk.manager id createdAt deal
          (closeDirection request.direction) request.closeSize
        rw [returned] at ended
        exact advances same ended.symm request requested
  | setupTrailingStop deal trailDistance direction instrument currentPrice currentStop =>
    simp only [step]
    split
    · exact kept
    · rename_i positive
      by_cases same : deal = dealId
      · obtain ⟨sameSide, notBehind⟩ := advances same (not_le.mp positive)
        exact kept.configured same sameSide notBehind
      · exact kept.configured_other same
  | priceTick instrument currentPrice => exact kept.advance_stops instrument currentPrice _
  | removeTrailingStop deal =>
    refine kept.congr rfl fun config found => ?_
    by_cases same : dealId = deal
    · subst same
      exact absurd found (by simp [step])
    · exact (AList.lookup_erase_ne same).symm.trans found

end Runs

/-- In every run whose operations meet the condition for a deal, the levels sent for the deal never
move backward.

Proof: a price sends a level that is ahead of the trailing stop, and the trailing stop is not
behind the last level. -/
theorem stop_levels_advance (dealId : String) (side : Side) (operations : List OrderOperation)
    (conforms : Machines.Conforms step (AdvancesStop dealId side) {} operations) :
    LevelsAdvance side ((Machines.after step {} operations).levels dealId) := by
  have initial : ({} : OrderDesk).StopKept dealId side :=
    ⟨List.Pairwise.nil, fun _ found => absurd found (by simp)⟩
  exact (Machines.after_keeps (fun _ => stop_step_keeps) initial conforms).advance

/-- Half of the long position is closed. -/
def halfClosed : OrderOperation :=
  .partialTakeProfit { position := longPosition, orders := answeredEnvironment } "ORD-2" 60 "DEAL-1"
    (1 / 2)

/-- Its stop moves to break-even. -/
theorem half_closed_request :
    partialRequest longPosition (1 / 2) = .ok ⟨"BUY", 1, 10999 / 10000⟩ := by
  decide +kernel

/-- The trailing stop has not yet reached break-even, and goes on from there. -/
def advancingRun : List OrderOperation :=
  [ .setupTrailingStop "DEAL-1" (1 / 100) "BUY" "CS.D.EURUSD.CFD.IP" (11 / 10) (109 / 100),
    .priceTick "CS.D.EURUSD.CFD.IP" (221 / 200), halfClosed,
    .setupTrailingStop "DEAL-1" (1 / 100) "BUY" "CS.D.EURUSD.CFD.IP" (221 / 200) (10999 / 10000),
    .priceTick "CS.D.EURUSD.CFD.IP" (112 / 100) ]

/-- The levels of this run advance. -/
theorem advancing_levels_advance :
    LevelsAdvance .long ((Machines.after step {} advancingRun).levels "DEAL-1") ∧
      (Machines.after step {} advancingRun).levels "DEAL-1" =
        [111 / 100, 10999 / 10000, 219 / 200] := by
  have conforms : Machines.Conforms step (AdvancesStop "DEAL-1" .long) {} advancingRun := by
    refine ⟨fun _ _ => ⟨rfl, by decide +kernel⟩, trivial, fun _ _ request requested => ?_,
      fun _ _ => ⟨rfl, by decide +kernel⟩, trivial, trivial⟩
    obtain rfl := Except.ok.inj (half_closed_request.symm.trans requested)
    decide +kernel
  exact ⟨stop_levels_advance "DEAL-1" .long advancingRun conforms, by decide +kernel⟩

/-- The price rises by five hundredths before half of the position is closed. -/
def reversingRun : List OrderOperation :=
  [ .setupTrailingStop "DEAL-1" (1 / 100) "BUY" "CS.D.EURUSD.CFD.IP" (11 / 10) (109 / 100),
    .priceTick "CS.D.EURUSD.CFD.IP" (115 / 100), halfClosed ]

/-- A trailing stop that has followed the price is moved back to break-even. -/
theorem break_even_moves_back :
    ¬ ∀ (dealId : String) (side : Side) (operations : List OrderOperation),
      (∀ operation ∈ operations, FitsSide dealId side operation) →
        LevelsAdvance side ((Machines.after step {} operations).levels dealId) := by
  intro advance
  have fits : ∀ operation ∈ reversingRun, FitsSide "DEAL-1" .long operation := by
    intro operation member
    simp only [reversingRun, List.mem_cons, List.not_mem_nil, or_false] at member
    rcases member with rfl | rfl | rfl
    · exact fun _ => rfl
    · trivial
    · intro _ request requested
      obtain rfl := Except.ok.inj (half_closed_request.symm.trans requested)
      rfl
  have moved := advance "DEAL-1" .long reversingRun fits
  revert moved
  decide +kernel

end OrderDesk

end IgTradingBot
