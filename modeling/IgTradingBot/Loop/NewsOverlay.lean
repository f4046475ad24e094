import IgTradingBot.News.FreeNewsSafety

/-!
# News overlay

What the decisions of the news layer do to the signals of the loop. The overlay writes its own
keys and the size, and never enlarges an order. Its four actions are not in the order of their
severity for a signal without extra confirmation: a moderate risk drops it, an elevated one
halves it.
-/

namespace IgTradingBot

open Sequential Sequential.Program

/-- A signal after the update with a decision: the decision's keys, and the factor of a
reduced size. -/
structure OverlaidSignal where
  signal : Signal
  decision : Option NewsRiskDecision := none
  newsSizeReductionFactor : Option ℚ := none
  deriving DecidableEq, Repr

/-- The state of the layer, the time and the providers' answers of an evaluation. -/
structure NewsSituation where
  layer : FreeNewsSafetyLayer
  now : ℚ
  answers : List ProviderAnswer

namespace TradingLoop

/-- The symbol that a signal is evaluated as. -/
def newsSymbol (signal : Signal) : String :=
  (currencyPairForEpic signal.epic).getD signal.epic

/-- The decision on a signal in a situation. -/
def newsDecision (text : TextOperations) (situation : NewsSituation) (signal : Signal) :
    NewsRiskDecision :=
  (situation.layer.evaluate text (newsSymbol signal) true situation.now situation.answers).2

/-- What a decision makes of a signal: the update writes the decision's keys, and the action
drops the signal, reduces its size or leaves it. -/
def overlay (decision : NewsRiskDecision) (signal : Signal) : Option OverlaidSignal :=
  let updated : OverlaidSignal := { signal := signal, decision := some decision }
  match decision.newsAction with
  | .blockTrade => none
  | .requireExtraConfirmation => if signal.extraConfirmation then some updated else none
  | .reduceSize =>
    some { updated with
      signal := { signal with size := some (signal.size.getD limits.tradeSize * (1 / 2)) }
      newsSizeReductionFactor := some (1 / 2) }
  | .allowNormal => some updated

/-- The action of an evaluation, or its failure. -/
def actionOf (outcome : Awaited NewsRiskDecision) : Awaited NewsAction :=
  { meanwhile := outcome.meanwhile, reply := outcome.reply.map (·.newsAction) }

/-- Apply the news layer, with all that it writes into the signal. -/
def applyNewsDecision (config : LoopConfig) (outcome : Awaited NewsRiskDecision)
    (signal : Signal) : LoopProgram (Option OverlaidSignal) :=
  if config.hasNewsSafetyLayer then do
    let decision ← await outcome
    match overlay decision signal with
    | some checked => pure (some checked)
    | none => do
        rejectTrade
        pure none
  else pure (some { signal := signal })

/-- The size that is traded after a decision; a dropped signal has none. -/
def allowedSize (action : NewsAction) (signal : Signal) : ℚ :=
  match newsCheck action signal with
  | some checked => checked.size.getD limits.tradeSize
  | none => 0

/-- The opening orders of a history. -/
def ordersIn (history : List LoopEvent) : List (OpeningOrder × Bool) :=
  history.filterMap fun event =>
    match event with
    | .orderSubmitted order active => some (order, active)
    | _ => none

section Overlay

variable {decision : NewsRiskDecision} {signal : Signal}

/-- Of what the overlay writes, the execution uses the signal that the action leaves. -/
theorem overlay_signal :
    (overlay decision signal).map (·.signal) = newsCheck decision.newsAction signal := by
  cases action : decision.newsAction with
  | blockTrade => simp [overlay, newsCheck, action]
  | requireExtraConfirmation =>
    cases confirmed : signal.extraConfirmation <;> simp [overlay, newsCheck, action, confirmed]
  | reduceSize => simp [overlay, newsCheck, action, div_eq_mul_inv]
  | allowNormal => simp [overlay, newsCheck, action]

/-- A signal that passes the overlay differs from the original in its size only, which is the
original or half of it. -/
theorem overlay_restricts {checked : OverlaidSignal}
    (passed : overlay decision signal = some checked) :
    checked.signal = signal ∨
      checked.signal = { signal with
        size := some (signal.size.getD limits.tradeSize * (1 / 2)) } := by
  cases action : decision.newsAction with
  | blockTrade => simp [overlay, action] at passed
  | requireExtraConfirmation =>
    simp only [overlay, action] at passed
    split_ifs at passed
    obtain rfl := Option.some.inj passed
    exact Or.inl rfl
  | reduceSize =>
    simp only [overlay, action] at passed
    obtain rfl := Option.some.inj passed
    exact Or.inr rfl
  | allowNormal =>
    simp only [overlay, action] at passed
    obtain rfl := Option.some.inj passed
    exact Or.inl rfl

/-- A signal that passes the layer, whatever the layer is, is the original or has half of its
size. -/
theorem apply_news_decision_passes {config : LoopConfig} {outcome : Awaited NewsRiskDecision}
    {checked : OverlaidSignal} {world after : World}
    (passed : applyNewsDecision config outcome signal world = (.ok (some checked), after)) :
    checked.signal = signal ∨
      checked.signal = { signal with
        size := some (signal.size.getD limits.tradeSize * (1 / 2)) } := by
  by_cases layer : config.hasNewsSafetyLayer = true
  · simp only [applyNewsDecision, if_pos layer] at passed
    obtain ⟨decision, middle, _, finished⟩ := bind_eq_ok.mp passed
    cases overlaid : overlay decision signal with
    | none =>
      simp only [overlaid] at finished
      cases finished
    | some value =>
      simp only [overlaid] at finished
      cases finished
      exact overlay_restricts overlaid
  · simp only [applyNewsDecision, if_neg layer] at passed
    cases passed
    exact Or.inl rfl

/-- Applying the layer with all that it writes ends as applying its action does. -/
theorem apply_news_decision_run (config : LoopConfig) (outcome : Awaited NewsRiskDecision)
    (world : World) :
    ((applyNewsDecision config outcome signal world).1.map fun checked =>
        checked.map (·.signal), (applyNewsDecision config outcome signal world).2) =
      applyNewsSafety config (actionOf outcome) signal world := by
  by_cases layer : config.hasNewsSafetyLayer = true
  · simp only [applyNewsDecision, applyNewsSafety, if_pos layer, bind_run, await_run, actionOf]
    cases outcome.reply with
    | error failure => rfl
    | ok decision =>
      have same : (overlay decision signal).map (·.signal) =
          newsCheck decision.newsAction signal := overlay_signal
      simp only [Except.map]
      cases overlaid : overlay decision signal with
      | none =>
        rw [overlaid] at same
        simp only [← same, Option.map_none]
        rfl
      | some checked =>
        rw [overlaid] at same
        simp only [← same, Option.map_some]
        rfl
  · simp only [applyNewsDecision, applyNewsSafety, if_neg layer]
    rfl

end Overlay

section Failures

/-- The submitted orders stay what they are under everything but a submission. -/
theorem orders_in_ambient (orders : List (OpeningOrder × Bool)) :
    Ambient fun world => ordersIn world.history = orders where
  clock _ _ _ same := same
  engine _ _ _ same := same
  aside _ _ _ same := same
  closed _ same := same

/-- An evaluation that fails ends the entry of the signal without an order. -/
theorem failed_news_submits_nothing {config : LoopConfig} {script : EntryScript}
    {failure : Failure} (layer : config.hasNewsSafetyLayer = true)
    (failed : script.news.reply = .error failure) (signal : Signal)
    (orders : List (OpeningOrder × Bool)) :
    Keeps (fun world => ordersIn world.history = orders) (enterSignal config script signal) := by
  have stable := orders_in_ambient orders
  apply keeps_bind (stable.keeps_applyRiskControls config script.risk signal)
  intro validated
  cases validated with
  | none => exact keeps_pure ()
  | some validatedSignal =>
    have raises : Ensures (fun world => ordersIn world.history = orders)
        (applyNewsSafety config script.news validatedSignal) (fun _ _ => False)
        (fun _ world => ordersIn world.history = orders) := by
      intro world same
      have kept := (stable.keeps_interrupts script.news.meanwhile).final same
      have ended : applyNewsSafety config script.news validatedSignal world =
          (.error failure, final (forEach script.news.meanwhile interrupt) world) := by
        rw [applyNewsSafety, if_pos layer]
        apply bind_error
        rw [await_run, failed]
      rw [ended]
      exact kept
    exact ensures_bind raises fun _ _ impossible => impossible.elim

end Failures

section Sizes

/-- A signal that was found has a positive size. -/
def PositiveIfFound (found : Option Signal) (_ : World) : Prop :=
  ∀ signal, found = some signal → 0 < signal.size.getD limits.tradeSize

theorem ensures_rejected :
    Ensures (fun _ : World => True) (do rejectTrade; pure none : LoopProgram (Option Signal))
      PositiveIfFound (fun _ _ => True) := by
  apply ensures_bind (keeps_of_final fun _ _ => trivial : Keeps (fun _ => True) rejectTrade)
  intro _
  exact ensures_pure none fun _ _ signal found => absurd found (by simp)

/-- The sizing refuses a size that is not positive. -/
theorem size_signal_positive (script : RiskScript) (signal : Signal)
    (penalties : MistakePenalties) :
    Ensures (fun _ : World => True) (sizeSignal script signal penalties) PositiveIfFound
      (fun _ _ => True) := by
  apply ensures_bind (keeps_of_final fun _ _ => trivial : Keeps (fun _ => True) _)
  intro scalingFactor
  apply ensures_bind (keeps_of_final fun _ _ => trivial : Keeps (fun _ => True) _)
  rintro ⟨allowed, _, positionSize⟩
  cases allowed with
  | false => exact ensures_rejected
  | true =>
    cases positionSize with
    | none => exact ensures_rejected
    | some size =>
      apply ensures_ite
      · intro _
        exact ensures_rejected
      · intro positive
        apply ensures_pure
        rintro _ _ sized found
        obtain rfl := Option.some.inj found
        exact not_le.mp positive

/-- The risk controls approve positive sizes only. -/
theorem approved_size_positive {config : LoopConfig} {script : RiskScript}
    {signal validated : Signal} {world after : World}
    (approved : applyRiskControls config script signal world = (.ok (some validated), after)) :
    0 < validated.size.getD limits.tradeSize := by
  have controls : Ensures (fun _ : World => True) (applyRiskControls config script signal)
      PositiveIfFound (fun _ _ => True) := by
    apply ensures_ite
    · intro _
      exact ensures_rejected
    · intro _
      apply ensures_rescue (size_signal_positive script _ _)
      intro _
      apply ensures_bind (keeps_of_final fun _ _ => trivial : Keeps (fun _ => True) rejectTrade)
      intro _
      apply ensures_bind (keeps_of_final fun _ _ => trivial : Keeps (fun _ => True) _)
      intro _
      exact ensures_pure none fun _ _ signal found => absurd found (by simp)
  have ended := controls world trivial
  rw [approved] at ended
  exact ended validated rfl

end Sizes

/-- The news overlay restricts only. Whatever decision it is given, a signal that passes has
its instrument, direction, stop, limit and confidence, and a size that is not larger; sizes of
the signals that come from the risk controls are positive. When the evaluation fails, no order
is submitted for the signal. -/
theorem news_overlay_restricts_only (config : LoopConfig) (outcome : Awaited NewsRiskDecision) :
    (∀ (signal : Signal) (world after : World) (checked : OverlaidSignal),
      applyNewsDecision config outcome signal world = (.ok (some checked), after) →
        checked.signal.epic = signal.epic ∧ checked.signal.direction = signal.direction ∧
          checked.signal.stopDistance = signal.stopDistance ∧
          checked.signal.limitDistance = signal.limitDistance ∧
          checked.signal.confidence = signal.confidence ∧
          |checked.signal.size.getD limits.tradeSize| ≤ |signal.size.getD limits.tradeSize| ∧
          (0 ≤ signal.size.getD limits.tradeSize →
            checked.signal.size.getD limits.tradeSize ≤ signal.size.getD limits.tradeSize)) ∧
      (∀ (script : RiskScript) (signal validated : Signal) (world after : World),
        applyRiskControls config script signal world = (.ok (some validated), after) →
          0 < validated.size.getD limits.tradeSize) ∧
      ∀ (script : EntryScript) (failure : Failure) (signal : Signal) (world : World),
        config.hasNewsSafetyLayer = true → outcome.reply = .error failure →
          ordersIn (final (enterSignal config { script with news := actionOf outcome } signal)
            world).history = ordersIn world.history := by
  refine ⟨?_, ?_, ?_⟩
  · intro signal world after checked passed
    obtain same | halved := apply_news_decision_passes passed
    · rw [same]
      exact ⟨rfl, rfl, rfl, rfl, rfl, le_refl _, fun _ => le_refl _⟩
    · rw [halved]
      refine ⟨rfl, rfl, rfl, rfl, rfl, ?_, ?_⟩
      · simp only [Option.getD_some, abs_mul]
        have nonneg := abs_nonneg (signal.size.getD limits.tradeSize)
        rw [abs_of_pos (by norm_num : (0 : ℚ) < 1 / 2)]
        linarith
      · intro nonneg
        simp only [Option.getD_some]
        linarith
  · intro script signal validated world after approved
    exact approved_size_positive approved
  · intro script failure signal world layer failed
    have failedAction : (actionOf outcome).reply = .error failure := by
      simp only [actionOf, failed]
      rfl
    have kept : Keeps (fun reached => ordersIn reached.history = ordersIn world.history)
        (enterSignal config { script with news := actionOf outcome } signal) :=
      failed_news_submits_nothing layer failedAction signal _
    exact kept.final rfl

end TradingLoop

end IgTradingBot
