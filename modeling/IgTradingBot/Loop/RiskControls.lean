import IgTradingBot.Loop.EntryGate
import IgTradingBot.Risk.Approval

/-!
# Risk controls

`_apply_risk_controls`: learning penalties first, then the central risk engine,
then the size that is finally traded. The mistake analyzer is consulted without
an await; what it answers is part of the inputs.
-/

namespace IgTradingBot

open Sequential Sequential.Program

/-- What the risk evaluation of a signal meets: the confidence penalty and the size
factor of the mistake analyzer, and the scaling factor of the instrument. -/
structure RiskScript where
  penalties : Except Failure (ℤ × ℚ) := .ok (0, 1)
  scalingFactor : Awaited ℚ

/-- The scaling factor with which a signal is evaluated. -/
def RiskScript.scaling (script : RiskScript) : ℚ :=
  match script.scalingFactor.reply with
  | .ok scalingFactor => scalingFactor
  | .error _ => 10000

/-- Confidence and size factor after learning. -/
structure MistakePenalties where
  adjustedConfidence : ℤ
  sizeReductionFactor : ℚ
  deriving DecidableEq, Repr

namespace TradingLoop

/-- Occurrence of one text in another. -/
def containsText (pattern text : String) : Bool := decide (pattern.toList <:+: text.toList)

/-- Asset class by the prefix of an instrument. -/
def assetClassForEpic (epic : String) : String :=
  if "CS.".toList.isPrefixOf epic.toList then "forex"
  else if "IX.".toList.isPrefixOf epic.toList then "indices"
  else "forex"

/-- Region by the currencies in the name of an instrument. -/
def regionForEpic (epic : String) : Option String :=
  if containsText "EUR" epic || containsText "GBP" epic then some "europe"
  else if containsText "JPY" epic then some "asia"
  else none

/-- Estimated notional value. -/
def estimateNotionalValue (size price : ℚ) : ℚ := |size * price|

/-- One listed position in the form that the risk engine takes. -/
def positionForRisk (entry : PositionDict) : Except Failure RiskPosition := do
  let epic := correlationEpic entry
  let size ← Numeral.parseOrZero (Numeral.orElse entry.data.size entry.data.dealSize)
  let level ← Numeral.parseOrZero (Numeral.orElse entry.data.level entry.data.openLevel)
  pure
    { instrument := some epic
      assetClass := some (assetClassForEpic epic)
      notionalValue := some (.number |size * level|)
      region := regionForEpic epic }

/-- The listed positions in the form that the risk engine takes. -/
def currentPositionsForRisk (openPositions : List PositionDict) :
    Except Failure (List RiskPosition) :=
  openPositions.mapM positionForRisk

/-- Penalties of active mistake patterns. Without an analyzer, and when it raises,
nothing is adjusted. -/
def mistakePenaltiesForSignal (config : LoopConfig) (script : RiskScript) (signal : Signal) :
    MistakePenalties :=
  if config.hasMistakeAnalyzer then
    match script.penalties with
    | .ok (confidencePenalty, sizeReduction) =>
      ⟨max 0 (signal.confidence - |confidencePenalty|), sizeReduction⟩
    | .error _ => ⟨signal.confidence, 1⟩
  else ⟨signal.confidence, 1⟩

/-- Count a rejected signal. -/
def rejectTrade : LoopProgram Unit :=
  setDesk fun desk => { desk with tradesRejected := desk.tradesRejected + 1 }

/-- The signal in the form that the risk engine takes. -/
def riskSignal (signal : Signal) (confidence : ℤ) (scalingFactor : ℚ) : RiskSignal :=
  let long := signal.direction = "BUY"
  { instrument := signal.epic
    direction := if long then .long else .short
    entryPrice := signal.currentPrice
    stopLoss :=
      if long then signal.currentPrice - signal.stopDistance
      else signal.currentPrice + signal.stopDistance
    takeProfit :=
      if long then signal.currentPrice + signal.limitDistance
      else signal.currentPrice - signal.limitDistance
    confidence
    strategy := signal.strategyName
    assetClass := assetClassForEpic signal.epic
    notionalValue := estimateNotionalValue limits.tradeSize signal.currentPrice
    region := regionForEpic signal.epic
    isHft := false
    atr := signal.atr * scalingFactor
    atrZscore := 0
    riskPct := some signal.riskPerTrade }

/-- Ask the risk engine. -/
def validateSignal (signal : RiskSignal) : LoopProgram ValidationResult := do
  let now ← readClock
  let desk ← read (·.desk)
  let positions ← ofExcept (currentPositionsForRisk desk.openPositions)
  zoom (·.engine) (fun engine world => { world with engine })
    (RiskEngine.validateSignal now signal desk.accountEquity positions)

/-- The engine's verdict and the size that is traded: at most the fixed trade size,
then reduced by learning. -/
def sizeSignal (script : RiskScript) (signal : Signal) (penalties : MistakePenalties) :
    LoopProgram (Option Signal) := do
  let scalingFactor ← rescue (await script.scalingFactor) (fun _ => pure 10000)
  let result ← validateSignal (riskSignal signal penalties.adjustedConfidence scalingFactor)
  match result.allowed, result.positionSize with
  | true, some positionSize =>
    let riskSize := min positionSize limits.tradeSize * penalties.sizeReductionFactor
    if riskSize ≤ 0 then do
      rejectTrade
      pure none
    else pure (some { signal with size := some riskSize })
  | _, _ => do
      rejectTrade
      pure none

/-- Validate a strategy signal through the central risk engine. An exception counts
as a rejection. -/
def applyRiskControls (config : LoopConfig) (script : RiskScript) (signal : Signal) :
    LoopProgram (Option Signal) :=
  let penalties := mistakePenaltiesForSignal config script signal
  let adjusted := { signal with confidence := penalties.adjustedConfidence }
  if penalties.adjustedConfidence < Constants.confidenceThresholdDefault then do
    rejectTrade
    pure none
  else
    rescue (sizeSignal script adjusted penalties) (fun _ => do
      rejectTrade
      setDesk fun desk => { desk with errors := desk.errors + 1 }
      pure none)

/-- Approval of a signal, from a world to the world after it: once the scaling factor has
been waited for, the engine allows the signal with a size and nothing follows. The
approved signal differs from the original in confidence and size only. -/
structure Approval (config : LoopConfig) (script : RiskScript) (signal validated : Signal)
    (positionSize : ℚ) (world after : World) : Prop where
  verdict : ∃ result,
    validateSignal
      (riskSignal signal (mistakePenaltiesForSignal config script signal).adjustedConfidence
        script.scaling)
      (final (forEach script.scalingFactor.meanwhile interrupt) world) = (.ok result, after) ∧
    result.allowed = true ∧ result.positionSize = some positionSize
  validated_eq : validated =
    { signal with
        confidence := (mistakePenaltiesForSignal config script signal).adjustedConfidence
        size := some (min positionSize limits.tradeSize *
          (mistakePenaltiesForSignal config script signal).sizeReductionFactor) }

/-- The scaling factor is the one of the instrument, or a fixed one when it cannot be
fetched. -/
theorem scaling_run (script : RiskScript) (world : World) :
    rescue (await script.scalingFactor) (fun _ => pure 10000) world =
      (.ok script.scaling, final (forEach script.scalingFactor.meanwhile interrupt) world) := by
  rw [rescue_run, await_run]
  cases fetched : script.scalingFactor.reply with
  | ok scalingFactor => simp only [RiskScript.scaling, fetched]
  | error failure => simp only [RiskScript.scaling, fetched, pure_run]

/-- Sizing that returns a signal had the engine's verdict last. -/
theorem size_signal_approves {script : RiskScript} {signal validated : Signal}
    {penalties : MistakePenalties} {world after : World}
    (approved : sizeSignal script signal penalties world = (.ok (some validated), after)) :
    ∃ result positionSize,
      validateSignal (riskSignal signal penalties.adjustedConfidence script.scaling)
        (final (forEach script.scalingFactor.meanwhile interrupt) world) = (.ok result, after) ∧
      result.allowed = true ∧ result.positionSize = some positionSize ∧
      validated = { signal with
        size := some (min positionSize limits.tradeSize * penalties.sizeReductionFactor) } := by
  have scaled := (bind_ok (scaling_run script world)).symm.trans approved
  obtain ⟨result, decided, verdict, finished⟩ := bind_eq_ok.mp scaled
  have refused : (do rejectTrade; pure none : LoopProgram (Option Signal)) decided ≠
      (.ok (some validated), after) := by
    intro ended
    cases ended
  cases allowed : result.allowed with
  | false =>
    simp only [allowed] at finished
    exact absurd finished refused
  | true =>
    cases sized : result.positionSize with
    | none =>
      simp only [allowed, sized] at finished
      exact absurd finished refused
    | some positionSize =>
      simp only [allowed, sized] at finished
      split_ifs at finished with nonpositive
      · exact absurd finished refused
      · obtain ⟨value, rfl⟩ := Prod.mk.inj finished
        exact ⟨result, positionSize, verdict, allowed, sized,
          (Option.some.inj (Except.ok.inj value)).symm⟩

/-- An approving run ends with the engine's verdict and with nothing after it. -/
theorem apply_risk_controls_approves {config : LoopConfig} {script : RiskScript}
    {signal validated : Signal} {world after : World}
    (approved : applyRiskControls config script signal world = (.ok (some validated), after)) :
    ∃ positionSize, Approval config script signal validated positionSize world after := by
  unfold applyRiskControls at approved
  split_ifs at approved with tooLow
  · cases approved
  · rw [rescue_run] at approved
    split at approved
    next answer state sized =>
      obtain ⟨rfl, rfl⟩ : answer = some validated ∧ state = after := by
        simpa only [Prod.mk.injEq, Except.ok.injEq] using approved
      obtain ⟨result, positionSize, verdict, allowed, sizeAnswer, same⟩ :=
        size_signal_approves sized
      exact ⟨positionSize, ⟨result, verdict, allowed, sizeAnswer⟩, same⟩
    next failure state sized => cases approved

/-- A verdict of the loop is one of the engine, on the equity and the positions that the
loop has at that time; only the engine and the clock move. -/
theorem validate_signal_run {signal : RiskSignal} {result : ValidationResult}
    {before after : World} (verdict : validateSignal signal before = (.ok result, after)) :
    ∃ now positions,
      RiskEngine.validateSignal now signal before.desk.accountEquity positions before.engine =
        (.ok result, after.engine) ∧ after.desk = before.desk := by
  obtain ⟨now, ticked, clock, rest⟩ := bind_eq_ok.mp verdict
  obtain ⟨_, rfl⟩ := Prod.mk.inj clock
  obtain ⟨desk, same, looked, converting⟩ := bind_eq_ok.mp rest
  obtain ⟨answer, rfl⟩ := Prod.mk.inj looked
  obtain rfl := Except.ok.inj answer
  obtain ⟨positions, same, converted, decided⟩ := bind_eq_ok.mp converting
  obtain ⟨_, rfl⟩ := Prod.mk.inj converted
  obtain ⟨ended, rfl⟩ := Prod.mk.inj decided
  exact ⟨now, positions, Prod.ext ended rfl, rfl⟩

/-- A verdict, whatever it is, moves the engine as the check of a trade does: the drawdown
check is made once, and what follows it operates the kill switch at most. -/
theorem validate_signal_moves (now : ℚ) (signal : RiskSignal) (accountEquity : ℚ)
    (currentPositions : List RiskPosition) (engine : RiskEngine) :
    EngineMoves engine
      (RiskEngine.validateSignal now signal accountEquity currentPositions engine).2 := by
  have limits : ∀ reductions, Keeps (EngineMoves engine)
      (RiskEngine.checkLimits signal accountEquity currentPositions reductions) := by
    intro reductions
    apply keeps_bind (keeps_ofExcept _)
    intro positions
    apply keeps_bind (keeps_read _)
    intro exposure
    exact keeps_ite (fun _ => keeps_pure _) (fun _ => keeps_pure _)
  have activated : ∀ reason,
      Keeps (EngineMoves engine) (RiskEngine.activateForDrawdown now reason) :=
    fun _ => keeps_modify fun _ moved => ⟨moved.exposureManager, moved.drawdownMonitor⟩
  have checked : Ensures (fun current => current = engine)
      (RiskEngine.checkDrawdown now accountEquity) (fun _ => EngineMoves engine)
      (fun _ => EngineMoves engine) := by
    rintro current rfl
    exact ⟨rfl, Or.inr ⟨now, accountEquity, rfl⟩⟩
  have decided : Ensures (fun current => current = engine)
      (RiskEngine.validateSignal now signal accountEquity currentPositions)
      (fun _ => EngineMoves engine) (fun _ => EngineMoves engine) := by
    apply ensures_read_bind
    intro passed
    apply ensures_ite
    · intro _
      apply ensures_bind (checked.enter fun _ entry => entry.1)
      intro drawdown
      apply keeps_ite
      · intro _
        exact keeps_bind (activated _) fun _ => keeps_pure _
      · intro _
        exact keeps_ite (fun _ => keeps_pure _) (fun _ => limits _)
    · intro _
      apply ensures_pure
      rintro current ⟨rfl, _⟩
      exact ⟨rfl, Or.inl rfl⟩
  exact decided.final rfl

/-- At an approval the kill switch is inactive. -/
theorem Approval.inactive {config : LoopConfig} {script : RiskScript} {signal validated : Signal}
    {positionSize : ℚ} {world after : World}
    (approval : Approval config script signal validated positionSize world after) :
    after.engine.killSwitch.isActive = false := by
  obtain ⟨result, verdict, allowed, _⟩ := approval.verdict
  obtain ⟨now, positions, decided, _⟩ := validate_signal_run verdict
  obtain ⟨rolled, inactive, _⟩ :=
    RiskEngine.validate_signal_passes now _ _ positions _ _ _ decided allowed
  rw [rolled]
  exact inactive

section Frames

variable {invariant : World → Prop}

theorem Ambient.keeps_rejectTrade (stable : Ambient invariant) :
    Keeps invariant rejectTrade := stable.keeps_setAside fun _ => ⟨rfl, rfl, rfl, rfl⟩

theorem Ambient.keeps_validateSignal (stable : Ambient invariant) (signal : RiskSignal) :
    Keeps invariant (validateSignal signal) := by
  apply keeps_bind stable.keeps_readClock
  intro now
  apply keeps_bind (keeps_read _)
  intro desk
  apply keeps_bind (keeps_ofExcept _)
  intro positions
  exact keeps_zoom fun world holds =>
    stable.engine world _ (validate_signal_moves now signal _ positions world.engine) holds

theorem Ambient.keeps_sizeSignal (stable : Ambient invariant) (script : RiskScript)
    (signal : Signal) (penalties : MistakePenalties) :
    Keeps invariant (sizeSignal script signal penalties) := by
  have rejected : Keeps invariant (do rejectTrade; pure none : LoopProgram (Option Signal)) :=
    keeps_bind stable.keeps_rejectTrade fun _ => keeps_pure none
  apply keeps_bind (keeps_rescue (stable.keeps_await _) fun _ => keeps_pure _)
  intro scalingFactor
  apply keeps_bind (stable.keeps_validateSignal _)
  rintro ⟨allowed, _, positionSize⟩
  cases allowed with
  | false => exact rejected
  | true =>
    cases positionSize with
    | none => exact rejected
    | some size => exact keeps_ite (fun _ => rejected) (fun _ => keeps_pure _)

/-- The risk controls change the risk engine and counters only. -/
theorem Ambient.keeps_applyRiskControls (stable : Ambient invariant) (config : LoopConfig)
    (script : RiskScript) (signal : Signal) :
    Keeps invariant (applyRiskControls config script signal) := by
  apply keeps_ite
  · intro _
    exact keeps_bind stable.keeps_rejectTrade fun _ => keeps_pure none
  · intro _
    apply keeps_rescue (stable.keeps_sizeSignal _ _ _)
    intro _
    apply keeps_bind stable.keeps_rejectTrade
    intro _
    exact keeps_bind (stable.keeps_setAside fun _ => ⟨rfl, rfl, rfl, rfl⟩) fun _ => keeps_pure none

end Frames

example : regionForEpic "CS.D.USDJPY.CFD.IP" = some "asia" := by decide +kernel

end TradingLoop

end IgTradingBot
