import IgTradingBot.Loop.Cycle

/-!
# Orders and the kill switch

The kill switch is consulted by the risk engine, and between an approval of the engine
and the submission of the order there is one place where other tasks run: the wait for
the news layer. An activation at that place is not noticed any more.
-/

namespace IgTradingBot

open Sequential Sequential.Program

/-- The interruption activates the kill switch. -/
def Interference.isActivation : Interference → Bool
  | .killSwitchActivated _ _ => true
  | _ => false

namespace TradingLoop

/-- Nothing activates the kill switch while the news layer is waited for, unless the
signal goes no further: it is dropped, or its execution is blocked. -/
def QuietNewsWait (config : LoopConfig) (input : EpicInput) : Prop :=
  ∀ found action, config.hasNewsSafetyLayer = true → executionBlocked config = none →
    input.analysis.reply = .ok (some found) → input.entry.news.reply = .ok action →
    (newsCheck action found).isSome = true →
    ∀ interference ∈ input.entry.news.meanwhile, interference.isActivation = false

/-- Every order was submitted while the kill switch was inactive. -/
def OrdersWhileInactive : World → Prop := OrdersSatisfy fun _ active => active = false

/-- An interruption other than an activation never turns the switch on. -/
theorem interrupt_keeps_inactive (interference : Interference)
    (harmless : interference.isActivation = false) :
    Keeps (fun world => world.engine.killSwitch.isActive = false) (interrupt interference) := by
  apply keeps_of_final
  intro world inactive
  cases interference with
  | killSwitchActivated reason triggerSource => cases harmless
  | killSwitchDeactivated confirmationToken =>
    exact KillSwitch.after_deactivation_inactive _ _ confirmationToken inactive
  | snapshotPolled epic snapshot => exact inactive
  | loopStopped => exact inactive
  | positionClosed => exact inactive

/-- Whether a news decision lets a signal through depends on its confirmation only. -/
theorem news_check_passes {action : NewsAction} {signal other : Signal}
    (confirmation : signal.extraConfirmation = other.extraConfirmation) :
    (newsCheck action signal).isSome = (newsCheck action other).isSome := by
  cases action with
  | requireExtraConfirmation =>
    cases confirmed : other.extraConfirmation <;> simp [newsCheck, confirmation, confirmed]
  | allowNormal => rfl
  | reduceSize => rfl
  | blockTrade => rfl

/-- After a quiet wait the switch is still as the approval found it. -/
theorem Entering.inactive {config : LoopConfig} {epic : String} {input : EpicInput}
    {found approved : Signal} {start world : World} (quiet : QuietNewsWait config input)
    (analysed : input.analysis.reply = .ok (some found)) (unblocked : executionBlocked config = none)
    (entering : Entering config input.entry { found with epic } approved start world) :
    world.engine.killSwitch.isActive = false := by
  obtain ⟨validated, _, middle, after, approval, passed, same⟩ := entering.through
  rw [same]
  obtain ⟨_, rfl, rfl⟩ | ⟨layer, action, answered, verdict, rfl⟩ := apply_news_safety_passes passed
  · exact approval.inactive
  · have confirmation : validated.extraConfirmation = found.extraConfirmation := by
      rw [approval.validated_eq]
    have through : (newsCheck action found).isSome = true := by
      rw [← news_check_passes confirmation, verdict]
      rfl
    have harmless := quiet found action layer unblocked analysed answered through
    exact (keeps_forEach fun interference member =>
      interrupt_keeps_inactive interference (harmless interference member)).final approval.inactive

theorem orders_while_inactive_gate : GateRules OrdersWhileInactive where
  toRolls := (orders_satisfy_openings _).toRolls
  realizedRead _ _ clean := clean.record _ rfl (by simp)

/-- Every part of a run keeps it: an order is submitted only after an approval and a
quiet wait. -/
theorem orders_while_inactive_rules (config : LoopConfig) :
    CycleRules config (QuietNewsWait config) OrdersWhileInactive where
  toGateRules := orders_while_inactive_gate
  desk _ _ _ clean := clean
  noted := (orders_satisfy_openings _).noted
  answered _ _ _ _ _ clean := clean.record _ rfl (by simp)
  listed _ _ clean := clean
  reconciled _ _ _ _ clean := clean.record _ rfl (by simp)
  entered epic input found quiet analysed := by
    have openings := orders_satisfy_openings fun _ active => active = false
    have gated := orders_while_inactive_gate.keeps_gate { found with epic }
    apply ensures_bind (gated.enter (fun _ holds => holds.1))
    intro rejection
    cases rejection with
    | some reason => exact openings.keeps_rejectTrade
    | none =>
      apply openings.ensures_enterSignal config input.entry _ (fun _ clean => clean)
        fun _ clean => clean
      intro approved
      apply openings.contracts.ensures_executeSignal config _ approved fun _ holds => holds.1
      rintro unblocked world ⟨clean, start, _, entering⟩
      exact clean.submitted _ (entering.inactive quiet analysed unblocked)

/-- In every run in which the kill switch is not activated during the wait for the news
layer of a signal that goes on to its execution, no order is submitted while the switch
is active. -/
theorem run_orders_while_inactive (config : LoopConfig) (starts : List StartInput) (clock : ℚ)
    (schedule : ℕ → ℚ) (engine : RiskEngine) (desk : Desk) (openAtBroker : ℕ)
    (quiet : EachStep (QuietNewsWait config) starts) (order : OpeningOrder) :
    .orderSubmitted order true ∉
      (final (run config starts) (constructed clock schedule engine desk openAtBroker)).history := by
  have initial : OrdersWhileInactive (constructed clock schedule engine desk openAtBroker) := by
    intro order active member
    cases member
  have clean := ((orders_while_inactive_rules config).contracts.keeps_run starts quiet).final initial
  intro member
  cases clean order true member

/-- A demo loop with a news layer. -/
def newsConfig : LoopConfig := { demoConfig with hasNewsSafetyLayer := true }

/-- A run of one cycle with one accepted order, whose wait for the news layer meets
interruptions. -/
def newsRun (meanwhile : List Interference) : List StartInput :=
  [{ cycles := [demoCycle []
      [("CS.D.EURUSD.CFD.IP",
        { analysis := { reply := .ok (some (demoSignal "CS.D.EURUSD.CFD.IP")) }
          entry :=
            { risk := { scalingFactor := { reply := .ok 10000 } }
              news := { meanwhile, reply := .ok .allowNormal }
              execution := demoAcceptance "DEAL-1" } })]] }]

/-- The switch is activated while the news layer is waited for, and the order follows. -/
theorem activation_in_news_wait_orders :
    .orderSubmitted (openingOrder { demoSignal "CS.D.EURUSD.CFD.IP" with size := some 1 }) true ∈
      (final (run newsConfig (newsRun [.killSwitchActivated "manual_activation" "manual"]))
        demoWorld).history := by
  decide +kernel

/-- A run with a snapshot in the wait submits its order with an inactive switch. -/
theorem quiet_news_wait_orders :
    .orderSubmitted (openingOrder { demoSignal "CS.D.EURUSD.CFD.IP" with size := some 1 }) true ∉
      (final (run newsConfig (newsRun
        [.snapshotPolled "CS.D.EURUSD.CFD.IP" ⟨11 / 10, 11001 / 10000⟩])) demoWorld).history := by
  apply run_orders_while_inactive
  intro start member cycle inCycle step inStep
  simp only [newsRun, demoCycle, List.mem_singleton] at member inCycle inStep
  subst member
  simp only [List.mem_singleton] at inCycle
  subst inCycle
  simp only [List.mem_singleton] at inStep
  subst inStep
  intro found action _ _ _ _ _ interference inWait
  obtain rfl := List.mem_singleton.mp inWait
  rfl

end TradingLoop

end IgTradingBot
