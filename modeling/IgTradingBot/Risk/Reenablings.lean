import IgTradingBot.Risk.CircuitBreaker

/-!
# Enabling high-frequency trading again

Runs of everything that touches the circuit breaker, with every way to start and end a pause. Too
many activations within an hour disable high-frequency trading until it is enabled by hand. The
activations from before that day's enabling stay in the list that is counted, so that a single new
one may disable it again.
-/

namespace IgTradingBot

open SlidingWindows

/-- A call that reads or changes the circuit breaker. -/
inductive HftCommand where
  | pnlUpdated (now activationNow pnl accountEquity : ℚ)
  | activated (now pnlAtActivation equityAtActivation : ℚ)
  | deactivated
  | permissionAsked (now : ℚ)
  | statusAsked (monotonicNow now : ℚ)
  | reEnabled

/-- The manager, the last reading of the clock, and the times of the activations since
high-frequency trading was enabled last. -/
structure HftRun where
  clock : ℚ
  manager : HFTRiskManager
  sinceEnabled : List ℚ := []

namespace HFTRiskManager

variable {manager : HFTRiskManager} {now : ℚ}

/-- The length of the window of activations. -/
def activationWindow : ℚ := Constants.hftCircuitBreakerWindowHours * 3600

/-- The times of all activations. -/
def activationTimes (manager : HFTRiskManager) : List ℚ :=
  manager.circuitBreakerEvents.map CircuitBreakerEvent.timestamp

/-- An activation disables trading when the window before it has all others that it takes. -/
theorem activate_disabled (manager : HFTRiskManager) (now pnl equity : ℚ) :
    (manager.activateCircuitBreaker now pnl equity).hftDisabled = true ↔
      manager.hftDisabled = true ∨ Constants.hftCircuitBreakerMaxActivations ≤
        (recent id activationWindow now manager.activationTimes).length + 1 := by
  have inside : now - Constants.hftCircuitBreakerWindowHours * 3600 < now :=
    sub_lt_self now (by decide +kernel)
  simp [activateCircuitBreaker, recent, activationTimes, activationWindow, inside,
    List.filter_map, Function.comp_def]
  rfl

/-- An activation is entered with its time. -/
theorem activate_times (manager : HFTRiskManager) (now pnl equity : ℚ) :
    (manager.activateCircuitBreaker now pnl equity).activationTimes =
      manager.activationTimes ++ [now] := by
  simp [activateCircuitBreaker, activationTimes]

/-- A question changes neither the activations nor whether trading is disabled. -/
theorem is_hft_allowed_keeps (manager : HFTRiskManager) (now : ℚ) :
    (manager.isHftAllowed now).1.activationTimes = manager.activationTimes ∧
      (manager.isHftAllowed now).1.hftDisabled = manager.hftDisabled := by
  unfold isHftAllowed
  split_ifs
  · exact ⟨rfl, rfl⟩
  · cases manager.circuitBreakerActivatedAt with
    | none => exact ⟨rfl, rfl⟩
    | some activatedAt =>
      dsimp only
      split_ifs
      · exact ⟨rfl, rfl⟩
      · exact ⟨rfl, rfl⟩
  · exact ⟨rfl, rfl⟩

/-- A share of rejections is counted without a change to the circuit breaker. -/
theorem get_rejection_rate_keeps (manager : HFTRiskManager) (now : ℚ) :
    (manager.getRejectionRate now).1.activationTimes = manager.activationTimes ∧
      (manager.getRejectionRate now).1.hftDisabled = manager.hftDisabled := by
  unfold getRejectionRate
  dsimp only
  split_ifs
  · exact ⟨rfl, rfl⟩
  · exact ⟨rfl, rfl⟩

/-- A report changes neither the activations nor whether trading is disabled. -/
theorem get_status_keeps (manager : HFTRiskManager) (monotonicNow now : ℚ) :
    (manager.getStatus monotonicNow now).1.activationTimes = manager.activationTimes ∧
      (manager.getStatus monotonicNow now).1.hftDisabled = manager.hftDisabled := by
  have asked := manager.is_hft_allowed_keeps now
  let ordered := { (manager.isHftAllowed now).1 with
    globalRateCounter := ((manager.isHftAllowed now).1.globalRateCounter.count monotonicNow).1 }
  have rated := ordered.get_rejection_rate_keeps monotonicNow
  have throttled := (ordered.getRejectionRate monotonicNow).1.get_rejection_rate_keeps monotonicNow
  exact ⟨(throttled.1.trans rated.1).trans asked.1, (throttled.2.trans rated.2).trans asked.2⟩

end HFTRiskManager

namespace HftRun

open HFTRiskManager

/-- When a call activates the circuit breaker, if it does. -/
def activation (run : HftRun) : HftCommand → Option ℚ
  | .pnlUpdated now activationNow pnl accountEquity =>
    if run.manager.Triggers now pnl accountEquity then some activationNow else none
  | .activated now _ _ => some now
  | _ => none

/-- The manager after a call. -/
def called (run : HftRun) : HftCommand → HFTRiskManager
  | .pnlUpdated now activationNow pnl accountEquity =>
    run.manager.updatePnl now activationNow pnl accountEquity
  | .activated now pnl equity => run.manager.activateCircuitBreaker now pnl equity
  | .deactivated => run.manager.deactivateCircuitBreaker
  | .permissionAsked now => (run.manager.isHftAllowed now).1
  | .statusAsked monotonicNow now => (run.manager.getStatus monotonicNow now).1
  | .reEnabled => run.manager.reEnableHft

/-- What the clock shows after a call. -/
def clockAfter (run : HftRun) : HftCommand → ℚ
  | .pnlUpdated now activationNow pnl accountEquity =>
    if run.manager.Triggers now pnl accountEquity then activationNow else now
  | .activated now _ _ => now
  | .permissionAsked now => now
  | .statusAsked _ now => now
  | .deactivated => run.clock
  | .reEnabled => run.clock

/-- One call. -/
def step (run : HftRun) (move : HftCommand) : HftRun where
  clock := run.clockAfter move
  manager := run.called move
  sinceEnabled :=
    match move with
    | .reEnabled => []
    | _ => run.sinceEnabled ++ (run.activation move).toList

/-- The clock does not run backwards. -/
def Forward (run : HftRun) : HftCommand → Prop
  | .pnlUpdated now activationNow _ _ => run.clock ≤ now ∧ now ≤ activationNow
  | .activated now _ _ => run.clock ≤ now
  | .permissionAsked now => run.clock ≤ now
  | .statusAsked _ now => run.clock ≤ now
  | .deactivated => True
  | .reEnabled => True

instance (run : HftRun) (move : HftCommand) : Decidable (run.Forward move) :=
  match move with
  | .pnlUpdated _ _ _ _ => inferInstanceAs (Decidable (_ ∧ _))
  | .activated _ _ _ => inferInstanceAs (Decidable (_ ≤ _))
  | .permissionAsked _ => inferInstanceAs (Decidable (_ ≤ _))
  | .statusAsked _ _ => inferInstanceAs (Decidable (_ ≤ _))
  | .deactivated => inferInstanceAs (Decidable True)
  | .reEnabled => inferInstanceAs (Decidable True)

/-- A new manager at a reading of the clock. -/
def constructed (clock : ℚ) (maxOrderRate maxPerInstrumentRate : ℤ) : HftRun :=
  { clock := clock, manager := create maxOrderRate maxPerInstrumentRate }

/-- Trading is disabled only after the full number of activations within one window, all since
it was enabled last. -/
def Earned (run : HftRun) : Prop :=
  run.manager.hftDisabled = true → ∃ start, Constants.hftCircuitBreakerMaxActivations ≤
    (within id activationWindow start run.sinceEnabled).length

/-- An activation that completes the full number in its window completes it with those since
trading was enabled last. -/
def CompletesFresh (run : HftRun) (move : HftCommand) : Prop :=
  ∀ now ∈ run.activation move, run.manager.hftDisabled = true ∨
    (recent id activationWindow now run.manager.activationTimes).length + 1 <
        Constants.hftCircuitBreakerMaxActivations ∨
      Constants.hftCircuitBreakerMaxActivations ≤
        (recent id activationWindow now run.sinceEnabled).length + 1

instance (run : HftRun) (move : HftCommand) : Decidable (run.CompletesFresh move) :=
  inferInstanceAs (Decidable (∀ _ ∈ run.activation move, _))

/-- The activations since the last enabling are the last ones, and while trading is enabled no
window has the full number of them. -/
structure Sound (run : HftRun) : Prop where
  latest : run.sinceEnabled <:+ run.manager.activationTimes
  limited : run.manager.hftDisabled = false → Limited id activationWindow run.clock
    (Constants.hftCircuitBreakerMaxActivations - 1) run.sinceEnabled

section Steps

variable {run : HftRun} {move : HftCommand}

/-- A call never turns the clock back. -/
theorem Forward.clock_le (forward : run.Forward move) : run.clock ≤ (run.step move).clock := by
  cases move with
  | pnlUpdated now activationNow pnl accountEquity =>
    simp only [step, clockAfter]
    split_ifs
    · exact forward.1.trans forward.2
    · exact forward.1
  | activated now pnl equity => exact forward
  | permissionAsked now => exact forward
  | statusAsked monotonicNow now => exact forward
  | deactivated => exact le_refl _
  | reEnabled => exact le_refl _

/-- What a call does: it enables trading, or it activates the circuit breaker, or it changes
neither the activations nor whether trading is disabled. -/
theorem step_cases (run : HftRun) (move : HftCommand) :
    (move = .reEnabled) ∨
    (∃ now, run.activation move = some now ∧ (run.step move).clock = now ∧
      (run.step move).sinceEnabled = run.sinceEnabled ++ [now] ∧
      (run.step move).manager.activationTimes = run.manager.activationTimes ++ [now] ∧
      ((run.step move).manager.hftDisabled = true ↔ run.manager.hftDisabled = true ∨
        Constants.hftCircuitBreakerMaxActivations ≤
          (recent id activationWindow now run.manager.activationTimes).length + 1)) ∨
    (run.activation move = none ∧ (run.step move).sinceEnabled = run.sinceEnabled ∧
      (run.step move).manager.activationTimes = run.manager.activationTimes ∧
      (run.step move).manager.hftDisabled = run.manager.hftDisabled) := by
  cases move with
  | pnlUpdated now activationNow pnl accountEquity =>
    right
    by_cases triggered : run.manager.Triggers now pnl accountEquity
    · refine .inl ⟨activationNow, if_pos triggered, if_pos triggered, ?_, ?_, ?_⟩
      · simp only [step, activation, if_pos triggered, Option.toList_some]
      · simp only [step, called, update_pnl_triggered triggered, activate_times]
        rfl
      · simp only [step, called, update_pnl_triggered triggered, activate_disabled]
        exact Iff.rfl
    · refine .inr ⟨if_neg triggered, ?_, ?_, ?_⟩
      · simp only [step, activation, if_neg triggered, Option.toList_none, List.append_nil]
      · simp only [step, called, update_pnl_untriggered triggered, activationTimes]
      · simp only [step, called, update_pnl_untriggered triggered]
  | activated now pnl equity =>
    exact .inr (.inl ⟨now, rfl, rfl, rfl, activate_times _ now pnl equity,
      activate_disabled _ now pnl equity⟩)
  | deactivated => exact .inr (.inr ⟨rfl, List.append_nil _, rfl, rfl⟩)
  | permissionAsked now =>
    exact .inr (.inr ⟨rfl, List.append_nil _, is_hft_allowed_keeps _ now⟩)
  | statusAsked monotonicNow now =>
    exact .inr (.inr ⟨rfl, List.append_nil _, get_status_keeps _ monotonicNow now⟩)
  | reEnabled => exact .inl rfl

/-- Of the activations of a window, those since the last enabling are some. -/
theorem Sound.recent_le (sound : run.Sound) (now : ℚ) :
    (recent id activationWindow now run.sinceEnabled).length ≤
      (recent id activationWindow now run.manager.activationTimes).length :=
  (sound.latest.sublist.filter _).length_le

/-- Every call keeps a run sound. -/
theorem Sound.step (sound : run.Sound) (forward : run.Forward move) : (run.step move).Sound := by
  obtain rfl | ⟨now, activates, clock, since, times, disabled⟩ | ⟨-, since, times, disabled⟩ :=
    run.step_cases move
  · exact ⟨List.nil_suffix, fun _ => limited_nil _ _⟩
  · constructor
    · rw [since, times]
      obtain ⟨earlier, joined⟩ := sound.latest
      exact ⟨earlier, by rw [← joined, List.append_assoc]⟩
    · intro enabled
      rw [← Bool.not_eq_true, disabled, not_or, not_le] at enabled
      rw [since, clock]
      have later : run.clock ≤ now := clock ▸ forward.clock_le
      refine (sound.limited (Bool.not_eq_true _ ▸ enabled.1)).append later ?_
      have fewer := sound.recent_le now
      simp only [id_eq]
      omega
  · constructor
    · rw [since, times]
      exact sound.latest
    · rw [since, disabled]
      exact fun enabled => (sound.limited enabled).wait forward.clock_le

/-- The window of activations has a length. -/
theorem activation_window_pos : 0 < activationWindow := by decide +kernel

/-- It takes activations to disable trading. -/
theorem max_activations_pos : 1 ≤ Constants.hftCircuitBreakerMaxActivations := by decide

/-- In a sound run, a call leaves trading disabled only as earned exactly where an activation that
completes the full number completes it with those since trading was enabled last. -/
theorem Sound.earned_iff (sound : run.Sound) (forward : run.Forward move) (earned : run.Earned) :
    (run.step move).Earned ↔ run.CompletesFresh move := by
  obtain rfl | ⟨now, activates, clock, since, times, disabled⟩ | ⟨inactive, since, -, disabled⟩ :=
    run.step_cases move
  · exact iff_of_true (fun disabled => absurd disabled Bool.false_ne_true)
      (fun _ activates => nomatch activates)
  · have later : run.clock ≤ now := clock ▸ forward.clock_le
    unfold Earned CompletesFresh
    simp only [activates, Option.mem_some_iff, forall_eq']
    rw [disabled, since]
    cases wasDisabled : run.manager.hftDisabled with
    | true =>
      refine iff_of_true (fun _ => ?_) (.inl rfl)
      obtain ⟨start, full⟩ := earned wasDisabled
      refine ⟨start, full.trans ?_⟩
      exact (((List.sublist_append_left _ _).filter _).length_le)
    | false =>
      have filled := (sound.limited wasDisabled).passed_iff activation_window_pos later
      rw [Nat.sub_add_cancel max_activations_pos, id_eq] at filled
      simp only [Bool.false_eq_true, false_or]
      rw [← not_lt, imp_iff_not_or, not_not]
      exact or_congr_right (filled.trans Nat.sub_le_iff_le_add)
  · refine iff_of_true ?_ (fun now activates => ?_)
    · unfold Earned
      rw [since, disabled]
      exact earned
    · rw [inactive] at activates
      exact nomatch activates

end Steps

/-- In every run of profits, activations, questions and enablings: whenever high-frequency trading
is disabled, the full number of activations within an hour has come since it was enabled last,
exactly when every activation that completes the number completes it with those. -/
theorem disabled_as_earned_iff (clock : ℚ) (maxOrderRate maxPerInstrumentRate : ℤ)
    (moves : List HftCommand)
    (forward : Machines.Conforms step Forward
      (constructed clock maxOrderRate maxPerInstrumentRate) moves) :
    (∀ reached, reached <+: moves →
        (Machines.after step (constructed clock maxOrderRate maxPerInstrumentRate)
          reached).Earned) ↔
      Machines.Conforms step CompletesFresh
        (constructed clock maxOrderRate maxPerInstrumentRate) moves :=
  have starts : (constructed clock maxOrderRate maxPerInstrumentRate).Sound :=
    ⟨List.nil_suffix, fun _ => limited_nil _ _⟩
  Machines.always_iff_conforms_under (fun _ _ sound forward => Sound.step sound forward)
    (fun _ _ sound forward earned => Sound.earned_iff sound forward earned) starts
    (fun disabled => absurd disabled Bool.false_ne_true) forward

/-- Three losses, each of which starts a pause of its own. -/
def threePauses (start : ℚ) : List HftCommand :=
  [.pnlUpdated start start (-100) 10000, .permissionAsked (start + 70),
    .pnlUpdated (start + 70) (start + 70) (-100) 10000, .permissionAsked (start + 140),
    .pnlUpdated (start + 140) (start + 140) (-100) 10000]

/-- Enabled again, and an hour later, trading is disabled by three new activations. -/
theorem three_new_pauses_disable :
    (Machines.after step (constructed 0 100 50)
        (threePauses 10 ++ .reEnabled :: threePauses 4000)).manager.hftDisabled = true ∧
      ∀ reached, reached <+: threePauses 10 ++ .reEnabled :: threePauses 4000 →
        (Machines.after step (constructed 0 100 50) reached).Earned :=
  ⟨by decide +kernel,
    (disabled_as_earned_iff 0 100 50 _ (by decide +kernel)).mpr (by decide +kernel)⟩

/-- Enabled again within the hour, trading is disabled by one new activation. -/
theorem one_new_pause_disables :
    ¬∀ (clock : ℚ) (maxOrderRate maxPerInstrumentRate : ℤ) (moves : List HftCommand),
      Machines.Conforms step Forward (constructed clock maxOrderRate maxPerInstrumentRate) moves →
        ∀ reached, reached <+: moves →
          (Machines.after step (constructed clock maxOrderRate maxPerInstrumentRate)
            reached).Earned := by
  intro claim
  let moves := threePauses 10 ++ [.reEnabled, .pnlUpdated 300 300 (-100) 10000]
  have earned := claim 0 100 50 moves (by decide +kernel) moves List.prefix_rfl
  have single : (Machines.after step (constructed 0 100 50) moves).sinceEnabled.length = 1 := by
    decide +kernel
  obtain ⟨start, full⟩ := earned (by decide +kernel)
  have few : (within id activationWindow start
      (Machines.after step (constructed 0 100 50) moves).sinceEnabled).length ≤ 1 :=
    single ▸ List.length_filter_le _ _
  have number : Constants.hftCircuitBreakerMaxActivations = 3 := rfl
  omega

end HftRun

end IgTradingBot
