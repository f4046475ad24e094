import IgTradingBot.Library.Machines
import IgTradingBot.Risk.HftRisk
import Mathlib.Tactic.Linarith

/-!
# Circuit breaker

Runs of profits that are entered and of questions whether high-frequency trading is allowed.
A pause is marked as active until somebody asks after its end. While the mark of an old pause
stands, a new loss starts no pause.
-/

namespace IgTradingBot

open SlidingWindows

/-- The two calls of a run. A pause starts at a reading of its own. -/
inductive BreakerMove where
  | pnlUpdated (now activationNow pnl accountEquity : ℚ)
  | permissionAsked (now : ℚ)

/-- The manager, the last reading of the clock, and every profit that was entered. -/
structure BreakerRun where
  clock : ℚ
  manager : HFTRiskManager
  profits : List (ℚ × ℚ) := []

namespace HFTRiskManager

/-- An entered profit starts a pause. -/
def Triggers (manager : HFTRiskManager) (now pnl accountEquity : ℚ) : Prop :=
  ((manager.enteredPnl now pnl).map Prod.snd).sum < pnlThreshold accountEquity ∧
    manager.circuitBreakerActive = false

instance (manager : HFTRiskManager) (now pnl accountEquity : ℚ) :
    Decidable (manager.Triggers now pnl accountEquity) :=
  inferInstanceAs (Decidable (_ ∧ _))

/-- High-frequency trading pauses because of an activation, or is disabled. -/
def Pausing (manager : HFTRiskManager) (activatedAt : ℚ) : Prop :=
  manager.hftDisabled = true ∨
    manager.circuitBreakerActive = true ∧ manager.circuitBreakerActivatedAt = some activatedAt

section Calls

variable {manager : HFTRiskManager} {now activationNow pnl accountEquity activatedAt : ℚ}

theorem update_pnl_triggered (triggered : manager.Triggers now pnl accountEquity) :
    manager.updatePnl now activationNow pnl accountEquity =
      { manager with pnlWindow := manager.enteredPnl now pnl }.activateCircuitBreaker
        activationNow ((manager.enteredPnl now pnl).map Prod.snd).sum accountEquity :=
  if_pos triggered

theorem update_pnl_untriggered (untriggered : ¬ manager.Triggers now pnl accountEquity) :
    manager.updatePnl now activationNow pnl accountEquity =
      { manager with pnlWindow := manager.enteredPnl now pnl } :=
  if_neg untriggered

/-- The entries of the last minute do not depend on the activation. -/
theorem update_pnl_window :
    (manager.updatePnl now activationNow pnl accountEquity).pnlWindow =
      manager.enteredPnl now pnl := by
  by_cases triggered : manager.Triggers now pnl accountEquity
  · rw [update_pnl_triggered triggered]
    rfl
  · rw [update_pnl_untriggered triggered]

/-- During a pause trading is not allowed, and asking leaves the pause as it is. -/
theorem Pausing.is_hft_allowed (pausing : manager.Pausing activatedAt)
    (during : now < activatedAt + Constants.hftCircuitBreakerDurationSeconds) :
    manager.isHftAllowed now = (manager, false) := by
  have unexpired : ¬ Constants.hftCircuitBreakerDurationSeconds ≤ now - activatedAt := by
    linarith
  obtain disabled | ⟨active, since⟩ := pausing
  · simp [isHftAllowed, disabled]
  · simp [isHftAllowed, active, since, unexpired]

/-- After the length of a pause trading is allowed, unless it is disabled. -/
theorem expired_is_hft_allowed (manager : HFTRiskManager) (enabled : manager.hftDisabled = false)
    (active : manager.circuitBreakerActive = true)
    (since : manager.circuitBreakerActivatedAt = some activatedAt)
    (expired : activatedAt + Constants.hftCircuitBreakerDurationSeconds ≤ now) :
    (manager.isHftAllowed now).2 = true := by
  have elapsed : Constants.hftCircuitBreakerDurationSeconds ≤ now - activatedAt := by linarith
  simp [isHftAllowed, enabled, active, since, elapsed]

/-- A profit entered during a pause leaves the pause as it is. -/
theorem Pausing.update_pnl (pausing : manager.Pausing activatedAt) :
    (manager.updatePnl now activationNow pnl accountEquity).Pausing activatedAt := by
  by_cases triggered : manager.Triggers now pnl accountEquity
  · rw [update_pnl_triggered triggered]
    obtain disabled | ⟨active, _⟩ := pausing
    · left
      simp [activateCircuitBreaker, disabled]
    · exact absurd (triggered.2.symm.trans active) Bool.false_ne_true
  · rw [update_pnl_untriggered triggered]
    exact pausing

end Calls

end HFTRiskManager

namespace BreakerRun

open HFTRiskManager

/-- One move. A second reading of the clock is taken only by an activation. -/
def step (run : BreakerRun) : BreakerMove → BreakerRun
  | .pnlUpdated now activationNow pnl accountEquity =>
    { clock := if run.manager.Triggers now pnl accountEquity then activationNow else now
      manager := run.manager.updatePnl now activationNow pnl accountEquity
      profits := run.profits ++ [(now, pnl)] }
  | .permissionAsked now =>
    { run with clock := now, manager := (run.manager.isHftAllowed now).1 }

/-- The clock does not run backwards. -/
def Forward (run : BreakerRun) : BreakerMove → Prop
  | .pnlUpdated now activationNow _ _ => run.clock ≤ now ∧ now ≤ activationNow
  | .permissionAsked now => run.clock ≤ now

instance (run : BreakerRun) (move : BreakerMove) : Decidable (run.Forward move) :=
  match move with
  | .pnlUpdated _ _ _ _ => inferInstanceAs (Decidable (_ ∧ _))
  | .permissionAsked _ => inferInstanceAs (Decidable (_ ≤ _))

/-- A new manager at a reading of the clock. -/
def constructed (clock : ℚ) (maxOrderRate maxPerInstrumentRate : ℤ) : BreakerRun :=
  { clock := clock, manager := create maxOrderRate maxPerInstrumentRate }

/-- Profit of the minute that ends with a new entry. -/
def lastMinute (run : BreakerRun) (now pnl : ℚ) : ℚ :=
  ((recent Prod.fst 60 now (run.profits ++ [(now, pnl)])).map Prod.snd).sum

/-- Every pause so far began at least one pause length before a reading. -/
def Rested (run : BreakerRun) (now : ℚ) : Prop :=
  ∀ event ∈ run.manager.circuitBreakerEvents,
    event.timestamp + Constants.hftCircuitBreakerDurationSeconds ≤ now

instance (run : BreakerRun) (now : ℚ) : Decidable (run.Rested now) :=
  inferInstanceAs (Decidable (∀ _ ∈ _, _))

/-- However a run goes on, trading is not allowed at any time before a reading. -/
def DisallowedUntil (run : BreakerRun) (ending : ℚ) : Prop :=
  ∀ moves, Machines.Conforms step Forward run moves → ∀ asked,
    (Machines.after step run moves).clock ≤ asked → asked < ending →
      ((Machines.after step run moves).manager.isHftAllowed asked).2 = false

/-- The kept profits are those of the last minute, and a pause that is marked as active began
with a recorded activation. -/
structure Sound (run : BreakerRun) : Prop where
  mirrors : Mirrors Prod.fst 60 run.clock run.manager.pnlWindow run.profits
  recorded : run.manager.circuitBreakerActive = true →
    ∃ event ∈ run.manager.circuitBreakerEvents,
      run.manager.circuitBreakerActivatedAt = some event.timestamp

/-- A pause goes on, or its end has come. -/
def PauseHeld (activatedAt : ℚ) (run : BreakerRun) : Prop :=
  activatedAt + Constants.hftCircuitBreakerDurationSeconds ≤ run.clock ∨
    run.manager.Pausing activatedAt

section Steps

variable {run : BreakerRun} {now activationNow pnl accountEquity activatedAt : ℚ}

/-- The manager sees the profit of the last minute. -/
theorem Sound.entered (sound : run.Sound) (later : run.clock ≤ now) :
    ((run.manager.enteredPnl now pnl).map Prod.snd).sum = run.lastMinute now pnl := by
  rw [lastMinute, enteredPnl, (sound.mirrors.append (now, pnl)) now later]

/-- The clock of an update lies between its reading and that of the activation. -/
theorem update_clock (run : BreakerRun) (pnl accountEquity : ℚ)
    (inOrder : now ≤ activationNow) :
    now ≤ (run.step (.pnlUpdated now activationNow pnl accountEquity)).clock := by
  simp only [step]
  split_ifs
  · exact inOrder
  · exact le_refl now

/-- Every move keeps the run sound. -/
theorem Sound.step {move : BreakerMove} (sound : run.Sound) (forward : run.Forward move) :
    (run.step move).Sound := by
  cases move with
  | pnlUpdated now activationNow pnl accountEquity =>
    have pruned := ((sound.mirrors.append (now, pnl)).prune forward.1).wait
      (update_clock run pnl accountEquity forward.2)
    constructor
    · simp only [BreakerRun.step, update_pnl_window]
      exact pruned
    · simp only [BreakerRun.step]
      by_cases triggered : run.manager.Triggers now pnl accountEquity
      · rw [update_pnl_triggered triggered]
        intro _
        exact ⟨_, List.mem_append_right _ List.mem_cons_self, rfl⟩
      · rw [update_pnl_untriggered triggered]
        exact sound.recorded
  | permissionAsked now =>
    have waited := sound.mirrors.wait forward
    simp only [BreakerRun.step, isHftAllowed]
    split_ifs with disabled active
    · exact ⟨waited, sound.recorded⟩
    · cases since : run.manager.circuitBreakerActivatedAt with
      | none =>
        obtain ⟨_, _, recorded⟩ := sound.recorded active
        simp [since] at recorded
      | some activatedAt =>
        simp only
        split_ifs
        · exact ⟨waited, fun marked => absurd marked Bool.false_ne_true⟩
        · exact ⟨waited, sound.recorded⟩
    · exact ⟨waited, sound.recorded⟩

/-- A pause goes on until its end, however the run goes on. -/
theorem PauseHeld.step {move : BreakerMove}
    (held : run.PauseHeld activatedAt) (forward : run.Forward move) :
    (run.step move).PauseHeld activatedAt := by
  cases move with
  | pnlUpdated now activationNow pnl accountEquity =>
    obtain elapsed | pausing := held
    · exact Or.inl (elapsed.trans (forward.1.trans (update_clock run pnl accountEquity forward.2)))
    · exact Or.inr pausing.update_pnl
  | permissionAsked now =>
    obtain elapsed | pausing := held
    · exact Or.inl (elapsed.trans forward)
    · obtain ended | during :=
        le_or_gt (activatedAt + Constants.hftCircuitBreakerDurationSeconds) now
      · exact Or.inl ended
      · right
        simp only [BreakerRun.step, pausing.is_hft_allowed during]
        exact pausing

/-- A pause disallows trading until its end. -/
theorem pausing_disallowed (pausing : run.manager.Pausing activatedAt) :
    run.DisallowedUntil (activatedAt + Constants.hftCircuitBreakerDurationSeconds) := by
  intro moves forward asked later before
  have held : (Machines.after step run moves).PauseHeld activatedAt :=
    Machines.after_keeps (fun _ _ held => PauseHeld.step held) (Or.inr pausing) forward
  obtain elapsed | still := held
  · exact absurd (elapsed.trans later) (not_le.mpr before)
  · rw [still.is_hft_allowed before]

/-- A loss that starts a pause disallows trading until the pause ends. -/
theorem triggered_disallowed {now activationNow pnl accountEquity : ℚ}
    (triggered : run.manager.Triggers now pnl accountEquity) :
    (run.step (.pnlUpdated now activationNow pnl accountEquity)).DisallowedUntil
      (activationNow + Constants.hftCircuitBreakerDurationSeconds) := by
  apply pausing_disallowed
  simp only [BreakerRun.step, update_pnl_triggered triggered]
  exact Or.inr ⟨rfl, rfl⟩

/-- Under the mark of an old pause that is over, a loss does not disallow trading: a question at
once ends the old pause. -/
theorem stale_mark_not_disallowed {now activationNow pnl accountEquity ending : ℚ}
    (sound : run.Sound) (rested : run.Rested now)
    (active : run.manager.circuitBreakerActive = true) (enabled : run.manager.hftDisabled = false)
    (ahead : now < ending) :
    ¬ (run.step (.pnlUpdated now activationNow pnl accountEquity)).DisallowedUntil ending := by
  intro disallowed
  have untriggered : ¬ run.manager.Triggers now pnl accountEquity := fun triggered =>
    Bool.false_ne_true (triggered.2.symm.trans active)
  obtain ⟨event, member, since⟩ := sound.recorded active
  -- the update changes nothing but the profits
  have allowed := disallowed [] trivial now
  simp only [Machines.after_nil, BreakerRun.step, if_neg untriggered,
    update_pnl_untriggered untriggered, le_refl, true_imp_iff] at allowed
  have permitted := expired_is_hft_allowed
    { run.manager with pnlWindow := run.manager.enteredPnl now pnl } enabled active since
    (rested event member)
  exact Bool.false_ne_true ((allowed ahead).symm.trans permitted)

end Steps

/-- Every run is sound. -/
theorem run_sound (clock : ℚ) (maxOrderRate maxPerInstrumentRate : ℤ) {moves : List BreakerMove}
    (forward : Machines.Conforms step Forward
      (constructed clock maxOrderRate maxPerInstrumentRate) moves) :
    (Machines.after step (constructed clock maxOrderRate maxPerInstrumentRate) moves).Sound := by
  apply Machines.after_keeps (fun _ _ sound => Sound.step sound) ?_ forward
  exact ⟨mirrors_nil clock, fun marked => absurd marked Bool.false_ne_true⟩

/-- In every run, after an update that sees the last minute lose more than the threshold and
comes at least one pause length after the last activation, trading is disallowed at every time
of the following pause exactly when no old pause was still marked as active, or
high-frequency trading was disabled. -/
theorem loss_pauses_trading_iff (clock : ℚ) (maxOrderRate maxPerInstrumentRate : ℤ)
    (moves : List BreakerMove) (now activationNow pnl accountEquity : ℚ)
    (forward : Machines.Conforms step Forward
      (constructed clock maxOrderRate maxPerInstrumentRate)
      (moves ++ [.pnlUpdated now activationNow pnl accountEquity]))
    (loss : (Machines.after step (constructed clock maxOrderRate maxPerInstrumentRate)
      moves).lastMinute now pnl < pnlThreshold accountEquity)
    (rested : (Machines.after step (constructed clock maxOrderRate maxPerInstrumentRate)
      moves).Rested now) :
    let run := Machines.after step (constructed clock maxOrderRate maxPerInstrumentRate) moves
    (run.step (.pnlUpdated now activationNow pnl accountEquity)).DisallowedUntil
        (now + Constants.hftCircuitBreakerDurationSeconds) ↔
      run.manager.circuitBreakerActive = false ∨ run.manager.hftDisabled = true := by
  intro run
  obtain ⟨before, update, _⟩ := (Machines.conforms_append _ _ _).mp forward
  have sound : run.Sound := run_sound clock maxOrderRate maxPerInstrumentRate before
  have seen : ((run.manager.enteredPnl now pnl).map Prod.snd).sum = run.lastMinute now pnl :=
    sound.entered update.1
  constructor
  · intro disallowed
    by_contra neither
    obtain ⟨marked, notDisabled⟩ := not_or.mp neither
    have active : run.manager.circuitBreakerActive = true := by simpa using marked
    have enabled : run.manager.hftDisabled = false := by simpa using notDisabled
    have ahead : now < now + Constants.hftCircuitBreakerDurationSeconds :=
      lt_add_of_pos_right now (by decide +kernel)
    exact stale_mark_not_disallowed sound rested active enabled ahead disallowed
  · rintro (unmarked | disabled)
    · have triggered : run.manager.Triggers now pnl accountEquity := by
        refine ⟨?_, unmarked⟩
        rw [seen]
        exact loss
      intro later conforms asked after ending
      refine triggered_disallowed triggered later conforms asked after ?_
      have inOrder := update.2
      linarith
    · have still : run.manager.Pausing now := Or.inl disabled
      have pausing : (run.step
          (.pnlUpdated now activationNow pnl accountEquity)).manager.Pausing now :=
        still.update_pnl
      exact pausing_disallowed pausing

/-- The first loss pauses trading for a minute. -/
theorem first_loss_pauses_trading :
    ((constructed 0 100 50).step (.pnlUpdated 10 10 (-100) 10000)).DisallowedUntil 70 := by
  have paused := (loss_pauses_trading_iff 0 100 50 [] 10 10 (-100) 10000 (by decide +kernel)
    (by decide +kernel) (by decide +kernel)).mpr (Or.inl rfl)
  have ending : (10 : ℚ) + Constants.hftCircuitBreakerDurationSeconds = 70 := by
    norm_num [Constants.hftCircuitBreakerDurationSeconds]
  rw [ending] at paused
  exact paused

/-- A second loss, long after the first pause and before anybody asked, pauses nothing. -/
theorem loss_under_stale_mark_does_not_pause :
    ¬ ∀ (clock : ℚ) (maxOrderRate maxPerInstrumentRate : ℤ) (moves : List BreakerMove)
      (now activationNow pnl accountEquity : ℚ),
      Machines.Conforms step Forward (constructed clock maxOrderRate maxPerInstrumentRate)
          (moves ++ [.pnlUpdated now activationNow pnl accountEquity]) →
        (Machines.after step (constructed clock maxOrderRate maxPerInstrumentRate)
            moves).lastMinute now pnl < pnlThreshold accountEquity →
          (Machines.after step (constructed clock maxOrderRate maxPerInstrumentRate)
              moves).Rested now →
            ((Machines.after step (constructed clock maxOrderRate maxPerInstrumentRate)
                moves).step (.pnlUpdated now activationNow pnl accountEquity)).DisallowedUntil
              (now + Constants.hftCircuitBreakerDurationSeconds) := by
  intro always
  have disallowed := always 0 100 50 [.pnlUpdated 10 10 (-100) 10000] 200 200 (-100) 10000
    (by decide +kernel) (by decide +kernel) (by decide +kernel) [] trivial 210
    (by decide +kernel) (by decide +kernel)
  revert disallowed
  decide +kernel

end BreakerRun

end IgTradingBot
