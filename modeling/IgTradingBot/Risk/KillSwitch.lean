import IgTradingBot.Config.Constants
import Mathlib.Data.Rat.Defs

/-!
# Kill switch

The activation state of `src/risk/kill_switch.py` and the two operations that
change it. Times are seconds since the epoch. The source holds a lock while it
announces an activation, but it changes the state before the announcement, so
an activation is one atomic change for everybody who only asks whether signals
are allowed.
-/

namespace IgTradingBot

/-- States of the switch; the source declares a cooldown but never enters it. -/
inductive KillSwitchState where
  | inactive
  | active
  | cooldown
  deriving DecidableEq, Repr

/-- Record of one effective activation. -/
structure KillSwitchActivationEvent where
  reason : String
  timestamp : ℚ
  triggerSource : String
  deriving DecidableEq, Repr

/-- Audit record of one trigger, effective or ignored. -/
structure TriggerRecord where
  triggerSource : String
  reason : String
  timestamp : ℚ
  activated : Bool
  deriving DecidableEq, Repr

/-- The attributes of the switch that decide signals, deactivation and audit. -/
structure KillSwitch where
  state : KillSwitchState := .inactive
  activationReason : String := ""
  activationTime : Option ℚ := none
  activationEvent : Option KillSwitchActivationEvent := none
  minActiveDuration : ℚ := Constants.killSwitchMinActiveMinutes * 60
  triggerSources : List TriggerRecord := []
  deriving DecidableEq, Repr

namespace KillSwitch

/-- The switch blocks every signal exactly in the active state. -/
def isActive (switch : KillSwitch) : Bool := switch.state = .active

/-- The source is ignored: an active switch rejects every signal. -/
def isSignalAllowed (switch : KillSwitch) (_source : String) : Bool := !switch.isActive

/-- Deactivation is possible once the minimum active time has passed. -/
def canDeactivate (switch : KillSwitch) (now : ℚ) : Bool :=
  match switch.activationTime with
  | none => false
  | some activated => switch.isActive && decide (switch.minActiveDuration ≤ now - activated)

/-- Activate, or only record the trigger when the switch is already active. The
result says whether this trigger activated the switch. -/
def activate (switch : KillSwitch) (now : ℚ) (reason triggerSource : String) :
    KillSwitch × Bool :=
  let record : TriggerRecord := ⟨triggerSource, reason, now, !switch.isActive⟩
  if switch.isActive then
    ({ switch with triggerSources := switch.triggerSources ++ [record] }, false)
  else
    ({ switch with
        state := .active
        activationReason := reason
        activationTime := some now
        activationEvent := some ⟨reason, now, triggerSource⟩
        triggerSources := switch.triggerSources ++ [record] }, true)

/-- Deactivate on a confirmed request. A blank token is refused with an
exception; an inactive switch and one that is active too briefly stay as they
are and answer false. -/
def deactivate (switch : KillSwitch) (now : ℚ) (confirmationToken : String) :
    Except String (KillSwitch × Bool) :=
  if confirmationToken.toList.all Char.isWhitespace then
    .error "Confirmation token is required for deactivation"
  else if !switch.isActive then .ok (switch, false)
  else if !switch.canDeactivate now then .ok (switch, false)
  else .ok ({ switch with state := .inactive }, true)

/-- The switch after a deactivation request, also when the request is refused. -/
def afterDeactivation (switch : KillSwitch) (now : ℚ) (confirmationToken : String) : KillSwitch :=
  match switch.deactivate now confirmationToken with
  | .ok (after, _) => after
  | .error _ => switch

/-- After an activation the switch is active, whether or not it was before. -/
@[simp] theorem activate_is_active (switch : KillSwitch) (now : ℚ)
    (reason triggerSource : String) :
    (switch.activate now reason triggerSource).1.isActive = true := by
  by_cases active : switch.isActive = true
  · simp only [activate, active, if_true]
    exact active
  · simp only [activate, active]
    rfl

/-- Every activation request appends one record, which says whether the request has activated
the switch; so does the answer. -/
theorem activate_appends (switch : KillSwitch) (now : ℚ) (reason triggerSource : String) :
    (switch.activate now reason triggerSource).1.triggerSources =
        switch.triggerSources ++ [⟨triggerSource, reason, now, !switch.isActive⟩] ∧
      (switch.activate now reason triggerSource).2 = !switch.isActive := by
  cases active : switch.isActive <;> simp [activate, active]

/-- An activation request that activates the switch sets its activation time; one that does
not leaves the state and the time as they are. -/
theorem activate_state (switch : KillSwitch) (now : ℚ) (reason triggerSource : String) :
    (switch.activate now reason triggerSource).1.minActiveDuration = switch.minActiveDuration ∧
      (switch.activate now reason triggerSource).1.activationTime =
        if switch.isActive then switch.activationTime else some now := by
  cases active : switch.isActive <;> simp [activate, active]

/-- A deactivation that answers true ends an activation which has lasted for the minimum
active duration; it changes nothing but the state. -/
theorem deactivate_succeeds {switch after : KillSwitch} {now : ℚ} {token : String}
    (succeeded : switch.deactivate now token = .ok (after, true)) :
    after = { switch with state := .inactive } ∧ switch.isActive = true ∧
      ∃ activated, switch.activationTime = some activated ∧
        switch.minActiveDuration ≤ now - activated := by
  simp only [deactivate] at succeeded
  split_ifs at succeeded with blank inactive early
  · simp at succeeded
  · simp at succeeded
  · obtain ⟨rfl, _⟩ := Prod.mk.inj (Except.ok.inj succeeded)
    have possible : switch.canDeactivate now = true := by simpa using early
    refine ⟨rfl, by simpa using inactive, ?_⟩
    cases activated : switch.activationTime with
    | none => simp [canDeactivate, activated] at possible
    | some time =>
      simp only [canDeactivate, activated, Bool.and_eq_true, decide_eq_true_eq] at possible
      exact ⟨time, rfl, possible.2⟩

/-- A deactivation that answers false leaves the switch as it is. -/
theorem deactivate_refused {switch after : KillSwitch} {now : ℚ} {token : String}
    (refused : switch.deactivate now token = .ok (after, false)) : after = switch := by
  simp only [deactivate] at refused
  split_ifs at refused with blank inactive early
  · exact (Prod.mk.inj (Except.ok.inj refused)).1.symm
  · exact (Prod.mk.inj (Except.ok.inj refused)).1.symm
  · simp at refused

/-- A signal is allowed exactly while the switch is inactive. -/
theorem is_signal_allowed_iff (switch : KillSwitch) (source : String) :
    switch.isSignalAllowed source = true ↔ switch.isActive = false := by
  simp [isSignalAllowed]

/-- A deactivation request never activates the switch. -/
theorem after_deactivation_inactive (switch : KillSwitch) (now : ℚ) (token : String)
    (inactive : switch.isActive = false) :
    (switch.afterDeactivation now token).isActive = false := by
  by_cases blank : token.toList.all Char.isWhitespace = true
  · simp only [afterDeactivation, deactivate, blank, if_true]
    exact inactive
  · simp only [afterDeactivation, deactivate, blank, inactive, Bool.not_false, if_true]
    exact inactive

end KillSwitch

end IgTradingBot
