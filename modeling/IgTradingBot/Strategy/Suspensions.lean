import IgTradingBot.Strategy.PerformanceMonitor
import Mathlib.Data.List.Basic

/-!
# Suspensions

A strategy that is disabled again too soon after its return should be suspended, and stay so. Two
operations disable strategies, and only one of them asks when the strategy came back. That one
takes a suspended strategy too, and suspends it again only where the question is reached and its
answer is still the same.
-/

namespace IgTradingBot

namespace PerformanceMonitor

/-- A strategy came back so short a time ago that it is suspended when it is disabled. -/
def WithinSuspension (suspensionDays : ℤ) (reEnabledAt : Option ℚ) (disabledAt : ℚ) : Prop :=
  ∃ reEnabled ∈ reEnabledAt, wholeDays disabledAt reEnabled ≤ suspensionDays

instance (suspensionDays : ℤ) (reEnabledAt : Option ℚ) (disabledAt : ℚ) :
    Decidable (WithinSuspension suspensionDays reEnabledAt disabledAt) :=
  inferInstanceAs (Decidable (∃ reEnabled ∈ reEnabledAt, _))

/-- What an operation owes a strategy: one that is disabled again too soon is suspended, and one
that is suspended stays so. -/
structure Escalates (suspensionDays : ℤ) (before after : StrategyState) : Prop where
  redisabled : before.status = .active → after.status ≠ .active →
    (∃ disabledAt ∈ after.disabledAt,
      WithinSuspension suspensionDays before.reEnabledAt disabledAt) →
    after.status = .suspended
  absorbing : before.status = .suspended → after.status = .suspended

instance (suspensionDays : ℤ) (before after : StrategyState) :
    Decidable (Escalates suspensionDays before after) :=
  decidable_of_iff
    ((before.status = .active → after.status ≠ .active →
      (∃ disabledAt ∈ after.disabledAt,
        WithinSuspension suspensionDays before.reEnabledAt disabledAt) →
      after.status = .suspended) ∧ (before.status = .suspended → after.status = .suspended))
    ⟨fun both => ⟨both.1, both.2⟩, fun escalates => ⟨escalates.redisabled, escalates.absorbing⟩⟩

/-- An operation owes this to every registered strategy. -/
def EscalatesAll (monitor next : PerformanceMonitor) : Prop :=
  ∀ strategyName, ∀ before ∈ monitor.lookup strategyName,
    ∃ after ∈ next.lookup strategyName, Escalates monitor.suspensionDays before after

/-- An evaluation of an active strategy finds the second low Sharpe ratio in a row. -/
def SecondLow (monitor : PerformanceMonitor) (state : StrategyState) (asOf : ℚ) : Prop :=
  state.status = .active ∧ 1 ≤ state.consecutiveLowSharpe ∧
    ∃ metrics ∈ monitor.calculateMetrics state.strategyName asOf,
      metrics.sharpeRatio < monitor.disableSharpeThreshold

/-- The callbacks of a disabled strategy return. -/
def Returns (state : StrategyState) (metrics : PerformanceMetrics)
    (surroundings : Surroundings) : Prop :=
  (disableStrategy state metrics surroundings).2 = .ok ()

/-- The operations that are right: no evaluation disables a strategy too soon after its return,
and a strategy that is to be suspended is disabled with the question, whose callbacks return. A
suspended strategy is not disabled again, but within the period of its last return. -/
def Careful (monitor : PerformanceMonitor) : Operation → Prop
  | .evaluateStrategy strategyName asOf surroundings =>
    ∀ state ∈ monitor.lookup strategyName,
      monitor.SecondLow state (asOf.getD surroundings.utcnow) →
        ¬WithinSuspension monitor.suspensionDays state.reEnabledAt surroundings.disabledNow
  | .disableStrategyWithSuspensionCheck strategyName metrics surroundings =>
    ∀ state ∈ monitor.lookup strategyName,
      (state.status = .suspended →
        WithinSuspension monitor.suspensionDays state.reEnabledAt surroundings.disabledNow ∧
          Returns state metrics surroundings) ∧
      (state.status = .active →
        WithinSuspension monitor.suspensionDays state.reEnabledAt surroundings.disabledNow →
          Returns state metrics surroundings)
  | _ => True

section Lookups

variable {monitor : PerformanceMonitor} {strategyName : String}
  {change : StrategyState → StrategyState}

/-- A change touches the strategy of its name only. -/
theorem lookup_modify (keeps : ∀ state, (change state).strategyName = state.strategyName)
    (other : String) :
    (monitor.modify strategyName change).lookup other =
      (monitor.lookup other).map fun state =>
        if other = strategyName then change state else state := by
  have keys : (fun state : StrategyState => decide (state.strategyName = other)) ∘
      (fun state => if state.strategyName = strategyName then change state else state) =
      fun state => decide (state.strategyName = other) := by
    funext state
    simp only [Function.comp_apply]
    split_ifs
    · rw [keeps]
    · rfl
  simp only [lookup, modify, List.find?_map, keys]
  cases found : monitor.strategies.find? fun state => state.strategyName = other with
  | none => rfl
  | some state =>
    have key : state.strategyName = other := by simpa using List.find?_some found
    simp only [Option.map_some, key]

/-- What is left alone owes nothing. -/
theorem Escalates.refl (suspensionDays : ℤ) (state : StrategyState) :
    Escalates suspensionDays state state :=
  ⟨fun active inactive => absurd active inactive, id⟩

/-- What an operation on one strategy owes all of them, it owes this one. -/
theorem escalates_modify_iff (keeps : ∀ state, (change state).strategyName = state.strategyName) :
    monitor.EscalatesAll (monitor.modify strategyName change) ↔
      ∀ state ∈ monitor.lookup strategyName,
        Escalates monitor.suspensionDays state (change state) := by
  constructor
  · intro all state found
    obtain ⟨after, next, escalates⟩ := all strategyName state found
    rw [lookup_modify keeps, Option.mem_def.mp found, Option.map_some, if_pos rfl] at next
    obtain rfl := Option.some.inj next
    exact escalates
  · intro one other before found
    rw [lookup_modify keeps, Option.mem_def.mp found, Option.map_some]
    refine ⟨_, rfl, ?_⟩
    split_ifs with same
    · exact one before (same ▸ found)
    · exact .refl _ _

end Lookups

section Changes

variable {monitor : PerformanceMonitor} {state : StrategyState} {surroundings : Surroundings}

/-- An evaluation keeps the name. -/
theorem evaluate_state_name (asOf : Option ℚ) :
    (monitor.evaluateState state asOf surroundings).1.strategyName = state.strategyName := by
  unfold evaluateState
  by_cases suspended : state.status = .suspended
  · rw [if_pos suspended]
  · rw [if_neg suspended]
    split
    · rfl
    · dsimp only
      split_ifs <;> rfl

/-- An evaluation disables the strategy, or leaves its status alone. -/
theorem evaluate_state_cases (asOf : Option ℚ) :
    monitor.SecondLow state (asOf.getD surroundings.utcnow) ∧
        (monitor.evaluateState state asOf surroundings).1.status = .disabled ∧
        (monitor.evaluateState state asOf surroundings).1.disabledAt =
          some surroundings.disabledNow ∨
      ¬monitor.SecondLow state (asOf.getD surroundings.utcnow) ∧
        (monitor.evaluateState state asOf surroundings).1.status = state.status := by
  unfold evaluateState SecondLow
  by_cases suspended : state.status = .suspended
  · rw [if_pos suspended]
    refine .inr ⟨fun second => ?_, rfl⟩
    exact absurd (suspended.symm.trans second.1) (by decide)
  · rw [if_neg suspended]
    cases calculated : monitor.calculateMetrics state.strategyName
        (asOf.getD surroundings.utcnow) with
    | none => exact .inr ⟨fun second => by simp at second, rfl⟩
    | some metrics =>
      dsimp only
      by_cases active : state.status = .active
      · rw [if_pos active]
        by_cases low : metrics.sharpeRatio < monitor.disableSharpeThreshold
        · simp only [if_pos low]
          by_cases earlier : 1 ≤ state.consecutiveLowSharpe
          · rw [if_pos (Nat.succ_le_succ earlier)]
            exact .inl ⟨⟨active, earlier, metrics, rfl, low⟩, rfl, rfl⟩
          · rw [if_neg fun second => earlier (Nat.le_of_succ_le_succ second)]
            exact .inr ⟨fun second => earlier second.2.1, rfl⟩
        · simp only [if_neg low]
          rw [if_neg (by decide)]
          refine .inr ⟨fun second => ?_, rfl⟩
          obtain ⟨-, -, found, same, isLow⟩ := second
          exact low (Option.some.inj same ▸ isLow)
      · rw [if_neg active]
        exact .inr ⟨fun second => active second.1, rfl⟩

/-- The question about the period suspends exactly within it. -/
theorem check_suspension_status (currentTime : ℚ) :
    (WithinSuspension monitor.suspensionDays state.reEnabledAt currentTime ∧
        (monitor.checkSuspension state currentTime surroundings).1 =
          { state with status := .suspended }) ∨
      ¬WithinSuspension monitor.suspensionDays state.reEnabledAt currentTime ∧
        (monitor.checkSuspension state currentTime surroundings).1 = state := by
  unfold checkSuspension WithinSuspension
  cases state.reEnabledAt with
  | none => exact .inr ⟨by simp, rfl⟩
  | some reEnabled =>
    dsimp only
    split_ifs with soon
    · exact .inl ⟨⟨reEnabled, rfl, soon⟩, rfl⟩
    · refine .inr ⟨?_, rfl⟩
      rintro ⟨found, same, isSoon⟩
      exact soon (Option.some.inj same ▸ isSoon)

/-- A strategy that is disabled with the question is suspended where the callbacks return and it
came back too short a time ago, and disabled elsewhere. -/
theorem disable_with_check_cases (metrics : PerformanceMetrics) :
    ∃ status, (monitor.disableWithSuspensionCheck state metrics surroundings).1 =
        { (disableStrategy state metrics surroundings).1 with status := status } ∧
      (status = .suspended ∧ Returns state metrics surroundings ∧
          WithinSuspension monitor.suspensionDays state.reEnabledAt surroundings.disabledNow ∨
        status = .disabled ∧ (Returns state metrics surroundings →
          ¬WithinSuspension monitor.suspensionDays state.reEnabledAt surroundings.disabledNow)) := by
  cases ended : (disableStrategy state metrics surroundings).2 with
  | error failure =>
    refine ⟨.disabled, ?_, .inr ⟨rfl, fun returns => absurd (ended.symm.trans returns) (by simp)⟩⟩
    unfold disableWithSuspensionCheck
    dsimp only
    rw [ended]
    rfl
  | ok done =>
    have asked : (monitor.disableWithSuspensionCheck state metrics surroundings).1 =
        (monitor.checkSuspension (disableStrategy state metrics surroundings).1
          surroundings.disabledNow surroundings).1 := by
      unfold disableWithSuspensionCheck
      dsimp only
      rw [ended]
    obtain ⟨soon, suspends⟩ | ⟨late, leaves⟩ := @check_suspension_status monitor
      (disableStrategy state metrics surroundings).1 surroundings surroundings.disabledNow
    · exact ⟨.suspended, asked.trans suspends, .inl ⟨rfl, ended, soon⟩⟩
    · exact ⟨.disabled, asked.trans leaves, .inr ⟨rfl, fun _ => late⟩⟩

/-- A strategy as the weekly loop may leave it: as it was, or back from being disabled. -/
def BackAtMost (before after : StrategyState) : Prop :=
  after = before ∨ before.status = .disabled ∧ after.status = .active

/-- The weekly loop leaves each state as it was, or brings it back. The induction is on the
states. -/
theorem re_evaluate_each_related (currentTime : ℚ) (states : List StrategyState) :
    List.Forall₂ (fun before after =>
        after.strategyName = before.strategyName ∧ BackAtMost before after)
      states (monitor.reEvaluateEach currentTime surroundings states).1 := by
  have same : ∀ rest : List StrategyState, List.Forall₂ (fun before after : StrategyState =>
      after.strategyName = before.strategyName ∧ BackAtMost before after) rest rest :=
    fun rest => List.forall₂_same.mpr fun _ _ => ⟨rfl, .inl rfl⟩
  induction states with
  | nil => exact .nil
  | cons state rest inductionHypothesis =>
    unfold reEvaluateEach
    dsimp only
    by_cases disabled : state.status = .disabled
    · rw [if_neg fun different => different disabled]
      split
      · exact same _
      · exact .cons ⟨rfl, .inl rfl⟩ inductionHypothesis
      · split_ifs
        · split
          · exact .cons ⟨rfl, .inr ⟨disabled, rfl⟩⟩ (same rest)
          · exact .cons ⟨rfl, .inr ⟨disabled, rfl⟩⟩ inductionHypothesis
        · exact .cons ⟨rfl, .inl rfl⟩ inductionHypothesis
    · rw [if_pos disabled]
      exact .cons ⟨rfl, .inl rfl⟩ inductionHypothesis

/-- A query by name finds related states in related lists. -/
theorem find_related {relation : StrategyState → StrategyState → Prop} {strategyName : String}
    {states next : List StrategyState}
    (related : List.Forall₂ (fun before after =>
      after.strategyName = before.strategyName ∧ relation before after) states next)
    {before : StrategyState}
    (found : states.find? (fun state => state.strategyName = strategyName) = some before) :
    ∃ after ∈ next.find? (fun state => state.strategyName = strategyName),
      relation before after := by
  induction related with
  | nil => exact absurd found (by simp)
  | cons both rest inductionHypothesis =>
    rw [List.find?_cons] at found ⊢
    rw [both.1]
    split at found
    · exact ⟨_, rfl, Option.some.inj found ▸ both.2⟩
    · exact inductionHypothesis found

/-- An evaluation disables and does not ask: it is right where it disables no strategy too soon. -/
theorem evaluate_state_escalates_iff (asOf : Option ℚ) :
    Escalates monitor.suspensionDays state (monitor.evaluateState state asOf surroundings).1 ↔
      (monitor.SecondLow state (asOf.getD surroundings.utcnow) →
        ¬WithinSuspension monitor.suspensionDays state.reEnabledAt surroundings.disabledNow) := by
  obtain ⟨second, disabled, time⟩ | ⟨notSecond, same⟩ :=
    @evaluate_state_cases monitor state surroundings asOf
  · constructor
    · intro escalates _ soon
      have suspended := escalates.redisabled second.1 (by rw [disabled]; decide) ⟨_, time, soon⟩
      exact absurd (disabled.symm.trans suspended) (by decide)
    · intro careful
      refine ⟨fun _ _ soon => ?_, fun suspended => ?_⟩
      · obtain ⟨disabledAt, isTime, within⟩ := soon
        obtain rfl := Option.some.inj (time.symm.trans isTime)
        exact absurd within (careful second)
      · exact absurd (suspended.symm.trans second.1) (by decide)
  · refine iff_of_true ⟨fun active inactive => ?_, fun suspended => ?_⟩
      fun second => absurd second notSecond
    · exact absurd (same.trans active) inactive
    · exact same.trans suspended

/-- The question about the period takes no strategy out of suspension. -/
theorem check_suspension_escalates (currentTime : ℚ) :
    Escalates monitor.suspensionDays state
      (monitor.checkSuspension state currentTime surroundings).1 := by
  obtain ⟨-, suspends⟩ | ⟨-, leaves⟩ :=
    @check_suspension_status monitor state surroundings currentTime
  · rw [suspends]
    exact ⟨fun _ _ _ => rfl, fun _ => rfl⟩
  · rw [leaves]
    exact .refl _ _

/-- The question about the period keeps the name. -/
theorem check_suspension_name (currentTime : ℚ) :
    (monitor.checkSuspension state currentTime surroundings).1.strategyName =
      state.strategyName := by
  obtain ⟨-, suspends⟩ | ⟨-, leaves⟩ :=
    @check_suspension_status monitor state surroundings currentTime
  · rw [suspends]
  · rw [leaves]

/-- Disabling with the question is right where a suspended strategy is suspended again, and an
active one that is disabled too soon has callbacks that return. -/
theorem disable_with_check_escalates_iff (metrics : PerformanceMetrics) :
    Escalates monitor.suspensionDays state
        (monitor.disableWithSuspensionCheck state metrics surroundings).1 ↔
      (state.status = .suspended →
        WithinSuspension monitor.suspensionDays state.reEnabledAt surroundings.disabledNow ∧
          Returns state metrics surroundings) ∧
      (state.status = .active →
        WithinSuspension monitor.suspensionDays state.reEnabledAt surroundings.disabledNow →
          Returns state metrics surroundings) := by
  obtain ⟨status, result, ⟨rfl, returns, soon⟩ | ⟨rfl, notBoth⟩⟩ :=
    @disable_with_check_cases monitor state surroundings metrics
  · rw [result]
    exact iff_of_true ⟨fun _ _ _ => rfl, fun _ => rfl⟩
      ⟨fun _ => ⟨soon, returns⟩, fun _ _ => returns⟩
  · rw [result]
    constructor
    · intro escalates
      refine ⟨fun suspended => ?_, fun active soon => ?_⟩
      · exact absurd (escalates.absorbing suspended) (by simp)
      · exact absurd (escalates.redisabled active (by simp) ⟨_, rfl, soon⟩) (by simp)
    · rintro ⟨ofSuspended, ofActive⟩
      refine ⟨fun active _ soon => ?_, fun suspended => ?_⟩
      · obtain ⟨disabledAt, isTime, within⟩ := soon
        obtain rfl := Option.some.inj isTime
        exact absurd within (notBoth (ofActive active within))
      · obtain ⟨soon, returns⟩ := ofSuspended suspended
        exact absurd soon (notBoth returns)

/-- Disabling with the question keeps the name. -/
theorem disable_with_check_name (metrics : PerformanceMetrics) :
    (monitor.disableWithSuspensionCheck state metrics surroundings).1.strategyName =
      state.strategyName := by
  obtain ⟨status, result, -⟩ := @disable_with_check_cases monitor state surroundings metrics
  rw [result]
  rfl

/-- A strategy that comes back was disabled, and owes nothing. -/
theorem BackAtMost.escalates {before after : StrategyState} (back : BackAtMost before after)
    (suspensionDays : ℤ) : Escalates suspensionDays before after := by
  obtain rfl | ⟨disabled, active⟩ := back
  · exact .refl _ _
  · exact ⟨fun wasActive => absurd (disabled.symm.trans wasActive) (by decide),
      fun suspended => absurd (disabled.symm.trans suspended) (by decide)⟩

end Changes

/-- A registration finds every strategy where it was. -/
theorem lookup_register {monitor : PerformanceMonitor} {other : String} {before : StrategyState}
    (strategyName : String) (found : before ∈ monitor.lookup other) :
    before ∈ (monitor.step (.registerStrategy strategyName)).lookup other := by
  unfold step
  dsimp only
  split_ifs
  · exact found
  · have first : monitor.strategies.find? (fun state => state.strategyName = other) =
        some before := found
    rw [lookup, Option.mem_def, List.find?_append, first]
    rfl

/-- An operation escalates exactly when it is careful. -/
theorem escalates_iff (monitor : PerformanceMonitor) (operation : Operation) :
    monitor.EscalatesAll (monitor.step operation) ↔ monitor.Careful operation := by
  cases operation with
  | registerStrategy strategyName =>
    exact iff_of_true
      (fun other before found => ⟨before, lookup_register strategyName found, .refl _ _⟩) trivial
  | recordTrade trade =>
    exact iff_of_true (fun other before found => ⟨before, found, .refl _ _⟩) trivial
  | evaluateStrategy strategyName asOf surroundings =>
    refine (escalates_modify_iff fun _ => evaluate_state_name asOf).trans ?_
    exact forall₂_congr fun state found => evaluate_state_escalates_iff asOf
  | weeklyReEvaluate currentTime surroundings =>
    refine iff_of_true (fun other before found => ?_) trivial
    obtain ⟨after, next, back⟩ := find_related
      (@re_evaluate_each_related monitor surroundings (currentTime.getD surroundings.utcnow)
        monitor.strategies) found
    exact ⟨after, next, back.escalates _⟩
  | checkSuspension strategyName currentTime surroundings =>
    refine iff_of_true ((escalates_modify_iff fun state => ?_).mpr fun state found => ?_) trivial
    · exact check_suspension_name _
    · exact check_suspension_escalates _
  | disableStrategyWithSuspensionCheck strategyName metrics surroundings =>
    refine (escalates_modify_iff fun state => disable_with_check_name metrics).trans ?_
    exact forall₂_congr fun state found => disable_with_check_escalates_iff metrics

/-- In every run of operations: each operation suspends the active strategies that it disables
within the suspension period of their last return, and leaves suspended strategies suspended,
exactly when each is careful. -/
theorem run_escalates_iff (monitor : PerformanceMonitor) (operations : List Operation) :
    (∀ reached operation, reached ++ [operation] <+: operations →
        (Machines.after step monitor reached).EscalatesAll
          (Machines.after step monitor (reached ++ [operation]))) ↔
      Machines.Conforms step Careful monitor operations := by
  rw [Machines.conforms_iff_forall_prefix]
  refine forall₂_congr fun reached operation => imp_congr_right fun _ => ?_
  rw [Machines.after_append]
  exact escalates_iff _ operation

/-- A strategy that comes back and has two low evaluations in a row within the first two days is
disabled, and not suspended. -/
theorem evaluation_does_not_suspend :
    ¬∀ (monitor : PerformanceMonitor) (operations : List Operation),
      monitor.strategies = [] → monitor.tradeHistory = [] →
      ∀ reached operation, reached ++ [operation] <+: operations →
        (Machines.after step monitor reached).EscalatesAll
          (Machines.after step monitor (reached ++ [operation])) := by
  intro claim
  have last := claim
    { squareRoot := fun value => (Nat.sqrt value.num.toNat : ℚ) / Nat.sqrt value.den } _ rfl rfl
    [.registerStrategy "trend", .recordTrade ⟨"trend", -10, 0, false⟩,
      .evaluateStrategy "trend" (some 86400) ⟨86400, 86400, 86400, none, none, none, none⟩,
      .evaluateStrategy "trend" (some 172800) ⟨172800, 172800, 172800, none, none, none, none⟩,
      .weeklyReEvaluate (some 604800)
        ⟨604800, 604800, 604800, none, none, none, some fun _ => .ok (some 2)⟩,
      .evaluateStrategy "trend" (some 691200) ⟨691200, 691200, 691200, none, none, none, none⟩]
    (.evaluateStrategy "trend" (some 777600) ⟨777600, 777600, 777600, none, none, none, none⟩)
    (List.prefix_refl _) "trend"
  exact absurd last (by decide +kernel)

end PerformanceMonitor

end IgTradingBot
