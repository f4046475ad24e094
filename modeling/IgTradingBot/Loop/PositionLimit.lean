import IgTradingBot.Loop.Cycle

/-!
# Positions that are open after a cycle

The entry of an instrument is guarded by the position list fetched at the head of the
cycle. The guard limits the positions at the broker as long as no position is opened
while that list is shorter than the broker's own: the first accepted order of a cycle
already makes it so, and the next instrument is checked against the same list.
-/

namespace IgTradingBot

open Sequential Sequential.Program

/-- A position was opened while the list of the loop was shorter than the broker's. -/
def LoopEvent.isStaleOpening : LoopEvent → Bool
  | .positionOpened _ _ listed openAtBroker => decide (listed < openAtBroker)
  | _ => false

/-- The event changes which positions are open. -/
def LoopEvent.movesPosition : LoopEvent → Bool
  | .positionOpened _ _ _ _ | .positionClosed => true
  | _ => false

/-- Notes move no position. -/
theorem LoopEvent.moves_position_of_note {event : LoopEvent}
    (isNote : event.isNote = true) : event.movesPosition = false := by
  cases event with
  | positionOpened => cases isNote
  | positionClosed => cases isNote
  | _ => rfl

namespace TradingLoop

/-- What an account of the positions at the broker needs for a whole run: it depends on the
history and on the number of open positions only, other events do not matter to it, and it
survives a close, and an opening while the list is below the limit. -/
structure BrokerRules (account : World → Prop) : Prop where
  of_same : ∀ world change, change.history = world.history →
    change.openAtBroker = world.openAtBroker → account world → account change
  recorded : ∀ world change event, LoopEvent.movesPosition event = false →
    change.history = event :: world.history → change.openAtBroker = world.openAtBroker →
    account world → account change
  closed : ∀ world, account world → account (brokerCloses world)
  opened : ∀ world epic, account world →
    world.desk.openPositions.length < limits.maxOpenPositions → account (brokerOpens epic world)

section Brokers

variable {account : World → Prop}

/-- What an account says while the list is short enough for an entry; nothing between the
check and the order changes that. -/
def EntryPossible (account : World → Prop) (world : World) : Prop :=
  account world ∧ world.desk.openPositions.length < limits.maxOpenPositions

theorem BrokerRules.incidental (rules : BrokerRules account) : Incidental account where
  clock world _ _ holds := rules.of_same world _ rfl rfl holds
  engine world _ _ holds := rules.of_same world _ rfl rfl holds
  desk world _ _ holds := rules.of_same world _ rfl rfl holds
  noted world event isNote holds :=
    rules.recorded world _ event (LoopEvent.moves_position_of_note isNote) rfl rfl holds
  closed := rules.closed

theorem BrokerRules.entryIncidental (rules : BrokerRules account) :
    Incidental (EntryPossible account) where
  clock world _ _ possible := ⟨rules.of_same world _ rfl rfl possible.1, possible.2⟩
  engine world _ _ possible := ⟨rules.of_same world _ rfl rfl possible.1, possible.2⟩
  desk world desk listed possible := by
    refine ⟨rules.of_same world _ rfl rfl possible.1, ?_⟩
    rw [listed]
    exact possible.2
  noted world event isNote possible :=
    ⟨rules.incidental.noted world event isNote possible.1, possible.2⟩
  closed world possible := ⟨rules.closed world possible.1, possible.2⟩

theorem BrokerRules.entryGate (rules : BrokerRules account) :
    GateRules (EntryPossible account) where
  toAmbient := rules.entryIncidental.toAmbient
  rolled world possible := ⟨rules.of_same world _ rfl rfl possible.1, possible.2⟩
  realizedRead world _ possible := ⟨rules.recorded world _ _ rfl rfl rfl possible.1, possible.2⟩

theorem BrokerRules.entryRules (rules : BrokerRules account) :
    EntryRules (EntryPossible account) where
  toRolls := rules.entryGate.toRolls
  desk := rules.entryIncidental.desk
  noted := rules.entryIncidental.noted
  submitted world _ possible := ⟨rules.recorded world _ _ rfl rfl rfl possible.1, possible.2⟩
  opened world epic possible := ⟨rules.opened world epic possible.1 possible.2, possible.2⟩
  counted world _ _ possible := ⟨rules.of_same world _ rfl rfl possible.1, possible.2⟩

/-- Every part of a run keeps the account. -/
theorem BrokerRules.cycleRules (rules : BrokerRules account) (config : LoopConfig) :
    CycleRules config (fun _ => True) account where
  toAmbient := rules.incidental.toAmbient
  desk := rules.incidental.desk
  noted := rules.incidental.noted
  rolled world holds := rules.of_same world _ rfl rfl holds
  realizedRead world _ holds := rules.recorded world _ _ rfl rfl rfl holds
  answered world _ _ _ _ holds := rules.recorded world _ _ rfl rfl rfl holds
  listed world _ holds := rules.of_same world _ rfl rfl holds
  reconciled world _ _ _ holds := rules.recorded world _ _ rfl rfl rfl holds
  entered epic input found _ _ := by
    have kept := rules.entryRules.entryContracts.keeps_gatedEntry rules.entryGate config input.entry
      { found with epic }
    exact kept.weaken (fun _ possible => possible) (fun _ _ possible => possible.1)
      (fun _ _ possible => possible.1)

end Brokers

/-- The account of a cycle: without stale openings the limit holds at the broker; with
one it is exceeded for as long as no position closes. -/
structure PositionAccount (world : World) : Prop where
  within : (∀ event ∈ world.history, event.isStaleOpening = false) →
    world.openAtBroker ≤ limits.maxOpenPositions
  exceeded : .positionClosed ∉ world.history →
    (∃ event ∈ world.history, event.isStaleOpening = true) →
    limits.maxOpenPositions < world.openAtBroker

/-- Events other than openings and closes leave the account as it is. -/
theorem PositionAccount.record {world : World} (account : PositionAccount world)
    {event : LoopEvent} (ordinary : event.isStaleOpening = false) (change : World)
    (recorded : change.history = event :: world.history)
    (same : change.openAtBroker = world.openAtBroker) : PositionAccount change := by
  constructor
  · intro fresh
    rw [same]
    apply account.within
    intro earlier member
    apply fresh
    rw [recorded]
    exact List.mem_cons_of_mem event member
  · intro unclosed stale
    rw [recorded] at unclosed stale
    rw [same]
    apply account.exceeded fun closed => unclosed (List.mem_cons_of_mem event closed)
    obtain ⟨earlier, member, isStale⟩ := stale
    obtain rfl | member := List.mem_cons.mp member
    · simp [ordinary] at isStale
    · exact ⟨earlier, member, isStale⟩

/-- A close at the broker only lowers the number of positions. -/
theorem PositionAccount.closed {world : World} (account : PositionAccount world) :
    PositionAccount (brokerCloses world) := by
  constructor
  · intro fresh
    have before := account.within fun event member =>
      fresh event (List.mem_cons_of_mem _ member)
    exact (Nat.sub_le _ 1).trans before
  · intro unclosed _
    exact absurd List.mem_cons_self unclosed

/-- An opening below the limit of the list keeps the account: it stays within the limit
when the list is up to date, and exceeds the limit, which is one, when it is stale. -/
theorem PositionAccount.opened {world : World} (account : PositionAccount world) (epic : String)
    (below : world.desk.openPositions.length < limits.maxOpenPositions) :
    PositionAccount (brokerOpens epic world) := by
  constructor
  · intro fresh
    have upToDate := fresh _ List.mem_cons_self
    simp only [LoopEvent.isStaleOpening, decide_eq_false_iff_not, not_lt] at upToDate
    exact Nat.lt_of_le_of_lt upToDate below
  · intro unclosed stale
    obtain ⟨event, member, isStale⟩ := stale
    change limits.maxOpenPositions < world.openAtBroker + 1
    obtain rfl | member := List.mem_cons.mp member
    · simp only [LoopEvent.isStaleOpening, decide_eq_true_eq] at isStale
      have one : limits.maxOpenPositions = 1 := rfl
      omega
    · have before := account.exceeded
        (fun closed => unclosed (List.mem_cons_of_mem _ closed)) ⟨event, member, isStale⟩
      exact Nat.lt_succ_of_lt before

theorem position_account_rules : BrokerRules PositionAccount where
  of_same world change sameHistory sameNumber account := by
    constructor
    · rw [sameHistory, sameNumber]
      exact account.within
    · rw [sameHistory, sameNumber]
      exact account.exceeded
  recorded world change event unmoved recorded same account := by
    apply account.record ?_ change recorded same
    cases event with
    | positionOpened => cases unmoved
    | _ => rfl
  closed _ account := account.closed
  opened _ epic account below := account.opened epic below

/-- From a number of positions within the limit, a cycle ends within the limit when no
position was opened while the list of the loop was shorter than the broker's; and when
no position was closed in between, it ends within the limit only then. -/
theorem cycle_within_limit_iff (config : LoopConfig) (input : CycleInput) (world : World)
    (unrecorded : world.history = []) (within : world.openAtBroker ≤ limits.maxOpenPositions) :
    ((∀ event ∈ (final (tradingCycle config input) world).history,
        event.isStaleOpening = false) →
      (final (tradingCycle config input) world).openAtBroker ≤ limits.maxOpenPositions) ∧
    (.positionClosed ∉ (final (tradingCycle config input) world).history →
      ((final (tradingCycle config input) world).openAtBroker ≤ limits.maxOpenPositions ↔
        ∀ event ∈ (final (tradingCycle config input) world).history,
          event.isStaleOpening = false)) := by
  have initial : PositionAccount world := by
    constructor
    · intro _
      exact within
    · rintro _ ⟨event, member, _⟩
      simp [unrecorded] at member
  have account : PositionAccount (final (tradingCycle config input) world) :=
    ((position_account_rules.cycleRules config).contracts.keeps_tradingCycle input
      fun _ _ => trivial).final initial
  refine ⟨account.within, ?_⟩
  intro unclosed
  constructor
  · intro bounded event member
    by_contra stale
    have beyond := account.exceeded unclosed ⟨event, member, by simpa using stale⟩
    exact absurd bounded (Nat.not_le_of_lt beyond)
  · exact account.within

/-- A cycle over two instruments, both with an accepted order. -/
def twoEntries : CycleInput :=
  demoCycle []
    [demoStep "CS.D.EURUSD.CFD.IP" (demoAcceptance "DEAL-1"),
      demoStep "CS.D.USDJPY.CFD.IP" (demoAcceptance "DEAL-2")]

/-- Two positions are open after the cycle: both orders passed the same empty list. -/
theorem two_entries_exceed_limit :
    demoWorld.openAtBroker ≤ limits.maxOpenPositions ∧
      ¬ (final (tradingCycle demoConfig twoEntries) demoWorld).openAtBroker ≤
        limits.maxOpenPositions := by
  decide +kernel

/-- With one of the two orders the cycle ends within the limit. -/
theorem one_entry_within_limit :
    (final (tradingCycle demoConfig (demoCycle []
        [demoStep "CS.D.EURUSD.CFD.IP" (demoAcceptance "DEAL-1")])) demoWorld).openAtBroker ≤
      limits.maxOpenPositions := by
  have bounded := cycle_within_limit_iff demoConfig (demoCycle []
    [demoStep "CS.D.EURUSD.CFD.IP" (demoAcceptance "DEAL-1")]) demoWorld rfl (by decide)
  exact bounded.1 (by decide +kernel)

end TradingLoop

end IgTradingBot
