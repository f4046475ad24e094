import IgTradingBot.Library.Inverses
import IgTradingBot.Stream.StreamRun

/-!
# Tables of the price stream

When the tables lead back to exactly the instruments that have them. A subscription that is opened
again while its state is stale or failed gets a second table and leaves the first one behind, and an
`unsubscribe` that ends after its instrument has got another table leaves that one behind.
-/

namespace IgTradingBot

open Inverses IGStream

namespace StreamRun

/-- No line publishes a tick of an instrument whose `unsubscribe` has ended. -/
def Silent (run : StreamRun) : Prop :=
  ∀ epic ∈ run.left, ∀ line now tick,
    (run.stream.receiveLine line now).2 = some tick → tick.epic ≠ epic

/-- The tables lead back to exactly the instruments that have them, and nothing is published of an
instrument that was unsubscribed. -/
structure TablesExact (run : StreamRun) : Prop where
  inverse : Inverse run.stream.tableOf run.stream.tableToEpic.lookup
  silent : run.Silent

/-- The subscription that an `unsubscribe` removes is the one with which it began, or there is none
to remove. -/
def RemovesOwnTable (run : StreamRun) (task : ℕ) : Prop :=
  match run.tasks[task]? with
  | some (.removing epic tableKey) =>
    run.stream.tableOf epic = none ∨ run.stream.tableOf epic = some tableKey
  | _ => True

/-- No subscription is opened again while it is there, and none is removed in place of another. -/
def KeepsTables (run : StreamRun) : StreamMove → Prop
  | .subscribed epic _ => run.stream.isOpen epic = true ∨ run.stream.tableOf epic = none
  | .answered task _ => run.RemovesOwnTable task
  | _ => True

instance (run : StreamRun) (task : ℕ) : Decidable (run.RemovesOwnTable task) :=
  match found : run.tasks[task]? with
  | some (.removing epic tableKey) =>
    decidable_of_iff
      (run.stream.tableOf epic = none ∨ run.stream.tableOf epic = some tableKey)
      (by simp [RemovesOwnTable, found])
  | some (.adding _ _) | some (.resting _ _) | some (.resubscribing _ _) | some .finished | none =>
    decidable_of_iff True (by simp [RemovesOwnTable, found])

instance (run : StreamRun) (move : StreamMove) : Decidable (run.KeepsTables move) :=
  match move with
  | .subscribed _ _ => inferInstanceAs (Decidable (_ ∨ _))
  | .answered task _ => inferInstanceAs (Decidable (run.RemovesOwnTable task))
  | .unsubscribed _ | .connected | .reconnected | .woken _ | .stalenessChecked _
  | .lineReceived _ _ | .stopped => inferInstanceAs (Decidable True)

/-- What every move keeps: new tables are new, and an instrument whose `unsubscribe` has ended has
no table. -/
structure Accounted (run : StreamRun) : Prop where
  fresh : ∀ tableKey, run.stream.nextTableKey ≤ tableKey →
    run.stream.tableToEpic.lookup tableKey = none
  gone : ∀ epic ∈ run.left, run.stream.tableOf epic = none

section Edits

variable {stream : IGStream} {epic : String}

/-- A new subscription enters its pair into both maps. -/
theorem add_table_maps (stream : IGStream) (epic : String) (now : ℚ) :
    (stream.addTable epic now).tableOf =
        Function.update stream.tableOf epic (some stream.nextTableKey) ∧
      (stream.addTable epic now).tableToEpic.lookup =
        Function.update stream.tableToEpic.lookup stream.nextTableKey (some epic) := by
  constructor
  · funext other
    by_cases same : other = epic
    · subst same
      simp [addTable, tableOf]
    · simp [addTable, tableOf, Function.update_of_ne same, AList.lookup_insert_ne same]
  · funext other
    by_cases same : other = stream.nextTableKey
    · subst same
      simp [addTable]
    · simp [addTable, Function.update_of_ne same, AList.lookup_insert_ne same]

/-- The removal of a subscription takes its instrument and the given table out of the maps; where
there is no subscription it changes nothing. -/
theorem remove_table_maps (stream : IGStream) (epic : String) (tableKey : ℤ) :
    stream.tableOf epic = none ∧ stream.removeTable epic tableKey = none ∨
      ∃ removed, stream.tableOf epic ≠ none ∧
        stream.removeTable epic tableKey = some removed ∧
        removed.nextTableKey = stream.nextTableKey ∧
        removed.tableOf = Function.update stream.tableOf epic none ∧
        removed.tableToEpic.lookup = Function.update stream.tableToEpic.lookup tableKey none := by
  cases found : stream.subscriptions.lookup epic with
  | none => exact .inl ⟨by simp [tableOf, found], by simp [removeTable, found]⟩
  | some state =>
    right
    refine
      ⟨{ stream with
          subscriptions := stream.subscriptions.erase epic
          tableToEpic := stream.tableToEpic.erase tableKey
          lastTickTimes := stream.lastTickTimes.erase epic },
        by simp [tableOf, found], by rw [removeTable, found, Option.map_some], rfl, ?_, ?_⟩
    · funext other
      by_cases same : other = epic
      · subst same
        simp [tableOf]
      · simp [tableOf, Function.update_of_ne same, AList.lookup_erase_ne same]
    · funext other
      by_cases same : other = tableKey
      · subst same
        simp
      · simp [Function.update_of_ne same, AList.lookup_erase_ne same]

/-- A change of states keeps the maps inverse to each other. -/
theorem inverse_same {before after : IGStream} (same : SameTables before after) :
    Inverse after.tableOf after.tableToEpic.lookup ↔
      Inverse before.tableOf before.tableToEpic.lookup := by
  rw [same.table, same.toEpic]

end Edits

section Steps

variable {run : StreamRun}

/-- A change of states keeps the account. -/
theorem Accounted.same (accounted : Accounted run) {after : StreamRun}
    (same : SameTables run.stream after.stream) (left : ∀ epic ∈ after.left, epic ∈ run.left) :
    Accounted after := by
  constructor
  · rw [same.next, same.toEpic]
    exact accounted.fresh
  · intro epic member
    rw [same.table]
    exact accounted.gone epic (left epic member)

/-- A subscription keeps the account: it takes the next key, and its instrument is not left. -/
theorem Accounted.subscribe (accounted : Accounted run) (epic : String) (now : ℚ) :
    Accounted (run.subscribe epic now) := by
  have kept : ∀ other ∈ run.left.filter (· ≠ epic), other ∈ run.left ∧ other ≠ epic := by
    intro other member
    exact ⟨List.mem_of_mem_filter member, of_decide_eq_true (List.mem_filter.mp member).2⟩
  unfold StreamRun.subscribe
  split_ifs with opened
  · exact accounted.same (.refl _) fun other member => (kept other member).1
  · obtain ⟨tables, epics⟩ := add_table_maps run.stream epic now
    constructor
    · intro tableKey new
      change run.stream.nextTableKey + 1 ≤ tableKey at new
      refine (congrFun epics tableKey).trans ?_
      rw [Function.update_of_ne (by omega)]
      exact accounted.fresh tableKey (by omega)
    · intro other member
      refine (congrFun tables other).trans ?_
      rw [Function.update_of_ne (kept other member).2]
      exact accounted.gone other (kept other member).1

/-- The end of a subscription keeps the account. -/
theorem Accounted.unsubscribe (accounted : Accounted run) (epic : String) :
    Accounted (run.unsubscribe epic) := by
  unfold StreamRun.unsubscribe
  split
  · rename_i absent
    refine ⟨accounted.fresh, ?_⟩
    intro other member
    obtain rfl | member := List.mem_cons.mp member
    · exact absent
    · exact accounted.gone other member
  · exact accounted.same (.refl _) fun other member => member

/-- The removal of a table keeps the account, and its instrument is left. -/
theorem Accounted.remove_table (accounted : Accounted run) {epic : String} {tableKey : ℤ}
    {after : StreamRun}
    (stream : after.stream = (run.stream.removeTable epic tableKey).getD run.stream)
    (left : after.left = epic :: run.left) : Accounted after := by
  obtain ⟨absent, nothing⟩ | ⟨removed, _, found, next, tables, epics⟩ :=
    remove_table_maps run.stream epic tableKey
  · rw [nothing, Option.getD_none] at stream
    constructor
    · rw [stream]
      exact accounted.fresh
    · rw [stream, left]
      intro other member
      obtain rfl | member := List.mem_cons.mp member
      · exact absent
      · exact accounted.gone other member
  · rw [found, Option.getD_some] at stream
    constructor
    · rw [stream, next]
      intro other new
      refine (congrFun epics other).trans ?_
      by_cases same : other = tableKey
      · rw [same, Function.update_self]
      · rw [Function.update_of_ne same]
        exact accounted.fresh other new
    · rw [stream, left, tables]
      intro other member
      by_cases same : other = epic
      · rw [same, Function.update_self]
      · rw [Function.update_of_ne same]
        exact accounted.gone other ((List.mem_cons.mp member).resolve_left same)

/-- Every move keeps the account. -/
theorem Accounted.step (accounted : Accounted run) (move : StreamMove) :
    Accounted (run.step move) := by
  have unchanged : ∀ {epics : List String}, epics = run.left → ∀ epic ∈ epics, epic ∈ run.left :=
    fun same epic member => same ▸ member
  cases move with
  | subscribed epic now => exact accounted.subscribe epic now
  | unsubscribed epic => exact accounted.unsubscribe epic
  | connected => exact accounted.same (.refl _) fun other member => member
  | reconnected => exact accounted.same (.refl _) fun other member => member
  | answered task accepted =>
    obtain ⟨epic, tableKey, _, stream, left⟩ | ⟨_, same, left⟩ := run.answer_cases task accepted
    · exact accounted.remove_table stream left
    · exact accounted.same same (unchanged left)
  | woken task =>
    obtain ⟨stream, left⟩ := run.wake_same task
    exact accounted.same (stream ▸ .refl _) (unchanged left)
  | stalenessChecked now =>
    exact accounted.same (stale_check_same run.stream now) fun other member => member
  | lineReceived line now =>
    exact accounted.same (receive_line_same run.stream line now) fun other member => member
  | stopped => exact ⟨fun _ _ => rfl, fun _ _ => rfl⟩

/-- Where the maps are inverse to each other, an instrument without a table is silent. -/
theorem Accounted.silent (accounted : Accounted run)
    (inverse : Inverse run.stream.tableOf run.stream.tableToEpic.lookup) : run.Silent := by
  intro epic member line now tick published same
  obtain ⟨update, given, rfl, _⟩ := receive_line_tick published
  obtain ⟨tableKey, leads⟩ := update_of_table given
  have present := (inverse tableKey update.epic).mp leads
  rw [show update.epic = epic from same, accounted.gone epic member] at present
  cases present

/-- An exact state is one whose maps are inverse to each other. -/
theorem Accounted.exact_iff (accounted : Accounted run) :
    TablesExact run ↔ Inverse run.stream.tableOf run.stream.tableToEpic.lookup :=
  ⟨fun exact => exact.inverse, fun inverse => ⟨inverse, accounted.silent inverse⟩⟩

/-- A move keeps the maps inverse to each other exactly when it neither opens a subscription again
nor removes one in place of another. -/
theorem step_inverse_iff (accounted : Accounted run)
    (inverse : Inverse run.stream.tableOf run.stream.tableToEpic.lookup) (move : StreamMove) :
    Inverse (run.step move).stream.tableOf (run.step move).stream.tableToEpic.lookup ↔
      run.KeepsTables move := by
  cases move with
  | subscribed epic now =>
    change Inverse (run.subscribe epic now).stream.tableOf
      (run.subscribe epic now).stream.tableToEpic.lookup ↔ _
    unfold subscribe
    split_ifs with opened
    · exact iff_of_true inverse (.inl opened)
    · obtain ⟨tables, epics⟩ := add_table_maps run.stream epic now
      rw [tables, epics, inverse_insert_iff inverse (accounted.fresh _ le_rfl)]
      exact (or_iff_right opened).symm
  | unsubscribed epic =>
    change Inverse (run.unsubscribe epic).stream.tableOf
      (run.unsubscribe epic).stream.tableToEpic.lookup ↔ _
    unfold unsubscribe
    split <;> exact iff_of_true inverse trivial
  | connected => exact iff_of_true inverse trivial
  | reconnected => exact iff_of_true inverse trivial
  | answered task accepted =>
    change Inverse (run.answer task accepted).stream.tableOf
      (run.answer task accepted).stream.tableToEpic.lookup ↔ run.RemovesOwnTable task
    unfold RemovesOwnTable
    obtain ⟨epic, tableKey, task, stream, _⟩ | ⟨other, same, _⟩ := run.answer_cases task accepted
    · rw [task, stream]
      obtain ⟨absent, nothing⟩ | ⟨removed, present, found, _, tables, epics⟩ :=
        remove_table_maps run.stream epic tableKey
      · rw [nothing, Option.getD_none]
        exact iff_of_true inverse (.inl absent)
      · rw [found, Option.getD_some, tables, epics, inverse_erase_iff inverse present]
        exact (or_iff_right present).symm
    · refine iff_of_true ((inverse_same same).mpr inverse) ?_
      split
      · rename_i epic tableKey found
        exact absurd found (other epic tableKey)
      · trivial
  | woken task =>
    obtain ⟨stream, _⟩ := run.wake_same task
    refine iff_of_true ?_ trivial
    change Inverse (run.wake task).stream.tableOf (run.wake task).stream.tableToEpic.lookup
    rwa [stream]
  | stalenessChecked now =>
    exact iff_of_true ((inverse_same (stale_check_same run.stream now)).mpr inverse) trivial
  | lineReceived line now =>
    exact iff_of_true ((inverse_same (receive_line_same run.stream line now)).mpr inverse) trivial
  | stopped => exact iff_of_true inverse_empty trivial

end Steps

/-- In every state of a run the tables lead back to exactly the instruments that have them, and
nothing is published of an instrument that was unsubscribed, exactly when no subscription is opened
again while it is stale or failed and none is removed in place of another. -/
theorem tables_are_exact_iff (moves : List StreamMove) :
    (∀ reached, reached <+: moves → TablesExact (Machines.after step {} reached)) ↔
      Machines.Conforms step KeepsTables {} moves := by
  have kept : ∀ (run : StreamRun) (move : StreamMove), Accounted run → Accounted (run.step move) :=
    fun run move accounted => accounted.step move
  have exact : ∀ (run : StreamRun) (move : StreamMove), Accounted run → TablesExact run →
      (TablesExact (run.step move) ↔ run.KeepsTables move) := by
    intro run move accounted before
    rw [(accounted.step move).exact_iff]
    exact step_inverse_iff accounted before.inverse move
  have accounted : Accounted {} := ⟨fun _ _ => rfl, fun _ member => nomatch member⟩
  have starts : TablesExact {} := accounted.exact_iff.mpr inverse_empty
  exact Machines.always_iff_conforms kept exact accounted starts

example : Machines.Conforms step KeepsTables {}
    [.subscribed "CS.D.EURUSD.CFD.IP" 0, .answered 0 true, .connected, .answered 1 true,
      .unsubscribed "CS.D.EURUSD.CFD.IP", .answered 2 false, .subscribed "CS.D.EURUSD.CFD.IP" 9] := by
  decide +kernel

/-- A stale subscription is opened again: the unsubscribed instrument still ticks. -/
def reopenedStale : List StreamMove :=
  [.subscribed "CS.D.EURUSD.CFD.IP" 0, .answered 0 true, .stalenessChecked 90,
    .subscribed "CS.D.EURUSD.CFD.IP" 95, .answered 1 true, .unsubscribed "CS.D.EURUSD.CFD.IP",
    .answered 2 true]

/-- The first table of a reopened subscription outlives it. -/
theorem reopened_subscription_leaks_its_table :
    ¬ ∀ moves reached, reached <+: moves → TablesExact (Machines.after step {} reached) := by
  intro exact
  have ended := exact reopenedStale reopenedStale List.prefix_rfl
  have silent := ended.silent "CS.D.EURUSD.CFD.IP" (by decide +kernel)
    "1,1|1.1234|1.1236|12:00:00" 100
    { channel := "market.tick.CS.D.EURUSD.CFD.IP"
      epic := "CS.D.EURUSD.CFD.IP"
      bid := some (.number 1.1234)
      ask := some (.number 1.1236)
      timestamp := 100
      receivedAt := 100 } (by decide +kernel)
  exact silent rfl

end StreamRun

end IgTradingBot
