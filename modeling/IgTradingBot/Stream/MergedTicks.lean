import IgTradingBot.Stream.StreamRun

/-!
# Merged ticks

The server sends only the fields that have changed. A tick that is made of one update line carries
the bid and the ask that were received last exactly when the line gives both of them: what earlier
lines gave is not kept.
-/

namespace IgTradingBot

namespace StreamRun

/-- The value of a side that was received last for an instrument. -/
def latest (side : StreamUpdate → Option FloatValue) (epic : String)
    (updates : List StreamUpdate) : Option FloatValue :=
  ((updates.filter (·.epic = epic)).filterMap side).getLast?

/-- An update has given both prices of an instrument. -/
def FullyUpdated (epic : String) (updates : List StreamUpdate) : Prop :=
  ∃ update ∈ updates, update.epic = epic ∧ update.bid.isSome = true ∧ update.ask.isSome = true

instance (epic : String) (updates : List StreamUpdate) : Decidable (FullyUpdated epic updates) :=
  inferInstanceAs (Decidable (∃ update ∈ updates, _))

/-- After the first full update of an instrument, a tick that a move publishes for it carries the
bid and the ask that were received last. -/
def CarriesLatest (epic : String) (run : StreamRun) (move : StreamMove) : Prop :=
  FullyUpdated epic (run.step move).updates →
    ∀ tick, run.published move = some tick → tick.epic = epic →
      tick.bid = latest (·.bid) epic (run.step move).updates ∧
        tick.ask = latest (·.ask) epic (run.step move).updates

/-- After the first full update of an instrument, a line for it gives both prices or none. -/
def GivesBothOrNone (epic : String) (run : StreamRun) : StreamMove → Prop
  | .lineReceived line _ =>
    FullyUpdated epic run.updates → ∀ update, run.stream.updateOf line = some update →
      update.epic = epic → update.bid.isSome = update.ask.isSome
  | _ => True

section Latest

variable {side : StreamUpdate → Option FloatValue} {epic : String} {updates : List StreamUpdate}
  {update : StreamUpdate}

/-- A value that was just received is the latest. -/
theorem latest_concat {value : FloatValue} (same : update.epic = epic)
    (given : side update = some value) : latest side epic (updates ++ [update]) = some value := by
  simp [latest, List.filter_append, List.filterMap_append, same, given]

/-- A side that was received at all has a latest value. -/
theorem latest_is_some (received : ∃ update ∈ updates, update.epic = epic ∧
    (side update).isSome = true) : (latest side epic updates).isSome = true := by
  obtain ⟨update, member, same, given⟩ := received
  obtain ⟨value, gives⟩ := Option.isSome_iff_exists.mp given
  have kept : update ∈ updates.filter (·.epic = epic) :=
    List.mem_filter.mpr ⟨member, decide_eq_true same⟩
  exact List.getLast?_isSome.mpr
    (List.ne_nil_of_mem (List.mem_filterMap.mpr ⟨update, kept, gives⟩))

/-- After a full update each side has a latest value. -/
theorem FullyUpdated.latest (full : FullyUpdated epic updates) :
    (latest (·.bid) epic updates).isSome = true ∧ (latest (·.ask) epic updates).isSome = true := by
  obtain ⟨update, member, same, bid, ask⟩ := full
  exact ⟨latest_is_some ⟨update, member, same, bid⟩, latest_is_some ⟨update, member, same, ask⟩⟩

/-- Of the updates that were received, and one more, one is full. -/
theorem fully_updated_concat : FullyUpdated epic (updates ++ [update]) ↔
    FullyUpdated epic updates ∨
      update.epic = epic ∧ update.bid.isSome = true ∧ update.ask.isSome = true := by
  constructor
  · rintro ⟨found, member, full⟩
    obtain earlier | last := List.mem_append.mp member
    · exact .inl ⟨found, earlier, full⟩
    · exact .inr (List.mem_singleton.mp last ▸ full)
  · rintro (⟨found, member, full⟩ | full)
    · exact ⟨found, List.mem_append_left _ member, full⟩
    · exact ⟨update, List.mem_append_right _ (List.mem_singleton_self _), full⟩

/-- The prices of an update are the latest ones exactly when it gives both. -/
theorem latest_of_update (same : update.epic = epic)
    (full : FullyUpdated epic (updates ++ [update])) :
    update.bid = latest (·.bid) epic (updates ++ [update]) ∧
        update.ask = latest (·.ask) epic (updates ++ [update]) ↔
      update.bid.isSome = true ∧ update.ask.isSome = true := by
  constructor
  · rintro ⟨bid, ask⟩
    rw [bid, ask]
    exact full.latest
  · rintro ⟨bid, ask⟩
    obtain ⟨bidValue, bidGiven⟩ := Option.isSome_iff_exists.mp bid
    obtain ⟨askValue, askGiven⟩ := Option.isSome_iff_exists.mp ask
    exact ⟨bidGiven.trans (latest_concat same bidGiven).symm,
      askGiven.trans (latest_concat same askGiven).symm⟩

/-- Both prices are there when there is one and neither is there alone. -/
theorem both_of_some {bid ask : Option FloatValue} (same : bid.isSome = ask.isSome)
    (given : ¬ (bid.isNone && ask.isNone) = true) : bid.isSome = true ∧ ask.isSome = true := by
  cases bid with
  | none =>
    have noAsk : ask.isNone = true := Option.isSome_eq_false_iff.mp same.symm
    exact absurd noAsk given
  | some value => exact ⟨rfl, same.symm⟩

end Latest

/-- A move publishes the latest prices exactly when its line gives both or none. -/
theorem carries_latest_iff (epic : String) (run : StreamRun) (move : StreamMove) :
    run.CarriesLatest epic move ↔ run.GivesBothOrNone epic move := by
  cases move with
  | lineReceived line now =>
    cases given : run.stream.updateOf line with
    | none =>
      apply iff_of_true
      · intro _ tick published
        obtain ⟨update, gives, _⟩ := IGStream.receive_line_tick published
        cases given.symm.trans gives
      · intro _ update gives
        cases given.symm.trans gives
    | some update =>
      have received : (run.step (.lineReceived line now)).updates = run.updates ++ [update] := by
        simp only [step, given, Option.toList_some]
      have ticks : run.published (.lineReceived line now) =
          if update.bid.isNone && update.ask.isNone then none
          else some (run.stream.onTick update now).2 := by
        simp only [published, IGStream.receive_line_eq, given]
        split_ifs <;> rfl
      unfold CarriesLatest
      rw [received, ticks]
      constructor
      · intro carries full other gives ofEpic
        obtain rfl := Option.some.inj (given.symm.trans gives)
        have fullNow : FullyUpdated epic (run.updates ++ [update]) :=
          fully_updated_concat.mpr (.inl full)
        by_cases empty : (update.bid.isNone && update.ask.isNone) = true
        · obtain ⟨noBid, noAsk⟩ := Bool.and_eq_true_iff.mp empty
          rw [Option.isNone_iff_eq_none.mp noBid, Option.isNone_iff_eq_none.mp noAsk]
        · have latest := carries fullNow _ (if_neg empty) ofEpic
          obtain ⟨bid, ask⟩ := (latest_of_update ofEpic fullNow).mp latest
          rw [bid, ask]
      · intro gives full tick published ofEpic
        split_ifs at published with empty
        obtain rfl := Option.some.inj published
        refine (latest_of_update ofEpic full).mpr ?_
        obtain earlier | ⟨_, both⟩ := fully_updated_concat.mp full
        · exact both_of_some (gives earlier update given ofEpic) empty
        · exact both
  | subscribed | unsubscribed | connected | reconnected | answered | woken | stalenessChecked
  | stopped => exact iff_of_true (fun _ _ published => nomatch published) trivial

/-- In a run every tick of an instrument that is published after its first full update carries the
bid and the ask that were received last, exactly when every line for it after that update gives
both prices or none. -/
theorem ticks_carry_latest_iff (epic : String) (initial : StreamRun) (moves : List StreamMove) :
    Machines.Conforms step (CarriesLatest epic) initial moves ↔
      Machines.Conforms step (GivesBothOrNone epic) initial moves :=
  Machines.conforms_congr fun run move => run.carries_latest_iff epic move

/-- The ask does not change after the first update. -/
def unchangedAsk : List StreamMove :=
  [.subscribed "CS.D.EURUSD.CFD.IP" 0, .answered 0 true,
    .lineReceived "1,1|1.1234|1.1236|12:00:00" 1, .lineReceived "1,1|1.1235||12:00:01" 2]

/-- A tick loses the ask that has not changed. -/
theorem unchanged_ask_is_lost :
    ¬ ∀ epic moves, Machines.Conforms step (CarriesLatest epic) {} moves := by
  intro complete
  have conforms := complete "CS.D.EURUSD.CFD.IP" unchangedAsk
  have latest := conforms.2.2.2.1 (by decide +kernel)
    { channel := "market.tick.CS.D.EURUSD.CFD.IP"
      epic := "CS.D.EURUSD.CFD.IP"
      bid := some (.number 1.1235)
      ask := none
      timestamp := 2
      receivedAt := 2 } (by decide +kernel) rfl
  have lost : (none : Option FloatValue) = some (.number 1.1236) :=
    latest.2.trans (by decide +kernel)
  cases lost

end StreamRun

end IgTradingBot
