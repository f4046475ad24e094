import IgTradingBot.Risk.SentimentStops

/-!
# Reported and confirmed stops

What a run of the sentiment handler sends and reports, read off its inputs: the
events of a run are the updates that the positions call for, each with the
outcome of the callback, and the failures that end it. A run reports every
update that it has sent, whether or not the callback has applied it, and reports
nothing when something raises.
-/

namespace IgTradingBot

open Sequential Sequential.Program

/-- What a position or a provider contributes to a run: an update that is called
for, or a failure. -/
inductive StopEvent where
  | moves (send : StopSend)
  | fails (failure : Failure)

namespace StopEvent

/-- A failure ends the run, and so does a callback that raises. -/
def Ends : StopEvent → Prop
  | moves send => ∃ failure, send.outcome = .raised failure
  | fails _ => True

/-- The callback applies the update. -/
def Applied : StopEvent → Prop
  | moves send => send.outcome = .applied
  | fails _ => False

end StopEvent

namespace SentimentStopHandler

/-- The update that a position calls for: its sentiment opposes it and the stop
at half an average true range is not the current one. -/
def positionEvents (handler : SentimentStopHandler) (sentimentScore currentPrice currentAtr : ℚ)
    (entry : StopPositionData × UpdateOutcome) : List StopEvent :=
  match handler.readPosition entry.1 currentAtr with
  | .error failure => [.fails failure]
  | .ok none => []
  | .ok (some position) =>
    let newStop := StopManager.tightenStopOnNews position currentPrice currentAtr
    if handler.isOpposingSentiment position.direction sentimentScore = true ∧
        newStop ≠ position.currentStop then
      [.moves ⟨entry.1.positionId.getD "unknown", position.direction, position.currentStop,
        newStop, entry.2⟩]
    else []

/-- The events of the positions of one instrument, when its price and its average
true range are available. -/
def instrumentEvents (handler : SentimentStopHandler) (sentimentScore : ℚ)
    (instrument : AffectedInstrument) : List StopEvent :=
  match instrument.positions with
  | .error failure => [.fails failure]
  | .ok [] => []
  | .ok (entry :: others) =>
    match instrument.price, instrument.atr with
    | .error failure, _ => [.fails failure]
    | .ok none, _ => []
    | .ok (some _), .error failure => [.fails failure]
    | .ok (some _), .ok none => []
    | .ok (some currentPrice), .ok (some currentAtr) =>
      (entry :: others).flatMap (handler.positionEvents sentimentScore currentPrice currentAtr)

/-- The events of the affected instruments, when the sentiment is beyond the threshold. -/
def newsEvents (handler : SentimentStopHandler) (news : HighImpactNews) : List StopEvent :=
  match news.sentimentScore with
  | none => []
  | some sentimentScore =>
    if |sentimentScore| ≤ handler.sentimentThreshold then []
    else news.affectedInstruments.flatMap (handler.instrumentEvents sentimentScore)

/-- Identifiers and new stops of the positions that are reported as tightened;
a run that raises reports nothing. -/
def reportedMoves : Except Failure (List StopTightenResult) → List (String × ℚ)
  | .ok results =>
    (results.filter fun result => result.tightened).map fun result =>
      (result.positionId, result.newStop)
  | .error _ => []

/-- Identifier and new stop of an update. -/
def moveOf (send : StopSend) : String × ℚ := (send.positionId, send.newStop)

/-- Identifiers and new stops of the updates that the callback has applied. -/
def confirmedMoves (sends : List StopSend) : List (String × ℚ) :=
  (sends.filter fun send => decide (send.outcome = .applied)).map moveOf

/-- The updates that a run over these events sends: those up to the first event
that ends it. -/
def sentMoves : List StopEvent → List StopSend
  | [] => []
  | .fails _ :: _ => []
  | .moves send :: rest =>
    match send.outcome with
    | .raised _ => [send]
    | _ => send :: sentMoves rest

/-- A program sends the updates of these events, and it either reports all of
them or one of the events has ended it. -/
def Follows (body : Program Failure (List StopSend) (List StopTightenResult))
    (events : List StopEvent) : Prop :=
  ∀ sends, (body sends).2 = sends ++ sentMoves events ∧
    match (body sends).1 with
    | .ok results => (∀ event ∈ events, ¬event.Ends) ∧
        reportedMoves (.ok results) = (sentMoves events).map moveOf
    | .error _ => ∃ event ∈ events, event.Ends

/-- The results of a part of the handler, as a list. -/
def resultsOf {Answer : Type} (results : Answer → List StopTightenResult)
    (body : Program Failure (List StopSend) Answer) :
    Program Failure (List StopSend) (List StopTightenResult) := do
  let answer ← body
  pure (results answer)

/-- A first part without an end is sent in full. -/
theorem sent_moves_append_of_open {first second : List StopEvent}
    (running : ∀ event ∈ first, ¬event.Ends) :
    sentMoves (first ++ second) = sentMoves first ++ sentMoves second := by
  induction first with
  | nil => rfl
  | cons event rest inductionHypothesis =>
    have others := inductionHypothesis fun later listed => running later (List.mem_cons_of_mem _ listed)
    have this := running event List.mem_cons_self
    cases event with
    | fails failure => exact absurd trivial this
    | moves send =>
      cases outcome : send.outcome with
      | applied => simp [sentMoves, outcome, others]
      | refused => simp [sentMoves, outcome, others]
      | raised failure => exact absurd ⟨failure, outcome⟩ this

/-- After an end nothing more is sent. -/
theorem sent_moves_append_of_end {first second : List StopEvent}
    (ended : ∃ event ∈ first, event.Ends) : sentMoves (first ++ second) = sentMoves first := by
  induction first with
  | nil =>
    obtain ⟨event, listed, _⟩ := ended
    exact absurd listed List.not_mem_nil
  | cons event rest inductionHypothesis =>
    obtain ⟨last, listed, ends⟩ := ended
    cases event with
    | fails failure => rfl
    | moves send =>
      have later : (∀ failure, send.outcome ≠ .raised failure) →
          sentMoves (rest ++ second) = sentMoves rest := by
        intro quiet
        refine inductionHypothesis ⟨last, ?_, ends⟩
        rcases List.mem_cons.mp listed with rfl | listed
        · obtain ⟨failure, raised⟩ := ends
          exact absurd raised (quiet failure)
        · exact listed
      cases outcome : send.outcome with
      | applied => simp [sentMoves, outcome, later (by simp [outcome])]
      | refused => simp [sentMoves, outcome, later (by simp [outcome])]
      | raised failure => simp [sentMoves, outcome]

/-- A program without results and without events. -/
theorem follows_nothing : Follows (pure []) [] := by
  intro sends
  exact ⟨(List.append_nil sends).symm, fun event listed => absurd listed List.not_mem_nil, rfl⟩

/-- A program that raises at once. -/
theorem follows_failure (failure : Failure) : Follows (raise failure) [.fails failure] := by
  intro sends
  exact ⟨(List.append_nil sends).symm, .fails failure, List.mem_singleton_self _, trivial⟩

/-- A part that returns has the results of its answer. -/
theorem results_of_ok {Answer : Type} {results : Answer → List StopTightenResult}
    {body : Program Failure (List StopSend) Answer} {sends reached : List StopSend}
    {answer : Answer} (ran : body sends = (.ok answer, reached)) :
    resultsOf results body sends = (.ok (results answer), reached) := bind_ok ran

/-- A part that raises has no results. -/
theorem results_of_error {Answer : Type} {results : Answer → List StopTightenResult}
    {body : Program Failure (List StopSend) Answer} {sends reached : List StopSend}
    {failure : Failure} (ran : body sends = (.error failure, reached)) :
    resultsOf results body sends = (.error failure, reached) := bind_error ran

/-- A part that answers with results. -/
theorem results_of_id (body : Program Failure (List StopSend) (List StopTightenResult)) :
    resultsOf id body = body := by
  funext sends
  rcases ran : body sends with ⟨ended, reached⟩
  cases ended with
  | error failure => exact results_of_error ran
  | ok results => exact results_of_ok ran

/-- Two parts, the results of which are put one after the other. -/
theorem follows_append {Answer : Type}
    {first : Program Failure (List StopSend) Answer} {results : Answer → List StopTightenResult}
    {second : Program Failure (List StopSend) (List StopTightenResult)}
    {firstEvents secondEvents : List StopEvent}
    (firstFollows : Follows (resultsOf results first) firstEvents)
    (secondFollows : Follows second secondEvents) :
    Follows (do
      let answer ← first
      let rest ← second
      pure (results answer ++ rest)) (firstEvents ++ secondEvents) := by
  intro sends
  have started := firstFollows sends
  rcases ran : first sends with ⟨ended, reached⟩
  cases ended with
  | error failure =>
    rw [results_of_error ran] at started
    rw [bind_error ran]
    obtain ⟨sent, event, listed, ends⟩ := started
    refine ⟨?_, event, List.mem_append_left _ listed, ends⟩
    rw [sent_moves_append_of_end ⟨event, listed, ends⟩]
    exact sent
  | ok answer =>
    rw [results_of_ok ran] at started
    rw [bind_ok ran]
    obtain ⟨sent, running, reported⟩ := started
    have sentFirst : reached = sends ++ sentMoves firstEvents := sent
    have continued := secondFollows reached
    rw [sent_moves_append_of_open running, ← List.append_assoc, ← sentFirst]
    rcases ranSecond : second reached with ⟨endedSecond, last⟩
    rw [ranSecond] at continued
    cases endedSecond with
    | error failure =>
      rw [bind_error ranSecond]
      obtain ⟨sentRest, event, listed, ends⟩ := continued
      exact ⟨sentRest, event, List.mem_append_right _ listed, ends⟩
    | ok rest =>
      rw [bind_ok ranSecond]
      obtain ⟨sentRest, runningRest, reportedRest⟩ := continued
      refine ⟨sentRest, ?_, ?_⟩
      · intro event listed
        rcases List.mem_append.mp listed with listed | listed
        · exact running event listed
        · exact runningRest event listed
      · simp only [reportedMoves] at reported reportedRest ⊢
        rw [List.filter_append, List.map_append, reported, reportedRest, List.map_append]

/-- Asking the callback adds the update to what was sent; the result follows unless the
callback raises. -/
theorem update_stop_loss_run {handler : SentimentStopHandler} (asks : handler.hasCallback = true)
    (send : StopSend) (result : Option StopTightenResult) (sends : List StopSend) :
    (do
      handler.updateStopLoss send
      pure result : Program Failure (List StopSend) (Option StopTightenResult)) sends =
      (match send.outcome with
        | .raised failure => .error failure
        | _ => .ok result, sends ++ [send]) := by
  simp only [updateStopLoss, asks, if_true]
  cases send.outcome <;> rfl

/-- The update of a position is sent, and the run goes on unless the callback raises. -/
theorem follows_update {handler : SentimentStopHandler} (asks : handler.hasCallback = true)
    (send : StopSend) (result : StopTightenResult) (tightened : result.tightened = true)
    (named : (result.positionId, result.newStop) = moveOf send) :
    Follows (resultsOf Option.toList (do
      handler.updateStopLoss send
      pure (some result))) [.moves send] := by
  intro sends
  have asked := update_stop_loss_run asks send (some result) sends
  have sent : sentMoves [.moves send] = [send] := by
    cases outcome : send.outcome <;> simp [sentMoves, outcome]
  have reported : reportedMoves (.ok [result]) = (sentMoves [.moves send]).map moveOf := by
    simp [reportedMoves, tightened, named, sent]
  have running (quiet : ∀ failure, send.outcome ≠ .raised failure) :
      ∀ event ∈ [StopEvent.moves send], ¬event.Ends := by
    intro event listed
    obtain rfl := List.mem_singleton.mp listed
    rintro ⟨failure, raised⟩
    exact quiet failure raised
  cases outcome : send.outcome with
  | applied =>
    rw [outcome] at asked
    rw [results_of_ok asked, sent]
    exact ⟨rfl, running (by simp [outcome]), by rw [← sent]; exact reported⟩
  | refused =>
    rw [outcome] at asked
    rw [results_of_ok asked, sent]
    exact ⟨rfl, running (by simp [outcome]), by rw [← sent]; exact reported⟩
  | raised failure =>
    rw [outcome] at asked
    rw [results_of_error asked, sent]
    exact ⟨rfl, .moves send, List.mem_singleton_self _, failure, outcome⟩

/-- A result that is not tightened is reported nowhere. -/
theorem follows_untouched (result : Option StopTightenResult)
    (untouched : ∀ report ∈ result, report.tightened = false) :
    Follows (resultsOf Option.toList (pure result)) [] := by
  intro sends
  refine ⟨(List.append_nil sends).symm, fun event listed => absurd listed List.not_mem_nil, ?_⟩
  cases result with
  | none => rfl
  | some report => simp [reportedMoves, sentMoves, untouched report rfl]

/-- An evaluation sends and reports the update that its position calls for. -/
theorem follows_evaluation {handler : SentimentStopHandler} (asks : handler.hasCallback = true)
    (sentimentScore currentPrice currentAtr : ℚ) (entry : StopPositionData × UpdateOutcome) :
    Follows (resultsOf Option.toList
        (handler.evaluatePosition entry.1 entry.2 sentimentScore currentPrice currentAtr))
      (handler.positionEvents sentimentScore currentPrice currentAtr entry) := by
  unfold evaluatePosition positionEvents
  cases handler.readPosition entry.1 currentAtr with
  | error failure => exact follows_failure failure
  | ok found =>
    cases found with
    | none => exact follows_untouched none (by simp)
    | some position =>
      change Follows (resultsOf Option.toList
        (handler.tightenPosition entry.1 entry.2 sentimentScore currentPrice currentAtr position)) _
      unfold tightenPosition
      cases opposing : handler.isOpposingSentiment position.direction sentimentScore with
      | false =>
        simp only [if_true, opposing, Bool.false_eq_true, false_and, if_false]
        exact follows_untouched (some _) (by simp)
      | true =>
        by_cases same : StopManager.tightenStopOnNews position currentPrice currentAtr =
            position.currentStop
        · simp only [opposing, same, ne_eq, not_true_eq_false, and_false, if_false,
            Bool.true_eq_false]
          exact follows_untouched (some _) (by simp)
        · simp only [opposing, same, ne_eq, not_false_eq_true, and_true, if_true,
            Bool.true_eq_false, if_false]
          exact follows_update asks _ _ rfl rfl

/-- The loop over the positions follows their events. -/
theorem follows_each {handler : SentimentStopHandler} (asks : handler.hasCallback = true)
    (sentimentScore currentPrice currentAtr : ℚ)
    (positions : List (StopPositionData × UpdateOutcome)) :
    Follows (handler.evaluateEach sentimentScore currentPrice currentAtr positions)
      (positions.flatMap (handler.positionEvents sentimentScore currentPrice currentAtr)) := by
  induction positions with
  | nil => exact follows_nothing
  | cons entry others inductionHypothesis =>
    rw [List.flatMap_cons]
    exact follows_append (follows_evaluation asks sentimentScore currentPrice currentAtr entry)
      inductionHypothesis

/-- An instrument follows the events of its positions, when they are evaluated. -/
theorem follows_instrument {handler : SentimentStopHandler} (asks : handler.hasCallback = true)
    (sentimentScore : ℚ) (instrument : AffectedInstrument) :
    Follows (handler.processInstrument instrument sentimentScore)
      (handler.instrumentEvents sentimentScore instrument) := by
  unfold processInstrument instrumentEvents
  cases instrument.positions with
  | error failure => exact follows_failure failure
  | ok positions =>
    cases positions with
    | nil => exact follows_nothing
    | cons entry others =>
      cases instrument.price with
      | error failure => exact follows_failure failure
      | ok price =>
        cases price with
        | none => exact follows_nothing
        | some currentPrice =>
          cases instrument.atr with
          | error failure => exact follows_failure failure
          | ok atr =>
            cases atr with
            | none => exact follows_nothing
            | some currentAtr =>
              exact follows_each asks sentimentScore currentPrice currentAtr (entry :: others)

/-- A run over an event follows the events of the affected instruments. -/
theorem follows_news {handler : SentimentStopHandler} (asks : handler.hasCallback = true)
    (news : HighImpactNews) :
    Follows (handler.handleHighImpactNews news) (handler.newsEvents news) := by
  unfold handleHighImpactNews newsEvents
  cases news.sentimentScore with
  | none => exact follows_nothing
  | some sentimentScore =>
    simp only
    split
    · exact follows_nothing
    · split
      · rename_i empty
        rw [List.isEmpty_iff.mp empty]
        exact follows_nothing
      · induction news.affectedInstruments with
        | nil => exact follows_nothing
        | cons instrument others inductionHypothesis =>
          have first := follows_instrument asks sentimentScore instrument
          rw [← results_of_id (handler.processInstrument instrument sentimentScore)] at first
          rw [List.flatMap_cons]
          exact follows_append first inductionHypothesis

/-- The tightened stop is never worse for the trade than the current one. -/
theorem tighten_stop_on_news_at_least (position : StopManager.Position) (currentPrice atr : ℚ) :
    position.direction.AtLeast (StopManager.tightenStopOnNews position currentPrice atr)
      position.currentStop := by
  cases side : position.direction with
  | long =>
    simp only [StopManager.tightenStopOnNews, side, TradeDirection.AtLeast]
    split
    · exact le_rfl
    · rename_i notLooser
      exact not_lt.mp notLooser
  | short =>
    simp only [StopManager.tightenStopOnNews, side, TradeDirection.AtLeast]
    split
    · exact le_rfl
    · rename_i notLooser
      exact not_lt.mp notLooser

/-- An update that is not looser than the stop it replaces. -/
def NotLooser (send : StopSend) : Prop := send.direction.AtLeast send.newStop send.currentStop

/-- No position asks for a looser stop. -/
theorem position_events_not_looser {handler : SentimentStopHandler}
    {sentimentScore currentPrice currentAtr : ℚ} {entry : StopPositionData × UpdateOutcome}
    {send : StopSend}
    (asked : .moves send ∈ handler.positionEvents sentimentScore currentPrice currentAtr entry) :
    NotLooser send := by
  unfold positionEvents at asked
  split at asked
  · simp at asked
  · simp at asked
  · rename_i position _
    simp only at asked
    split at asked
    · obtain rfl := StopEvent.moves.inj (List.mem_singleton.mp asked)
      exact tighten_stop_on_news_at_least position currentPrice currentAtr
    · exact absurd asked List.not_mem_nil

/-- An instrument asks only for what its positions ask for. -/
theorem position_of_instrument_events {handler : SentimentStopHandler} {sentimentScore : ℚ}
    {instrument : AffectedInstrument} {send : StopSend}
    (asked : .moves send ∈ handler.instrumentEvents sentimentScore instrument) :
    ∃ currentPrice currentAtr entry,
      .moves send ∈ handler.positionEvents sentimentScore currentPrice currentAtr entry := by
  unfold instrumentEvents at asked
  split at asked
  · simp at asked
  · exact absurd asked List.not_mem_nil
  · split at asked
    · simp at asked
    · exact absurd asked List.not_mem_nil
    · simp at asked
    · exact absurd asked List.not_mem_nil
    · obtain ⟨entry, _, asked⟩ := List.mem_flatMap.mp asked
      exact ⟨_, _, entry, asked⟩

/-- No event asks for a looser stop. -/
theorem news_events_not_looser (handler : SentimentStopHandler) (news : HighImpactNews)
    {send : StopSend} (asked : .moves send ∈ handler.newsEvents news) : NotLooser send := by
  unfold newsEvents at asked
  split at asked
  · exact absurd asked List.not_mem_nil
  · split at asked
    · exact absurd asked List.not_mem_nil
    · obtain ⟨instrument, _, asked⟩ := List.mem_flatMap.mp asked
      obtain ⟨currentPrice, currentAtr, entry, asked⟩ := position_of_instrument_events asked
      exact position_events_not_looser asked

/-- Only updates that are asked for are sent. -/
theorem moves_of_sent {events : List StopEvent} {send : StopSend} (sent : send ∈ sentMoves events) :
    .moves send ∈ events := by
  induction events with
  | nil => exact absurd sent List.not_mem_nil
  | cons event rest inductionHypothesis =>
    cases event with
    | fails failure => exact absurd sent List.not_mem_nil
    | moves first =>
      have listed : send = first ∨ send ∈ sentMoves rest := by
        cases outcome : first.outcome with
        | applied => simpa [sentMoves, outcome] using sent
        | refused => simpa [sentMoves, outcome] using sent
        | raised failure =>
          left
          simpa [sentMoves, outcome] using sent
      rcases listed with rfl | listed
      · exact List.mem_cons_self
      · exact List.mem_cons_of_mem _ (inductionHypothesis listed)

/-- Without an end every update that is asked for is sent. -/
theorem sent_of_moves {events : List StopEvent} {send : StopSend}
    (running : ∀ event ∈ events, ¬event.Ends) (asked : .moves send ∈ events) :
    send ∈ sentMoves events := by
  obtain ⟨before, after, rfl⟩ := List.append_of_mem asked
  rw [sent_moves_append_of_open fun event listed => running event (List.mem_append_left _ listed)]
  refine List.mem_append_right _ ?_
  cases outcome : send.outcome <;> simp [sentMoves, outcome]

/-- The condition on the events: every update that is asked for is applied and nothing
raises, or something raises before any update is applied. -/
def Settled (events : List StopEvent) : Prop :=
  (∀ event ∈ events, event.Applied) ∨
    ∃ before ending after, events = before ++ ending :: after ∧ ending.Ends ∧
      ∀ event ∈ before, ¬event.Applied

/-- An event that ends the run is not an applied update. -/
theorem not_applied_of_ends {event : StopEvent} (ends : event.Ends) : ¬event.Applied := by
  cases event with
  | fails failure => exact id
  | moves send =>
    obtain ⟨failure, raised⟩ := ends
    intro applied
    exact absurd (applied.symm.trans raised) (by simp)

/-- A run that ends early has sent no applied update exactly when something raises
before any update is applied. -/
theorem sent_unapplied_iff {events : List StopEvent} (ended : ∃ event ∈ events, event.Ends) :
    (∀ send ∈ sentMoves events, send.outcome ≠ .applied) ↔
      ∃ before ending after, events = before ++ ending :: after ∧ ending.Ends ∧
        ∀ event ∈ before, ¬event.Applied := by
  constructor
  · intro unapplied
    -- the part before the first end is sent in full
    classical
    obtain ⟨last, listed, lastEnds⟩ := ended
    have present : (events.find? fun event => decide event.Ends).isSome = true :=
      List.find?_isSome.mpr ⟨last, listed, decide_eq_true lastEnds⟩
    obtain ⟨ending, found⟩ := Option.isSome_iff_exists.mp present
    obtain ⟨ends, before, after, rfl, quiet⟩ := List.find?_eq_some_iff_append.mp found
    have ends : ending.Ends := of_decide_eq_true ends
    have running : ∀ event ∈ before, ¬event.Ends := by
      intro event listed
      simpa using quiet event listed
    refine ⟨before, ending, after, rfl, ends, ?_⟩
    intro event listed applied
    cases event with
    | fails failure => exact applied
    | moves send =>
      refine unapplied send ?_ applied
      rw [sent_moves_append_of_open running]
      exact List.mem_append_left _ (sent_of_moves running listed)
  · rintro ⟨before, ending, after, rfl, ends, unapplied⟩ send sent applied
    have prefix_ : before ++ ending :: after = (before ++ [ending]) ++ after := by simp
    rw [prefix_, sent_moves_append_of_end ⟨ending, by simp, ends⟩] at sent
    rcases List.mem_append.mp (moves_of_sent sent) with listed | listed
    · exact unapplied _ listed applied
    · obtain rfl := List.mem_singleton.mp listed
      exact not_applied_of_ends ends applied

/-- Nothing is confirmed exactly when no update is applied. -/
theorem confirmed_moves_eq_nil_iff {sends : List StopSend} :
    confirmedMoves sends = [] ↔ ∀ send ∈ sends, send.outcome ≠ .applied := by
  rw [confirmedMoves, List.map_eq_nil_iff, List.filter_eq_nil_iff]
  simp

/-- Everything is confirmed exactly when every update is applied. -/
theorem confirmed_moves_eq_all_iff {sends : List StopSend} :
    sends.map moveOf = confirmedMoves sends ↔ ∀ send ∈ sends, send.outcome = .applied := by
  constructor
  · intro same
    have lengths := congrArg List.length same
    rw [confirmedMoves, List.length_map, List.length_map] at lengths
    intro send listed
    have kept := List.length_filter_eq_length_iff.mp lengths.symm send listed
    exact of_decide_eq_true kept
  · intro applied
    rw [confirmedMoves, List.filter_eq_self.mpr]
    intro send listed
    exact decide_eq_true (applied send listed)

/-- The reported moves are the applied updates exactly under the condition on the events. -/
theorem reports_confirmed_iff {body : Program Failure (List StopSend) (List StopTightenResult)}
    {events : List StopEvent} (follows : Follows body events) :
    reportedMoves (body []).1 = confirmedMoves (body []).2 ↔ Settled events := by
  obtain ⟨sent, ended⟩ := follows []
  rw [List.nil_append] at sent
  rw [sent]
  rcases answer : (body []).1 with failure | results
  · rw [answer] at ended
    obtain ⟨last, listed, ends⟩ := ended
    rw [reportedMoves, eq_comm, confirmed_moves_eq_nil_iff, sent_unapplied_iff ⟨last, listed, ends⟩]
    constructor
    · exact Or.inr
    · rintro (applied | raises)
      · exact absurd (applied last listed) (not_applied_of_ends ends)
      · exact raises
  · rw [answer] at ended
    obtain ⟨running, reported⟩ := ended
    rw [reported, confirmed_moves_eq_all_iff]
    constructor
    · intro applied
      left
      intro event listed
      cases event with
      | fails failure => exact running _ listed trivial
      | moves send => exact applied send (sent_of_moves running listed)
    · rintro (applied | ⟨before, ending, after, rfl, ends, _⟩) send listed
      · exact applied _ (moves_of_sent listed)
      · exact absurd ends (running ending (by simp))

/-- A run reports truthfully: the positions reported as tightened, with their new stops, are
exactly those whose update the callback has applied, and no update is looser than the stop it
replaces. It does so exactly when every update that the positions call for is applied and
nothing raises, or when something raises before any update is applied. -/
theorem sentiment_stops_truthful_iff (sentimentThreshold : ℚ) (upper : String → String)
    (news : HighImpactNews) :
    let handler : SentimentStopHandler := ⟨sentimentThreshold, true, upper⟩
    let run := handler.handleHighImpactNews news []
    (reportedMoves run.1 = confirmedMoves run.2 ∧ ∀ send ∈ run.2, NotLooser send) ↔
      Settled (handler.newsEvents news) := by
  intro handler run
  have follows : Follows (handler.handleHighImpactNews news) (handler.newsEvents news) :=
    follows_news rfl news
  rw [← reports_confirmed_iff follows]
  constructor
  · exact And.left
  · intro confirmed
    refine ⟨confirmed, ?_⟩
    intro send listed
    have sent := (follows []).1
    rw [List.nil_append] at sent
    have asked : send ∈ sentMoves (handler.newsEvents news) := by
      rw [← sent]
      exact listed
    exact news_events_not_looser handler news (moves_of_sent asked)

/-- A long position of which the callback refuses the update. -/
def refusedNews : HighImpactNews where
  sentimentScore := some (-9 / 10)
  affectedInstruments := [{
    name := "EURUSD"
    positions := .ok [({
      positionId := some "pos-long-1"
      instrument := some "EURUSD"
      direction := some "LONG"
      currentStop := some (.number (109 / 100))
      entryPrice := some (.number (110 / 100)) }, .refused)]
    price := .ok (some (1105 / 1000))
    atr := .ok (some (5 / 1000)) }]

/-- A refused update is reported as a tightened stop. -/
theorem refused_update_reported :
    let run := (⟨4 / 5, true, id⟩ : SentimentStopHandler).handleHighImpactNews refusedNews []
    reportedMoves run.1 = [("pos-long-1", 11025 / 10000)] ∧ confirmedMoves run.2 = [] ∧
      ¬(reportedMoves run.1 = confirmedMoves run.2 ∧ ∀ send ∈ run.2, NotLooser send) := by
  have reported : reportedMoves
      ((⟨4 / 5, true, id⟩ : SentimentStopHandler).handleHighImpactNews refusedNews []).1 =
      [("pos-long-1", 11025 / 10000)] := by decide +kernel
  have confirmed : confirmedMoves
      ((⟨4 / 5, true, id⟩ : SentimentStopHandler).handleHighImpactNews refusedNews []).2 = [] := by
    decide +kernel
  refine ⟨reported, confirmed, ?_⟩
  rintro ⟨same, _⟩
  rw [reported, confirmed] at same
  exact absurd same (by simp)

end SentimentStopHandler

end IgTradingBot
