import IgTradingBot.Core.Values
import IgTradingBot.Library.Programs
import IgTradingBot.Risk.TrailingStops

/-!
# Stops tightened on opposing news

`SentimentStopHandler` of `src/risk/sentiment_stop_handler.py`: a high-impact
article tightens the stops of the positions that it opposes. The providers and
the callback are remote; an affected instrument comes with what the providers
answer when the handler reaches it, and a position with what the callback does
when it is asked to move that position's stop. The state of a run is the list of
the updates that were sent, with their outcomes.
-/

namespace IgTradingBot

open Sequential Sequential.Program

/-- What the callback does with one update: it applies it, refuses it with a
false answer, or raises. -/
inductive UpdateOutcome where
  | applied
  | refused
  | raised (failure : Failure)
  deriving DecidableEq, Repr

/-- The fields of a position dictionary that the handler reads. -/
structure StopPositionData where
  positionId : Option String := none
  instrument : Option String := none
  direction : Option String := none
  currentStop : Option Numeral := none
  entryPrice : Option Numeral := none
  initialStop : Option Numeral := none
  atrAtEntry : Option Numeral := none
  deriving DecidableEq, Repr

/-- Report on one evaluated position. -/
structure StopTightenResult where
  positionId : String
  instrument : String
  direction : String
  originalStop : ℚ
  newStop : ℚ
  tightened : Bool
  reason : String
  deriving DecidableEq, Repr

/-- An update that was sent: the identifier and the new stop of the call, the
position's side and stop at that time, and what the callback did. -/
structure StopSend where
  positionId : String
  direction : TradeDirection
  currentStop : ℚ
  newStop : ℚ
  outcome : UpdateOutcome
  deriving DecidableEq, Repr

/-- An affected instrument with the answers of the providers; each position comes
with the outcome of its update. -/
structure AffectedInstrument where
  name : String
  positions : Except Failure (List (StopPositionData × UpdateOutcome))
  price : Except Failure (Option ℚ)
  atr : Except Failure (Option ℚ)

/-- The fields of the event that decide. -/
structure HighImpactNews where
  sentimentScore : Option ℚ := none
  affectedInstruments : List AffectedInstrument := []

/-- The settings of the handler; `upper` is the upper case of Python texts. -/
structure SentimentStopHandler where
  sentimentThreshold : ℚ := 4 / 5
  hasCallback : Bool := true
  upper : String → String

namespace SentimentStopHandler

/-- The sentiment opposes a long position from below the negative threshold on,
and a short one from above the threshold on. -/
def isOpposingSentiment (handler : SentimentStopHandler) (direction : TradeDirection)
    (sentimentScore : ℚ) : Bool :=
  match direction with
  | .long => decide (sentimentScore < -handler.sentimentThreshold)
  | .short => decide (handler.sentimentThreshold < sentimentScore)

/-- The upper-case direction of a position, empty when it is absent. -/
def directionText (handler : SentimentStopHandler) (data : StopPositionData) : String :=
  handler.upper (data.direction.getD "")

/-- Side of a position, when its direction is known. -/
def sideOf (direction : String) : Option TradeDirection :=
  if direction = "LONG" then some .long
  else if direction = "SHORT" then some .short
  else none

/-- A number that may be absent. -/
def parseOr (numeral : Option Numeral) (fallback : ℚ) : Except Failure ℚ :=
  match numeral with
  | some value => value.parse
  | none => .ok fallback

/-- The first half of an evaluation: the position, unless required fields are
missing or the direction is unknown. -/
def readPosition (handler : SentimentStopHandler) (data : StopPositionData) (currentAtr : ℚ) :
    Except Failure (Option StopManager.Position) :=
  match data.currentStop, data.entryPrice with
  | some stop, some entry => do
    let currentStop ← stop.parse
    let entryPrice ← entry.parse
    let initialStop ← parseOr data.initialStop currentStop
    let atrAtEntry ← parseOr data.atrAtEntry currentAtr
    pure ((sideOf (handler.directionText data)).map fun direction =>
      ⟨entryPrice, direction, initialStop, currentStop, atrAtEntry⟩)
  | _, _ => .ok none

/-- Ask the callback, when there is one. Its answer is not looked at. -/
def updateStopLoss (handler : SentimentStopHandler) (send : StopSend) :
    Program Failure (List StopSend) Unit :=
  if handler.hasCallback then do
    modify (· ++ [send])
    match send.outcome with
    | .raised failure => raise failure
    | _ => pure ()
  else pure ()

/-- The second half of an evaluation: a position that the sentiment opposes gets a
new stop, and an update is sent when the stop moves. -/
def tightenPosition (handler : SentimentStopHandler) (data : StopPositionData)
    (outcome : UpdateOutcome) (sentimentScore currentPrice currentAtr : ℚ)
    (position : StopManager.Position) :
    Program Failure (List StopSend) (Option StopTightenResult) :=
  let positionId := data.positionId.getD "unknown"
  let instrument := data.instrument.getD "unknown"
  let direction := handler.directionText data
  let currentStop := position.currentStop
  let newStop := StopManager.tightenStopOnNews position currentPrice currentAtr
  if handler.isOpposingSentiment position.direction sentimentScore = false then
    pure (some ⟨positionId, instrument, direction, currentStop, currentStop, false,
      "Sentiment is not opposing (aligned or below threshold)"⟩)
  else if newStop ≠ currentStop then do
    handler.updateStopLoss ⟨positionId, position.direction, currentStop, newStop, outcome⟩
    pure (some ⟨positionId, instrument, direction, currentStop, newStop, true,
      "Stop tightened due to opposing sentiment (" ++ Decimals.fixed 2 sentimentScore ++ ")"⟩)
  else
    pure (some ⟨positionId, instrument, direction, currentStop, newStop, false,
      "New stop would not be tighter than current stop"⟩)

/-- Evaluate one position; nothing comes of one that cannot be read. -/
def evaluatePosition (handler : SentimentStopHandler) (data : StopPositionData)
    (outcome : UpdateOutcome) (sentimentScore currentPrice currentAtr : ℚ) :
    Program Failure (List StopSend) (Option StopTightenResult) := do
  match ← ofExcept (handler.readPosition data currentAtr) with
  | none => pure none
  | some position =>
    handler.tightenPosition data outcome sentimentScore currentPrice currentAtr position

/-- The loop over the positions of an instrument; skipped positions leave no result. -/
def evaluateEach (handler : SentimentStopHandler) (sentimentScore currentPrice currentAtr : ℚ) :
    List (StopPositionData × UpdateOutcome) → Program Failure (List StopSend) (List StopTightenResult)
  | [] => pure []
  | (data, outcome) :: others => do
    let result ← handler.evaluatePosition data outcome sentimentScore currentPrice currentAtr
    let rest ← handler.evaluateEach sentimentScore currentPrice currentAtr others
    pure (result.toList ++ rest)

/-- The positions of one instrument, unless it has none, or the price or the
average true range is unavailable. -/
def processInstrument (handler : SentimentStopHandler) (instrument : AffectedInstrument)
    (sentimentScore : ℚ) : Program Failure (List StopSend) (List StopTightenResult) := do
  let positions ← ofExcept instrument.positions
  if positions.isEmpty then pure []
  else
    match ← ofExcept instrument.price with
    | none => pure []
    | some currentPrice =>
      match ← ofExcept instrument.atr with
      | none => pure []
      | some currentAtr =>
        handler.evaluateEach sentimentScore currentPrice currentAtr positions

/-- The loop over the affected instruments. -/
def processEach (handler : SentimentStopHandler) (sentimentScore : ℚ) :
    List AffectedInstrument → Program Failure (List StopSend) (List StopTightenResult)
  | [] => pure []
  | instrument :: others => do
    let results ← handler.processInstrument instrument sentimentScore
    let rest ← handler.processEach sentimentScore others
    pure (results ++ rest)

/-- Handle one event: a sentiment beyond the threshold is taken to the affected
instruments. -/
def handleHighImpactNews (handler : SentimentStopHandler) (news : HighImpactNews) :
    Program Failure (List StopSend) (List StopTightenResult) :=
  match news.sentimentScore with
  | none => pure []
  | some sentimentScore =>
    if |sentimentScore| ≤ handler.sentimentThreshold then pure []
    else if news.affectedInstruments.isEmpty then pure []
    else handler.processEach sentimentScore news.affectedInstruments

end SentimentStopHandler

end IgTradingBot
