import Mathlib.Data.Rat.Defs

/-!
# System constants

The fixed defaults of `src/config/constants.py` that the modelled components
read. A float literal of the source is the exact decimal it spells, which is
also what the source obtains wherever it passes the literal through `str`.
-/

namespace IgTradingBot.Constants

/-- Risk per trade as a fraction of equity. -/
def defaultRiskPerTradePct : ℚ := 1 / 100

/-- Largest position size as a fraction of equity. -/
def maxPositionSizePct : ℚ := 5 / 100

/-- Daily realized loss limit as a fraction of equity. -/
def dailyMaxLossPct : ℚ := 3 / 100

/-- Drawdown from which sizes are reduced. -/
def drawdownReductionPct : ℚ := 10 / 100

/-- Multiplier of a size that is reduced for drawdown. -/
def drawdownSizeReductionFactor : ℚ := 25 / 100

/-- Drawdown from which the kill switch is triggered. -/
def killSwitchDrawdownPct : ℚ := 15 / 100

/-- Stop distance in average true ranges. -/
def atrMultiplierDefault : ℚ := 3 / 2

/-- Volatility score above which sizes are reduced. -/
def atrVolatilityZscoreThreshold : ℚ := 2

/-- Multiplier of a size that is reduced for volatility. -/
def volatilitySizeReductionFactor : ℚ := 1 / 2

/-- Smallest accepted ratio of reward to risk. -/
def minRiskRewardRatio : ℚ := 3 / 2

/-- Largest notional exposure to one asset class as a fraction of equity. -/
def maxExposurePerClassPct : ℚ := 30 / 100

/-- Largest total notional exposure as a fraction of equity. -/
def maxTotalExposurePct : ℚ := 70 / 100

/-- Attempts of one broker request. -/
def apiRetryMaxAttempts : ℕ := 5

/-- Minimum active time of the kill switch, in minutes. -/
def killSwitchMinActiveMinutes : ℚ := 5

/-- Time that the kill switch gives one attempt to close a position, in seconds. -/
def killSwitchCloseTimeoutSeconds : ℕ := 10

/-- Base of the exponential backoff of one broker request, in seconds. -/
def apiRetryBaseSeconds : ℚ := 2

/-- Requests that wait at most while the broker limits the rate. -/
def requestQueueMaxSize : ℕ := 50

/-- Orders a second of the high-frequency components. -/
def hftMaxOrderRateDefault : ℤ := 100

/-- Orders a second and instrument of the high-frequency components. -/
def hftMaxPerInstrumentRate : ℤ := 50

/-- Largest high-frequency trade as a fraction of equity. -/
def hftMaxTradeSizePct : ℚ := 5 / 1000

/-- Largest high-frequency exposure as a fraction of equity. -/
def hftMaxExposurePct : ℚ := 15 / 100

/-- Profit of a minute below which high-frequency trading pauses, as a fraction of equity. -/
def hftCircuitBreakerPnlPct : ℚ := -5 / 1000

/-- Length of that pause. -/
def hftCircuitBreakerDurationSeconds : ℚ := 60

/-- Pauses within the window after which high-frequency trading is disabled. -/
def hftCircuitBreakerMaxActivations : ℕ := 3

/-- The window in which the pauses are counted. -/
def hftCircuitBreakerWindowHours : ℚ := 1

/-- Age of a high-frequency order above which it is cancelled, in milliseconds. -/
def hftLatencyRejectionMs : ℚ := 500

/-- Share of rejected orders above which high-frequency trading is throttled. -/
def hftThrottleRejectionRatePct : ℚ := 20 / 100

/-- Confidence below which a signal is not traded. -/
def confidenceThresholdDefault : ℤ := 60

/-- Losses of one class that make a mistake pattern. -/
def mistakePatternThreshold : ℕ := 5

/-- Days in which the losses of a mistake pattern are counted. -/
def mistakePatternWindowDays : ℚ := 30

/-- Profits that resolve a mistake pattern. -/
def mistakeResolutionStreak : ℕ := 20

/-- Confidence penalty of a mistake pattern. -/
def mistakeBaseConfidencePenalty : ℤ := 20

/-- Confidence penalty of a mistake pattern that was reactivated. -/
def mistakeReactivatedConfidencePenalty : ℤ := 30

/-- Size multiplier of a mistake pattern. -/
def mistakeBaseSizeReduction : ℚ := 70 / 100

/-- Size multiplier of a mistake pattern that was reactivated. -/
def mistakeReactivatedSizeReduction : ℚ := 50 / 100

/-- Indicators of a mistake pattern that a signal has to match. -/
def mistakePatternMatchIndicators : ℕ := 3

/-- Indicators of a mistake pattern that are compared. -/
def mistakePatternTotalIndicators : ℕ := 5

/-- Confidence that is required while few trades win. -/
def confidenceThresholdElevated : ℤ := 75

/-- Trades a day of a strategy on an instrument. -/
def maxTradesPerDayDefault : ℤ := 10

/-- Minutes between two trades on an instrument. -/
def minTradeIntervalMinutes : ℚ := 5

/-- Length of the cooldown of an instrument, in hours. -/
def consecutiveLossCooldownHours : ℚ := 1

/-- Losses in a row that start a cooldown. -/
def consecutiveLossThreshold : ℕ := 3

/-- Share of winning trades below which trading is throttled. -/
def winRateThrottleThreshold : ℚ := 40 / 100

/-- Accuracy from which on a model takes part in the ensemble. -/
def mlAccuracyThreshold : ℚ := 52 / 100

/-- Sharpe ratio below which an evaluation counts against a strategy. -/
def strategyDisableSharpeThreshold : ℚ := 5 / 10

/-- Sharpe ratio above which a disabled strategy is enabled again. -/
def strategyEnableSharpeThreshold : ℚ := 1

/-- Days after its return within which a strategy that is disabled is suspended. -/
def strategySuspensionDays : ℤ := 14

/-- Traders that can be copied at the same time. -/
def copyMaxTraders : ℕ := 10

/-- Largest share of the equity for a copied trader. -/
def copyMaxAllocationPct : ℚ := 10 / 100

/-- Smallest share of the equity for a copied trader. -/
def copyMinAllocationPct : ℚ := 1 / 100

/-- Drawdown on the allocated capital that stops the copying of a trader. -/
def copyDrawdownStopPct : ℚ := 15 / 100

/-- Seconds in which a copied trade has to be executed. -/
def copyExecutionTimeoutSeconds : ℚ := 3

/-- Seconds without a tick after which an instrument is stale. -/
def tickStalenessSeconds : ℚ := 60

/-- Articles of a group that make a crisis. -/
def newsCrisisArticleThreshold : ℕ := 3

/-- Sentiment up to which an article counts for a crisis. -/
def newsCrisisSentimentThreshold : ℚ := -7 / 10

/-- Minutes in which the articles of a crisis are counted. -/
def newsCrisisTimeWindowMinutes : ℚ := 10

/-- Minutes without recovery after which a crisis is escalated. -/
def newsCrisisPersistenceMinutes : ℚ := 30

/-- Sentiment above which a crisis recovers. -/
def newsCrisisRecoveryThreshold : ℚ := -3 / 10

/-- Minutes before an economic event in which risk is reduced. -/
def newsPreEventRiskWindowMinutes : ℚ := 15

/-- Minutes before an economic event in which signals are paused. -/
def newsPreEventSignalPauseMinutes : ℚ := 5

/-- Risk score from which a region is one of high risk. -/
def geopoliticalRiskHighThreshold : ℚ := 70

/-- Slippage of a backtest in pips. -/
def backtestDefaultSlippagePips : ℚ := 5 / 10

/-- Days that the data of a backtest spans at least. -/
def backtestMinDays : ℤ := 30

/-- Rows that the data of a backtest has at least. -/
def backtestMinTrades : ℕ := 100

end IgTradingBot.Constants
