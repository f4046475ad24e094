import IgTradingBot.Library.Series

/-!
# Features

Technical and market-structure features of a frame of bars, as `build_features` computes them. The
numbers of a frame and the statistics of its columns are those of a library of series, of which all
that matters is that a statistic comes from the rows up to its own.

Every feature of a row is the same whatever bars follow it. Each is made of prices by operations which
look at no later row, with the exception of the swings: those look two rows ahead and are told two
rows later.
-/

namespace IgTradingBot

/-- A bar of a frame. -/
structure OhlcvRow (V : Type) where
  openPrice : V
  high : V
  low : V
  close : V
  volume : V
  spread : V

/-- A frame of bars, with or without a column of spreads. -/
structure OhlcvFrame (V : Type) where
  rows : List (OhlcvRow V)
  hasSpread : Bool

variable {V : Type}

/-- Frames agree up to a row when they have the same columns and the same bars up to it. -/
instance : PrefixFrame (OhlcvFrame V) where
  length frame := frame.rows.length
  Agree row frame other :=
    frame.hasSpread = other.hasSpread ∧ frame.rows.take (row + 1) = other.rows.take (row + 1)
  nested := by
    intro first second frame other less agree
    refine ⟨agree.1, ?_⟩
    have shorter := congrArg (List.take (first + 1)) agree.2
    rw [List.take_take, List.take_take] at shorter
    rwa [Nat.min_eq_left (Nat.succ_le_succ less)] at shorter
  length_iff := by
    intro row frame other agree
    have lengths := congrArg List.length agree.2
    rw [List.length_take, List.length_take] at lengths
    omega

namespace Features

open Series FloatNumber SeriesLibrary

variable [SeriesLibrary V]

/-- What the bars have in a column. -/
def column (get : OhlcvRow V → V) (frame : OhlcvFrame V) : Series V :=
  fun row => (frame.rows[row]?.map get).getD nan

/-- Column of opening prices. -/
def openPrice : OhlcvFrame V → Series V := column OhlcvRow.openPrice

/-- Column of highs. -/
def high : OhlcvFrame V → Series V := column OhlcvRow.high

/-- Column of lows. -/
def low : OhlcvFrame V → Series V := column OhlcvRow.low

/-- Column of closing prices. -/
def close : OhlcvFrame V → Series V := column OhlcvRow.close

/-- Column of volumes. -/
def volume : OhlcvFrame V → Series V := column OhlcvRow.volume

/-- Column of spreads. -/
def spread : OhlcvFrame V → Series V := column OhlcvRow.spread

/-- Exponential average of closing prices. -/
def ema (span : ℕ) (frame : OhlcvFrame V) : Series V := ewmMean (2 / (span + 1)) (close frame)

/-- Distance of the closing price to its average. -/
def emaDistance (span : ℕ) (frame : OhlcvFrame V) : Series V :=
  close frame / ema span frame - constant 1

/-- Average of the gains of closing prices. -/
def gains (period : ℕ) (frame : OhlcvFrame V) : Series V :=
  ewmMean (1 / period) ((close frame).diff.each clipLower)

/-- Average of the losses of closing prices, as a number that is not negative. -/
def losses (period : ℕ) (frame : OhlcvFrame V) : Series V :=
  (ewmMean (1 / period) ((close frame).diff.each clipUpper)).each Neg.neg

/-- Relative strength index. -/
def rsi (period : ℕ) (frame : OhlcvFrame V) : Series V :=
  constant 100 - constant 100 /
    (constant 1 + gains period frame / (losses period frame).each zeroToNaN)

/-- Difference of a short and a long average. -/
def macd (frame : OhlcvFrame V) : Series V := ema 12 frame - ema 26 frame

/-- Average of the difference of averages. -/
def macdSignal (frame : OhlcvFrame V) : Series V := ewmMean (2 / (9 + 1)) (macd frame)

/-- Difference of averages against its own average. -/
def macdHistogram (frame : OhlcvFrame V) : Series V := macd frame - macdSignal frame

/-- Distance of two prices. -/
def distance (first second : V) : V := magnitude (first - second)

/-- True range of a bar and the close before it. -/
def trueRange (frame : OhlcvFrame V) : Series V :=
  let previous := (close frame).shift nan 1
  fun row =>
    maxOf (maxOf (high frame row - low frame row) (distance (high frame row) (previous row)))
      (distance (low frame row) (previous row))

/-- Average true range. -/
def atr (period : ℕ) (frame : OhlcvFrame V) : Series V := ewmMean (1 / period) (trueRange frame)

/-- Average true range in units of the closing price. -/
def atrPct (frame : OhlcvFrame V) : Series V := atr 14 frame / close frame

/-- Middle of the band. -/
def middle (frame : OhlcvFrame V) : Series V := rollingMean 20 (close frame)

/-- Deviation that makes the width of the band. -/
def deviation (frame : OhlcvFrame V) : Series V := rollingStd 20 (close frame)

/-- Upper end of the band. -/
def bollingerUpper (frame : OhlcvFrame V) : Series V := middle frame + constant 2 * deviation frame

/-- Lower end of the band. -/
def bollingerLower (frame : OhlcvFrame V) : Series V := middle frame - constant 2 * deviation frame

/-- Closing price as a part of the band. -/
def bollingerPosition (frame : OhlcvFrame V) : Series V :=
  (close frame - bollingerLower frame) /
    (bollingerUpper frame - bollingerLower frame).each zeroToNaN

/-- Width of the band in units of its middle. -/
def bollingerWidth (frame : OhlcvFrame V) : Series V :=
  (bollingerUpper frame - bollingerLower frame) / middle frame

/-- Relative change of the closing price. -/
def returns (rows : ℕ) (frame : OhlcvFrame V) : Series V := pctChange rows (close frame)

/-- Deviation of the changes from bar to bar. -/
def realizedVolatility (frame : OhlcvFrame V) : Series V := rollingStd 20 (returns 1 frame)

/-- Volatility against what is usual. -/
def volatilityRegime (frame : OhlcvFrame V) : Series V :=
  realizedVolatility frame / rollingMedian 200 (realizedVolatility frame)

/-- Body of a bar. -/
def body (frame : OhlcvFrame V) : Series V := close frame - openPrice frame

/-- Range of a bar. -/
def candleRange (frame : OhlcvFrame V) : Series V := (high frame - low frame).each zeroToNaN

/-- Body as a part of the range. -/
def bodyRatio (frame : OhlcvFrame V) : Series V := body frame / candleRange frame

/-- Upper wick as a part of the range. -/
def upperWickRatio (frame : OhlcvFrame V) : Series V :=
  (high frame - fun row => maxOf (openPrice frame row) (close frame row)) / candleRange frame

/-- Lower wick as a part of the range. -/
def lowerWickRatio (frame : OhlcvFrame V) : Series V :=
  ((fun row => minOf (openPrice frame row) (close frame row)) - low frame) / candleRange frame

/-- A bar of almost no body. -/
def doji (frame : OhlcvFrame V) : Series V :=
  (((body frame).each magnitude / candleRange frame).less (constant (1 / 10))).each indicator

/-- A rising bar whose body holds the body of the falling bar before. -/
def bullishEngulfing (frame : OhlcvFrame V) : Series V :=
  (((((body frame).greater (constant 0)).both
    (((body frame).shift nan 1).less (constant 0))).both
    ((openPrice frame).atMost ((close frame).shift nan 1))).both
    ((close frame).atLeast ((openPrice frame).shift nan 1))).each indicator

/-- Highest high of the bars before. -/
def priorHigh (frame : OhlcvFrame V) : Series V := (rollingMax 20 (high frame)).shift nan 1

/-- Lowest low of the bars before. -/
def priorLow (frame : OhlcvFrame V) : Series V := (rollingMin 20 (low frame)).shift nan 1

/-- How far the highest high is. -/
def distanceToResistance (frame : OhlcvFrame V) : Series V :=
  priorHigh frame / close frame - constant 1

/-- How far the lowest low is. -/
def distanceToSupport (frame : OhlcvFrame V) : Series V := close frame / priorLow frame - constant 1

/-- A close above the highest high. -/
def breakOfStructureUp (frame : OhlcvFrame V) : Series V :=
  ((close frame).greater (priorHigh frame)).each indicator

/-- A close below the lowest low. -/
def breakOfStructureDown (frame : OhlcvFrame V) : Series V :=
  ((close frame).less (priorLow frame)).each indicator

/-- Direction in which the averages lie. -/
def trend (frame : OhlcvFrame V) : Series V := (ema 20 frame - ema 50 frame).each sign

/-- A change of the direction, which the first bar has as well. -/
def changeOfCharacter (frame : OhlcvFrame V) : Series V :=
  ((trend frame).diff.each fun change => !(eq change (ofRat 0))).each indicator

/-- A price that is beyond the two before it and not behind the two after it, told two bars
later. -/
def swing (beyond reaches : V → V → Bool) (prices : OhlcvFrame V → Series V)
    (frame : OhlcvFrame V) : Series V :=
  let price := prices frame
  let length := frame.rows.length
  let peak := (((price.pairs beyond (price.shift nan 1)).both
    (price.pairs beyond (price.shift nan 2))).both
    (price.pairs reaches (price.lead nan length 1))).both
    (price.pairs reaches (price.lead nan length 2))
  (peak.shift false 2).each indicator

/-- A high above its neighbours. -/
def swingHigh : OhlcvFrame V → Series V :=
  swing (fun price neighbour => lt neighbour price) (fun price neighbour => le neighbour price) high

/-- A low below its neighbours. -/
def swingLow : OhlcvFrame V → Series V := swing lt le low

/-- A bar above the bar before the last one. -/
def fairValueGapUp (frame : OhlcvFrame V) : Series V :=
  ((low frame).greater ((high frame).shift nan 2)).each indicator

/-- A bar below the bar before the last one. -/
def fairValueGapDown (frame : OhlcvFrame V) : Series V :=
  ((high frame).less ((low frame).shift nan 2)).each indicator

/-- A bar that passed the highest high and closed below it. -/
def liquiditySweepHigh (frame : OhlcvFrame V) : Series V :=
  (((high frame).greater (priorHigh frame)).both
    ((close frame).less (priorHigh frame))).each indicator

/-- A bar that passed the lowest low and closed above it. -/
def liquiditySweepLow (frame : OhlcvFrame V) : Series V :=
  (((low frame).less (priorLow frame)).both
    ((close frame).greater (priorLow frame))).each indicator

/-- A close above the falling bar before. -/
def bullishOrderBlock (frame : OhlcvFrame V) : Series V :=
  (((((body frame).shift nan 1).less (constant 0)).both
    ((close frame).greater ((high frame).shift nan 1))).both
    ((returns 1 frame).greater (constant 0))).each indicator

/-- A close below the rising bar before. -/
def bearishOrderBlock (frame : OhlcvFrame V) : Series V :=
  (((((body frame).shift nan 1).greater (constant 0)).both
    ((close frame).less ((low frame).shift nan 1))).both
    ((returns 1 frame).less (constant 0))).each indicator

/-- Volume against what is usual. -/
def volumeZscore (frame : OhlcvFrame V) : Series V :=
  (volume frame - rollingMean 20 (volume frame)) / (rollingStd 20 (volume frame)).each zeroToNaN

/-- Values of a frame that has spreads. -/
def whereSpread (values : OhlcvFrame V → Series V) (frame : OhlcvFrame V) : Series V :=
  if frame.hasSpread then values frame else fun _ => nan

/-- Spread of a bar. -/
def spreadEstimate : OhlcvFrame V → Series V := whereSpread spread

/-- Spread in units of the average true range. -/
def spreadAtrRatio : OhlcvFrame V → Series V :=
  whereSpread fun frame => spread frame / atr 14 frame

/-- Features made of averages. -/
def averageColumns : List (String × (OhlcvFrame V → Series V)) :=
  [("ema_9", ema 9), ("ema_9_distance", emaDistance 9), ("ema_20", ema 20),
    ("ema_20_distance", emaDistance 20), ("ema_50", ema 50), ("ema_50_distance", emaDistance 50),
    ("ema_200", ema 200), ("ema_200_distance", emaDistance 200), ("rsi_14", rsi 14), ("macd", macd),
    ("macd_signal", macdSignal), ("macd_histogram", macdHistogram), ("atr_14", atr 14),
    ("atr_pct", atrPct)]

/-- Features made of bands and changes. -/
def bandColumns : List (String × (OhlcvFrame V → Series V)) :=
  [("bollinger_upper", bollingerUpper), ("bollinger_lower", bollingerLower),
    ("bollinger_position", bollingerPosition), ("bollinger_width", bollingerWidth),
    ("return_1", returns 1), ("return_5", returns 5), ("return_20", returns 20),
    ("realized_volatility_20", realizedVolatility), ("volatility_regime", volatilityRegime)]

/-- Features of a bar and the one before. -/
def candleColumns : List (String × (OhlcvFrame V → Series V)) :=
  [("body_ratio", bodyRatio), ("upper_wick_ratio", upperWickRatio),
    ("lower_wick_ratio", lowerWickRatio), ("doji", doji), ("bullish_engulfing", bullishEngulfing)]

/-- Features of the structure of the market. -/
def structureColumns : List (String × (OhlcvFrame V → Series V)) :=
  [("distance_to_resistance", distanceToResistance), ("distance_to_support", distanceToSupport),
    ("break_of_structure_up", breakOfStructureUp),
    ("break_of_structure_down", breakOfStructureDown), ("change_of_character", changeOfCharacter),
    ("swing_high", swingHigh), ("swing_low", swingLow),
    ("fair_value_gap_up", fairValueGapUp), ("fair_value_gap_down", fairValueGapDown),
    ("liquidity_sweep_high", liquiditySweepHigh), ("liquidity_sweep_low", liquiditySweepLow),
    ("bullish_order_block", bullishOrderBlock), ("bearish_order_block", bearishOrderBlock)]

/-- Features of volume and spread. -/
def volumeColumns : List (String × (OhlcvFrame V → Series V)) :=
  [("volume_zscore", volumeZscore), ("spread_estimate", spreadEstimate),
    ("spread_atr_ratio", spreadAtrRatio)]

/-- Every column that is added to a frame, in the order in which it is added. -/
def featureColumns : List (String × (OhlcvFrame V → Series V)) :=
  averageColumns ++ bandColumns ++ candleColumns ++ structureColumns ++ volumeColumns

/-- Features of a row. What is infinite is not a number. -/
def featureRow (frame : OhlcvFrame V) (row : ℕ) : List (String × V) :=
  featureColumns.map fun column => (column.1, infToNaN (column.2 frame row))

/-- Features of every row of a frame. -/
def buildFeatures (frame : OhlcvFrame V) : List (List (String × V)) :=
  (List.range frame.rows.length).map (featureRow frame)

/-- A column looks at no later row. -/
theorem column_is_causal (get : OhlcvRow V → V) : Causal (column get) := by
  rintro row frame other ⟨-, agree⟩
  have same : frame.rows[row]? = other.rows[row]? := by
    rw [← List.getElem?_take_of_lt (Nat.lt_succ_self row), agree,
      List.getElem?_take_of_lt (Nat.lt_succ_self row)]
  unfold column
  rw [same]

/-- An average of closing prices. -/
theorem ema_is_causal (span : ℕ) : Causal (ema span : OhlcvFrame V → Series V) :=
  (column_is_causal OhlcvRow.close).trailing (ewm_mean_is_trailing _)

/-- The distance to an average. -/
theorem ema_distance_is_causal (span : ℕ) : Causal (emaDistance span : OhlcvFrame V → Series V) :=
  ((column_is_causal OhlcvRow.close).div (ema_is_causal span)).sub (looks_const _)

/-- The relative strength index is made of gains and losses, each an average of changes. -/
theorem rsi_is_causal (period : ℕ) : Causal (rsi period : OhlcvFrame V → Series V) := by
  have changes := (column_is_causal (V := V) OhlcvRow.close).diff
  have gains_are_causal : Causal (gains period : OhlcvFrame V → Series V) :=
    (changes.map clipLower).trailing (ewm_mean_is_trailing _)
  have losses_are_causal : Causal (losses period : OhlcvFrame V → Series V) :=
    ((changes.map clipUpper).trailing (ewm_mean_is_trailing _)).map Neg.neg
  have strength := gains_are_causal.div (losses_are_causal.map zeroToNaN)
  exact (looks_const _).sub ((looks_const _).div ((looks_const _).add strength))

/-- The difference of two averages. -/
theorem macd_is_causal : Causal (macd : OhlcvFrame V → Series V) :=
  (ema_is_causal 12).sub (ema_is_causal 26)

/-- The average of the difference. -/
theorem macd_signal_is_causal : Causal (macdSignal : OhlcvFrame V → Series V) :=
  macd_is_causal.trailing (ewm_mean_is_trailing _)

/-- The average true range is made of a bar and the close before it. -/
theorem atr_is_causal (period : ℕ) : Causal (atr period : OhlcvFrame V → Series V) := by
  have highs := column_is_causal (V := V) OhlcvRow.high
  have lows := column_is_causal (V := V) OhlcvRow.low
  have previous := (column_is_causal (V := V) OhlcvRow.close).shift nan 1
  have ranges : Causal (trueRange : OhlcvFrame V → Series V) :=
    ((highs.sub lows).zip (highs.zip previous distance) maxOf).zip
      (lows.zip previous distance) maxOf
  exact ranges.trailing (ewm_mean_is_trailing _)

/-- Features made of averages. -/
theorem average_columns_are_causal :
    ∀ column ∈ averageColumns (V := V), Causal column.2 := by
  simp only [averageColumns, List.forall_mem_cons]
  refine ⟨ema_is_causal 9, ema_distance_is_causal 9, ema_is_causal 20, ema_distance_is_causal 20,
    ema_is_causal 50, ema_distance_is_causal 50, ema_is_causal 200, ema_distance_is_causal 200,
    rsi_is_causal 14, macd_is_causal, macd_signal_is_causal, ?_, atr_is_causal 14, ?_,
    List.forall_mem_nil _⟩
  · exact macd_is_causal.sub macd_signal_is_causal
  · exact (atr_is_causal (V := V) 14).div (column_is_causal OhlcvRow.close)

/-- The ends of the band. -/
theorem bollinger_is_causal : Causal (bollingerUpper : OhlcvFrame V → Series V) ∧
    Causal (bollingerLower : OhlcvFrame V → Series V) := by
  have middles : Causal (middle : OhlcvFrame V → Series V) :=
    (column_is_causal OhlcvRow.close).trailing (rolling_mean_is_trailing 20)
  have deviations : Causal (deviation : OhlcvFrame V → Series V) :=
    (column_is_causal OhlcvRow.close).trailing (rolling_std_is_trailing 20)
  exact ⟨middles.add ((looks_const _).mul deviations), middles.sub ((looks_const _).mul deviations)⟩

/-- A change of the closing price. -/
theorem returns_is_causal (rows : ℕ) : Causal (returns rows : OhlcvFrame V → Series V) :=
  (column_is_causal OhlcvRow.close).trailing (pct_change_is_trailing rows)

/-- The deviation of changes. -/
theorem realized_volatility_is_causal : Causal (realizedVolatility : OhlcvFrame V → Series V) :=
  (returns_is_causal 1).trailing (rolling_std_is_trailing 20)

/-- Features made of bands and changes. -/
theorem band_columns_are_causal : ∀ column ∈ bandColumns (V := V), Causal column.2 := by
  have closes := column_is_causal (V := V) OhlcvRow.close
  obtain ⟨uppers, lowers⟩ := bollinger_is_causal (V := V)
  simp only [bandColumns, List.forall_mem_cons]
  refine ⟨uppers, lowers, ?_, ?_, returns_is_causal 1, returns_is_causal 5, returns_is_causal 20,
    realized_volatility_is_causal, ?_, List.forall_mem_nil _⟩
  · exact (closes.sub lowers).div ((uppers.sub lowers).map zeroToNaN)
  · exact (uppers.sub lowers).div (closes.trailing (rolling_mean_is_trailing 20))
  · exact realized_volatility_is_causal.div
      (realized_volatility_is_causal.trailing (rolling_median_is_trailing 200))

/-- The body of a bar. -/
theorem body_is_causal : Causal (body : OhlcvFrame V → Series V) :=
  (column_is_causal OhlcvRow.close).sub (column_is_causal OhlcvRow.openPrice)

/-- The range of a bar. -/
theorem candle_range_is_causal : Causal (candleRange : OhlcvFrame V → Series V) :=
  ((column_is_causal OhlcvRow.high).sub (column_is_causal OhlcvRow.low)).map zeroToNaN

/-- Features of a bar and the one before. -/
theorem candle_columns_are_causal : ∀ column ∈ candleColumns (V := V), Causal column.2 := by
  have opens := column_is_causal (V := V) OhlcvRow.openPrice
  have closes := column_is_causal (V := V) OhlcvRow.close
  simp only [candleColumns, List.forall_mem_cons]
  refine ⟨body_is_causal.div candle_range_is_causal, ?_, ?_, ?_, ?_, List.forall_mem_nil _⟩
  · exact ((column_is_causal OhlcvRow.high).sub (opens.zip closes maxOf)).div candle_range_is_causal
  · exact ((opens.zip closes minOf).sub (column_is_causal OhlcvRow.low)).div candle_range_is_causal
  · have parts := (body_is_causal (V := V).map magnitude).div candle_range_is_causal
    exact (parts.less (looks_const _)).map indicator
  · have rising := body_is_causal (V := V).greater (looks_const (constant 0))
    have falling := (body_is_causal (V := V).shift nan 1).less (looks_const (constant 0))
    have opened := opens.atMost (closes.shift nan 1)
    have closed := closes.atLeast (opens.shift nan 1)
    exact (((rising.both falling).both opened).both closed).map indicator

/-- The highest high and the lowest low of the bars before. -/
theorem prior_extremes_are_causal : Causal (priorHigh : OhlcvFrame V → Series V) ∧
    Causal (priorLow : OhlcvFrame V → Series V) :=
  ⟨((column_is_causal OhlcvRow.high).trailing (rolling_max_is_trailing 20)).shift nan 1,
    ((column_is_causal OhlcvRow.low).trailing (rolling_min_is_trailing 20)).shift nan 1⟩

/-- A swing needs the two bars behind it, and it is told two bars later. -/
theorem swing_is_causal {prices : OhlcvFrame V → Series V} (causal : Causal prices)
    (beyond reaches : V → V → Bool) : Causal (swing beyond reaches prices) := by
  have current := causal.mono (Nat.zero_le 2)
  have last := current.zip ((causal.shift nan 1).mono (Nat.zero_le 2)) beyond
  have beforeLast := current.zip ((causal.shift nan 2).mono (Nat.zero_le 2)) beyond
  have next := current.zip ((causal.lead nan 1).mono (Nat.le_succ 1)) reaches
  have overNext := current.zip (causal.lead nan 2) reaches
  exact ((((last.both beforeLast).both next).both overNext).shift false 2).map indicator

/-- Features of the structure of the market. -/
theorem structure_columns_are_causal :
    ∀ column ∈ structureColumns (V := V), Causal column.2 := by
  have closes := column_is_causal (V := V) OhlcvRow.close
  have highs := column_is_causal (V := V) OhlcvRow.high
  have lows := column_is_causal (V := V) OhlcvRow.low
  have bodies := body_is_causal (V := V).shift nan 1
  have zero : Causal fun _ : OhlcvFrame V => constant (V := V) 0 := looks_const _
  obtain ⟨priorHighs, priorLows⟩ := prior_extremes_are_causal (V := V)
  simp only [structureColumns, List.forall_mem_cons]
  refine ⟨?_, ?_, ?_, ?_, ?_, swing_is_causal highs _ _, swing_is_causal lows _ _, ?_, ?_, ?_,
    ?_, ?_, ?_, List.forall_mem_nil _⟩
  · exact (priorHighs.div closes).sub (looks_const _)
  · exact (closes.div priorLows).sub (looks_const _)
  · exact (closes.greater priorHighs).map indicator
  · exact (closes.less priorLows).map indicator
  · have trends := ((ema_is_causal (V := V) 20).sub (ema_is_causal 50)).map sign
    exact (trends.diff.map fun change => !(eq change (ofRat 0))).map indicator
  · exact (lows.greater (highs.shift nan 2)).map indicator
  · exact (highs.less (lows.shift nan 2)).map indicator
  · exact ((highs.greater priorHighs).both (closes.less priorHighs)).map indicator
  · exact ((lows.less priorLows).both (closes.greater priorLows)).map indicator
  · exact (((bodies.less zero).both (closes.greater (highs.shift nan 1))).both
      ((returns_is_causal 1).greater zero)).map indicator
  · exact (((bodies.greater zero).both (closes.less (lows.shift nan 1))).both
      ((returns_is_causal 1).less zero)).map indicator

/-- Whether a frame has spreads is known in every row. -/
theorem where_spread_is_causal {values : OhlcvFrame V → Series V} (causal : Causal values) :
    Causal (whereSpread values) := by
  intro row frame other agree
  unfold whereSpread
  rw [agree.1]
  split_ifs with exist
  · exact causal row frame other agree
  · rfl

/-- Features of volume and spread. -/
theorem volume_columns_are_causal : ∀ column ∈ volumeColumns (V := V), Causal column.2 := by
  have volumes := column_is_causal (V := V) OhlcvRow.volume
  have spreads := column_is_causal (V := V) OhlcvRow.spread
  simp only [volumeColumns, List.forall_mem_cons]
  refine ⟨?_, where_spread_is_causal spreads, ?_, List.forall_mem_nil _⟩
  · exact (volumes.sub (volumes.trailing (rolling_mean_is_trailing 20))).div
      ((volumes.trailing (rolling_std_is_trailing 20)).map zeroToNaN)
  · exact where_spread_is_causal (spreads.div (atr_is_causal 14))

/-- Every feature looks at no later row. -/
theorem feature_columns_are_causal : ∀ column ∈ featureColumns (V := V), Causal column.2 := by
  intro column member
  simp only [featureColumns, List.mem_append] at member
  obtain (((member | member) | member) | member) | member := member
  · exact average_columns_are_causal column member
  · exact band_columns_are_causal column member
  · exact candle_columns_are_causal column member
  · exact structure_columns_are_causal column member
  · exact volume_columns_are_causal column member

/-- The features of a row are the same for any two frames that agree up to it, whatever bars
follow. -/
theorem features_are_causal (frame other : OhlcvFrame V) (row : ℕ)
    (sameColumns : frame.hasSpread = other.hasSpread)
    (samePast : frame.rows.take (row + 1) = other.rows.take (row + 1)) :
    (buildFeatures frame)[row]? = (buildFeatures other)[row]? := by
  have agree : PrefixFrame.Agree row frame other := ⟨sameColumns, samePast⟩
  have sameFeatures : featureRow frame row = featureRow other row := by
    refine List.map_congr_left fun column member => ?_
    have same := feature_columns_are_causal column member row frame other agree
    rw [same]
  have exist : row < frame.rows.length ↔ row < other.rows.length := PrefixFrame.length_iff agree
  simp only [buildFeatures, List.getElem?_map]
  by_cases inside : row < frame.rows.length
  · rw [List.getElem?_range inside, List.getElem?_range (exist.mp inside)]
    exact congrArg some sameFeatures
  · rw [List.getElem?_eq_none (by simpa using inside),
      List.getElem?_eq_none (by simpa using fun less => inside (exist.mpr less))]
    rfl

/-- A bar of some prices. -/
def exampleBar (first highest lowest last : ℚ) : OhlcvRow Float where
  openPrice := ofRat first
  high := ofRat highest
  low := ofRat lowest
  close := ofRat last
  volume := ofRat 100
  spread := ofRat 1

/-- Three bars, of which the second has the highest high when no other follows. -/
def exampleBars : List (OhlcvRow Float) :=
  [exampleBar 10 11 9 10, exampleBar 10 14 10 13, exampleBar 13 13 11 12]

/-- A higher bar that follows three bars leaves the features of the third. -/
theorem later_bar_leaves_features :
    (buildFeatures (V := Float) ⟨exampleBars, true⟩)[2]? =
      (buildFeatures ⟨exampleBars ++ [exampleBar 12 20 12 19], true⟩)[2]? :=
  features_are_causal ⟨exampleBars, true⟩ ⟨exampleBars ++ [exampleBar 12 20 12 19], true⟩ 2 rfl rfl

end Features

end IgTradingBot
