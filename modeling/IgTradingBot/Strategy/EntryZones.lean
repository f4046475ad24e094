import IgTradingBot.Library.Extremes
import IgTradingBot.Research.ProfessionalBacktest

/-!
# Entry zones

The zones from which the professional strategy enters: a fair value gap that a fast market left
between a bar and the second bar before it, and the last opposite bar before a displacement. Both
detectors look for the latest one and mark it when the market came back.

A detector summarises the bars that come later by their least low and their greatest high. These may
be of two different bars, so that bars on both sides of the zone mark it although the market jumped
over it. Where the later bars all lie on one side, or one of them overlaps the zone, the mark says
what it should.
-/

namespace IgTradingBot

/-- Direction of the higher timeframes. -/
inductive MarketBias where
  | bullish
  | bearish
  | neutral
  deriving DecidableEq, Repr

/-- What is said of the fair value gap of a frame. -/
structure FairValueGap where
  detected : Bool
  direction : MarketBias
  lower : Option ℚ
  upper : Option ℚ
  createdIndex : Option ℕ
  retraced : Bool
  deriving DecidableEq, Repr

/-- Fair value gap detection and pullback validation. -/
structure FairValueGapDetector where
  searchBars : ℤ := 20
  deriving DecidableEq, Repr

/-- What is said of the order block of a frame. -/
structure OrderBlock where
  detected : Bool
  direction : MarketBias
  lower : Option ℚ
  upper : Option ℚ
  createdIndex : Option ℕ
  retraced : Bool
  deriving DecidableEq, Repr

/-- Displacement-based order block approximation. -/
structure OrderBlockDetector where
  searchBars : ℤ := 20
  displacementAtr : ℚ := 1
  deriving DecidableEq, Repr

/-- The mark of a zone, from the extremes of the bars that came later. -/
def retracedBy (recent : List FiveMinuteBar) (lower upper : ℚ) : Bool :=
  !recent.isEmpty &&
    ((recent.map FiveMinuteBar.low).min?.any fun lowest => decide (lowest ≤ upper)) &&
    (recent.map FiveMinuteBar.high).max?.any fun highest => decide (lower ≤ highest)

namespace FairValueGapDetector

/-- The gap between the bar of an index and the second bar before it, if they leave one. -/
def gapAt (frame : List FiveMinuteBar) (direction : MarketBias) (index : ℕ) :
    Option (ℚ × ℚ) := do
  let bar ← frame[index]?
  let before ← frame[index - 2]?
  match direction with
  | .bullish => if before.high < bar.low then some (before.high, bar.low) else none
  | .bearish => if bar.high < before.low then some (bar.high, before.low) else none
  | .neutral => none

/-- The latest gap of a frame, among the bars that are searched. -/
def detect (self : FairValueGapDetector) (frame : List FiveMinuteBar) (direction : MarketBias) :
    FairValueGap :=
  let start := (max 2 ((frame.length : ℤ) - self.searchBars)).toNat
  let found := (List.range' start (frame.length - start)).reverse.findSome? fun index =>
    (gapAt frame direction index).map fun zone => (index, zone)
  match found with
  | some (index, lower, upper) =>
    ⟨true, direction, some lower, some upper, some index,
      retracedBy (frame.drop (index + 1)) lower upper⟩
  | none => ⟨false, direction, none, none, none, false⟩

end FairValueGapDetector

namespace OrderBlockDetector

/-- The bar of an index, if it goes against the direction and a displacement follows it. -/
def blockAt (self : OrderBlockDetector) (frame : List FiveMinuteBar) (direction : MarketBias)
    (atr : ℚ) (index : ℕ) : Option (ℚ × ℚ) := do
  let candle ← frame[index]?
  let nextCandle ← frame[index + 1]?
  let body := |nextCandle.close - nextCandle.openPrice|
  if body < atr * self.displacementAtr then none
  else
    let bullish := direction = .bullish ∧ candle.close < candle.openPrice
    let bearish := direction = .bearish ∧ candle.openPrice < candle.close
    if ¬bullish ∧ ¬bearish then none else some (candle.low, candle.high)

/-- The latest order block of a frame, among the bars that are searched. -/
def detect (self : OrderBlockDetector) (frame : List FiveMinuteBar) (direction : MarketBias)
    (atr : ℚ) : OrderBlock :=
  let start := (max 1 ((frame.length : ℤ) - self.searchBars)).toNat
  let found := (List.range' start (frame.length - 1 - start)).reverse.findSome? fun index =>
    (blockAt self frame direction atr index).map fun zone => (index, zone)
  match found with
  | some (index, lower, upper) =>
    ⟨true, direction, some lower, some upper, some index,
      retracedBy (frame.drop (index + 2)) lower upper⟩
  | none => ⟨false, direction, none, none, none, false⟩

end OrderBlockDetector

/-- A zone, with the bars that came after it was complete and the mark that it was given. -/
structure EntryZone where
  lower : ℚ
  upper : ℚ
  recent : List FiveMinuteBar
  retraced : Bool
  deriving DecidableEq, Repr

/-- The zones that the detectors find in a frame. A gap is complete at its bar, an order block at
the displacement that follows it. -/
inductive DetectedZone (frame : List FiveMinuteBar) : EntryZone → Prop where
  | gap {detector : FairValueGapDetector} {direction : MarketBias} {lower upper : ℚ} {index : ℕ}
      {retraced : Bool}
      (found : detector.detect frame direction =
        ⟨true, direction, some lower, some upper, some index, retraced⟩) :
      DetectedZone frame ⟨lower, upper, frame.drop (index + 1), retraced⟩
  | block {detector : OrderBlockDetector} {direction : MarketBias} {atr lower upper : ℚ} {index : ℕ}
      {retraced : Bool}
      (found : detector.detect frame direction atr =
        ⟨true, direction, some lower, some upper, some index, retraced⟩) :
      DetectedZone frame ⟨lower, upper, frame.drop (index + 2), retraced⟩

namespace EntryZone

/-- The range of a bar, from its low to its high, overlaps the zone. -/
def Overlaps (zone : EntryZone) (bar : FiveMinuteBar) : Prop :=
  bar.low ≤ zone.upper ∧ zone.lower ≤ bar.high

/-- The market came back to the zone: the range of some later bar overlaps it. -/
def Retraced (zone : EntryZone) : Prop := ∃ bar ∈ zone.recent, zone.Overlaps bar

/-- The later bars do not jump over the zone: one overlaps it, or all of them lie above it, or all of
them lie below it. -/
def NeverJumped (zone : EntryZone) : Prop :=
  zone.Retraced ∨
    (∀ bar ∈ zone.recent, zone.upper < bar.low) ∨ ∀ bar ∈ zone.recent, bar.high < zone.lower

end EntryZone

/-- Bars mark a zone when one of them is low enough and one of them, maybe another, high enough. -/
theorem retraced_by_iff {recent : List FiveMinuteBar} {lower upper : ℚ} :
    retracedBy recent lower upper = true ↔
      (∃ bar ∈ recent, bar.low ≤ upper) ∧ ∃ bar ∈ recent, lower ≤ bar.high := by
  simp only [retracedBy, Bool.and_eq_true, Extremes.least_le_iff, Extremes.le_greatest_iff]
  constructor
  · rintro ⟨⟨-, reached⟩, touched⟩
    exact ⟨reached, touched⟩
  · rintro ⟨reached, touched⟩
    refine ⟨⟨?_, reached⟩, touched⟩
    obtain ⟨bar, member, -⟩ := reached
    simpa using List.ne_nil_of_mem member

/-- A detector gives a zone the mark of the bars that came later. -/
theorem DetectedZone.mark {frame : List FiveMinuteBar} {zone : EntryZone}
    (found : DetectedZone frame zone) :
    zone.retraced = retracedBy zone.recent zone.lower zone.upper := by
  cases found with
  | gap found =>
    simp only [FairValueGapDetector.detect] at found
    split at found
    · cases found
      rfl
    · cases found
  | block found =>
    simp only [OrderBlockDetector.detect] at found
    split at found
    · cases found
      rfl
    · cases found

namespace EntryZone

/-- A bar that overlaps the zone is low enough and high enough. -/
theorem Retraced.both_edges {zone : EntryZone} (back : zone.Retraced) :
    (∃ bar ∈ zone.recent, bar.low ≤ zone.upper) ∧ ∃ bar ∈ zone.recent, zone.lower ≤ bar.high := by
  obtain ⟨bar, member, low, high⟩ := back
  exact ⟨⟨bar, member, low⟩, ⟨bar, member, high⟩⟩

/-- A zone that a detector finds is marked as retraced exactly when the market came back to it, if
and only if the later bars do not jump over it. -/
theorem retraced_truthful_iff {frame : List FiveMinuteBar} {zone : EntryZone}
    (found : DetectedZone frame zone) :
    (zone.retraced = true ↔ zone.Retraced) ↔ zone.NeverJumped := by
  rw [found.mark, retraced_by_iff]
  constructor
  · intro truthful
    by_cases low : ∃ bar ∈ zone.recent, bar.low ≤ zone.upper
    · by_cases high : ∃ bar ∈ zone.recent, zone.lower ≤ bar.high
      · exact .inl (truthful.mp ⟨low, high⟩)
      · exact .inr (.inr (by simpa using high))
    · exact .inr (.inl (by simpa using low))
  · intro steady
    refine ⟨?_, Retraced.both_edges⟩
    rintro ⟨⟨lowBar, lowMember, low⟩, highBar, highMember, high⟩
    obtain back | above | below := steady
    · exact back
    · exact absurd low (above lowBar lowMember).not_ge
    · exact absurd high (below highBar highMember).not_ge

/-- Five bars of a market that leaves a gap upwards, comes back into it, and then falls below it. -/
def cameBack : List FiveMinuteBar :=
  [⟨0, 11, 12, 10, 11⟩, ⟨300, 12, 15, 12, 15⟩, ⟨600, 15, 16, 14, 16⟩, ⟨900, 16, 16, 13, 13⟩,
    ⟨1200, 11, 11, 10, 10⟩]

/-- The mark says that the market came back where a bar overlaps the gap. -/
theorem came_back_marked : Retraced ⟨12, 14, cameBack.drop 3, true⟩ :=
  ((retraced_truthful_iff
    (@DetectedZone.gap cameBack {} .bullish 12 14 2 true (by decide +kernel))).mpr
      (.inl (by simp only [Retraced, Overlaps]; decide +kernel))).mp rfl

/-- The same market, when it stays above the gap for a bar and then falls below it at once. -/
def fallenThrough : List FiveMinuteBar :=
  [⟨0, 11, 12, 10, 11⟩, ⟨300, 12, 15, 12, 15⟩, ⟨600, 15, 16, 14, 16⟩, ⟨900, 16, 16, 15, 15⟩,
    ⟨1200, 11, 11, 10, 10⟩]

/-- The gap of that market, with the bars after it and its mark. -/
def jumpedGap : EntryZone := ⟨12, 14, fallenThrough.drop 3, true⟩

/-- The market jumps over the gap, no bar overlaps it, and yet the gap is marked. -/
theorem jump_marked :
    DetectedZone fallenThrough jumpedGap ∧ jumpedGap.retraced = true ∧ ¬jumpedGap.Retraced := by
  refine ⟨?_, rfl, ?_⟩
  · exact @DetectedZone.gap fallenThrough {} .bullish 12 14 2 true (by decide +kernel)
  · simp only [Retraced, Overlaps]
    decide +kernel

end EntryZone

end IgTradingBot
