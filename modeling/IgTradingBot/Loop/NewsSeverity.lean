import IgTradingBot.Loop.NewsOverlay

/-!
# Severity of news

Whether a higher risk score allows a smaller size. The actions follow the scores, and the
sizes follow the actions but for one pair: a moderate risk asks for extra confirmation and
drops a signal that has none, an elevated risk lets the same signal through with half of its
size.
-/

namespace IgTradingBot

open TradingLoop

namespace NewsSituation

/-- The cache of a situation after its refresh. -/
def refreshed (text : TextOperations) (situation : NewsSituation) : FreeNewsSafetyLayer :=
  situation.layer.refresh text situation.now situation.answers

/-- The headlines decide on a symbol, and the highest score among those that match it lies
in a range. -/
structure PeaksIn (text : TextOperations) (situation : NewsSituation) (symbol : String)
    (low high : ℤ) : Prop where
  decides : situation.layer.HeadlinesDecide text symbol situation.now situation.answers
  reached : ∃ headline ∈ (situation.refreshed text).matchedHeadlines text symbol,
    low ≤ FreeNewsSafetyLayer.headlineScore text symbol headline
  bounded : ∀ headline ∈ (situation.refreshed text).matchedHeadlines text symbol,
    FreeNewsSafetyLayer.headlineScore text symbol headline < high

/-- The highest of some scores, none of which is negative where there are any, lies in a
positive range exactly when some score reaches it and none exceeds it. -/
theorem highest_in_range (scores : List ℤ) {low high : ℤ} (positive : 0 < low) :
    low ≤ scores.max?.getD 0 ∧ scores.max?.getD 0 < high ↔
      (∃ score ∈ scores, low ≤ score) ∧ ∀ score ∈ scores, score < high := by
  cases highest : scores.max? with
  | none =>
    have none : scores = [] := List.max?_eq_none_iff.mp highest
    subst none
    simp [positive]
  | some top =>
    obtain ⟨member, above⟩ := List.max?_eq_some_iff.mp highest
    simp only [Option.getD_some]
    constructor
    · rintro ⟨reached, bounded⟩
      exact ⟨⟨top, member, reached⟩, fun score other => (above score other).trans_lt bounded⟩
    · rintro ⟨⟨score, other, reached⟩, bounded⟩
      exact ⟨reached.trans (above score other), bounded top member⟩

/-- A decision has a score in a range below the blocks of the layer exactly when the headlines
decide with a highest score in the range. -/
theorem peaks_in_iff (text : TextOperations) (situation : NewsSituation) (signal : Signal)
    {low high : ℤ} (positive : 0 < low) (below : high ≤ 100) :
    low ≤ (newsDecision text situation signal).newsRiskScore ∧
        (newsDecision text situation signal).newsRiskScore < high ↔
      situation.PeaksIn text (FreeNewsSafetyLayer.normaliseSymbol text (newsSymbol signal))
        low high := by
  obtain ⟨decides, scored⟩ | ⟨undecided, extreme⟩ := FreeNewsSafetyLayer.evaluate_score text
    situation.layer (newsSymbol signal) situation.now situation.answers
  · simp only [newsDecision, scored]
    refine (highest_in_range _ positive).trans ?_
    constructor
    · rintro ⟨⟨score, member, reached⟩, bounded⟩
      obtain ⟨headline, matched, rfl⟩ := List.mem_map.mp member
      exact ⟨decides, ⟨headline, matched, reached⟩,
        fun other matched => bounded _ (List.mem_map_of_mem matched)⟩
    · intro peaks
      obtain ⟨headline, matched, reached⟩ := peaks.reached
      refine ⟨⟨_, List.mem_map_of_mem matched, reached⟩, ?_⟩
      intro score member
      obtain ⟨other, matched, rfl⟩ := List.mem_map.mp member
      exact peaks.bounded other matched
  · constructor
    · rintro ⟨reached, bounded⟩
      simp only [newsDecision] at reached bounded
      omega
    · intro peaks
      exact absurd peaks.decides undecided

end NewsSituation

namespace TradingLoop

open FreeNewsSafetyLayer (actionForScore)

/-- The share of a size that a score allows. -/
def allowedShare (confirmed : Bool) (score : ℤ) : ℚ :=
  if 80 ≤ score then 0
  else if 55 ≤ score then 1 / 2
  else if 35 ≤ score then if confirmed then 1 else 0
  else 1

/-- The size that a score allows is a share of the signal's. -/
theorem allowed_size_eq_share (score : ℤ) (signal : Signal) :
    allowedSize (actionForScore score) signal =
      allowedShare signal.extraConfirmation score * signal.size.getD limits.tradeSize := by
  simp only [actionForScore, allowedShare]
  split_ifs with severe elevated moderate confirmed
  · simp [allowedSize, newsCheck]
  · simp only [allowedSize, newsCheck, Option.getD_some]
    ring
  · simp [allowedSize, newsCheck, confirmed]
  · simp [allowedSize, newsCheck, confirmed]
  · simp [allowedSize, newsCheck]

/-- The shares fall with the score, but for the step from moderate to elevated without a
confirmation. -/
theorem allowed_share_le_iff (confirmed : Bool) {low high : ℤ} (ordered : low ≤ high) :
    allowedShare confirmed high ≤ allowedShare confirmed low ↔
      ¬ (confirmed = false ∧ (35 ≤ low ∧ low < 55) ∧ 55 ≤ high ∧ high < 80) := by
  cases confirmed with
  | true =>
    -- a confirmed signal has falling shares
    simp only [allowedShare, if_true, Bool.true_eq_false, false_and, not_false_eq_true, iff_true]
    split_ifs <;> first | omega | norm_num
  | false =>
    simp only [allowedShare, Bool.false_eq_true, if_false, true_and]
    split_ifs <;> norm_num <;> omega

/-- News restrict a signal of positive size monotonically in the risk score: of two situations
the one with the higher score allows at most the size that the other allows, exactly when the
step from the one to the other is not that from a moderate to an elevated peak of the
headlines for a signal without extra confirmation. -/
theorem news_restrictions_monotone_iff (text : TextOperations) (first second : NewsSituation)
    (signal : Signal) (positive : 0 < signal.size.getD limits.tradeSize)
    (ordered : (newsDecision text first signal).newsRiskScore ≤
      (newsDecision text second signal).newsRiskScore) :
    allowedSize (newsDecision text second signal).newsAction signal ≤
        allowedSize (newsDecision text first signal).newsAction signal ↔
      ¬ (signal.extraConfirmation = false ∧
        first.PeaksIn text (FreeNewsSafetyLayer.normaliseSymbol text (newsSymbol signal)) 35 55 ∧
        second.PeaksIn text (FreeNewsSafetyLayer.normaliseSymbol text (newsSymbol signal))
          55 80) := by
  have firstAction : (newsDecision text first signal).newsAction =
      actionForScore (newsDecision text first signal).newsRiskScore :=
    FreeNewsSafetyLayer.evaluate_action _ _ _ _ _ _
  have secondAction : (newsDecision text second signal).newsAction =
      actionForScore (newsDecision text second signal).newsRiskScore :=
    FreeNewsSafetyLayer.evaluate_action _ _ _ _ _ _
  rw [firstAction, secondAction, allowed_size_eq_share, allowed_size_eq_share,
    mul_le_mul_iff_of_pos_right positive, allowed_share_le_iff _ ordered,
    ← first.peaks_in_iff text signal (by norm_num) (by norm_num),
    ← second.peaks_in_iff text signal (by norm_num) (by norm_num)]

/-- Text operations on the ASCII characters. -/
def asciiText : TextOperations where
  lower value := String.ofList (value.toList.map Char.toLower)
  upper value := String.ofList (value.toList.map Char.toUpper)
  isAlnum := Char.isAlphanum
  isoformat _ := ""

/-- A situation with a calendar, no events, and one headline. -/
def oneHeadline (title : String) : NewsSituation where
  layer := {}
  now := 0
  answers := [{ providesEconomicCalendar := true, calendar := .ok []
                headlines := .ok [⟨title, 0, "FMP", none⟩] }]

/-- A signal of one lot without extra confirmation. -/
def unconfirmedSignal : Signal where
  epic := "CS.D.EURUSD.CFD.IP"
  direction := "BUY"
  currentPrice := 11 / 10
  stopDistance := 20
  limitDistance := 40
  atr := 1 / 1000
  confidence := 70
  size := some 1

/-- A breaking headline allows at most what a headline about the central bank allows. -/
theorem breaking_headline_restricts :
    allowedSize
        (newsDecision asciiText (oneHeadline "Breaking euro news") unconfirmedSignal).newsAction
        unconfirmedSignal ≤
      allowedSize
        (newsDecision asciiText (oneHeadline "Fed minutes ahead") unconfirmedSignal).newsAction
        unconfirmedSignal := by
  refine (news_restrictions_monotone_iff asciiText (oneHeadline "Fed minutes ahead")
    (oneHeadline "Breaking euro news") unconfirmedSignal (by decide +kernel)
    (by decide +kernel)).mpr ?_
  rintro ⟨_, _, peaks⟩
  have elevated := ((oneHeadline "Breaking euro news").peaks_in_iff asciiText unconfirmedSignal
    (by norm_num) (by norm_num)).mpr peaks
  revert elevated
  decide +kernel

/-- A headline about the central bank drops the signal, and one about tariffs, whose score is
higher, lets half of it through. -/
theorem tariffs_allow_more_than_minutes :
    ¬ ∀ (text : TextOperations) (first second : NewsSituation) (signal : Signal),
      0 < signal.size.getD limits.tradeSize →
        (newsDecision text first signal).newsRiskScore ≤
            (newsDecision text second signal).newsRiskScore →
          allowedSize (newsDecision text second signal).newsAction signal ≤
            allowedSize (newsDecision text first signal).newsAction signal := by
  intro always
  have smaller := always asciiText (oneHeadline "Fed minutes ahead")
    (oneHeadline "Euro tariff plan") unconfirmedSignal (by decide +kernel) (by decide +kernel)
  revert smaller
  decide +kernel

end TradingLoop

end IgTradingBot
