import IgTradingBot.Library.LastOfKey
import IgTradingBot.Library.Ranks
import Mathlib.Data.Rat.Floor
import Mathlib.Tactic.Linarith

/-!
# Ranking traders to copy

Traders that are eligible are ranked by a score of their records. Every week the better half of the
ranking stays in the pool, or its front where that half is too small. Records come from several
sources, and the last one of a trader counts.
-/

namespace IgTradingBot

/-- The record of a trader. -/
structure TraderStats where
  traderId : String
  winRate : ℚ
  maxDrawdown : ℚ
  sharpeRatio : ℚ
  consistency : ℚ
  trackRecordDays : ℤ
  deriving DecidableEq, Repr

structure RankedTrader where
  trader : TraderStats
  score : ℚ
  deriving DecidableEq, Repr

namespace TraderRanker

def copyMinTrackRecordDays : ℤ := 90

def copyMinWinRate : ℚ := 55 / 100

def copyMaxDrawdown : ℚ := 20 / 100

def calculateRiskScore (trader : TraderStats) : ℚ :=
  let winRateScore := min (trader.winRate / 1) 1 * 100
  let drawdownScore := (1 - min (trader.maxDrawdown / 1) 1) * 100
  let sharpeScore := min (max trader.sharpeRatio 0 / 5) 1 * 100
  let consistencyScore := min (max trader.consistency 0 / 10) 1 * 100
  let score := 1 / 4 * winRateScore + 1 / 4 * drawdownScore + 1 / 4 * sharpeScore +
    1 / 4 * consistencyScore
  max 0 (min 100 score)

def isEligible (trader : TraderStats) : Bool :=
  if trader.trackRecordDays < copyMinTrackRecordDays then false
  else if trader.winRate ≤ copyMinWinRate then false
  else if copyMaxDrawdown ≤ trader.maxDrawdown then false
  else true

/-- The eligible traders with their scores, best first. -/
def rankTraders (traders : List TraderStats) : List RankedTrader :=
  Ranks.ranking RankedTrader.score
    ((traders.filter isEligible).map fun trader => ⟨trader, calculateRiskScore trader⟩)

/-- What stays of a ranking. It is not empty where its median is read. -/
def poolOf (minPoolSize : ℕ) (ranked : List RankedTrader) : List RankedTrader :=
  if ranked.length ≤ minPoolSize then ranked
  else
    match ranked[ranked.length / 2]? with
    | none => ranked
    | some median =>
      let aboveMedian := ranked.filter fun other => median.score ≤ other.score
      if aboveMedian.length < minPoolSize then ranked.take minPoolSize else aboveMedian

/-- The new pool. -/
def weeklyReevaluate (minPoolSize : ℕ) (traders : List TraderStats) : List RankedTrader :=
  poolOf minPoolSize (rankTraders traders)

/-- The records of the sources that answer, in their order. -/
def recordsOf (sources : List (Option (List TraderStats))) : List TraderStats :=
  (sources.filterMap id).flatten

/-- The ranking of what the sources return, the last record of each trader. -/
def fetchAndRank (sources : List (Option (List TraderStats))) : List RankedTrader :=
  rankTraders
    ((LastOfKey.tableOf TraderStats.traderId id (recordsOf sources)).map Prod.snd)

section Scores

variable {former latter : TraderStats}

/-- No worse in anything that counts. -/
structure Improves (former latter : TraderStats) : Prop where
  traderId : latter.traderId = former.traderId
  winRate : former.winRate ≤ latter.winRate
  maxDrawdown : latter.maxDrawdown ≤ former.maxDrawdown
  sharpeRatio : former.sharpeRatio ≤ latter.sharpeRatio
  consistency : former.consistency ≤ latter.consistency
  trackRecordDays : former.trackRecordDays ≤ latter.trackRecordDays

/-- A better record has no lower score. -/
theorem Improves.score (improves : Improves former latter) :
    calculateRiskScore former ≤ calculateRiskScore latter := by
  obtain ⟨-, winRate, maxDrawdown, sharpeRatio, consistency, -⟩ := improves
  have wins : min (former.winRate / 1) 1 ≤ min (latter.winRate / 1) 1 :=
    min_le_min_right 1 (by linarith)
  have drawdowns : min (latter.maxDrawdown / 1) 1 ≤ min (former.maxDrawdown / 1) 1 :=
    min_le_min_right 1 (by linarith)
  have sharpe : min (max former.sharpeRatio 0 / 5) 1 ≤ min (max latter.sharpeRatio 0 / 5) 1 :=
    min_le_min_right 1 (by linarith [max_le_max_right 0 sharpeRatio])
  have steady : min (max former.consistency 0 / 10) 1 ≤ min (max latter.consistency 0 / 10) 1 :=
    min_le_min_right 1 (by linarith [max_le_max_right 0 consistency])
  exact max_le_max_left 0 (min_le_min_left 100 (by linarith))

/-- A better record of an eligible trader is eligible. -/
theorem Improves.eligible (improves : Improves former latter)
    (eligible : isEligible former = true) : isEligible latter = true := by
  obtain ⟨-, winRate, maxDrawdown, -, -, trackRecordDays⟩ := improves
  rw [isEligible] at eligible ⊢
  split_ifs at eligible with young poor deep
  rw [if_neg (by omega), if_neg (by linarith), if_neg (by linarith)]

end Scores

section Pools

variable {ahead behind : List RankedTrader} {ranked : RankedTrader} {minPoolSize : ℕ}

/-- Who stays in the pool: everybody of a small ranking, and else who has no more than half of it above
him, or is among the first. -/
theorem mem_poolOf_iff (sorted : (ahead ++ ranked :: behind).Pairwise fun first second =>
      second.score ≤ first.score) (once : ranked ∉ ahead) :
    ranked ∈ poolOf minPoolSize (ahead ++ ranked :: behind) ↔
      (ahead ++ ranked :: behind).length ≤ minPoolSize ∨
      (ahead ++ ranked :: behind).countP (fun other => ranked.score < other.score) ≤
        (ahead ++ ranked :: behind).length / 2 ∨ ahead.length < minPoolSize := by
  have member : ranked ∈ ahead ++ ranked :: behind := by simp
  rw [poolOf]
  split
  case isTrue small => exact iff_of_true member (.inl small)
  case isFalse large =>
    have inside : (ahead ++ ranked :: behind).length / 2 < (ahead ++ ranked :: behind).length :=
      Nat.div_lt_self (by simp) one_lt_two
    rw [or_iff_right large, List.getElem?_eq_getElem inside]
    generalize median : (ahead ++ ranked :: behind)[(ahead ++ ranked :: behind).length / 2] = middle
    have above : middle.score ≤ ranked.score ↔
        (ahead ++ ranked :: behind).countP (fun other => ranked.score < other.score) ≤
          (ahead ++ ranked :: behind).length / 2 := by
      have greater := Ranks.lt_key_iff_lt_countP ranked.score sorted inside
      rw [median] at greater
      rw [← not_lt, greater, not_lt]
    have better : ∀ other ∈ ahead, ranked.score ≤ other.score := fun other isAhead =>
      (List.pairwise_append.mp sorted).2.2 other isAhead ranked List.mem_cons_self
    have worse : ∀ other ∈ behind, other.score ≤ ranked.score :=
      (List.pairwise_cons.mp (List.pairwise_append.mp sorted).2.1).1
    rw [← above]
    have parts : (ahead ++ ranked :: behind).filter (fun other => middle.score ≤ other.score) =
        ahead.filter (fun other => middle.score ≤ other.score) ++
          ((ranked :: behind).filter fun other => middle.score ≤ other.score) := List.filter_append ..
    dsimp only
    split
    case isTrue few =>
      rw [or_iff_right_of_imp]
      · -- who is among the first is ahead of the rest
        rw [List.take_append, List.mem_append, or_iff_right fun early =>
          once (List.mem_of_mem_take early)]
        obtain within | beyond := lt_or_ge ahead.length minPoolSize
        · obtain ⟨more, isMore⟩ : ∃ more, minPoolSize - ahead.length = more + 1 :=
            ⟨minPoolSize - ahead.length - 1, by omega⟩
          rw [isMore, List.take_succ_cons]
          exact iff_of_true List.mem_cons_self within
        · rw [Nat.sub_eq_zero_of_le beyond]
          exact iff_of_false (by simp) (not_lt.mpr beyond)
      · intro isAbove
        have allAhead : ahead.filter (fun other => middle.score ≤ other.score) = ahead :=
          List.filter_eq_self.mpr fun other isAhead =>
            decide_eq_true (isAbove.trans (better other isAhead))
        rw [parts, allAhead, List.filter_cons_of_pos (by simpa using isAbove), List.length_append,
          List.length_cons] at few
        omega
    case isFalse enough =>
      rw [List.mem_filter, and_iff_right member, decide_eq_true_iff]
      refine (or_iff_left_of_imp fun early => ?_).symm
      by_contra below
      have noneBehind : (ranked :: behind).filter (fun other => middle.score ≤ other.score) = [] := by
        refine List.filter_eq_nil_iff.mpr fun other isRest isAbove => below ?_
        obtain rfl | isBehind := List.mem_cons.mp isRest
        · exact of_decide_eq_true isAbove
        · exact (of_decide_eq_true isAbove).trans (worse other isBehind)
      rw [parts, noneBehind, List.append_nil] at enough
      exact enough ((List.length_filter_le _ _).trans_lt early)

end Pools

section Traders

variable {before after : List TraderStats} {trader : TraderStats} {minPoolSize : ℕ}

/-- A trader is in a list of ranked traders. -/
def Listed (trader : TraderStats) (pool : List RankedTrader) : Prop :=
  ∃ ranked ∈ pool, ranked.trader = trader

/-- The pool is part of the ranking. -/
theorem mem_of_mem_poolOf {ranking : List RankedTrader} {ranked : RankedTrader}
    (member : ranked ∈ poolOf minPoolSize ranking) : ranked ∈ ranking := by
  rw [poolOf] at member
  split at member
  · exact member
  · split at member
    · exact member
    · dsimp only at member
      split at member
      · exact List.mem_of_mem_take member
      · exact List.mem_of_mem_filter member

/-- Who is ranked is an eligible trader of the list, with his score. -/
theorem mem_rankTraders_iff {traders : List TraderStats} {ranked : RankedTrader} :
    ranked ∈ rankTraders traders ↔ ranked.trader ∈ traders ∧ isEligible ranked.trader = true ∧
      ranked.score = calculateRiskScore ranked.trader := by
  rw [rankTraders, Ranks.mem_ranking, List.mem_map]
  constructor
  · rintro ⟨trader, member, rfl⟩
    exact ⟨List.mem_of_mem_filter member, List.of_mem_filter member, rfl⟩
  · rintro ⟨member, eligible, score⟩
    exact ⟨ranked.trader, List.mem_filter.mpr ⟨member, eligible⟩, by rw [← score]⟩

/-- How many eligible traders have more than a score. -/
def betterThan (score : ℚ) (traders : List TraderStats) : ℕ :=
  (traders.filter isEligible).countP fun other => score < calculateRiskScore other

/-- How many eligible traders have a score at least. -/
def asGoodAs (score : ℚ) (traders : List TraderStats) : ℕ :=
  (traders.filter isEligible).countP fun other => score ≤ calculateRiskScore other

/-- Who stays in the pool, by how many eligible traders are better, or as good and listed before. -/
theorem listed_weekly_iff (absent : trader ∉ before ++ after) (eligible : isEligible trader = true) :
    Listed trader (weeklyReevaluate minPoolSize (before ++ trader :: after)) ↔
      ((before ++ after).filter isEligible).length + 1 ≤ minPoolSize ∨
      betterThan (calculateRiskScore trader) (before ++ after) ≤
        (((before ++ after).filter isEligible).length + 1) / 2 ∨
      asGoodAs (calculateRiskScore trader) before +
        betterThan (calculateRiskScore trader) after < minPoolSize := by
  let score (other : TraderStats) : RankedTrader := ⟨other, calculateRiskScore other⟩
  let ranked (traders : List TraderStats) : List RankedTrader :=
    (traders.filter isEligible).map score
  have split : (ranked (before ++ trader :: after)) =
      ranked before ++ score trader :: ranked after := by
    simp [ranked, List.filter_cons_of_pos eligible]
  obtain ⟨ahead, behind, placed, place⟩ :=
    Ranks.ranking_split RankedTrader.score (ranked before) (score trader) (ranked after)
  have whole : rankTraders (before ++ trader :: after) = ahead ++ score trader :: behind :=
    (congrArg (Ranks.ranking RankedTrader.score) split).trans placed
  have sorted := Ranks.ranking_sorted RankedTrader.score (ranked before ++ score trader :: ranked after)
  have same := Ranks.ranking_perm RankedTrader.score (ranked before ++ score trader :: ranked after)
  rw [placed] at sorted same
  have others : (ahead ++ behind).Perm (ranked (before ++ after)) := by
    have rest := (List.perm_middle.symm.trans (same.trans List.perm_middle)).cons_inv
    simpa [ranked] using rest
  have once : score trader ∉ ahead := by
    intro isAhead
    have among := others.subset (List.mem_append_left behind isAhead)
    obtain ⟨other, member, isTrader⟩ := List.mem_map.mp among
    have same : other = trader := congrArg RankedTrader.trader isTrader
    exact absent (same ▸ List.mem_of_mem_filter member)
  have listed : Listed trader (weeklyReevaluate minPoolSize (before ++ trader :: after)) ↔
      score trader ∈ poolOf minPoolSize (ahead ++ score trader :: behind) := by
    rw [← whole]
    constructor
    · rintro ⟨⟨trader, points⟩, member, rfl⟩
      obtain ⟨-, -, isScore⟩ := mem_rankTraders_iff.mp (mem_of_mem_poolOf member)
      obtain rfl : points = calculateRiskScore trader := isScore
      exact member
    · exact fun member => ⟨score trader, member, rfl⟩
  have counted (traders : List TraderStats) (bound : ℚ) :
      (ranked traders).countP (fun other => bound < other.score) = betterThan bound traders :=
    List.countP_map ..
  have length : (ahead ++ score trader :: behind).length =
      ((before ++ after).filter isEligible).length + 1 := by
    have size := others.length_eq
    simp only [ranked, List.length_map, List.length_append, List.length_cons] at size ⊢
    omega
  have better : (ahead ++ score trader :: behind).countP
      (fun other => (score trader).score < other.score) =
        betterThan (calculateRiskScore trader) (before ++ after) := by
    have sum := others.countP_eq fun other => (score trader).score < other.score
    rw [counted, List.countP_append] at sum
    rw [List.countP_append, List.countP_cons_of_neg (by simp)]
    exact sum
  have asGood : (ranked before).countP (fun other => (score trader).score ≤ other.score) =
      asGoodAs (calculateRiskScore trader) before := List.countP_map ..
  rw [asGood, counted] at place
  rw [listed, mem_poolOf_iff sorted once, length, better, place]

/-- Fewer traders are better than a greater score. -/
theorem betterThan_antitone {low high : ℚ} (raised : low ≤ high) (traders : List TraderStats) :
    betterThan high traders ≤ betterThan low traders :=
  List.countP_mono_left fun _ _ greater =>
    decide_eq_true (raised.trans_lt (of_decide_eq_true greater))

/-- Fewer traders are as good as a greater score. -/
theorem asGoodAs_antitone {low high : ℚ} (raised : low ≤ high) (traders : List TraderStats) :
    asGoodAs high traders ≤ asGoodAs low traders :=
  List.countP_mono_left fun _ _ greater =>
    decide_eq_true (raised.trans (of_decide_eq_true greater))

/-- A trader of the pool whose record gets better, while those of the others stay, is in the next pool. -/
theorem improving_trader_stays {former latter : TraderStats} (improves : Improves former latter)
    (others : ∀ other ∈ before ++ after, other.traderId ≠ former.traderId)
    (listed : Listed former (weeklyReevaluate minPoolSize (before ++ former :: after))) :
    Listed latter (weeklyReevaluate minPoolSize (before ++ latter :: after)) := by
  have eligible : isEligible former = true := by
    obtain ⟨ranked, member, rfl⟩ := listed
    exact (mem_rankTraders_iff.mp (mem_of_mem_poolOf member)).2.1
  have formerAbsent : former ∉ before ++ after := fun member => others former member rfl
  have latterAbsent : latter ∉ before ++ after := fun member =>
    others latter member improves.traderId
  rw [listed_weekly_iff formerAbsent eligible] at listed
  rw [listed_weekly_iff latterAbsent (improves.eligible eligible)]
  obtain small | half | early := listed
  · exact .inl small
  · exact .inr (.inl ((betterThan_antitone improves.score _).trans half))
  · refine .inr (.inr (lt_of_le_of_lt ?_ early))
    exact Nat.add_le_add (asGoodAs_antitone improves.score before)
      (betterThan_antitone improves.score after)

theorem improving_trader_stays_sharpe :
    Listed ⟨"ann", 3 / 5, 1 / 10, 2, 1, 100⟩ (weeklyReevaluate 1
      ([] ++ ⟨"ann", 3 / 5, 1 / 10, 2, 1, 100⟩ :: [⟨"bob", 3 / 5, 1 / 10, 0, 1, 100⟩])) := by
  have improves : Improves ⟨"ann", 3 / 5, 1 / 10, 1, 1, 100⟩ ⟨"ann", 3 / 5, 1 / 10, 2, 1, 100⟩ :=
    ⟨rfl, le_rfl, le_rfl, by norm_num, le_rfl, le_rfl⟩
  refine improving_trader_stays improves (by simp) ?_
  refine (listed_weekly_iff (by simp) ?_).mpr (.inr (.inl ?_))
  · norm_num [isEligible, copyMinTrackRecordDays, copyMinWinRate, copyMaxDrawdown]
  · norm_num [betterThan, isEligible, calculateRiskScore, copyMinTrackRecordDays, copyMinWinRate,
      copyMaxDrawdown]

end Traders

section Sources

/-- The records that are ranked are the eligible ones among the last records of the traders. Each trader
is ranked once, and no one behind one with a lower score. -/
theorem fetchAndRank_ranks_last_records (sources : List (Option (List TraderStats))) :
    (∀ ranked, ranked ∈ fetchAndRank sources ↔
      LastOfKey.IsLast TraderStats.traderId (recordsOf sources) ranked.trader ∧
        isEligible ranked.trader = true ∧ ranked.score = calculateRiskScore ranked.trader) ∧
    ((fetchAndRank sources).map fun ranked => ranked.trader.traderId).Nodup ∧
    (fetchAndRank sources).Pairwise fun first second => second.score ≤ first.score := by
  have entries : ∀ entry ∈ LastOfKey.tableOf TraderStats.traderId id (recordsOf sources),
      entry.2.traderId = entry.1 := by
    rintro ⟨known, trader⟩ member
    obtain ⟨record, -, isKnown, rfl⟩ := LastOfKey.mem_table_of_iff.mp member
    exact isKnown
  refine ⟨fun ranked => ?_, ?_, Ranks.ranking_sorted RankedTrader.score _⟩
  · rw [fetchAndRank, mem_rankTraders_iff]
    refine and_congr_left fun _ => ?_
    rw [List.mem_map]
    constructor
    · rintro ⟨⟨known, trader⟩, member, rfl⟩
      obtain ⟨record, isLast, -, rfl⟩ := LastOfKey.mem_table_of_iff.mp member
      exact isLast
    · intro isLast
      exact ⟨⟨ranked.trader.traderId, ranked.trader⟩,
        LastOfKey.mem_table_of_iff.mpr ⟨ranked.trader, isLast, rfl, rfl⟩, rfl⟩
  · rw [fetchAndRank, rankTraders]
    refine (((Ranks.ranking_perm _ _).map _).nodup_iff).mpr ?_
    rw [List.map_map]
    have keys : ((LastOfKey.tableOf TraderStats.traderId id (recordsOf sources)).map Prod.snd).map
        TraderStats.traderId =
          (LastOfKey.tableOf TraderStats.traderId id (recordsOf sources)).map Prod.fst := by
      rw [List.map_map]
      exact List.map_congr_left entries
    have distinct := LastOfKey.keys_table_of_nodup TraderStats.traderId id (recordsOf sources)
    rw [← keys] at distinct
    exact distinct.sublist (List.filter_sublist.map TraderStats.traderId)

end Sources

end TraderRanker

end IgTradingBot
