import IgTradingBot.Library.Grouping
import IgTradingBot.Library.Histories
import Mathlib.Data.List.Nodup
import Mathlib.Data.Rat.Floor

/-!
# Instruments of news categories

The mapper knows which instruments the news of a category move. Reports of price reactions add an
instrument that moves often and remove one that seldom moves, unless it belongs to the core of its
category; what is in between is left as it is. A mapping can also be set, or be replaced by the
weekly ranking of all reactions.
-/

namespace IgTradingBot

open Machines

/-- A price reaction to a news event. What a record leaves out has its default. -/
structure PriceReaction where
  category : String := ""
  instrument : String := ""
  priceChangePct : ℚ := 0
  deriving DecidableEq, Repr

/-- A reaction of the weekly ranking. -/
structure RankedReaction where
  category : String := ""
  instrument : String := ""
  reactionMagnitude : ℚ := 0
  deriving DecidableEq, Repr

/-- What an update did. -/
structure CorrelationUpdate where
  added : List (String × List String) := []
  removed : List (String × List String) := []
  timestamp : ℚ
  deriving DecidableEq, Repr

/-- The instruments of a category in an update. -/
structure CategoryReview where
  instruments : List String
  added : List String := []
  removed : List String := []
  deriving DecidableEq, Repr

/-- The mapper. A category without an entry has no instruments. -/
structure CorrelationMapper where
  correlations : String → List String
  customOverrides : String → Option (List String) := fun _ => none
  lastWeeklyUpdate : Option ℚ := none

/-- The calls that change the mapper. -/
inductive CorrelationMove where
  | setCorrelations (category : String) (instruments : List String)
  | setCustomOverride (category : String) (instruments : List String)
  | clearCustomOverride (category : String)
  | updateFromHistoricalData (now : ℚ) (priceReactions : List PriceReaction)
  | updateWeekly (historicalReactions : List RankedReaction)
  deriving DecidableEq, Repr

namespace CorrelationMapper

def reactionAddThreshold : ℚ := 60 / 100

def reactionRemoveThreshold : ℚ := 30 / 100

def minReactionPct : ℚ := 1 / 10

/-- The instruments of each category that reports of price reactions do not remove. -/
def coreTable : List (String × List String) :=
  [("monetary_policy", ["EURUSD", "GBPUSD", "USDJPY", "US10Y", "GOLD", "USDCHF", "US2Y"]),
    ("geopolitical_conflict", ["GOLD", "OIL", "USDCHF", "LMT", "RTX", "NOC", "GD"]),
    ("natural_disaster", ["OIL", "NATGAS", "WHEAT", "CORN", "ALLSTATE", "AIG", "TRVL"]),
    ("earnings", ["SPX500", "US30", "NASDAQ", "XLK"]),
    ("commodity_supply",
      ["OIL", "NATGAS", "GOLD", "SILVER", "WHEAT", "CORN", "SOYBEAN", "COFFEE"])]

def regionTable : List (String × List String) :=
  [("asia", ["USDJPY", "AUDJPY", "NIKKEI", "HSI", "RICE", "RUBBER"]),
    ("europe", ["EURUSD", "GBPUSD", "DAX", "FTSE", "WHEAT"]),
    ("north_america", ["USDCAD", "USDMXN", "SPX500", "US30", "OIL", "NATGAS"]),
    ("south_america", ["USDBRL", "USDARS", "COFFEE", "SUGAR", "SOYBEAN"]),
    ("middle_east", ["OIL", "BRENT", "GOLD", "USDSAR", "USDJOD"]),
    ("africa", ["USDZAR", "GOLD", "PLATINUM", "COCOA", "COFFEE"]),
    ("oceania", ["AUDUSD", "NZDUSD", "IRON_ORE", "COAL", "WOOL"])]

def categories : List String := coreTable.map Prod.fst

def getDefaultInstruments (category : String) : List String :=
  (coreTable.lookup category).getD []

/-- The mapper at first. -/
def initial : CorrelationMapper where
  correlations := getDefaultInstruments

/-- `lower` is `str.lower`. Instruments of the region of a disaster come behind those of the category. -/
def getAffectedInstruments (lower : String → String) (category : String) (region : Option String)
    (mapper : CorrelationMapper) : List String :=
  let base := (mapper.customOverrides category).getD (mapper.correlations category)
  if base.isEmpty && !categories.contains category then []
  else
    match region with
    | some region =>
      if category = "natural_disaster" ∧ region ≠ "" then
        ((regionTable.lookup (lower region)).getD []).foldl
          (fun base instrument => if instrument ∈ base then base else base ++ [instrument]) base
      else base
    | none => base

def setCorrelations (category : String) (instruments : List String) (mapper : CorrelationMapper) :
    CorrelationMapper :=
  if category ∈ categories then
    { mapper with correlations := Function.update mapper.correlations category instruments }
  else mapper

def setCustomOverride (category : String) (instruments : List String) (mapper : CorrelationMapper) :
    CorrelationMapper :=
  if category ∈ categories then
    { mapper with customOverrides := Function.update mapper.customOverrides category (some instruments) }
  else mapper

def clearCustomOverride (category : String) (mapper : CorrelationMapper) : CorrelationMapper :=
  { mapper with customOverrides := Function.update mapper.customOverrides category none }

/-- The reactions that an update counts. -/
def counted (priceReactions : List PriceReaction) : List PriceReaction :=
  priceReactions.filter fun reaction =>
    reaction.category ≠ "" ∧ reaction.instrument ≠ "" ∧ reaction.category ∈ categories

/-- How often an instrument reacted. -/
def reactionRate (events : List PriceReaction) : ℚ :=
  events.countP (fun event => minReactionPct ≤ |event.priceChangePct|) / events.length

/-- The review of one instrument of a category. -/
def reviewInstrument (core : List String) (review : CategoryReview)
    (events : String × List PriceReaction) : CategoryReview :=
  let rate := reactionRate events.2
  if reactionAddThreshold < rate ∧ events.1 ∉ review.instruments then
    { review with
      instruments := review.instruments ++ [events.1]
      added := review.added ++ [events.1] }
  else if rate < reactionRemoveThreshold ∧ events.1 ∈ review.instruments ∧ events.1 ∉ core then
    { review with
      instruments := review.instruments.erase events.1
      removed := review.removed ++ [events.1] }
  else review

/-- The review of a category, instrument by instrument as they come in the reactions. -/
def reviewCategory (category : String) (events : List PriceReaction) (instruments : List String) :
    CategoryReview :=
  (Grouping.groups PriceReaction.instrument events).foldl
    (reviewInstrument (getDefaultInstruments category)) { instruments }

/-- The review of a category goes into the mapping and the result. -/
def updateCategory (state : CorrelationMapper × CorrelationUpdate)
    (events : String × List PriceReaction) : CorrelationMapper × CorrelationUpdate :=
  let review := reviewCategory events.1 events.2 (state.1.correlations events.1)
  ({ state.1 with
      correlations := Function.update state.1.correlations events.1 review.instruments },
    { state.2 with
      added := if review.added.isEmpty then state.2.added
        else state.2.added ++ [(events.1, review.added)]
      removed := if review.removed.isEmpty then state.2.removed
        else state.2.removed ++ [(events.1, review.removed)] })

/-- The reviews, category by category as they come in the reactions. -/
def updateFromHistoricalData (now : ℚ) (priceReactions : List PriceReaction)
    (mapper : CorrelationMapper) : CorrelationMapper × CorrelationUpdate :=
  (Grouping.groups PriceReaction.category (counted priceReactions)).foldl updateCategory
    ({ mapper with lastWeeklyUpdate := some now }, { timestamp := now })

/-- The instruments of a category with the most reaction, ten at most. -/
def mostReactive (category : String) (historicalReactions : List RankedReaction) : List String :=
  let events := historicalReactions.filter fun reaction =>
    reaction.category = category ∧ reaction.instrument ≠ ""
  let totals := (Grouping.groups RankedReaction.instrument events).map fun reactions =>
    (reactions.1, (reactions.2.map RankedReaction.reactionMagnitude).sum)
  ((totals.mergeSort fun first second => decide (second.2 ≤ first.2)).take 10).map Prod.fst

def updateWeekly (historicalReactions : List RankedReaction) (mapper : CorrelationMapper) :
    CorrelationMapper :=
  { mapper with
    correlations := fun category =>
      if category ∈ categories ∧ mostReactive category historicalReactions ≠ [] then
        mostReactive category historicalReactions
      else mapper.correlations category }

/-- One move of a run. -/
def step (mapper : CorrelationMapper) : CorrelationMove → CorrelationMapper
  | .setCorrelations category instruments => mapper.setCorrelations category instruments
  | .setCustomOverride category instruments => mapper.setCustomOverride category instruments
  | .clearCustomOverride category => mapper.clearCustomOverride category
  | .updateFromHistoricalData now priceReactions =>
    (mapper.updateFromHistoricalData now priceReactions).1
  | .updateWeekly historicalReactions => mapper.updateWeekly historicalReactions

/-! ## What settles whether an instrument is mapped -/

/-- The reactions of an instrument to the news of a category. -/
def eventsOf (category instrument : String) (priceReactions : List PriceReaction) :
    List PriceReaction :=
  (counted priceReactions).filter fun reaction =>
    reaction.category = category ∧ reaction.instrument = instrument

/-- What the rate of an instrument says of it. -/
def ruling (core : List String) (instrument : String) (rate : ℚ) : Option Bool :=
  if reactionAddThreshold < rate then some true
  else if rate < reactionRemoveThreshold ∧ instrument ∉ core then some false
  else none

/-- What a report says of an instrument, if it has reactions of it. -/
def reported (core : List String) (instrument : String) (events : List PriceReaction) : Option Bool :=
  if events = [] then none else ruling core instrument (reactionRate events)

/-- What a move says of an instrument of a category. -/
def verdict (category instrument : String) : CorrelationMove → Option Bool
  | .setCorrelations other instruments =>
    if other = category ∧ category ∈ categories then some (instrument ∈ instruments) else none
  | .updateFromHistoricalData _ priceReactions =>
    reported (getDefaultInstruments category) instrument (eventsOf category instrument priceReactions)
  | .updateWeekly historicalReactions =>
    if category ∈ categories ∧ mostReactive category historicalReactions ≠ [] then
      some (instrument ∈ mostReactive category historicalReactions)
    else none
  | _ => none

section Reviews

variable {review : CategoryReview}

/-- The review of an instrument settles by its rate whether it is mapped, and leaves the others. -/
theorem reviewInstrument_spec (core : List String) (distinct : review.instruments.Nodup)
    (events : String × List PriceReaction) :
    (reviewInstrument core review events).instruments.Nodup ∧
      ∀ instrument, instrument ∈ (reviewInstrument core review events).instruments ↔
        if instrument = events.1 then
          (ruling core instrument (reactionRate events.2)).elim (instrument ∈ review.instruments)
            (· = true)
        else instrument ∈ review.instruments := by
  obtain ⟨name, events⟩ := events
  have apart : reactionRemoveThreshold < reactionAddThreshold := by
    norm_num [reactionRemoveThreshold, reactionAddThreshold]
  rw [reviewInstrument]
  dsimp only
  split_ifs with adds removes
  · refine ⟨?_, fun instrument => ?_⟩
    · refine List.nodup_append.mpr ⟨distinct, List.nodup_singleton name, ?_⟩
      rintro other member _ isName rfl
      exact adds.2 (List.mem_singleton.mp isName ▸ member)
    · rw [List.mem_append, List.mem_singleton]
      by_cases same : instrument = name
      · simp [same, ruling, adds.1]
      · simp [same]
  · refine ⟨distinct.erase name, fun instrument => ?_⟩
    rw [distinct.mem_erase_iff]
    by_cases same : instrument = name
    · subst same
      have low : ¬reactionAddThreshold < reactionRate events := by linarith [removes.1]
      simp [ruling, low, removes.1, removes.2.2]
    · simp [same]
  · refine ⟨distinct, fun instrument => ?_⟩
    by_cases same : instrument = name
    · subst same
      rw [if_pos rfl, ruling]
      split_ifs with high low
      · exact iff_of_true (not_not.mp fun absent => adds ⟨high, absent⟩) rfl
      · exact iff_of_false (fun member => removes ⟨low.1, member, low.2⟩) Bool.false_ne_true
      · exact Iff.rfl
    · rw [if_neg same]

/-- The review of several instruments settles it for each of them by its own rate. The induction is on
the instruments. -/
theorem review_spec (core : List String) {names : List String} (once : names.Nodup)
    (events : String → List PriceReaction) (distinct : review.instruments.Nodup) :
    let final := (names.map fun name => (name, events name)).foldl (reviewInstrument core) review
    final.instruments.Nodup ∧ ∀ instrument, instrument ∈ final.instruments ↔
      if instrument ∈ names then
        (ruling core instrument (reactionRate (events instrument))).elim
          (instrument ∈ review.instruments) (· = true)
      else instrument ∈ review.instruments := by
  induction names generalizing review with
  | nil => exact ⟨distinct, fun _ => Iff.rfl⟩
  | cons name rest inductionHypothesis =>
    obtain ⟨isNew, restOnce⟩ := List.nodup_cons.mp once
    obtain ⟨first, settles⟩ := reviewInstrument_spec core distinct (name, events name)
    obtain ⟨final, all⟩ := inductionHypothesis restOnce first
    refine ⟨final, fun instrument => (all instrument).trans ?_⟩
    rw [settles instrument]
    by_cases same : instrument = name
    · subst same
      simp [isNew]
    · simp [same]

/-- The review of a category settles it for the instruments that have reactions. -/
theorem reviewCategory_spec (category : String) (events : List PriceReaction)
    {instruments : List String} (distinct : instruments.Nodup) :
    (reviewCategory category events instruments).instruments.Nodup ∧
      ∀ instrument, instrument ∈ (reviewCategory category events instruments).instruments ↔
        (reported (getDefaultInstruments category) instrument
          (events.filter fun event => event.instrument = instrument)).elim
            (instrument ∈ instruments) (· = true) := by
  have once := Grouping.group_keys_nodup (events.map PriceReaction.instrument)
  have start : ({ instruments } : CategoryReview).instruments.Nodup := distinct
  obtain ⟨final, all⟩ := review_spec (getDefaultInstruments category) once
    (fun name => events.filter fun event => event.instrument = name) start
  refine ⟨final, fun instrument => (all instrument).trans ?_⟩
  have listed : instrument ∈ (events.map PriceReaction.instrument).eraseDups ↔
      events.filter (fun event => event.instrument = instrument) ≠ [] := by
    rw [List.mem_eraseDups, List.mem_map, Ne, List.filter_eq_nil_iff]
    simp
  rw [reported]
  by_cases known : instrument ∈ (events.map PriceReaction.instrument).eraseDups
  · rw [if_pos known, if_neg (listed.mp known)]
  · rw [if_neg known, if_pos (not_not.mp fun some' => known (listed.mpr some'))]
    rfl

/-- An update reviews the categories that have reactions, each by its own. The induction is on the
categories. -/
theorem updateCategory_spec {names : List String} (once : names.Nodup)
    (events : String → List PriceReaction) (state : CorrelationMapper × CorrelationUpdate)
    (category : String) :
    ((names.map fun name => (name, events name)).foldl updateCategory state).1.correlations category =
      if category ∈ names then
        (reviewCategory category (events category) (state.1.correlations category)).instruments
      else state.1.correlations category := by
  induction names generalizing state with
  | nil => rfl
  | cons name rest inductionHypothesis =>
    obtain ⟨isNew, restOnce⟩ := List.nodup_cons.mp once
    rw [List.map_cons, List.foldl_cons, inductionHypothesis restOnce]
    by_cases same : category = name
    · subst same
      simp [isNew, updateCategory]
    · simp [same, updateCategory]

/-- An update settles what it has reactions of. -/
theorem update_spec (now : ℚ) (priceReactions : List PriceReaction) {mapper : CorrelationMapper}
    (distinct : ∀ category, (mapper.correlations category).Nodup) (category : String) :
    ((mapper.updateFromHistoricalData now priceReactions).1.correlations category).Nodup ∧
      ∀ instrument,
        instrument ∈ (mapper.updateFromHistoricalData now priceReactions).1.correlations category ↔
          (reported (getDefaultInstruments category) instrument
            (eventsOf category instrument priceReactions)).elim
              (instrument ∈ mapper.correlations category) (· = true) := by
  have once := Grouping.group_keys_nodup ((counted priceReactions).map PriceReaction.category)
  have all := updateCategory_spec once
    (fun name => (counted priceReactions).filter fun event => event.category = name)
    ({ mapper with lastWeeklyUpdate := some now }, { timestamp := now }) category
  have updated : (mapper.updateFromHistoricalData now priceReactions).1.correlations category = _ := all
  rw [updated]
  split_ifs with known
  · obtain ⟨reviewed, settles⟩ := reviewCategory_spec category
      ((counted priceReactions).filter fun event => event.category = category) (distinct category)
    refine ⟨reviewed, fun instrument => (settles instrument).trans ?_⟩
    rw [List.filter_filter, eventsOf]
    simp only [Bool.decide_and, Bool.and_comm]
  · refine ⟨distinct category, fun instrument => ?_⟩
    have nothing : eventsOf category instrument priceReactions = [] := by
      refine List.filter_eq_nil_iff.mpr fun event member isOf => known ?_
      have ofCategory : event.category = category := (of_decide_eq_true isOf).1
      exact List.mem_eraseDups.mpr (ofCategory ▸ List.mem_map_of_mem member)
    rw [nothing]
    exact Iff.rfl

/-- The weekly ranking has no instrument twice. -/
theorem mostReactive_nodup (category : String) (historicalReactions : List RankedReaction) :
    (mostReactive category historicalReactions).Nodup := by
  have once := Grouping.group_keys_nodup
    ((historicalReactions.filter fun reaction =>
      reaction.category = category ∧ reaction.instrument ≠ "").map RankedReaction.instrument)
  rw [mostReactive]
  refine List.Nodup.sublist ((List.take_sublist 10 _).map Prod.fst) ?_
  refine ((List.mergeSort_perm _ _).map Prod.fst).nodup_iff.mpr ?_
  rw [List.map_map, Grouping.groups, List.map_map]
  exact (List.map_id _).symm ▸ once

/-- An instrument is mapped to a category. -/
def Maps (category instrument : String) (mapper : CorrelationMapper) : Prop :=
  instrument ∈ mapper.correlations category

/-- No category has an instrument twice. -/
def Distinct (mapper : CorrelationMapper) : Prop :=
  ∀ category, (mapper.correlations category).Nodup

/-- Mappings are set to lists without repetitions. -/
def SetsDistinct : CorrelationMove → Prop
  | .setCorrelations _ instruments => instruments.Nodup
  | _ => True

theorem Distinct.step {mapper : CorrelationMapper} (distinct : mapper.Distinct)
    {move : CorrelationMove} (sets : SetsDistinct move) : (mapper.step move).Distinct := by
  intro category
  cases move with
  | setCorrelations other instruments =>
    rw [CorrelationMapper.step, setCorrelations]
    split_ifs
    · by_cases same : category = other
      · subst same
        rw [SetsDistinct] at sets
        simpa using sets
      · simpa [Function.update_of_ne same] using distinct category
    · exact distinct category
  | setCustomOverride other instruments =>
    rw [CorrelationMapper.step, setCustomOverride]
    split_ifs <;> exact distinct category
  | clearCustomOverride other => exact distinct category
  | updateFromHistoricalData now priceReactions =>
    exact (update_spec now priceReactions distinct category).1
  | updateWeekly historicalReactions =>
    rw [CorrelationMapper.step, updateWeekly]
    dsimp only
    split_ifs
    · exact mostReactive_nodup category historicalReactions
    · exact distinct category

/-- A move leaves an instrument as it says, or as it was. -/
theorem maps_step_iff {mapper : CorrelationMapper} (distinct : mapper.Distinct)
    (category instrument : String) (move : CorrelationMove) :
    (mapper.step move).Maps category instrument ↔
      (verdict category instrument move).elim (mapper.Maps category instrument) (· = true) := by
  rw [Maps, Maps]
  cases move with
  | setCorrelations other instruments =>
    rw [CorrelationMapper.step, setCorrelations, verdict]
    by_cases same : other = category
    · subst same
      by_cases supported : other ∈ categories <;> simp [supported]
    · have untouched : ¬(other = category ∧ category ∈ categories) := fun both => same both.1
      rw [if_neg untouched]
      split_ifs
      · simp [Function.update_of_ne (Ne.symm same)]
      · exact Iff.rfl
  | setCustomOverride other instruments =>
    rw [CorrelationMapper.step, setCustomOverride]
    split_ifs <;> exact Iff.rfl
  | clearCustomOverride other => exact Iff.rfl
  | updateFromHistoricalData now priceReactions =>
    exact (update_spec now priceReactions distinct category).2 instrument
  | updateWeekly historicalReactions =>
    rw [CorrelationMapper.step, updateWeekly, verdict]
    dsimp only
    split_ifs <;> simp

end Reviews

end CorrelationMapper

end IgTradingBot
