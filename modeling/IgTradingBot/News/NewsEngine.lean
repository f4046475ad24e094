import IgTradingBot.Library.Histories
import IgTradingBot.Library.Machines
import Mathlib.Data.Finset.Basic
import Mathlib.Data.Rat.Floor
import Mathlib.Logic.Relation

/-!
# The health of the news sources

The engine connects to its sources and asks each of them every minute whether it is healthy. While
none is, the engine is degraded, and signals need more confidence. Starts, rounds of questions and
stops are tasks that interleave where they await a source, and a source can be asked by several of
them: a run is any order of their parts. Two sources of one name share one status.
-/

namespace IgTradingBot

open Machines

/-- What is known of the health of a source. Times are in seconds. -/
structure SourceHealthStatus where
  lastSuccessfulCheck : Option ℚ := none
  isHealthy : Bool := false
  failedSince : Option ℚ := none
  failoverLogged : Bool := false
  deriving DecidableEq, Repr

namespace SourceHealthStatus

def newsSourceUnavailableThresholdSeconds : ℚ := 300

def markHealthy (now : ℚ) (status : SourceHealthStatus) : SourceHealthStatus :=
  { status with
    lastSuccessfulCheck := some now
    isHealthy := true
    failedSince := none
    failoverLogged := false }

def markUnhealthy (now : ℚ) (status : SourceHealthStatus) : SourceHealthStatus :=
  { status with isHealthy := false, failedSince := some (status.failedSince.getD now) }

def isFailoverRequired (now : ℚ) (status : SourceHealthStatus) : Bool :=
  match status.failedSince with
  | none => false
  | some since => decide (newsSourceUnavailableThresholdSeconds ≤ now - since)

end SourceHealthStatus

/-- What the engine tells the event bus about its sources. -/
inductive SourceAnnouncement where
  | allSourcesDown (timestamp : ℚ) (sourceCount confidenceThreshold : ℕ)
  | sourcesRestored (timestamp : ℚ) (restoredSources : Finset String) (confidenceThreshold : ℕ)
      (degradedDuration : Option ℚ)
  deriving DecidableEq

/-- What became of a source when it was connected or asked. -/
inductive SourceOutcome where
  | healthy
  | notConnected
  | unhealthy
  deriving DecidableEq, Repr

structure SourceMark where
  source : String
  time : ℚ
  outcome : SourceOutcome
  deriving DecidableEq, Repr

/-- A task of health checks sleeps, or awaits the answer of a source in a round that began at `now`
and has the sources of `rest` to ask. -/
inductive HealthTask where
  | sleeping
  | asking (now : ℚ) (source : String) (rest : List String)
  deriving DecidableEq, Repr

/-- The engine with its tasks: `connecting` has, for each call of `start` that is not over, the
source that it awaits and those that come next. The outcomes that were `observed` and what the
evaluations found, `verdicts`, are kept for the theorems. -/
structure NewsEngine where
  sources : List String
  running : Bool := false
  sourceHealth : String → SourceHealthStatus := fun _ => {}
  degradedMode : Bool := false
  degradedModeEnteredAt : Option ℚ := none
  connecting : List (String × List String) := []
  tasks : List HealthTask := []
  stopping : ℕ := 0
  announced : List SourceAnnouncement := []
  failovers : List (String × Option ℚ) := []
  observed : List SourceMark := []
  verdicts : List Bool := []

/-- What can happen next. A task of health checks ends when it is cancelled or finds that the engine
was stopped. -/
inductive NewsEngineMove where
  | start (now : ℚ)
  | connected (place : ℕ) (succeeds : Bool) (marked now : ℚ)
  | wakes (place : ℕ) (now : ℚ)
  | answered (place : ℕ) (healthy : Bool)
  | taskEnds (place : ℕ)
  | stop
  | stopEnds
  deriving DecidableEq, Repr

namespace NewsEngine

def confidenceThresholdDefault : ℕ := 60

def confidenceThresholdNewsDown : ℕ := 80

def healthySources (engine : NewsEngine) : Finset String :=
  engine.sources.toFinset.filter fun source => (engine.sourceHealth source).isHealthy

def isAllSourcesDown (engine : NewsEngine) : Bool := decide (engine.healthySources = ∅)

def getConfidenceThreshold (engine : NewsEngine) : ℕ :=
  if engine.degradedMode then confidenceThresholdNewsDown else confidenceThresholdDefault

/-- The flag is set before the bus is awaited. -/
def enterDegradedMode (now : ℚ) (engine : NewsEngine) : NewsEngine :=
  { engine with
    degradedMode := true
    degradedModeEnteredAt := some now
    announced := engine.announced ++
      [.allSourcesDown now engine.sources.length confidenceThresholdNewsDown] }

def exitDegradedMode (now : ℚ) (engine : NewsEngine) : NewsEngine :=
  { engine with
    degradedMode := false
    degradedModeEnteredAt := none
    announced := engine.announced ++
      [.sourcesRestored now engine.healthySources confidenceThresholdDefault
        (engine.degradedModeEnteredAt.map (now - ·))] }

def evaluateDegradedMode (now : ℚ) (engine : NewsEngine) : NewsEngine :=
  let allDown := engine.isAllSourcesDown
  let evaluated := { engine with verdicts := engine.verdicts ++ [allDown] }
  if allDown && !engine.degradedMode then evaluated.enterDegradedMode now
  else if !allDown && engine.degradedMode then evaluated.exitDegradedMode now
  else evaluated

/-- The status of a source after an outcome. -/
def mark (outcome : SourceMark) (status : SourceHealthStatus) (engine : NewsEngine) : NewsEngine :=
  { engine with
    sourceHealth := Function.update engine.sourceHealth outcome.source status
    observed := engine.observed ++ [outcome] }

def markHealthy (source : String) (now : ℚ) (engine : NewsEngine) : NewsEngine :=
  engine.mark ⟨source, now, .healthy⟩ ((engine.sourceHealth source).markHealthy now)

/-- A connection that fails is no reason for a failover yet. -/
def markNotConnected (source : String) (now : ℚ) (engine : NewsEngine) : NewsEngine :=
  engine.mark ⟨source, now, .notConnected⟩ ((engine.sourceHealth source).markUnhealthy now)

def handleUnhealthySource (source : String) (now : ℚ) (engine : NewsEngine) : NewsEngine :=
  let status := (engine.sourceHealth source).markUnhealthy now
  if status.isFailoverRequired now && !status.failoverLogged then
    { engine.mark ⟨source, now, .unhealthy⟩ { status with failoverLogged := true } with
      failovers := engine.failovers ++ [(source, status.failedSince)] }
  else engine.mark ⟨source, now, .unhealthy⟩ status

/-- `start` goes on to the next source. After the last it makes a task of health checks. -/
def connectNext (now : ℚ) (engine : NewsEngine) : List String → NewsEngine
  | [] => { engine with tasks := engine.tasks ++ [HealthTask.sleeping] }.evaluateDegradedMode now
  | source :: rest => { engine with connecting := engine.connecting ++ [(source, rest)] }

/-- A round goes on to the next source. After the last the task sleeps again. -/
def askNext (place : ℕ) (now : ℚ) (engine : NewsEngine) : List String → NewsEngine
  | [] => { engine with tasks := engine.tasks.set place .sleeping }.evaluateDegradedMode now
  | source :: rest => { engine with tasks := engine.tasks.set place (.asking now source rest) }

def start (now : ℚ) (engine : NewsEngine) : NewsEngine :=
  if engine.running then engine
  else { engine with running := true }.connectNext now engine.sources

/-- The connection that a call of `start` awaits is made, or it fails. -/
def connected (place : ℕ) (succeeds : Bool) (marked now : ℚ) (engine : NewsEngine) : NewsEngine :=
  match engine.connecting[place]? with
  | none => engine
  | some (source, rest) =>
    let goesOn := { engine with connecting := engine.connecting.eraseIdx place }
    (if succeeds then goesOn.markHealthy source marked
      else goesOn.markNotConnected source marked).connectNext now rest

/-- A task that sleeps begins a round. -/
def wakes (place : ℕ) (now : ℚ) (engine : NewsEngine) : NewsEngine :=
  match engine.tasks[place]? with
  | some .sleeping => engine.askNext place now engine.sources
  | _ => engine

/-- The source that a round awaits answers. An exception is as good as no health. -/
def answered (place : ℕ) (healthy : Bool) (engine : NewsEngine) : NewsEngine :=
  match engine.tasks[place]? with
  | some (.asking now source rest) =>
    (if healthy then engine.markHealthy source now
      else engine.handleUnhealthySource source now).askNext place now rest
  | _ => engine

/-- `stop` up to its awaits. -/
def stop (engine : NewsEngine) : NewsEngine :=
  { engine with running := false, stopping := engine.stopping + 1 }

/-- `stop` after its awaits. It resets neither since when a source fails nor the degraded mode. -/
def stopEnds (engine : NewsEngine) : NewsEngine :=
  if engine.stopping = 0 then engine
  else { engine with
    stopping := engine.stopping - 1
    sourceHealth := fun source => { engine.sourceHealth source with isHealthy := false } }

/-- One move of a run. -/
def step (engine : NewsEngine) : NewsEngineMove → NewsEngine
  | .start now => engine.start now
  | .connected place succeeds marked now => engine.connected place succeeds marked now
  | .wakes place now => engine.wakes place now
  | .answered place healthy => engine.answered place healthy
  | .taskEnds place => { engine with tasks := engine.tasks.eraseIdx place }
  | .stop => engine.stop
  | .stopEnds => engine.stopEnds

/-! ## What a move does -/

/-- A move is made of these effects: an outcome of a source, an evaluation, an end of `stop`, and
what concerns the tasks only. -/
inductive Effect : NewsEngine → NewsEngine → Prop where
  | tasks (engine : NewsEngine) (running : Bool) (connecting : List (String × List String))
      (tasks : List HealthTask) (stopping : ℕ) :
      Effect engine { engine with running, connecting, tasks, stopping }
  | healthy (engine : NewsEngine) (source : String) (now : ℚ) :
      Effect engine (engine.markHealthy source now)
  | notConnected (engine : NewsEngine) (source : String) (now : ℚ) :
      Effect engine (engine.markNotConnected source now)
  | unhealthy (engine : NewsEngine) (source : String) (now : ℚ) :
      Effect engine (engine.handleUnhealthySource source now)
  | evaluated (engine : NewsEngine) (now : ℚ) : Effect engine (engine.evaluateDegradedMode now)
  | reset (engine : NewsEngine) :
      Effect engine { engine with
        sourceHealth := fun source => { engine.sourceHealth source with isHealthy := false } }

section Effects

variable {engine before next : NewsEngine}

theorem effects_connectNext (now : ℚ) (rest : List String)
    (effects : Relation.ReflTransGen Effect before engine) :
    Relation.ReflTransGen Effect before (engine.connectNext now rest) := by
  cases rest with
  | nil =>
    have made := effects.tail (.tasks engine engine.running engine.connecting
      (engine.tasks ++ [HealthTask.sleeping]) engine.stopping)
    exact made.tail (.evaluated _ now)
  | cons source others => exact effects.tail (.tasks ..)

theorem effects_askNext (place : ℕ) (now : ℚ) (rest : List String)
    (effects : Relation.ReflTransGen Effect before engine) :
    Relation.ReflTransGen Effect before (engine.askNext place now rest) := by
  cases rest with
  | nil =>
    have sleeps := effects.tail (.tasks engine engine.running engine.connecting
      (engine.tasks.set place .sleeping) engine.stopping)
    exact sleeps.tail (.evaluated _ now)
  | cons source others => exact effects.tail (.tasks ..)

/-- Every move is a sequence of effects. -/
theorem effects_step (engine : NewsEngine) (move : NewsEngineMove) :
    Relation.ReflTransGen Effect engine (engine.step move) := by
  cases move with
  | start now =>
    rw [step, start]
    split
    · exact .refl
    · exact effects_connectNext now _ (.single (.tasks ..))
  | connected place succeeds marked now =>
    rw [step, connected]
    split
    case h_1 => exact .refl
    case h_2 source rest _ =>
      have taken : Relation.ReflTransGen Effect engine
          { engine with connecting := engine.connecting.eraseIdx place } := .single (.tasks ..)
      refine effects_connectNext now rest ?_
      split
      · exact taken.tail (.healthy _ source marked)
      · exact taken.tail (.notConnected _ source marked)
  | wakes place now =>
    rw [step, wakes]
    split
    · exact effects_askNext place now _ .refl
    · exact .refl
  | answered place healthy =>
    rw [step, answered]
    split
    case h_1 now source rest _ =>
      refine effects_askNext place now rest ?_
      split
      · exact .single (.healthy engine source now)
      · exact .single (.unhealthy engine source now)
    case h_2 => exact .refl
  | taskEnds place => exact .single (.tasks ..)
  | stop => exact .single (.tasks ..)
  | stopEnds =>
    rw [step, stopEnds]
    split
    · exact .refl
    · exact (Relation.ReflTransGen.single (.tasks engine engine.running engine.connecting
        engine.tasks (engine.stopping - 1))).tail (.reset _)

/-- What every effect keeps holds in every state of every run. -/
theorem after_effects {invariant : NewsEngine → Prop}
    (kept : ∀ engine next, Effect engine next → invariant engine → invariant next)
    (holds : invariant engine) (moves : List NewsEngineMove) :
    invariant (after step engine moves) := by
  refine after_keeps_always (fun current move whole => ?_) moves holds
  have effects := effects_step current move
  generalize current.step move = reached at effects ⊢
  induction effects with
  | refl => exact whole
  | tail _ effect inductionHypothesis => exact kept _ _ effect inductionHypothesis

end Effects

/-! ## Degraded mode -/

/-- The verdict that an announcement is about. -/
def isDown : SourceAnnouncement → Bool
  | .allSourcesDown .. => true
  | .sourcesRestored .. => false

/-- The threshold that an announcement states. -/
def thresholdOf : SourceAnnouncement → ℕ
  | .allSourcesDown _ _ threshold => threshold
  | .sourcesRestored _ _ threshold _ => threshold

/-- What the next announcement says, given the one before. A restoration names sources, and how long
all were down. -/
def Answers : SourceAnnouncement → SourceAnnouncement → Prop
  | .allSourcesDown since _ _, .sourcesRestored now restored _ duration =>
    restored.Nonempty ∧ duration = some (now - since)
  | .sourcesRestored .., .allSourcesDown .. => True
  | _, _ => False

/-- The announcements of an engine, and the mode that the last one left it in. -/
structure Announces (engine : NewsEngine) : Prop where
  changes : engine.announced.map isDown = (engine.verdicts.destutter' (· ≠ ·) false).tail
  mode : engine.degradedMode = engine.verdicts.getLastD false
  answers : engine.announced.IsChain Answers
  last : match engine.announced.getLast? with
    | none => engine.degradedMode = false
    | some (.allSourcesDown since _ threshold) => engine.degradedMode = true ∧
        engine.degradedModeEnteredAt = some since ∧ threshold = confidenceThresholdNewsDown
    | some (.sourcesRestored _ _ threshold _) =>
      engine.degradedMode = false ∧ threshold = confidenceThresholdDefault

section DegradedMode

variable {engine next : NewsEngine}

/-- The announcements depend on the mode and the verdicts only. -/
theorem Announces.congr (announces : engine.Announces) (announced : next.announced = engine.announced)
    (verdicts : next.verdicts = engine.verdicts) (mode : next.degradedMode = engine.degradedMode)
    (since : next.degradedModeEnteredAt = engine.degradedModeEnteredAt) : next.Announces := by
  obtain ⟨changes, sameMode, answers, last⟩ := announces
  refine ⟨?_, ?_, ?_, ?_⟩
  · rw [announced, verdicts, changes]
  · rw [mode, verdicts, sameMode]
  · rw [announced]
    exact answers
  · rw [announced, mode, since]
    exact last

/-- The changes of the verdicts after one more of them. -/
theorem changes_verdict (verdicts : List Bool) (verdict : Bool) :
    ((verdicts ++ [verdict]).destutter' (· ≠ ·) false).tail =
      (verdicts.destutter' (· ≠ ·) false).tail ++
        if verdicts.getLastD false = verdict then [] else [verdict] := by
  rw [Histories.changes_concat]
  exact List.tail_append_of_ne_nil (List.destutter'_ne_nil _ _)

/-- The same verdict again is not announced. -/
theorem Announces.again (announces : engine.Announces) :
    { engine with verdicts := engine.verdicts ++ [engine.degradedMode] }.Announces := by
  obtain ⟨changes, mode, answers, last⟩ := announces
  refine ⟨?_, ?_, answers, last⟩
  · rw [changes_verdict, ← mode, if_pos rfl, List.append_nil, changes]
  · simp

/-- The changes with another verdict. -/
theorem Announces.changed (announces : engine.Announces) (announcement : SourceAnnouncement)
    (differs : engine.degradedMode ≠ isDown announcement) :
    (engine.announced ++ [announcement]).map isDown =
      ((engine.verdicts ++ [isDown announcement]).destutter' (· ≠ ·) false).tail := by
  rw [changes_verdict, ← announces.mode, if_neg differs, List.map_append, announces.changes]
  rfl

/-- The first evaluation that finds every source down announces it. -/
theorem Announces.enter (announces : engine.Announces) (now : ℚ)
    (normal : engine.degradedMode = false) :
    ({ engine with verdicts := engine.verdicts ++ [true] }.enterDegradedMode now).Announces := by
  refine ⟨announces.changed (.allSourcesDown ..) (by simp [normal, isDown]),
    by simp [enterDegradedMode], ?_, by simp [enterDegradedMode]⟩
  refine List.isChain_append.mpr ⟨announces.answers, List.isChain_singleton _, ?_⟩
  rintro former isLast latter isNew
  obtain rfl := Option.some.inj isNew
  have last := announces.last
  rw [isLast] at last
  cases former with
  | allSourcesDown since count threshold => exact absurd (last.1.symm.trans normal) (by decide)
  | sourcesRestored now restored threshold duration => trivial

/-- The first one that finds a source healthy again announces that. -/
theorem Announces.exit (announces : engine.Announces) (now : ℚ)
    (degraded : engine.degradedMode = true) (restored : engine.healthySources ≠ ∅) :
    ({ engine with verdicts := engine.verdicts ++ [false] }.exitDegradedMode now).Announces := by
  refine ⟨announces.changed (.sourcesRestored ..) (by simp [degraded, isDown]),
    by simp [exitDegradedMode], ?_, by simp [exitDegradedMode]⟩
  refine List.isChain_append.mpr ⟨announces.answers, List.isChain_singleton _, ?_⟩
  rintro former isLast latter isNew
  obtain rfl := Option.some.inj isNew
  have last := announces.last
  rw [isLast] at last
  cases former with
  | allSourcesDown since count threshold =>
    refine ⟨Finset.nonempty_iff_ne_empty.mpr restored, ?_⟩
    rw [last.2.1]
    rfl
  | sourcesRestored now restored threshold duration =>
    exact absurd (last.1.symm.trans degraded) (by decide)

/-- An evaluation announces a verdict that is not the one before. -/
theorem Announces.evaluate (announces : engine.Announces) (now : ℚ) :
    (engine.evaluateDegradedMode now).Announces := by
  have again := announces.again
  rw [evaluateDegradedMode]
  cases down : engine.isAllSourcesDown with
  | true =>
    cases degraded : engine.degradedMode with
    | true =>
      rw [degraded] at again
      exact again
    | false => exact announces.enter now degraded
  | false =>
    cases degraded : engine.degradedMode with
    | true => exact announces.exit now degraded (of_decide_eq_false down)
    | false =>
      rw [degraded] at again
      exact again

/-- Only evaluations announce anything. -/
theorem Announces.effect (effect : Effect engine next) (announces : engine.Announces) :
    next.Announces := by
  cases effect with
  | tasks => exact announces.congr rfl rfl rfl rfl
  | healthy source now => exact announces.congr rfl rfl rfl rfl
  | notConnected source now => exact announces.congr rfl rfl rfl rfl
  | unhealthy source now =>
    rw [handleUnhealthySource]
    dsimp only
    split <;> exact announces.congr rfl rfl rfl rfl
  | evaluated now => exact announces.evaluate now
  | reset => exact announces.congr rfl rfl rfl rfl

/-- In every run, the engine announces exactly the changes of what its evaluations find, so that all
sources down and sources restored alternate; a restoration names sources that are healthy again and
how long all were down, and signals need the confidence that the last announcement stated. -/
theorem announcements_follow_verdicts (sources : List String) (moves : List NewsEngineMove) :
    let engine := after step { sources } moves
    engine.announced.map isDown = (engine.verdicts.destutter' (· ≠ ·) false).tail ∧
      engine.announced.IsChain Answers ∧
      engine.getConfidenceThreshold =
        engine.announced.getLast?.elim confidenceThresholdDefault thresholdOf := by
  intro engine
  have announces : engine.Announces := by
    refine after_effects (fun _ _ effect announces => announces.effect effect) ?_ moves
    exact ⟨rfl, rfl, List.isChain_nil, rfl⟩
  refine ⟨announces.changes, announces.answers, ?_⟩
  have last := announces.last
  rw [getConfidenceThreshold]
  cases announcement : engine.announced.getLast? with
  | none =>
    rw [announcement] at last
    rw [last]
    rfl
  | some announcement' =>
    rw [announcement] at last
    cases announcement' with
    | allSourcesDown since count threshold =>
      rw [last.1, last.2.2]
      rfl
    | sourcesRestored now restored threshold duration =>
      rw [last.1, last.2]
      rfl

end DegradedMode

/-! ## Failovers -/

/-- The outcomes of a source. -/
def outcomesOf (source : String) (engine : NewsEngine) : List SourceMark :=
  engine.observed.filter fun outcome => outcome.source = source

/-- The outages of a source: what lies between its healthy outcomes. -/
def outages (source : String) (engine : NewsEngine) : List (List SourceMark) :=
  (engine.outcomesOf source).splitOnP fun outcome => outcome.outcome = .healthy

/-- When an outage began, if a later health check found it to have lasted five minutes. -/
def overdue : List SourceMark → Option ℚ
  | [] => none
  | first :: later =>
    if later.any fun outcome => outcome.outcome = .unhealthy ∧
        SourceHealthStatus.newsSourceUnavailableThresholdSeconds ≤ outcome.time - first.time
    then some first.time else none

/-- The failovers of a source that were logged, with when its outage began. -/
def failoversOf (source : String) (engine : NewsEngine) : List (Option ℚ) :=
  (engine.failovers.filter fun failover => failover.1 = source).map Prod.snd

/-- The status of a source tells its last outage, and the failovers tell all that were overdue. -/
structure Tracks (source : String) (engine : NewsEngine) : Prop where
  current : ∃ earlier last, engine.outages source = earlier ++ [last] ∧
    (engine.sourceHealth source).failedSince = last.head?.map SourceMark.time ∧
    (engine.sourceHealth source).failoverLogged = (overdue last).isSome
  logged : engine.failoversOf source = ((engine.outages source).filterMap overdue).map some

section Failovers

variable {engine next : NewsEngine} {source other : String}

/-- One more check of an outage finds it overdue, unless one before did. -/
theorem overdue_concat (outage : List SourceMark) (outcome : SourceMark) :
    overdue (outage ++ [outcome]) =
      (overdue outage).or (outage.head?.bind fun first =>
        if outcome.outcome = .unhealthy ∧
            SourceHealthStatus.newsSourceUnavailableThresholdSeconds ≤ outcome.time - first.time
        then some first.time else none) := by
  cases outage with
  | nil => rfl
  | cons first later =>
    simp only [List.cons_append, overdue, List.any_append, List.any_cons, List.any_nil,
      Bool.or_false, List.head?_cons, Option.bind_some]
    cases later.any fun outcome => outcome.outcome = .unhealthy ∧
      SourceHealthStatus.newsSourceUnavailableThresholdSeconds ≤ outcome.time - first.time with
    | true => rfl
    | false => simp

/-- The outcomes of other sources do not matter. -/
theorem Tracks.congr (tracks : engine.Tracks source)
    (outcomes : next.outcomesOf source = engine.outcomesOf source)
    (status : (next.sourceHealth source).failedSince = (engine.sourceHealth source).failedSince ∧
      (next.sourceHealth source).failoverLogged = (engine.sourceHealth source).failoverLogged)
    (failovers : next.failoversOf source = engine.failoversOf source) : next.Tracks source := by
  obtain ⟨current, logged⟩ := tracks
  have same : next.outages source = engine.outages source := by rw [outages, outages, outcomes]
  refine ⟨?_, ?_⟩
  · rw [same, status.1, status.2]
    exact current
  · rw [failovers, same]
    exact logged

/-- One more outcome is one of its source. -/
theorem outcomesOf_more {outcome : SourceMark} (more : next.observed = engine.observed ++ [outcome]) :
    next.outcomesOf source =
      engine.outcomesOf source ++ if outcome.source = source then [outcome] else [] := by
  rw [outcomesOf, outcomesOf, more, List.filter_append]
  by_cases same : outcome.source = source <;> simp [same]

theorem Tracks.markOther (tracks : engine.Tracks source) (outcome : SourceMark)
    (differs : outcome.source ≠ source) (status : SourceHealthStatus) :
    (engine.mark outcome status).Tracks source := by
  refine tracks.congr ?_ ?_ rfl
  · rw [outcomesOf_more rfl, if_neg differs, List.append_nil]
  · simp [mark, Function.update_of_ne (Ne.symm differs)]

/-- A healthy outcome ends the outage. -/
theorem Tracks.markHealthy (tracks : engine.Tracks source) (now : ℚ) :
    (engine.markHealthy other now).Tracks source := by
  by_cases same : other = source
  · subst same
    have outcomes : (engine.markHealthy other now).outcomesOf other =
        engine.outcomesOf other ++ [⟨other, now, .healthy⟩] :=
      (outcomesOf_more rfl).trans (by rw [if_pos rfl])
    have ended : (engine.markHealthy other now).outages other = engine.outages other ++ [[]] := by
      rw [outages, outcomes]
      exact Histories.phases_separator _ rfl
    refine ⟨⟨engine.outages other, [], ended, ?_, ?_⟩, ?_⟩
    · simp [NewsEngine.markHealthy, mark, SourceHealthStatus.markHealthy]
    · simp [NewsEngine.markHealthy, mark, SourceHealthStatus.markHealthy, overdue]
    · rw [ended, List.filterMap_append, List.filterMap_cons_none rfl, List.filterMap_nil,
        List.append_nil, ← tracks.logged]
      rfl
  · exact tracks.markOther ⟨other, now, .healthy⟩ same _

/-- An outcome that is not healthy goes on with the outage. What it finds overdue is a failover. -/
theorem Tracks.fails (tracks : engine.Tracks source) (outcome : SourceMark)
    (fails : outcome.outcome ≠ .healthy)
    (outcomes : next.outcomesOf source = engine.outcomesOf source ++ [outcome])
    (since : (next.sourceHealth source).failedSince =
      some ((engine.sourceHealth source).failedSince.getD outcome.time))
    (finds : ∀ last, (engine.sourceHealth source).failedSince = last.head?.map SourceMark.time →
      (engine.sourceHealth source).failoverLogged = (overdue last).isSome →
      (next.sourceHealth source).failoverLogged = (overdue (last ++ [outcome])).isSome ∧
        next.failoversOf source = engine.failoversOf source ++
          if overdue last = none then (overdue (last ++ [outcome])).toList.map some else []) :
    next.Tracks source := by
  obtain ⟨⟨earlier, last, phases, failedSince, failoverLogged⟩, logged⟩ := tracks
  let isHealthy (mark : SourceMark) : Bool := mark.outcome = .healthy
  obtain ⟨earlier', last', phases', longer⟩ :=
    Histories.phases_item isHealthy (engine.outcomesOf source) (decide_eq_false fails)
  obtain ⟨rfl, ends⟩ := List.append_inj' (phases.symm.trans phases') rfl
  obtain rfl := List.head_eq_of_cons_eq ends
  have goesOn : next.outages source = earlier ++ [last ++ [outcome]] := by
    rw [outages, outcomes]
    exact longer
  obtain ⟨found, added⟩ := finds last failedSince failoverLogged
  refine ⟨⟨earlier, last ++ [outcome], goesOn, ?_, found⟩, ?_⟩
  · rw [since, failedSince]
    cases last <;> rfl
  · rw [added, logged, goesOn, phases, List.filterMap_append, List.filterMap_append,
      List.map_append, List.map_append, List.append_assoc]
    congr 1
    cases before : overdue last with
    | none => cases after : overdue (last ++ [outcome]) <;> simp [before, after]
    | some began =>
      have still : overdue (last ++ [outcome]) = some began := by
        rw [overdue_concat, before]
        rfl
      simp [before, still]

/-- A connection that fails is not a check. -/
theorem Tracks.markNotConnected (tracks : engine.Tracks source) (now : ℚ) :
    (engine.markNotConnected other now).Tracks source := by
  by_cases same : other = source
  · subst same
    refine tracks.fails ⟨other, now, .notConnected⟩ nofun ?_ ?_ ?_
    · exact (outcomesOf_more rfl).trans (by rw [if_pos rfl])
    · simp [NewsEngine.markNotConnected, mark, SourceHealthStatus.markUnhealthy]
    · intro last failedSince failoverLogged
      have unchanged : overdue (last ++ [⟨other, now, .notConnected⟩]) = overdue last := by
        rw [overdue_concat]
        cases last <;> simp
      rw [unchanged]
      refine ⟨?_, ?_⟩
      · simp [NewsEngine.markNotConnected, mark, SourceHealthStatus.markUnhealthy, failoverLogged]
      · cases overdue last <;> simp [NewsEngine.markNotConnected, mark, failoversOf]
  · exact tracks.markOther ⟨other, now, .notConnected⟩ same _

/-- A failover is required when the outage is overdue with the outcome of the check. -/
theorem isFailoverRequired_eq {status : SourceHealthStatus} {last : List SourceMark}
    (since : status.failedSince = last.head?.map SourceMark.time) (now : ℚ) :
    (status.markUnhealthy now).isFailoverRequired now =
      (last.head?.bind fun first =>
        if SourceHealthStatus.newsSourceUnavailableThresholdSeconds ≤ now - first.time
        then some first.time else none).isSome := by
  rw [SourceHealthStatus.isFailoverRequired, SourceHealthStatus.markUnhealthy, since]
  cases last with
  | nil => simp [SourceHealthStatus.newsSourceUnavailableThresholdSeconds]
  | cons first later =>
    by_cases overdue : SourceHealthStatus.newsSourceUnavailableThresholdSeconds ≤ now - first.time
      <;> simp [overdue]

/-- A check that finds no health logs a failover when it is the first to find the outage overdue. -/
theorem Tracks.handleUnhealthySource (tracks : engine.Tracks source) (now : ℚ) :
    (engine.handleUnhealthySource other now).Tracks source := by
  by_cases same : other = source
  · subst same
    refine tracks.fails ⟨other, now, .unhealthy⟩ nofun ?_ ?_ ?_
    · refine (outcomesOf_more (?_ : _ = _ ++ [⟨other, now, .unhealthy⟩])).trans (by rw [if_pos rfl])
      rw [NewsEngine.handleUnhealthySource]
      dsimp only
      split <;> rfl
    · rw [NewsEngine.handleUnhealthySource]
      dsimp only
      split <;> simp [mark, SourceHealthStatus.markUnhealthy]
    · intro last failedSince failoverLogged
      have required := isFailoverRequired_eq failedSince now
      have finds := overdue_concat last ⟨other, now, .unhealthy⟩
      simp only [true_and] at finds
      rw [finds, NewsEngine.handleUnhealthySource]
      dsimp only
      rw [required]
      cases before : overdue last with
      | some began =>
        have logged : (engine.sourceHealth other).failoverLogged = true := by
          rw [failoverLogged, before]
          rfl
        simp [mark, SourceHealthStatus.markUnhealthy, logged, failoversOf]
      | none =>
        have silent : (engine.sourceHealth other).failoverLogged = false := by
          rw [failoverLogged, before]
          rfl
        cases head : last.head? with
        | none => simp [mark, SourceHealthStatus.markUnhealthy, silent, failoversOf]
        | some first =>
          by_cases overdue :
            SourceHealthStatus.newsSourceUnavailableThresholdSeconds ≤ now - first.time
          · simp [mark, SourceHealthStatus.markUnhealthy, silent, failoversOf, overdue,
              failedSince, head]
          · simp [mark, SourceHealthStatus.markUnhealthy, silent, failoversOf, overdue]
  · rw [NewsEngine.handleUnhealthySource]
    dsimp only
    split
    · refine (tracks.markOther ⟨other, now, .unhealthy⟩ same _).congr rfl ⟨rfl, rfl⟩ ?_
      simp [failoversOf, mark, same]
    · exact tracks.markOther ⟨other, now, .unhealthy⟩ same _

/-- Every effect keeps the track of a source. -/
theorem Tracks.effect (effect : Effect engine next) (tracks : engine.Tracks source) :
    next.Tracks source := by
  cases effect with
  | tasks => exact tracks.congr rfl ⟨rfl, rfl⟩ rfl
  | healthy other now => exact tracks.markHealthy now
  | notConnected other now => exact tracks.markNotConnected now
  | unhealthy other now => exact tracks.handleUnhealthySource now
  | evaluated now =>
    rw [evaluateDegradedMode]
    split_ifs <;> exact tracks.congr rfl ⟨rfl, rfl⟩ rfl
  | reset => exact tracks.congr rfl ⟨rfl, rfl⟩ rfl

/-- In every run, a failover is logged for exactly those outages of a source that a health check
found to have lasted five minutes, once for each and in order, whatever the tasks and the restarts
between them; and a source is known to fail since the beginning of its last outage. -/
theorem failovers_eq_overdue_outages (sources : List String) (moves : List NewsEngineMove)
    (source : String) :
    let engine := after step { sources } moves
    engine.failoversOf source = ((engine.outages source).filterMap overdue).map some ∧
      (engine.sourceHealth source).failedSince =
        ((engine.outages source).getLast?.bind List.head?).map SourceMark.time := by
  intro engine
  have tracks : engine.Tracks source := by
    refine after_effects (fun _ _ effect tracks => tracks.effect effect) ?_ moves
    exact ⟨⟨[], [], List.splitOnP_nil, rfl, rfl⟩, by simp [outages, outcomesOf, failoversOf, overdue]⟩
  obtain ⟨earlier, last, phases, since, -⟩ := tracks.current
  refine ⟨tracks.logged, ?_⟩
  rw [since, phases, List.getLast?_concat]
  rfl

end Failovers

end NewsEngine

end IgTradingBot
