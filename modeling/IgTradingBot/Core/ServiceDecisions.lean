import IgTradingBot.Core.ServiceManager

/-!
# Decisions of the service manager

The handler of an error that wakes up asks whether the manager is running, not what has become of
its service, and no start asks whether the service is running already. A service that was stopped or
has failed for good comes up again when one of its handlers was pending.
-/

namespace IgTradingBot

namespace ServiceManager

/-- The first service of a list that can be started is not running. -/
def StartsIdle (manager : ServiceManager) (names : List String) : Prop :=
  ∀ name, names.find? manager.canStart = some name → manager.getStatus name ≠ some .running

section Lookups

variable {manager : ServiceManager} {name : String} {change : ServiceState → ServiceState}

/-- A change touches the service of its name only. -/
theorem lookup_modify (other : String) :
    (manager.modify name change).lookup other =
      (manager.lookup other).map fun state => if other = name then change state else state := by
  have keys : (fun entry : String × ServiceState => decide (entry.1 = other)) ∘
      (fun entry => if entry.1 = name then (entry.1, change entry.2) else entry) =
      fun entry => decide (entry.1 = other) := by
    funext entry
    simp only [Function.comp_apply]
    split_ifs <;> rfl
  simp only [lookup, modify, List.find?_map, keys]
  cases found : manager.services.find? fun entry => entry.1 = other with
  | none => rfl
  | some entry =>
    have key : entry.1 = other := by simpa using List.find?_some found
    simp only [Option.map_some, key]
    split_ifs <;> rfl

/-- A change that keeps the start functions changes no answer to whether a service can be
started. -/
theorem can_start_modify (keeps : ∀ state, (change state).hasStart = state.hasStart) :
    (manager.modify name change).canStart = manager.canStart := by
  funext other
  rw [canStart, canStart, lookup_modify]
  cases manager.lookup other with
  | none => rfl
  | some state =>
    simp only [Option.map_some, Option.any_some]
    split_ifs
    · exact keeps state
    · rfl

/-- A change keeps the status of every other service. -/
theorem get_status_modify {other : String} (different : other ≠ name) :
    (manager.modify name change).getStatus other = manager.getStatus other := by
  rw [getStatus, getStatus, lookup_modify]
  simp only [if_neg different, Option.map_id']

/-- What a start function leaves of the other services is what it found. -/
theorem starts_idle_end_start {names : List String} (others : name ∉ names)
    (error : Option String) (now : ℚ) :
    (manager.endStart name error now).StartsIdle names ↔ manager.StartsIdle names := by
  have same : (manager.endStart name error now).canStart = manager.canStart := by
    apply can_start_modify
    intro state
    cases error <;> rfl
  unfold StartsIdle
  rw [same]
  refine forall_congr' fun next => imp_congr_right fun found => ?_
  have different : next ≠ name := fun equal => others (equal ▸ List.mem_of_find?_eq_some found)
  rw [endStart, get_status_modify different]

end Lookups

end ServiceManager

/-- What remains of a loop that starts services does not come back to the one that is being
started. -/
def ServiceTask.Scheduled : ServiceTask → Prop
  | .starting name remaining => (name :: remaining).Nodup
  | _ => True

namespace ServiceRun

open ServiceManager

/-- No service was started while it was running, and none was started, or came up, through a handler
that was pending when it was stopped or failed for good. -/
structure Respected (starts : List ServiceStart) (revived : List String) : Prop where
  idle : ∀ start ∈ starts, start.found ≠ some .running
  pending : ∀ start ∈ starts, start.overruled = false
  silent : revived = []

/-- A run respects the decisions on its services. -/
abbrev Respects (run : ServiceRun) : Prop := Respected run.starts run.revived

/-- A handler that wakes up while the manager is running is not overruled, and its service is not
running. -/
def WakesWell (run : ServiceRun) (task : ℕ) : Prop :=
  ∀ name overruled, run.tasks[task]? = some (.sleeping name overruled) →
    run.manager.running = true → run.manager.canStart name = true →
      run.manager.getStatus name ≠ some .running ∧ overruled = false

/-- A start that succeeds is not one of an overruled handler, and the next start of the same call
finds a service that is not running. -/
def EndsWell (run : ServiceRun) (task : ℕ) (error : Option String) : Prop :=
  (∀ name, run.tasks[task]? = some (.restarting name true) → error ≠ none) ∧
    ∀ name remaining, run.tasks[task]? = some (.starting name remaining) →
      run.manager.StartsIdle remaining

/-- A move starts no running service and lets no overruled handler start one. -/
def StartsWell (run : ServiceRun) : ServiceMove → Prop
  | .startCalled name => run.manager.StartsIdle [name]
  | .startAllCalled => run.manager.StartsIdle run.manager.names
  | .woken task => run.WakesWell task
  | .startEnded task error _ => run.EndsWell task error
  | .stopCalled _ | .stopAllCalled | .errorReported _ _ _ | .stopEnded _ => True

/-- Every loop that starts services goes through different ones. -/
def Scheduled (run : ServiceRun) : Prop := ∀ task ∈ run.tasks, task.Scheduled

section History

variable {run : ServiceRun}

/-- Another run with the same history respects the same decisions. -/
theorem respects_same {other : ServiceRun} (starts : other.starts = run.starts)
    (revived : other.revived = run.revived) (respects : Respects run) : Respects other := by
  rw [Respects, starts, revived]
  exact respects

/-- One more start is respected exactly when it finds a service that is not running and is not that
of an overruled handler. -/
theorem respected_start {starts : List ServiceStart} {revived : List String}
    (respected : Respected starts revived) (start : ServiceStart) :
    Respected (starts ++ [start]) revived ↔
      start.found ≠ some .running ∧ start.overruled = false := by
  constructor
  · rintro ⟨idle, pending, _⟩
    have member : start ∈ starts ++ [start] := List.mem_append_right _ (List.mem_singleton_self _)
    exact ⟨idle start member, pending start member⟩
  · rintro ⟨idle, pending⟩
    refine ⟨fun other member => ?_, fun other member => ?_, respected.silent⟩
    · obtain earlier | last := List.mem_append.mp member
      · exact respected.idle other earlier
      · exact List.mem_singleton.mp last ▸ idle
    · obtain earlier | last := List.mem_append.mp member
      · exact respected.pending other earlier
      · exact List.mem_singleton.mp last ▸ pending

/-- A call of a start function enters itself into the history. -/
theorem start_cases (run : ServiceRun) (name : String) (overruled : Bool) :
    run.manager.canStart name = false ∧ run.start name overruled = none ∨
      run.manager.canStart name = true ∧ ∃ started, run.start name overruled = some started ∧
        started.starts = run.starts ++ [⟨name, run.manager.getStatus name, overruled⟩] ∧
        started.revived = run.revived ∧ started.tasks = run.tasks := by
  cases able : run.manager.canStart name with
  | false => exact .inl ⟨rfl, by simp [start, beginStart, able]⟩
  | true =>
    right
    refine ⟨rfl, ?_⟩
    simp only [start, beginStart, able, if_true, Option.map_some]
    exact ⟨_, rfl, rfl, rfl, rfl⟩

/-- A loop that starts services starts the first one that can be started. The induction is on its
services. -/
theorem start_next_cases (run : ServiceRun) (names : List String) :
    names.find? run.manager.canStart = none ∧ run.startNext names = (run, .finished) ∨
      ∃ name remaining started, names.find? run.manager.canStart = some name ∧
        (name :: remaining) <:+ names ∧
        run.startNext names = (started, .starting name remaining) ∧
        started.starts = run.starts ++ [⟨name, run.manager.getStatus name, false⟩] ∧
        started.revived = run.revived ∧ started.tasks = run.tasks := by
  induction names with
  | nil => exact .inl ⟨rfl, rfl⟩
  | cons name remaining inductionHypothesis =>
    obtain ⟨unable, nothing⟩ | ⟨able, started, begun, history⟩ := run.start_cases name false
    · have skipped : run.startNext (name :: remaining) = run.startNext remaining := by
        simp only [startNext, nothing]
      rw [skipped, List.find?_cons_of_neg (by simp [unable])]
      refine inductionHypothesis.imp_right ?_
      rintro ⟨next, rest, started, found, suffix, result⟩
      exact ⟨next, rest, started, found, suffix.trans (List.suffix_cons _ _), result⟩
    · right
      refine ⟨name, remaining, started, List.find?_cons_of_pos able, List.suffix_rfl, ?_, history⟩
      simp only [startNext, begun]

/-- A loop that starts services keeps the history respected exactly when the service that it starts
is not running. -/
theorem start_next_respects (respects : Respects run) (names : List String) :
    Respects (run.startNext names).1 ↔ run.manager.StartsIdle names := by
  obtain ⟨missing, nothing⟩ | ⟨name, remaining, started, found, _, begun, starts, revived, _⟩ :=
    run.start_next_cases names
  · rw [nothing]
    refine iff_of_true respects fun name found => ?_
    cases missing.symm.trans found
  · rw [begun, Respects, starts, revived, respected_start respects]
    constructor
    · rintro ⟨idle, _⟩ next nextFound
      obtain rfl := Option.some.inj (found.symm.trans nextFound)
      exact idle
    · intro idle
      exact ⟨idle name found, rfl⟩

/-- A handler that wakes up starts its service when the manager is running and the service can be
started. -/
theorem wake_cases (run : ServiceRun) (task : ℕ) :
    (∀ name overruled, run.tasks[task]? ≠ some (.sleeping name overruled)) ∧
        run.wake task = run ∨
      ∃ name overruled, run.tasks[task]? = some (.sleeping name overruled) ∧
        (¬ (run.manager.running = true ∧ run.manager.canStart name = true) ∧
            run.wake task = proceed task (run, .finished) ∨
          run.manager.running = true ∧ run.manager.canStart name = true ∧
            ∃ started, run.wake task = proceed task (started, .restarting name overruled) ∧
              started.starts =
                run.starts ++ [⟨name, run.manager.getStatus name, overruled⟩] ∧
              started.revived = run.revived ∧ started.tasks = run.tasks) := by
  unfold wake
  split
  · rename_i name overruled found
    refine .inr ⟨name, overruled, found, ?_⟩
    by_cases running : run.manager.running = true
    · rw [if_pos running]
      obtain ⟨unable, nothing⟩ | ⟨able, started, begun, history⟩ := run.start_cases name overruled
      · rw [nothing, unable]
        exact .inl ⟨fun both => Bool.false_ne_true both.2, rfl⟩
      · rw [begun]
        exact .inr ⟨running, able, started, rfl, history⟩
    · rw [if_neg running]
      exact .inl ⟨fun both => running both.1, rfl⟩
  · rename_i other
    exact .inl ⟨fun name overruled => other name overruled, rfl⟩

/-- The end of a start function ends the start of a handler, or goes on with the services that
remain. -/
theorem end_start_cases (run : ServiceRun) (task : ℕ) (error : Option String) (now : ℚ) :
    (∃ name overruled, run.tasks[task]? = some (.restarting name overruled) ∧
      run.endStart task error now = proceed task
        ({ run with
            manager := run.manager.endStart name error now
            revived := if overruled && error.isNone then run.revived ++ [name] else run.revived },
          .finished)) ∨
    (∃ name remaining, run.tasks[task]? = some (.starting name remaining) ∧
      run.endStart task error now = proceed task
        ({ run with manager := run.manager.endStart name error now }.startNext remaining)) ∨
    ((∀ name overruled, run.tasks[task]? ≠ some (.restarting name overruled)) ∧
      (∀ name remaining, run.tasks[task]? ≠ some (.starting name remaining)) ∧
      run.endStart task error now = run) := by
  unfold endStart
  split
  · rename_i name overruled found
    exact .inl ⟨name, overruled, found, rfl⟩
  · rename_i name remaining found
    exact .inr (.inl ⟨name, remaining, found, rfl⟩)
  · rename_i notRestarting notStarting
    exact .inr (.inr ⟨fun name overruled => notRestarting name overruled,
      fun name remaining => notStarting name remaining, rfl⟩)

/-- A loop that stops services starts none. The induction is on its services. -/
theorem stop_next_history (run : ServiceRun) (names : List String) :
    (run.stopNext names).1.starts = run.starts ∧ (run.stopNext names).1.revived = run.revived := by
  induction names generalizing run with
  | nil => exact ⟨rfl, rfl⟩
  | cons name remaining inductionHypothesis =>
    unfold stopNext
    split
    · split_ifs
      · exact ⟨rfl, rfl⟩
      · exact inductionHypothesis (run.endStop name)
      · exact inductionHypothesis run
    · exact inductionHypothesis run

end History

section Schedules

variable {run : ServiceRun}

/-- To overrule a call changes nothing in its schedule. -/
theorem scheduled_overrule (name : String) (task : ServiceTask) :
    (task.overrule name).Scheduled ↔ task.Scheduled := by
  cases task <;> exact Iff.rfl

/-- A service that is stopped changes nothing in the schedules. -/
theorem Scheduled.overrule (scheduled : Scheduled run) (name : String) :
    ∀ task ∈ run.tasks.map (ServiceTask.overrule name), task.Scheduled := by
  intro task member
  obtain ⟨before, earlier, rfl⟩ := List.mem_map.mp member
  exact (scheduled_overrule name before).mpr (scheduled before earlier)

/-- A new call with a schedule. -/
theorem spawn_scheduled (scheduled : Scheduled run) (called : ServiceTask)
    (ownSchedule : called.Scheduled) : Scheduled (spawn (run, called)) := by
  intro task member
  obtain earlier | last := List.mem_append.mp member
  · exact scheduled task earlier
  · exact List.mem_singleton.mp last ▸ ownSchedule

/-- A call that goes on with a schedule. -/
theorem proceed_scheduled (scheduled : Scheduled run) (called : ServiceTask)
    (ownSchedule : called.Scheduled) (place : ℕ) : Scheduled (proceed place (run, called)) := by
  intro task member
  obtain earlier | same := List.mem_or_eq_of_mem_set member
  · exact scheduled task earlier
  · exact same ▸ ownSchedule

/-- A loop over different services that starts one goes on with different services. -/
theorem start_next_scheduled (scheduled : Scheduled run) {names : List String}
    (distinct : names.Nodup) :
    Scheduled (run.startNext names).1 ∧ (run.startNext names).2.Scheduled := by
  obtain ⟨_, nothing⟩ | ⟨name, remaining, started, _, suffix, begun, _, _, tasks⟩ :=
    run.start_next_cases names
  · rw [nothing]
    exact ⟨scheduled, trivial⟩
  · rw [begun]
    refine ⟨?_, distinct.sublist suffix.sublist⟩
    intro task member
    exact scheduled task (tasks ▸ member)

/-- A loop that stops services keeps the schedules. The induction is on its services. -/
theorem stop_next_scheduled (scheduled : Scheduled run) (names : List String) :
    Scheduled (run.stopNext names).1 ∧ (run.stopNext names).2.Scheduled := by
  induction names generalizing run with
  | nil => exact ⟨scheduled, trivial⟩
  | cons name remaining inductionHypothesis =>
    unfold stopNext
    split
    · split_ifs
      · exact ⟨scheduled, trivial⟩
      · exact inductionHypothesis (scheduled.overrule name)
      · exact inductionHypothesis scheduled
    · exact inductionHypothesis scheduled

/-- Every move keeps the schedules. -/
theorem Scheduled.step (scheduled : Scheduled run) (move : ServiceMove) :
    Scheduled (run.step move) := by
  cases move with
  | startCalled name =>
    obtain ⟨others, own⟩ := start_next_scheduled scheduled (List.nodup_singleton name)
    exact spawn_scheduled others _ own
  | startAllCalled =>
    have same : Scheduled { run with manager := { run.manager with running := true } } := scheduled
    obtain ⟨others, own⟩ := start_next_scheduled same run.manager.distinct
    exact spawn_scheduled others _ own
  | stopCalled name =>
    change Scheduled (run.stop name)
    unfold stop
    split
    · exact scheduled
    · split_ifs
      · exact spawn_scheduled scheduled _ trivial
      · exact scheduled.overrule name
  | stopAllCalled =>
    have same : Scheduled { run with manager := { run.manager with running := false } } := scheduled
    obtain ⟨others, own⟩ := stop_next_scheduled same run.manager.names
    exact spawn_scheduled others _ own
  | errorReported name error now =>
    change Scheduled (run.report name error now)
    unfold report
    split
    · exact scheduled
    · exact scheduled.overrule name
    · exact spawn_scheduled scheduled _ trivial
  | woken task =>
    change Scheduled (run.wake task)
    obtain ⟨_, unchanged⟩ | ⟨name, overruled, _, ⟨_, ended⟩ | ⟨_, _, started, begun, _, _, tasks⟩⟩
      := run.wake_cases task
    · rwa [unchanged]
    · rw [ended]
      exact proceed_scheduled scheduled .finished trivial task
    · have same : Scheduled started := fun task member => scheduled task (tasks ▸ member)
      rw [begun]
      exact proceed_scheduled same (.restarting name overruled) trivial task
  | startEnded task error now =>
    change Scheduled (run.endStart task error now)
    obtain ⟨name, overruled, _, ended⟩ | ⟨name, remaining, found, ended⟩ | ⟨_, _, unchanged⟩ :=
      run.end_start_cases task error now
    · rw [ended]
      exact proceed_scheduled scheduled .finished trivial task
    · have distinct : (name :: remaining).Nodup := scheduled _ (List.mem_of_getElem? found)
      have same : Scheduled { run with manager := run.manager.endStart name error now } := scheduled
      obtain ⟨others, own⟩ := start_next_scheduled same distinct.of_cons
      rw [ended]
      exact proceed_scheduled others _ own task
    · rwa [unchanged]
  | stopEnded task =>
    change Scheduled (run.stopEnded task)
    unfold stopEnded
    split
    · rename_i name remaining _
      have stopped : Scheduled (run.endStop name) := scheduled.overrule name
      obtain ⟨others, own⟩ := stop_next_scheduled stopped remaining
      exact proceed_scheduled others _ own task
    · exact scheduled

end Schedules

section Moves

variable {run : ServiceRun}

/-- A handler that wakes up keeps the history respected exactly when it wakes up well. -/
theorem wake_respects_iff (respects : Respects run) (task : ℕ) :
    Respects (run.wake task) ↔ run.WakesWell task := by
  unfold WakesWell
  obtain ⟨other, unchanged⟩ | ⟨name, overruled, found, outcome⟩ := run.wake_cases task
  · rw [unchanged]
    exact iff_of_true respects fun name overruled found => absurd found (other name overruled)
  · rw [found]
    obtain ⟨stays, ended⟩ | ⟨running, able, started, begun, starts, revived, _⟩ := outcome
    · rw [ended]
      refine iff_of_true respects fun other flag same running able => ?_
      cases same
      exact absurd ⟨running, able⟩ stays
    · have entered : Respects (proceed task (started, .restarting name overruled)) ↔
          run.manager.getStatus name ≠ some .running ∧ overruled = false := by
        change Respected started.starts started.revived ↔ _
        rw [starts, revived]
        exact respected_start respects _
      rw [begun, entered]
      constructor
      · intro well other flag same _ _
        cases same
        exact well
      · intro wakes
        exact wakes name overruled rfl running able

/-- The end of a start function keeps the history respected exactly when it ends well. -/
theorem end_start_respects_iff (respects : Respects run) (scheduled : Scheduled run) (task : ℕ)
    (error : Option String) (now : ℚ) :
    Respects (run.endStart task error now) ↔ run.EndsWell task error := by
  unfold EndsWell
  obtain ⟨name, overruled, found, ended⟩ | ⟨name, remaining, found, ended⟩ |
    ⟨notRestarting, notStarting, unchanged⟩ := run.end_start_cases task error now
  · rw [ended, found]
    by_cases revives : (overruled && error.isNone) = true
    · obtain ⟨flag, succeeded⟩ := Bool.and_eq_true_iff.mp revives
      apply iff_of_false
      · intro respected
        have silent := respected.silent
        simp [proceed, revives] at silent
      · rintro ⟨fails, _⟩
        exact fails name (by rw [flag]) (Option.isNone_iff_eq_none.mp succeeded)
    · apply iff_of_true
      · refine ⟨respects.idle, respects.pending, ?_⟩
        exact (if_neg revives).trans respects.silent
      · refine ⟨fun other same succeeded => revives ?_, fun other rest same => (nomatch same)⟩
        cases same
        rw [succeeded]
        rfl
  · have distinct : (name :: remaining).Nodup := scheduled _ (List.mem_of_getElem? found)
    have ready : Respects { run with manager := run.manager.endStart name error now } := respects
    rw [ended, found]
    refine (start_next_respects ready remaining).trans ?_
    refine (starts_idle_end_start (List.nodup_cons.mp distinct).1 error now).trans ?_
    constructor
    · intro idle
      refine ⟨fun other same => (nomatch same), fun other rest same => ?_⟩
      cases same
      exact idle
    · rintro ⟨_, idle⟩
      exact idle name remaining rfl
  · rw [unchanged]
    refine iff_of_true respects ⟨fun name found => ?_, fun name remaining found => ?_⟩
    · exact absurd found (notRestarting name true)
    · exact absurd found (notStarting name remaining)

/-- A move keeps the history respected exactly when it starts no running service and lets no
overruled handler start one. -/
theorem step_respects_iff (respects : Respects run) (scheduled : Scheduled run)
    (move : ServiceMove) : Respects (run.step move) ↔ run.StartsWell move := by
  cases move with
  | startCalled name => exact start_next_respects respects [name]
  | startAllCalled =>
    have same : Respects { run with manager := { run.manager with running := true } } := respects
    exact start_next_respects same run.manager.names
  | stopCalled name =>
    refine iff_of_true ?_ trivial
    change Respects (run.stop name)
    unfold stop
    split
    · exact respects
    · split_ifs <;> exact respects
  | stopAllCalled =>
    refine iff_of_true ?_ trivial
    obtain ⟨starts, revived⟩ := stop_next_history
      { run with manager := { run.manager with running := false } } run.manager.names
    exact respects_same starts revived respects
  | errorReported name error now =>
    refine iff_of_true ?_ trivial
    change Respects (run.report name error now)
    unfold report
    split <;> exact respects
  | woken task => exact wake_respects_iff respects task
  | startEnded task error now => exact end_start_respects_iff respects scheduled task error now
  | stopEnded task =>
    refine iff_of_true ?_ trivial
    change Respects (run.stopEnded task)
    unfold stopEnded
    split
    · rename_i name remaining _
      obtain ⟨starts, revived⟩ := (run.endStop name).stop_next_history remaining
      exact respects_same starts revived respects
    · exact respects

end Moves

/-- In every state of a run no service was started while it was running, and none was started, or
came up, through a handler that was pending when it was stopped or failed for good, exactly when
every move starts idle services only and no overruled handler starts one. -/
theorem decisions_are_respected_iff (manager : ServiceManager) (moves : List ServiceMove) :
    (∀ reached, reached <+: moves →
        Respects (Machines.after step { manager := manager } reached)) ↔
      Machines.Conforms step StartsWell { manager := manager } moves := by
  have kept : ∀ (run : ServiceRun) (move : ServiceMove), Scheduled run →
      Scheduled (run.step move) := fun run move scheduled => scheduled.step move
  have exact : ∀ (run : ServiceRun) (move : ServiceMove), Scheduled run → Respects run →
      (Respects (run.step move) ↔ run.StartsWell move) :=
    fun run move scheduled respects => step_respects_iff respects scheduled move
  have scheduled : Scheduled { manager := manager } := fun _ member => nomatch member
  have starts : Respects { manager := manager } :=
    ⟨fun _ member => (nomatch member), fun _ member => (nomatch member), rfl⟩
  exact Machines.always_iff_conforms kept exact scheduled starts

/-- A manager of one service. -/
def newsManager : ServiceManager where
  services := [("news_engine", { hasStop := true })]
  distinct := by decide

/-- The service is stopped while the handler of its error sleeps. -/
def stoppedInBackoff : List ServiceMove :=
  [.startAllCalled, .startEnded 0 none 0, .errorReported "news_engine" "RuntimeError: feed" 10,
    .stopCalled "news_engine", .stopEnded 2, .woken 1]

/-- The handler starts the service that was stopped. -/
theorem stopped_service_is_started_again :
    ¬ ∀ manager moves reached, reached <+: moves →
      Respects (Machines.after step { manager := manager } reached) := by
  intro respected
  have ended := respected newsManager stoppedInBackoff stoppedInBackoff List.prefix_rfl
  have pending := ended.pending ⟨"news_engine", some .stopped, true⟩ (by decide +kernel)
  cases pending

end ServiceRun

end IgTradingBot
