import IgTradingBot.Broker.SignalBatches

/-!
# Limits of the high-frequency pipeline

The batching path asks neither whether the pipeline is switched on nor whether the rates allow
its batch. Signals are submitted after a disable when they come in afterwards or when their batch
is still being submitted as the disable returns, and beyond the rate when their batch has more
signals than the rate has left.
-/

namespace IgTradingBot

open HFTPipeline SlidingWindows

namespace PipelineRun

/-- No batch is flushed while a disable is in force, and none is being submitted as one comes into
force. -/
def StopsSubmitting (run : PipelineRun) : PipelineMove → Prop
  | .flushed _ _ => run.stopped = true → run.pipeline.batchBuffer = []
  | .disabled _ _ _ _ => returnsAtOnce run.pipeline = true → run.inFlight = []
  | .disableReturned => 0 < run.publishing ∧ run.pipeline.active = false → run.inFlight = []
  | .called _ | .signalSubmitted _ _ _ | .resumed _ _ | .enabled _ _ _ => True

instance (run : PipelineRun) (move : PipelineMove) : Decidable (run.StopsSubmitting move) :=
  match move with
  | .flushed _ _ | .disabled _ _ _ _ | .disableReturned => inferInstanceAs (Decidable (_ → _))
  | .called _ | .signalSubmitted _ _ _ | .resumed _ _ | .enabled _ _ _ =>
    inferInstanceAs (Decidable True)

/-- While a disable is in force no batch is being submitted, and nothing was submitted while one
was in force. -/
structure Quiet (run : PipelineRun) : Prop where
  landed : run.stopped = true → run.inFlight = []
  never : ∀ submission ∈ run.submitted, submission.afterDisable = false

/-- A flushed batch fits into what the rate has left besides the signals of the last second and
those that are still being submitted. -/
def FitsRate (run : PipelineRun) : PipelineMove → Prop
  | .flushed _ now =>
    run.pipeline.batchBuffer = [] ∨
      (((recent SubmittedSignal.time 1 now run.submitted).length + run.inFlight.length +
        run.pipeline.batchBuffer.length : ℕ) : ℤ) ≤ run.pipeline.maxOrderRate
  | _ => True

instance (run : PipelineRun) (move : PipelineMove) : Decidable (run.FitsRate move) :=
  match move with
  | .flushed _ _ => inferInstanceAs (Decidable (_ ∨ _))
  | .called _ | .signalSubmitted _ _ _ | .resumed _ _ | .enabled _ _ _ | .disabled _ _ _ _
  | .disableReturned => inferInstanceAs (Decidable True)

/-- The clock does not run backwards. -/
def Forward (run : PipelineRun) : PipelineMove → Prop
  | .flushed _ now | .signalSubmitted _ _ now | .resumed _ now | .enabled _ _ now
  | .disabled _ _ _ now => run.clock ≤ now
  | .called _ | .disableReturned => True

instance (run : PipelineRun) (move : PipelineMove) : Decidable (run.Forward move) :=
  match move with
  | .flushed _ _ | .signalSubmitted _ _ _ | .resumed _ _ | .enabled _ _ _ | .disabled _ _ _ _ =>
    inferInstanceAs (Decidable (_ ≤ _))
  | .called _ | .disableReturned => inferInstanceAs (Decidable True)

/-- The submissions and those that are on their way keep the rate. -/
structure WithinRate (maxOrderRate : ℤ) (run : PipelineRun) : Prop where
  rate : run.pipeline.maxOrderRate = maxOrderRate
  limited : Limited SubmittedSignal.time 1 run.clock maxOrderRate.toNat run.submitted
  room : (recent SubmittedSignal.time 1 run.clock run.submitted).length + run.inFlight.length ≤
    maxOrderRate.toNat

section Flights

variable {run : PipelineRun} {caller child : ℕ} {now : ℚ}

/-- A call has nothing to submit yet. -/
theorem call_in_flight (run : PipelineRun) (signals : List HFTSignal) :
    (run.call signals).inFlight = run.inFlight := by
  unfold call
  split_ifs
  · exact (Tasks.held_concat _ _ _).trans (List.append_nil _)
  · exact (Tasks.held_concat _ _ _).trans (List.append_nil _)

/-- A flush adds the buffer to what is being submitted. -/
theorem flush_in_flight (run : PipelineRun) (caller : ℕ) (now : ℚ) :
    run.flush caller now = run ∨
      (run.flush caller now).inFlight.Perm (run.pipeline.batchBuffer ++ run.inFlight) ∧
        (run.flush caller now).submitted = run.submitted ∧
        (run.flush caller now).stopped = run.stopped ∧
        (run.flush caller now).pipeline.maxOrderRate = run.pipeline.maxOrderRate ∧
        (run.flush caller now).clock = now := by
  obtain unchanged | ⟨found, after, batch, flushed⟩ := run.flush_cases caller now
  · exact .inl unchanged
  · right
    rw [flushed, ← batch]
    exact ⟨Tasks.held_set_gain _ found rfl after, rfl, rfl, rfl, rfl⟩

/-- A call submits nothing, and leaves the rate, the clock and the disable alone. -/
theorem call_same (run : PipelineRun) (signals : List HFTSignal) :
    (run.call signals).submitted = run.submitted ∧
      (run.call signals).stopped = run.stopped ∧
      (run.call signals).pipeline.maxOrderRate = run.pipeline.maxOrderRate ∧
      (run.call signals).clock = run.clock := by
  unfold call
  split_ifs <;> exact ⟨rfl, rfl, rfl, rfl⟩

/-- A submission takes its signal from what is being submitted. -/
theorem submit_child_in_flight (run : PipelineRun) (caller child : ℕ) (now : ℚ) :
    run.submitChild caller child now = run ∨ ∃ handed,
      ([handed] ++ (run.submitChild caller child now).inFlight).Perm run.inFlight ∧
        (run.submitChild caller child now).submitted =
          run.submitted ++ [⟨handed, now, run.stopped⟩] ∧
        (run.submitChild caller child now).stopped = run.stopped ∧
        (run.submitChild caller child now).pipeline.maxOrderRate = run.pipeline.maxOrderRate ∧
        (run.submitChild caller child now).clock = now := by
  obtain unchanged | ⟨before, after, handed, found, _, taken, submitted⟩ :=
    run.submit_child_cases caller child now
  · exact .inl unchanged
  · right
    rw [submitted]
    exact ⟨handed, Tasks.held_set_loss _ found taken, rfl, rfl, rfl, rfl⟩

/-- A caller that goes on submits nothing. -/
theorem resume_in_flight (run : PipelineRun) (caller : ℕ) (now : ℚ) :
    run.resume caller now = run ∨
      (run.resume caller now).inFlight.Perm run.inFlight ∧
        (run.resume caller now).submitted = run.submitted ∧
        (run.resume caller now).stopped = run.stopped ∧
        (run.resume caller now).pipeline.maxOrderRate = run.pipeline.maxOrderRate ∧
        (run.resume caller now).clock = now := by
  obtain unchanged | ⟨before, pipeline, results, found, _, nothing, _, _, rate, resumed⟩ :=
    run.resume_cases caller now
  · exact .inl unchanged
  · right
    rw [resumed]
    exact ⟨Tasks.held_set_gain _ found nothing (.returned results), rfl, rfl, rate, rfl⟩

end Flights

/-- A signal that is being submitted shows that no disable is in force. -/
theorem Quiet.submit_child {run : PipelineRun} (quiet : Quiet run) (caller child : ℕ) (now : ℚ) :
    Quiet (run.submitChild caller child now) := by
  obtain unchanged | ⟨handed, flight, submitted, stopped, _, _⟩ :=
    run.submit_child_in_flight caller child now
  · rwa [unchanged]
  · have running : run.stopped = false := by
      cases force : run.stopped with
      | false => rfl
      | true =>
        rw [quiet.landed force] at flight
        exact absurd flight.eq_nil (List.cons_ne_nil _ _)
    refine ⟨fun isStopped => ?_, fun submission member => ?_⟩
    · exact absurd ((stopped.trans running).symm.trans isStopped) Bool.false_ne_true
    · rw [submitted] at member
      obtain earlier | new := List.mem_append.mp member
      · exact quiet.never submission earlier
      · rw [List.mem_singleton.mp new]
        exact running

/-- A move that submits nothing after a disable keeps the pipeline quiet. -/
theorem Quiet.step {run : PipelineRun} (quiet : Quiet run) {move : PipelineMove}
    (stops : run.StopsSubmitting move) : Quiet (run.step move) := by
  cases move with
  | called signals =>
    obtain ⟨submitted, same, -, -⟩ := run.call_same signals
    refine ⟨fun stopped => ?_, fun submission member => ?_⟩
    · exact (run.call_in_flight signals).trans (quiet.landed (same ▸ stopped))
    · exact quiet.never submission (submitted ▸ member)
  | flushed caller now =>
    change Quiet (run.flush caller now)
    obtain unchanged | ⟨flight, submitted, stopped, _, _⟩ := run.flush_in_flight caller now
    · rwa [unchanged]
    · refine ⟨fun isStopped => ?_, fun submission member => ?_⟩
      · rw [stopped] at isStopped
        rw [stops isStopped, quiet.landed isStopped] at flight
        exact flight.eq_nil
      · exact quiet.never submission (submitted ▸ member)
  | signalSubmitted caller child now => exact quiet.submit_child caller child now
  | resumed caller now =>
    change Quiet (run.resume caller now)
    obtain unchanged | ⟨flight, submitted, stopped, _, _⟩ := run.resume_in_flight caller now
    · rwa [unchanged]
    · refine ⟨fun isStopped => ?_, fun submission member => ?_⟩
      · rw [quiet.landed (stopped ▸ isStopped)] at flight
        exact flight.eq_nil
      · exact quiet.never submission (submitted ▸ member)
  | enabled user equity now =>
    exact ⟨fun stopped => absurd stopped Bool.false_ne_true, quiet.never⟩
  | disabled reason user equity now =>
    refine ⟨fun stopped => ?_, quiet.never⟩
    obtain already | atOnce := Bool.or_eq_true _ _ ▸ stopped
    · exact quiet.landed already
    · exact stops atOnce
  | disableReturned =>
    change Quiet (if _ then _ else _)
    split_ifs with none
    · exact quiet
    · refine ⟨fun stopped => ?_, quiet.never⟩
      obtain already | inForce := Bool.or_eq_true _ _ ▸ stopped
      · exact quiet.landed already
      · exact stops ⟨Nat.pos_of_ne_zero none, by simpa using inForce⟩

/-- When in a run no batch is flushed while a disable is in force, and none is being submitted as
one comes into force, nothing is submitted after a disable has returned and before the next
enable. -/
theorem nothing_is_submitted_after_disable (maxOrderRate maxPerInstrumentRate : ℤ)
    (hasEventBus : Bool) (clock : ℚ) (moves : List PipelineMove)
    (conforms : Machines.Conforms step StopsSubmitting
      (constructed maxOrderRate maxPerInstrumentRate hasEventBus clock) moves) :
    ∀ submission ∈ (Machines.after step
        (constructed maxOrderRate maxPerInstrumentRate hasEventBus clock) moves).submitted,
      submission.afterDisable = false := by
  have kept : ∀ (run : PipelineRun) (move : PipelineMove), Quiet run → run.StopsSubmitting move →
      Quiet (run.step move) := fun _ _ quiet stops => quiet.step stops
  have quiet : Quiet (constructed maxOrderRate maxPerInstrumentRate hasEventBus clock) :=
    ⟨fun stopped => absurd stopped Bool.false_ne_true,
      fun _ member => absurd member List.not_mem_nil⟩
  exact (Machines.after_keeps kept quiet conforms).never

/-- A signal that is submitted before the pipeline is switched off. -/
def earlySignal : List PipelineMove :=
  [.enabled "trader" 50000 0, .called [burst "EURUSD"], .flushed 0 (1 / 10),
    .signalSubmitted 0 0 (1 / 10), .disabled "manual stop" "trader" 49000 (2 / 10),
    .resumed 0 (2 / 10)]

/-- With no signals in the buffer as it is switched off, nothing more is submitted. -/
theorem flushed_before_disable :
    Machines.Conforms step StopsSubmitting (constructed 100 50 false 0) earlySignal ∧
      ∃ submission ∈ (Machines.after step (constructed 100 50 false 0) earlySignal).submitted,
        submission.afterDisable = false := by
  have conforms : Machines.Conforms step StopsSubmitting (constructed 100 50 false 0)
      earlySignal := by decide +kernel
  have submits : (Machines.after step (constructed 100 50 false 0) earlySignal).submitted ≠ [] := by
    decide +kernel
  obtain ⟨submission, member⟩ := List.exists_mem_of_ne_nil _ submits
  exact ⟨conforms, submission, member,
    nothing_is_submitted_after_disable 100 50 false 0 earlySignal conforms submission member⟩

/-- A signal that comes in after a disable is submitted. -/
theorem late_signal_is_submitted :
    ¬ ∀ (maxOrderRate maxPerInstrumentRate : ℤ) (hasEventBus : Bool) (clock : ℚ)
      (moves : List PipelineMove),
      ∀ submission ∈ (Machines.after step
          (constructed maxOrderRate maxPerInstrumentRate hasEventBus clock) moves).submitted,
        submission.afterDisable = false := by
  intro always
  have quiet := always 100 50 false 0
    [.enabled "trader" 50000 0, .disabled "manual stop" "trader" 49000 1,
      .called [burst "EURUSD"], .flushed 0 (11 / 10), .signalSubmitted 0 0 (11 / 10)]
  revert quiet
  decide +kernel

/-- Without a submission the rate is kept as long as no more signals are being submitted. -/
theorem WithinRate.without_submission {maxOrderRate : ℤ} {run after : PipelineRun}
    (withinRate : WithinRate maxOrderRate run)
    (rate : after.pipeline.maxOrderRate = run.pipeline.maxOrderRate)
    (submitted : after.submitted = run.submitted) (later : run.clock ≤ after.clock)
    (fewer : after.inFlight.length ≤ run.inFlight.length) : WithinRate maxOrderRate after where
  rate := rate.trans withinRate.rate
  limited := submitted.symm ▸ withinRate.limited.wait later
  room := by
    have shorter := recent_length_le SubmittedSignal.time 1 later run.submitted
    have room := withinRate.room
    rw [submitted]
    omega

/-- A batch that is flushed fits the rate, if it is not empty. -/
theorem WithinRate.flush {maxOrderRate : ℤ} {run : PipelineRun}
    (withinRate : WithinRate maxOrderRate run) (caller : ℕ) {now : ℚ} (later : run.clock ≤ now)
    (fits : run.FitsRate (.flushed caller now)) : WithinRate maxOrderRate (run.flush caller now) := by
  obtain unchanged | ⟨flight, submitted, _, rate, clock⟩ := run.flush_in_flight caller now
  · rwa [unchanged]
  · have joined := flight.length_eq
    rw [List.length_append] at joined
    obtain empty | fitting := fits
    · rw [empty, List.length_nil, Nat.zero_add] at joined
      exact withinRate.without_submission rate submitted (clock.symm ▸ later) joined.le
    · rw [withinRate.rate] at fitting
      refine ⟨rate.trans withinRate.rate, ?_, ?_⟩
      · rw [submitted, clock]
        exact withinRate.limited.wait later
      · rw [submitted, clock]
        omega

/-- A submission takes one of those that were on their way. -/
theorem WithinRate.submit_child {maxOrderRate : ℤ} {run : PipelineRun}
    (withinRate : WithinRate maxOrderRate run) (caller child : ℕ) {now : ℚ}
    (later : run.clock ≤ now) : WithinRate maxOrderRate (run.submitChild caller child now) := by
  have room := withinRate.room
  obtain unchanged | ⟨handed, flight, submitted, _, rate, clock⟩ :=
    run.submit_child_in_flight caller child now
  · rwa [unchanged]
  · have taken := flight.length_eq
    rw [List.length_append, List.length_singleton] at taken
    have shorter := recent_length_le SubmittedSignal.time 1 later run.submitted
    refine ⟨rate.trans withinRate.rate, ?_, ?_⟩
    · have hasRoom : (recent SubmittedSignal.time 1 now run.submitted).length <
          maxOrderRate.toNat := by omega
      let submission : SubmittedSignal := ⟨handed, now, run.stopped⟩
      have appended : Limited SubmittedSignal.time 1 submission.time maxOrderRate.toNat
          (run.submitted ++ [submission]) := withinRate.limited.append later hasRoom
      rw [submitted, clock]
      exact appended
    · have longer : (recent SubmittedSignal.time 1 now (run.submitted ++
          [⟨handed, now, run.stopped⟩])).length ≤
            (recent SubmittedSignal.time 1 now run.submitted).length + 1 := by
        rw [recent, List.filter_append, List.length_append]
        exact Nat.add_le_add_left (List.length_filter_le _ _) _
      rw [submitted, clock]
      omega

/-- A batch that fits the rate keeps every window within it. -/
theorem WithinRate.step {maxOrderRate : ℤ} {run : PipelineRun}
    (withinRate : WithinRate maxOrderRate run) {move : PipelineMove} (forward : run.Forward move)
    (fits : run.FitsRate move) : WithinRate maxOrderRate (run.step move) := by
  cases move with
  | called signals =>
    obtain ⟨submitted, -, rate, clock⟩ := run.call_same signals
    exact withinRate.without_submission rate submitted clock.ge
      (congrArg List.length (run.call_in_flight signals)).le
  | flushed caller now => exact withinRate.flush caller forward fits
  | signalSubmitted caller child now => exact withinRate.submit_child caller child forward
  | resumed caller now =>
    change WithinRate maxOrderRate (run.resume caller now)
    obtain unchanged | ⟨flight, submitted, _, rate, clock⟩ := run.resume_in_flight caller now
    · rwa [unchanged]
    · have later : run.clock ≤ now := forward
      exact withinRate.without_submission rate submitted (clock.symm ▸ later) flight.length_eq.le
  | enabled user equity now =>
    have rate : (run.pipeline.enable user equity now).maxOrderRate =
        run.pipeline.maxOrderRate := by
      unfold enable
      split_ifs <;> rfl
    exact withinRate.without_submission rate rfl forward le_rfl
  | disabled reason user equity now =>
    have rate : (run.pipeline.disable reason user equity now).maxOrderRate =
        run.pipeline.maxOrderRate := by
      unfold disable
      split_ifs <;> rfl
    exact withinRate.without_submission rate rfl forward le_rfl
  | disableReturned =>
    change WithinRate maxOrderRate (if _ then _ else _)
    split_ifs
    · exact withinRate
    · exact withinRate.without_submission rfl rfl le_rfl le_rfl

/-- When in a run every batch that is flushed fits into what the rate has left, every window of
one second has at most the maximal number of submissions. -/
theorem fitting_batches_keep_the_rate (maxOrderRate maxPerInstrumentRate : ℤ)
    (hasEventBus : Bool) (clock : ℚ) (moves : List PipelineMove)
    (forward : Machines.Conforms step Forward
      (constructed maxOrderRate maxPerInstrumentRate hasEventBus clock) moves)
    (fits : Machines.Conforms step FitsRate
      (constructed maxOrderRate maxPerInstrumentRate hasEventBus clock) moves) (start : ℚ) :
    ((within SubmittedSignal.time 1 start (Machines.after step
      (constructed maxOrderRate maxPerInstrumentRate hasEventBus clock) moves).submitted).length :
        ℤ) ≤ max 0 maxOrderRate := by
  have kept : ∀ (run : PipelineRun) (move : PipelineMove), WithinRate maxOrderRate run →
      run.Forward move ∧ run.FitsRate move → WithinRate maxOrderRate (run.step move) :=
    fun _ _ withinRate good => withinRate.step good.1 good.2
  have initial : WithinRate maxOrderRate
      (constructed maxOrderRate maxPerInstrumentRate hasEventBus clock) :=
    ⟨rfl, limited_nil clock _, Nat.zero_le _⟩
  have windows := (Machines.after_keeps kept initial
    (Machines.conforms_and.mpr ⟨forward, fits⟩)).limited.windows start
  omega

/-- Two batches of one signal each, more than a second apart, keep a rate of one. -/
def spacedBatches : List PipelineMove :=
  [.called [burst "EURUSD"], .flushed 0 (1 / 10), .signalSubmitted 0 0 (1 / 10),
    .called [burst "GBPUSD"], .flushed 1 (12 / 10), .signalSubmitted 1 0 (12 / 10)]

/-- Their submissions in the second from the first on are at most one. -/
theorem spaced_batches_keep_the_rate :
    ((within SubmittedSignal.time 1 (1 / 10) (Machines.after step (constructed 1 1 false 0)
      spacedBatches).submitted).length : ℤ) ≤ max 0 1 :=
  fitting_batches_keep_the_rate 1 1 false 0 spacedBatches (by decide +kernel)
    (by decide +kernel) (1 / 10)

/-- A batch of two signals is submitted at once, whatever the rate. -/
theorem batch_exceeds_the_rate :
    ¬ ∀ (maxOrderRate maxPerInstrumentRate : ℤ) (hasEventBus : Bool) (clock : ℚ)
      (moves : List PipelineMove), Machines.Conforms step Forward
          (constructed maxOrderRate maxPerInstrumentRate hasEventBus clock) moves →
        ∀ start, ((within SubmittedSignal.time 1 start (Machines.after step
          (constructed maxOrderRate maxPerInstrumentRate hasEventBus clock)
            moves).submitted).length : ℤ) ≤ max 0 maxOrderRate := by
  intro always
  have kept := always 1 1 false 0
    [.called [burst "EURUSD", burst "GBPUSD"], .flushed 0 (1 / 10),
      .signalSubmitted 0 0 (1 / 10), .signalSubmitted 0 1 (1 / 10)] (by decide +kernel) 0
  revert kept
  decide +kernel

end PipelineRun

end IgTradingBot
