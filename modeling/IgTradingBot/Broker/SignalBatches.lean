import IgTradingBot.Broker.HftPipeline
import Mathlib.Data.List.Range

/-!
# Batches of signals

Every signal that is handed in is in the buffer, in a flushed batch, submitted, or drained, and
in one of these places only. A signal in the buffer has a caller that still sleeps and will
flush it, so when every call has returned, every signal is submitted or drained.
-/

namespace IgTradingBot

open HFTPipeline

namespace PipelineRun

/-- Every signal that was handed in is accounted for once, and a buffer with signals has a caller
that will flush it. -/
structure Accounted (run : PipelineRun) : Prop where
  places : run.handedIn.map HandedSignal.place = List.range run.handedIn.length
  once : (run.submitted.map SubmittedSignal.handed ++ run.drained ++
    (run.pipeline.batchBuffer ++ run.inFlight)).Perm run.handedIn
  awaited : run.pipeline.batchBuffer ≠ [] → .sleeping ∈ run.callers

section Steps

variable {run : PipelineRun} {caller child : ℕ} {now : ℚ}

/-- Collecting results changes nothing but the rates. -/
theorem collect_results_keeps (now : ℚ) (pipeline : HFTPipeline)
    (results : List (HFTSignal × Except Failure SignalSubmission)) :
    (collectResults now pipeline results).1.batchBuffer = pipeline.batchBuffer ∧
      (collectResults now pipeline results).1.active = pipeline.active ∧
      (collectResults now pipeline results).1.maxOrderRate = pipeline.maxOrderRate := by
  induction results using List.reverseRecOn with
  | nil => exact ⟨rfl, rfl, rfl⟩
  | append_singleton earlier result inductionHypothesis =>
    rw [collectResults, List.foldl_concat]
    cases result.2 with
    | error failure => exact inductionHypothesis
    | ok submission => exact inductionHypothesis

/-- The effect of a flush: the whole buffer becomes the batch of a sleeping caller. -/
theorem flush_cases (run : PipelineRun) (caller : ℕ) (now : ℚ) :
    run.flush caller now = run ∨ run.callers[caller]? = some .sleeping ∧
      ∃ after : BatchCaller, after.unsubmitted = run.pipeline.batchBuffer ∧
        run.flush caller now =
          { run with
            pipeline := { run.pipeline with batchBuffer := [] }
            callers := run.callers.set caller after
            clock := now } := by
  unfold flush
  split
  next found =>
    refine .inr ⟨found, _, ?_, rfl⟩
    split_ifs with empty
    · rw [empty]
      rfl
    · change Tasks.held _ (run.pipeline.batchBuffer.map _) = _
      rw [Tasks.held, List.flatMap_map]
      exact List.flatMap_singleton' _
  next => exact .inl rfl

/-- The effect of a submission: one signal of a flushed batch is submitted. -/
theorem submit_child_cases (run : PipelineRun) (caller child : ℕ) (now : ℚ) :
    run.submitChild caller child now = run ∨ ∃ (before after : BatchCaller) (handed : HandedSignal),
      run.callers[caller]? = some before ∧ before ≠ .sleeping ∧
        before.unsubmitted.Perm (after.unsubmitted ++ [handed]) ∧
        run.submitChild caller child now =
          { run with
            callers := run.callers.set caller after
            submitted := run.submitted ++ [⟨handed, now, run.stopped⟩]
            clock := now } := by
  unfold submitChild
  split
  next batch found =>
    split
    next handed isChild =>
      refine .inr ⟨_, _, handed, found, BatchCaller.noConfusion, ?_, rfl⟩
      have moved := Tasks.held_set BatchedSignal.unsubmitted isChild
        ⟨handed, some (submitSignal handed.signal now)⟩
      simpa [BatchedSignal.unsubmitted, BatchCaller.unsubmitted] using moved.symm
    next => exact .inl rfl
  next => exact .inl rfl

/-- A batch whose signals all have a result has nothing left to submit. -/
theorem complete_batch {batch : List BatchedSignal}
    {results : List (HFTSignal × Except Failure SignalSubmission)}
    (complete : (batch.mapM fun child =>
      child.result.map fun result => (child.handed.signal, result)) = some results) :
    Tasks.held BatchedSignal.unsubmitted batch = [] := by
  induction batch generalizing results with
  | nil => rfl
  | cons child rest inductionHypothesis =>
    rw [List.mapM_cons] at complete
    cases answered : child.result with
    | none => simp [answered] at complete
    | some result =>
      simp only [answered, Option.map_some, Option.bind_eq_bind, Option.bind_some,
        Option.bind_eq_some_iff] at complete
      obtain ⟨others, completeRest, _⟩ := complete
      have rest := inductionHypothesis completeRest
      simpa [Tasks.held, BatchedSignal.unsubmitted, answered] using rest

/-- The effect of a resumption: a caller returns that has nothing left to submit. -/
theorem resume_cases (run : PipelineRun) (caller : ℕ) (now : ℚ) :
    run.resume caller now = run ∨ ∃ (before : BatchCaller) (pipeline : HFTPipeline)
        (results : List BatchResult),
      run.callers[caller]? = some before ∧ before ≠ .sleeping ∧ before.unsubmitted = [] ∧
        pipeline.batchBuffer = run.pipeline.batchBuffer ∧
        pipeline.active = run.pipeline.active ∧
        pipeline.maxOrderRate = run.pipeline.maxOrderRate ∧
        run.resume caller now =
          { run with
            pipeline := pipeline
            callers := run.callers.set caller (.returned results)
            clock := now } := by
  unfold resume
  split
  next batch found =>
    split
    next results complete =>
      obtain ⟨buffer, active, rate⟩ := collect_results_keeps now run.pipeline results
      refine .inr ⟨_, _, _, found, BatchCaller.noConfusion, complete_batch complete,
        buffer, active, rate, rfl⟩
    next => exact .inl rfl
  next => exact .inl rfl

/-- The signals of a call get the next places. -/
theorem hand_over_places (run : PipelineRun) (signals : List HFTSignal) :
    (run.handOver signals).map HandedSignal.place =
      List.range' run.handedIn.length (run.handOver signals).length := by
  have places : (run.handOver signals).map HandedSignal.place =
      (signals.zipIdx run.handedIn.length).map Prod.snd := List.map_map
  rw [places, List.zipIdx_map_snd, handOver, List.length_map, List.length_zipIdx]

/-- Another caller's change does not wake a sleeping one. -/
theorem sleeping_stays {before : BatchCaller} (found : run.callers[caller]? = some before)
    (awake : before ≠ .sleeping) (after : BatchCaller) (sleeping : .sleeping ∈ run.callers) :
    .sleeping ∈ run.callers.set caller after := by
  rw [Tasks.split_at found] at sleeping
  rw [Tasks.set_at found]
  obtain earlier | here := List.mem_append.mp sleeping
  · exact List.mem_append_left _ earlier
  · obtain same | later := List.mem_cons.mp here
    · exact absurd same.symm awake
    · exact List.mem_append_right _ (List.mem_cons_of_mem _ later)

/-- A call puts its signals into the buffer. -/
theorem Accounted.call (accounted : Accounted run) (signals : List HFTSignal) :
    Accounted (run.call signals) := by
  unfold PipelineRun.call
  split_ifs with none
  · refine ⟨accounted.places, ?_, fun waits => ?_⟩
    · simpa [inFlight, Tasks.held_concat, BatchCaller.unsubmitted] using accounted.once
    · exact List.mem_append_left _ (accounted.awaited waits)
  · refine ⟨?_, ?_, fun _ => List.mem_append_right _ List.mem_cons_self⟩
    · change (run.handedIn ++ run.handOver signals).map _ =
      List.range (run.handedIn ++ run.handOver signals).length
      rw [List.map_append, accounted.places, hand_over_places, List.length_append,
        List.range_eq_range', List.range_eq_range', ← List.range'_append_1, Nat.zero_add]
    · have sleeps : Tasks.held BatchCaller.unsubmitted (run.callers ++ [.sleeping]) =
          run.inFlight :=
        (Tasks.held_concat _ _ _).trans (List.append_nil _)
      change (_ ++ (run.pipeline.batchBuffer ++ run.handOver signals ++
        Tasks.held BatchCaller.unsubmitted (run.callers ++ [.sleeping]))).Perm
          (run.handedIn ++ run.handOver signals)
      rw [sleeps]
      have behind : (run.pipeline.batchBuffer ++ run.handOver signals ++ run.inFlight).Perm
          (run.pipeline.batchBuffer ++ run.inFlight ++ run.handOver signals) := by
        rw [List.append_assoc, List.append_assoc]
        exact List.perm_append_comm.append_left _
      refine (behind.append_left _).trans ?_
      rw [← List.append_assoc]
      exact accounted.once.append_right _

/-- A flush moves the signals of the buffer into a batch. -/
theorem Accounted.flush (accounted : Accounted run) (caller : ℕ) (now : ℚ) :
    Accounted (run.flush caller now) := by
  obtain unchanged | ⟨found, after, batch, flushed⟩ := run.flush_cases caller now
  · rwa [unchanged]
  · rw [flushed]
    refine ⟨accounted.places, ?_, fun waits => absurd rfl waits⟩
    have moved := Tasks.held_set_gain BatchCaller.unsubmitted found rfl after
    rw [batch] at moved
    exact (moved.append_left _).trans accounted.once

/-- A submission takes its signal out of a batch. -/
theorem Accounted.submit_child (accounted : Accounted run) (caller child : ℕ) (now : ℚ) :
    Accounted (run.submitChild caller child now) := by
  obtain unchanged | ⟨before, after, handed, found, awake, taken, submitted⟩ :=
    run.submit_child_cases caller child now
  · rwa [unchanged]
  · rw [submitted]
    refine ⟨accounted.places, ?_, fun waits => ?_⟩
    · have moved := Tasks.held_set_loss BatchCaller.unsubmitted found taken
      change ((run.submitted ++ [_]).map SubmittedSignal.handed ++ run.drained ++
        (run.pipeline.batchBuffer ++ Tasks.held _ (run.callers.set caller after))).Perm _
      refine List.Perm.trans ?_ ((moved.append_left _).append_left _ |>.trans accounted.once)
      apply Multiset.coe_eq_coe.mp
      simp only [List.map_append, List.map_cons, List.map_nil, ← Multiset.coe_add]
      abel
    · exact sleeping_stays found awake after (accounted.awaited waits)

/-- A caller that goes on holds no signal. -/
theorem Accounted.resume (accounted : Accounted run) (caller : ℕ) (now : ℚ) :
    Accounted (run.resume caller now) := by
  obtain unchanged | ⟨before, pipeline, results, found, awake, nothing, buffer, _, _, resumed⟩ :=
    run.resume_cases caller now
  · rwa [unchanged]
  · rw [resumed]
    refine ⟨accounted.places, ?_, fun waits => ?_⟩
    · have moved := Tasks.held_set_gain BatchCaller.unsubmitted found nothing
        (.returned results)
      change (_ ++ (pipeline.batchBuffer ++ _)).Perm _
      rw [buffer]
      exact ((moved.append_left _).append_left _).trans accounted.once
    · exact sleeping_stays found awake _ (accounted.awaited (buffer ▸ waits))

/-- A disable drains the buffer. -/
theorem Accounted.disable (accounted : Accounted run) (reason user : String) (equity now : ℚ) :
    Accounted (run.step (.disabled reason user equity now)) := by
  by_cases active : run.pipeline.active = true
  · have emptied : (run.pipeline.disable reason user equity now).batchBuffer = [] := by
      simp [HFTPipeline.disable, active]
    refine ⟨accounted.places, ?_, fun waits => absurd emptied waits⟩
    change (_ ++ (if _ then _ else _) ++ ((run.pipeline.disable reason user equity now).batchBuffer
      ++ run.inFlight)).Perm _
    rw [emptied, if_pos active, List.nil_append, ← List.append_assoc, List.append_assoc]
    exact accounted.once
  · have unchanged : run.pipeline.disable reason user equity now = run.pipeline := if_neg active
    refine ⟨accounted.places, ?_, ?_⟩
    · change (_ ++ (if _ then _ else _) ++
        ((run.pipeline.disable reason user equity now).batchBuffer ++ run.inFlight)).Perm _
      rw [unchanged, if_neg active]
      exact accounted.once
    · change (run.pipeline.disable reason user equity now).batchBuffer ≠ [] → _
      rw [unchanged]
      exact accounted.awaited

/-- Every move accounts for every signal. -/
theorem Accounted.step (accounted : Accounted run) (move : PipelineMove) :
    Accounted (run.step move) := by
  cases move with
  | called signals => exact accounted.call signals
  | flushed caller now => exact accounted.flush caller now
  | signalSubmitted caller child now => exact accounted.submit_child caller child now
  | resumed caller now => exact accounted.resume caller now
  | enabled user equity now =>
    have buffer : (run.pipeline.enable user equity now).batchBuffer = run.pipeline.batchBuffer := by
      unfold enable
      split_ifs <;> rfl
    refine ⟨accounted.places, ?_, fun waits => accounted.awaited (buffer ▸ waits)⟩
    change (_ ++ ((run.pipeline.enable user equity now).batchBuffer ++ run.inFlight)).Perm _
    rw [buffer]
    exact accounted.once
  | disabled reason user equity now => exact accounted.disable reason user equity now
  | disableReturned =>
    change Accounted (if _ then _ else _)
    split_ifs
    · exact accounted
    · exact ⟨accounted.places, accounted.once, accounted.awaited⟩

end Steps

/-- Without calls that have not returned, no signal waits. -/
theorem Accounted.all_returned {run : PipelineRun} (accounted : Accounted run)
    (allReturned : ∀ caller ∈ run.callers, caller.HasReturned) :
    (run.submitted.map SubmittedSignal.handed ++ run.drained).Perm run.handedIn := by
  have empty : run.pipeline.batchBuffer = [] := by
    by_contra waits
    exact allReturned _ (accounted.awaited waits)
  have landed : run.inFlight = [] := by
    apply List.flatMap_eq_nil_iff.mpr
    intro caller member
    have returned := allReturned caller member
    cases caller with
    | returned results => rfl
    | sleeping => exact returned.elim
    | gathering batch => exact returned.elim
  have once := accounted.once
  rwa [empty, landed, List.append_nil, List.append_nil] at once

section Returning

variable {run : PipelineRun} {caller : ℕ}

/-- Some moves later a call has returned and nothing else has happened to the calls. -/
structure Finishes (run : PipelineRun) (caller : ℕ) (later : PipelineRun) : Prop where
  sameLength : later.callers.length = run.callers.length
  handedIn : later.handedIn = run.handedIn
  others : ∀ place, place ≠ caller → later.callers[place]? = run.callers[place]?
  returned : ∀ phase, later.callers[caller]? = some phase → phase.HasReturned

/-- A call can return after a change of its own when it can return from there. -/
theorem Finishes.after_change {between later : PipelineRun}
    (finishes : Finishes between caller later) {phase : BatchCaller}
    (callers : between.callers = run.callers.set caller phase)
    (handedIn : between.handedIn = run.handedIn) : Finishes run caller later where
  sameLength := by rw [finishes.sameLength, callers, List.length_set]
  handedIn := finishes.handedIn.trans handedIn
  others place different := by
    rw [finishes.others place different, callers, List.getElem?_set_ne (Ne.symm different)]
  returned := finishes.returned

/-- A call that has returned has nothing to do. -/
theorem finishes_returned {results : List BatchResult}
    (found : run.callers[caller]? = some (.returned results)) : Finishes run caller run where
  sameLength := rfl
  handedIn := rfl
  others _ _ := rfl
  returned phase same := by
    obtain rfl := Option.some.inj (found.symm.trans same)
    trivial

/-- A batch with nothing left to submit is complete. -/
theorem results_of_complete {batch : List BatchedSignal}
    (nothing : Tasks.held BatchedSignal.unsubmitted batch = []) :
    ∃ results, (batch.mapM fun child => child.result.map fun result =>
      (child.handed.signal, result)) = some results := by
  induction batch with
  | nil => exact ⟨[], rfl⟩
  | cons child rest inductionHypothesis =>
    obtain ⟨first, others⟩ := List.append_eq_nil_iff.mp nothing
    obtain ⟨results, complete⟩ := inductionHypothesis others
    cases answered : child.result with
    | none => simp [BatchedSignal.unsubmitted, answered] at first
    | some result =>
      refine ⟨(child.handed.signal, result) :: results, ?_⟩
      rw [List.mapM_cons, complete]
      simp [answered]

/-- A batch with something left to submit has a signal without a result. -/
theorem child_of_incomplete {batch : List BatchedSignal}
    (something : Tasks.held BatchedSignal.unsubmitted batch ≠ []) :
    ∃ (child : ℕ) (handed : HandedSignal), batch[child]? = some ⟨handed, none⟩ := by
  obtain ⟨handed, member⟩ := List.exists_mem_of_ne_nil _ something
  obtain ⟨child, isChild, held⟩ := List.mem_flatMap.mp member
  obtain ⟨place, found⟩ := List.mem_iff_getElem?.mp isChild
  obtain ⟨signal, result⟩ := child
  cases result with
  | none => exact ⟨place, signal, found⟩
  | some result => exact absurd held List.not_mem_nil

/-- A call whose batch is being submitted can return. The induction is on the number of signals
that are not submitted yet. -/
theorem gathering_can_return (left : ℕ) (run : PipelineRun) {batch : List BatchedSignal}
    (found : run.callers[caller]? = some (.gathering batch))
    (count : (Tasks.held BatchedSignal.unsubmitted batch).length = left) :
    ∃ moves, Finishes run caller (Machines.after step run moves) := by
  induction left generalizing run batch with
  | zero =>
    obtain ⟨results, complete⟩ := results_of_complete (List.length_eq_zero_iff.mp count)
    have resumed : (run.step (.resumed caller run.clock)).callers = run.callers.set caller
        (.returned (collectResults run.clock run.pipeline results).2) := by
      simp only [PipelineRun.step, PipelineRun.resume, found, complete]
    refine ⟨[.resumed caller run.clock], ?_⟩
    have inside := (List.getElem?_eq_some_iff.mp found).1
    have isReturned : (run.step (.resumed caller run.clock)).callers[caller]? = some
        (.returned (collectResults run.clock run.pipeline results).2) := by
      rw [resumed, List.getElem?_set_self inside]
    refine (finishes_returned isReturned).after_change resumed ?_
    simp only [PipelineRun.step, PipelineRun.resume, found, complete]
  | succ left inductionHypothesis =>
    have something : Tasks.held BatchedSignal.unsubmitted batch ≠ [] := by
      rintro nothing
      rw [nothing] at count
      exact absurd count (Nat.succ_ne_zero left).symm
    obtain ⟨child, handed, isChild⟩ := child_of_incomplete something
    have submitted : (run.step (.signalSubmitted caller child run.clock)).callers =
        run.callers.set caller (.gathering (batch.set child
          ⟨handed, some (submitSignal handed.signal run.clock)⟩)) := by
      simp only [PipelineRun.step, PipelineRun.submitChild, found, isChild]
    have gives : (BatchedSignal.unsubmitted ⟨handed, none⟩).Perm
        (BatchedSignal.unsubmitted ⟨handed, some (submitSignal handed.signal run.clock)⟩ ++
          [handed]) := List.Perm.refl _
    have fewer := (Tasks.held_set_loss BatchedSignal.unsubmitted isChild gives).length_eq
    rw [List.length_append, List.length_singleton, count] at fewer
    have inside := (List.getElem?_eq_some_iff.mp found).1
    obtain ⟨moves, finishes⟩ := inductionHypothesis
      (run.step (.signalSubmitted caller child run.clock))
      (by rw [submitted, List.getElem?_set_self inside]) (by omega)
    refine ⟨.signalSubmitted caller child run.clock :: moves,
      finishes.after_change submitted ?_⟩
    simp only [PipelineRun.step, PipelineRun.submitChild, found, isChild]

/-- Every call can return. -/
theorem call_can_return (run : PipelineRun) (caller : ℕ) :
    ∃ moves, Finishes run caller (Machines.after step run moves) := by
  cases found : run.callers[caller]? with
  | none =>
    refine ⟨[], ⟨rfl, rfl, fun _ _ => rfl, fun phase same => ?_⟩⟩
    exact absurd (found.symm.trans same) (Option.some_ne_none phase).symm
  | some phase =>
    cases phase with
    | returned results => exact ⟨[], finishes_returned found⟩
    | gathering batch => exact gathering_can_return _ run found rfl
    | sleeping =>
      have inside := (List.getElem?_eq_some_iff.mp found).1
      by_cases empty : run.pipeline.batchBuffer = []
      · have flushed : (run.step (.flushed caller run.clock)).callers =
            run.callers.set caller (.returned []) := by
          simp only [PipelineRun.step, PipelineRun.flush, found, if_pos empty]
        have isReturned : (run.step (.flushed caller run.clock)).callers[caller]? =
            some (.returned []) := by
          rw [flushed, List.getElem?_set_self inside]
        refine ⟨[.flushed caller run.clock],
          (finishes_returned isReturned).after_change flushed ?_⟩
        simp only [PipelineRun.step, PipelineRun.flush, found]
      · have flushed : (run.step (.flushed caller run.clock)).callers = run.callers.set caller
            (.gathering (run.pipeline.batchBuffer.map ({ handed := · }))) := by
          simp only [PipelineRun.step, PipelineRun.flush, found, if_neg empty]
        obtain ⟨moves, finishes⟩ := gathering_can_return _
          (run.step (.flushed caller run.clock))
          (by rw [flushed, List.getElem?_set_self inside]) rfl
        refine ⟨.flushed caller run.clock :: moves, finishes.after_change flushed ?_⟩
        simp only [PipelineRun.step, PipelineRun.flush, found]

/-- All calls can return. The induction is on the number of calls that are brought to their
end. -/
theorem calls_can_return (run : PipelineRun) :
    ∃ moves, (Machines.after step run moves).handedIn = run.handedIn ∧
      ∀ phase ∈ (Machines.after step run moves).callers, phase.HasReturned := by
  have upTo : ∀ bound ≤ run.callers.length, ∃ moves,
      (Machines.after step run moves).callers.length = run.callers.length ∧
        (Machines.after step run moves).handedIn = run.handedIn ∧
        ∀ place < bound, ∀ phase, (Machines.after step run moves).callers[place]? = some phase →
          phase.HasReturned := by
    intro bound
    induction bound with
    | zero => exact fun _ => ⟨[], rfl, rfl, fun place inside => absurd inside (Nat.not_lt_zero _)⟩
    | succ bound inductionHypothesis =>
      intro inside
      obtain ⟨moves, sameLength, handedIn, returned⟩ := inductionHypothesis (by omega)
      obtain ⟨more, finishes⟩ := call_can_return (Machines.after step run moves) bound
      refine ⟨moves ++ more, ?_⟩
      rw [Machines.after_append]
      refine ⟨finishes.sameLength.trans sameLength, finishes.handedIn.trans handedIn, ?_⟩
      intro place before phase found
      by_cases last : place = bound
      · exact finishes.returned phase (last ▸ found)
      · exact returned place (by omega) phase (finishes.others place last ▸ found)
  obtain ⟨moves, sameLength, handedIn, returned⟩ := upTo _ (le_refl _)
  refine ⟨moves, handedIn, ?_⟩
  intro phase member
  obtain ⟨place, found⟩ := List.mem_iff_getElem?.mp member
  exact returned place (sameLength ▸ (List.getElem?_eq_some_iff.mp found).1) phase found

end Returning

/-- A new pipeline has nothing to account for. -/
theorem accounted_constructed (maxOrderRate maxPerInstrumentRate : ℤ) (hasEventBus : Bool)
    (clock : ℚ) : Accounted (constructed maxOrderRate maxPerInstrumentRate hasEventBus clock) where
  places := rfl
  once := List.Perm.refl []
  awaited waits := absurd rfl waits

/-- For any number of calls and in every interleaving, every signal that was handed in is
submitted, drained by a disable, in the buffer, or in a flushed batch, and only once. All calls
can return; when they have, every signal is submitted or drained. -/
theorem signals_are_submitted_once_or_drained (maxOrderRate maxPerInstrumentRate : ℤ)
    (hasEventBus : Bool) (clock : ℚ) (moves : List PipelineMove) (run : PipelineRun)
    (reached : Machines.after step
      (constructed maxOrderRate maxPerInstrumentRate hasEventBus clock) moves = run) :
    run.handedIn.map HandedSignal.place = List.range run.handedIn.length ∧
      (run.submitted.map SubmittedSignal.handed ++ run.drained ++
        (run.pipeline.batchBuffer ++ run.inFlight)).Perm run.handedIn ∧
      ((∀ caller ∈ run.callers, caller.HasReturned) →
        (run.submitted.map SubmittedSignal.handed ++ run.drained).Perm run.handedIn) ∧
      ∃ later, (Machines.after step run later).handedIn = run.handedIn ∧
        ∀ caller ∈ (Machines.after step run later).callers, caller.HasReturned := by
  have accounted : Accounted run := reached ▸ Machines.after_keeps_always
    (fun _ move accounted => accounted.step move) moves
    (accounted_constructed maxOrderRate maxPerInstrumentRate hasEventBus clock)
  exact ⟨accounted.places, accounted.once, accounted.all_returned, calls_can_return run⟩

/-- A signal of some strength. -/
def burst (instrument : String) : HFTSignal where
  instrument := instrument
  signalType := "momentum_burst"
  direction := "BUY"
  strength := 4 / 5

/-- Two calls share a batch, and a third call's signal is drained. -/
def sharedBatch : List PipelineMove :=
  [.enabled "trader" 50000 0, .called [burst "EURUSD"], .called [burst "GBPUSD"],
    .flushed 1 (1 / 10), .called [burst "USDJPY"], .signalSubmitted 1 1 (1 / 10),
    .disabled "manual stop" "trader" 49000 (1 / 10), .flushed 0 (1 / 10),
    .signalSubmitted 1 0 (1 / 10), .resumed 1 (1 / 10), .flushed 2 (2 / 10)]

/-- All three calls have returned, and two signals are submitted and one is drained. -/
theorem shared_batch_is_submitted_once :
    ((Machines.after step (constructed 100 50 true 0) sharedBatch).submitted.map
        SubmittedSignal.handed ++
      (Machines.after step (constructed 100 50 true 0) sharedBatch).drained).Perm
        (Machines.after step (constructed 100 50 true 0) sharedBatch).handedIn :=
  (signals_are_submitted_once_or_drained 100 50 true 0 sharedBatch _ rfl).2.2.1
    (by decide +kernel)

end PipelineRun

end IgTradingBot
