import IgTradingBot.Core.Values
import IgTradingBot.Library.Machines
import IgTradingBot.Library.Tasks
import IgTradingBot.Risk.HftRisk

/-!
# High-frequency pipeline

The batching of signals and the switching on and off of `src/trading/hft_pipeline.py`, from
await to await. No task is suspended while it holds the lock of the buffer, so taking the lock
never suspends; a caller is suspended while it sleeps and while its batch is submitted, and
switching off while its event is published.
-/

namespace IgTradingBot

/-- The fields of a signal that its submission reads. -/
structure HFTSignal where
  instrument : String
  signalType : String
  direction : String
  strength : ℚ
  deriving DecidableEq, Repr

/-- A signal with the place at which it was handed in, which the source does not keep. -/
structure HandedSignal where
  place : ℕ
  signal : HFTSignal
  deriving DecidableEq, Repr

/-- What the submission of a signal returns. -/
structure SignalSubmission where
  instrument : String
  direction : String
  signalType : String
  strength : ℚ
  status : String := "submitted"
  timestamp : ℚ
  deriving DecidableEq, Repr

/-- An entry of the list that a caller gets: the submission of a signal, or its error. -/
inductive BatchResult where
  | submission (submission : SignalSubmission)
  | error (signal : String) (failure : Failure)
  deriving DecidableEq, Repr

/-- Record of a switching on or off. -/
structure ModeChange where
  action : String
  timestamp : ℚ
  user : String
  equity : ℚ
  reason : Option String := none
  pendingOrdersDrained : Option ℕ := none
  deriving DecidableEq, Repr

/-- The attributes of the pipeline that batching and switching use. -/
structure HFTPipeline where
  active : Bool := false
  maxOrderRate : ℤ := Constants.hftMaxOrderRateDefault
  maxPerInstrumentRate : ℤ := Constants.hftMaxPerInstrumentRate
  hasEventBus : Bool := false
  orderRateTracker : SlidingWindowCounter := {}
  instrumentRateTrackers : AList (fun _ : String => SlidingWindowCounter) := ∅
  batchBuffer : List HandedSignal := []
  modeChanges : List ModeChange := []

namespace HFTPipeline

/-- Submit a signal as an order. -/
def submitSignal (signal : HFTSignal) (now : ℚ) : Except Failure SignalSubmission :=
  .ok
    { instrument := signal.instrument
      direction := signal.direction
      signalType := signal.signalType
      strength := signal.strength
      timestamp := now }

/-- Enter a submission into the rates. -/
def recordSubmission (pipeline : HFTPipeline) (instrument : String) (now : ℚ) : HFTPipeline :=
  { pipeline with
    orderRateTracker := pipeline.orderRateTracker.record now
    instrumentRateTrackers := pipeline.instrumentRateTrackers.insert instrument
      (((pipeline.instrumentRateTrackers.lookup instrument).getD {}).record now) }

/-- Whether the rates allow an order of an instrument. -/
def checkRateLimit (pipeline : HFTPipeline) (instrument : String) (now : ℚ) : Bool :=
  if pipeline.maxOrderRate ≤ (pipeline.orderRateTracker.count now).2 then false
  else
    match pipeline.instrumentRateTrackers.lookup instrument with
    | none => true
    | some tracker => !decide (pipeline.maxPerInstrumentRate ≤ (tracker.count now).2)

/-- What a caller does with the results of its batch. -/
def collectResults (now : ℚ) (pipeline : HFTPipeline)
    (results : List (HFTSignal × Except Failure SignalSubmission)) :
    HFTPipeline × List BatchResult :=
  results.foldl
    (fun collected result =>
      match result.2 with
      | .error failure =>
        (collected.1, collected.2 ++ [.error result.1.instrument failure])
      | .ok submission =>
        (collected.1.recordSubmission result.1.instrument now,
          collected.2 ++ [.submission submission]))
    (pipeline, [])

/-- Switch on. -/
def enable (pipeline : HFTPipeline) (user : String) (equity now : ℚ) : HFTPipeline :=
  if pipeline.active then pipeline
  else
    { pipeline with
      active := true
      modeChanges := pipeline.modeChanges ++
        [{ action := "enable", timestamp := now, user := user, equity := equity }] }

/-- Switch off and drain the buffer. -/
def disable (pipeline : HFTPipeline) (reason user : String) (equity now : ℚ) : HFTPipeline :=
  if pipeline.active then
    { pipeline with
      active := false
      batchBuffer := []
      modeChanges := pipeline.modeChanges ++
        [{ action := "disable"
           timestamp := now
           user := user
           equity := equity
           reason := some reason
           pendingOrdersDrained := some pipeline.batchBuffer.length }] }
  else pipeline

end HFTPipeline

/-- A signal of a batch and the result of its submission, once there is one. -/
structure BatchedSignal where
  handed : HandedSignal
  result : Option (Except Failure SignalSubmission) := none
  deriving DecidableEq

/-- How far a call of `batch_and_submit` has come. -/
inductive BatchCaller where
  | sleeping
  | gathering (batch : List BatchedSignal)
  | returned (results : List BatchResult)
  deriving DecidableEq

/-- The signal, as long as it is not submitted. -/
def BatchedSignal.unsubmitted (child : BatchedSignal) : List HandedSignal :=
  if child.result.isNone then [child.handed] else []

/-- The signals of a flushed batch that are not submitted yet. -/
def BatchCaller.unsubmitted : BatchCaller → List HandedSignal
  | .gathering batch => Tasks.held BatchedSignal.unsubmitted batch
  | .sleeping | .returned _ => []

/-- A call has returned. -/
def BatchCaller.HasReturned : BatchCaller → Prop
  | .returned _ => True
  | .sleeping | .gathering _ => False

instance (caller : BatchCaller) : Decidable (BatchCaller.HasReturned caller) :=
  match caller with
  | .returned _ => inferInstanceAs (Decidable True)
  | .sleeping | .gathering _ => inferInstanceAs (Decidable False)

/-- A submission: its signal, its time, and whether a disable was in force. -/
structure SubmittedSignal where
  handed : HandedSignal
  time : ℚ
  afterDisable : Bool
  deriving DecidableEq

/-- The pipeline with its callers. The other fields are the history: the clock, the signals that
were handed in, submitted and drained, the disables that are publishing, and whether one has
returned since the last enable. -/
structure PipelineRun where
  pipeline : HFTPipeline
  callers : List BatchCaller := []
  clock : ℚ
  handedIn : List HandedSignal := []
  submitted : List SubmittedSignal := []
  drained : List HandedSignal := []
  publishing : ℕ := 0
  stopped : Bool := false

/-- What happens between two awaits. A call is known by its place in the list of calls, and a
signal of its batch by its place there. -/
inductive PipelineMove where
  | called (signals : List HFTSignal)
  | flushed (caller : ℕ) (now : ℚ)
  | signalSubmitted (caller child : ℕ) (now : ℚ)
  | resumed (caller : ℕ) (now : ℚ)
  | enabled (user : String) (equity now : ℚ)
  | disabled (reason user : String) (equity now : ℚ)
  | disableReturned

namespace PipelineRun

open HFTPipeline

/-- Signals with the places at which they are handed in. -/
def handOver (run : PipelineRun) (signals : List HFTSignal) : List HandedSignal :=
  (signals.zipIdx run.handedIn.length).map fun entry => ⟨entry.2, entry.1⟩

/-- A call appends its signals to the buffer and sleeps. Without signals it returns at once. -/
def call (run : PipelineRun) (signals : List HFTSignal) : PipelineRun :=
  if signals = [] then { run with callers := run.callers ++ [.returned []] }
  else
    { run with
      pipeline := { run.pipeline with
        batchBuffer := run.pipeline.batchBuffer ++ run.handOver signals }
      callers := run.callers ++ [.sleeping]
      handedIn := run.handedIn ++ run.handOver signals }

/-- A caller wakes up and takes the whole buffer. -/
def flush (run : PipelineRun) (caller : ℕ) (now : ℚ) : PipelineRun :=
  match run.callers[caller]? with
  | some .sleeping =>
    { run with
      pipeline := { run.pipeline with batchBuffer := [] }
      callers := run.callers.set caller
        (if run.pipeline.batchBuffer = [] then .returned []
          else .gathering (run.pipeline.batchBuffer.map ({ handed := · })))
      clock := now }
  | _ => run

/-- The task of a signal of a batch submits it. -/
def submitChild (run : PipelineRun) (caller child : ℕ) (now : ℚ) : PipelineRun :=
  match run.callers[caller]? with
  | some (.gathering batch) =>
    match batch[child]? with
    | some ⟨handed, none⟩ =>
      { run with
        callers := run.callers.set caller
          (.gathering (batch.set child ⟨handed, some (submitSignal handed.signal now)⟩))
        submitted := run.submitted ++ [⟨handed, now, run.stopped⟩]
        clock := now }
    | _ => run
  | _ => run

/-- A caller goes on when every signal of its batch has a result. -/
def resume (run : PipelineRun) (caller : ℕ) (now : ℚ) : PipelineRun :=
  match run.callers[caller]? with
  | some (.gathering batch) =>
    match batch.mapM fun child => child.result.map fun result => (child.handed.signal, result) with
    | some results =>
      let collected := collectResults now run.pipeline results
      { run with
        pipeline := collected.1
        callers := run.callers.set caller (.returned collected.2)
        clock := now }
    | none => run
  | _ => run

/-- A disable returns at once when the pipeline is switched off already or has no event bus. -/
def returnsAtOnce (pipeline : HFTPipeline) : Bool := !pipeline.active || !pipeline.hasEventBus

/-- One move. -/
def step (run : PipelineRun) : PipelineMove → PipelineRun
  | .called signals => run.call signals
  | .flushed caller now => run.flush caller now
  | .signalSubmitted caller child now => run.submitChild caller child now
  | .resumed caller now => run.resume caller now
  | .enabled user equity now =>
    { run with pipeline := run.pipeline.enable user equity now, stopped := false, clock := now }
  | .disabled reason user equity now =>
    { run with
      pipeline := run.pipeline.disable reason user equity now
      drained := if run.pipeline.active then run.drained ++ run.pipeline.batchBuffer
        else run.drained
      publishing := if returnsAtOnce run.pipeline then run.publishing else run.publishing + 1
      stopped := run.stopped || returnsAtOnce run.pipeline
      clock := now }
  | .disableReturned =>
    if run.publishing = 0 then run
    else
      { run with
        publishing := run.publishing - 1
        stopped := run.stopped || !run.pipeline.active }

/-- A new pipeline without calls. -/
def constructed (maxOrderRate maxPerInstrumentRate : ℤ) (hasEventBus : Bool) (clock : ℚ) :
    PipelineRun :=
  { pipeline :=
      { maxOrderRate := maxOrderRate
        maxPerInstrumentRate := maxPerInstrumentRate
        hasEventBus := hasEventBus }
    clock := clock }

/-- Signals of flushed batches that are not submitted yet. -/
def inFlight (run : PipelineRun) : List HandedSignal :=
  Tasks.held BatchCaller.unsubmitted run.callers

end PipelineRun

end IgTradingBot
