import IgTradingBot.Broker.IGClient
import IgTradingBot.Library.Machines
import Mathlib.Tactic.Linarith

/-!
# Rate limits of the broker

Concurrent requests of one client of `src/trading/ig_client.py`, with the flag and the resume
task that a 429 sets. Between two awaits a call is one uninterrupted step; which call goes on,
what the server answers and how much time passes is left to the schedule. Times are seconds of
the monotonic clock.

A request looks at the flag when it is called and while it waits. What it transmits later, after
a pause, a renewal of the session or a 429 of its own, it transmits without another look. Logins,
heartbeats and closes of positions are transmitted directly, and a 429 to them is not handled.
-/

namespace IgTradingBot

/-- The `Retry-After` header of an answer. -/
inductive RetryAfter where
  | missing
  | seconds (count : ℤ)
  | unreadable
  deriving DecidableEq, Repr

/-- The delay that a 429 asks for. -/
def RetryAfter.waitSeconds : RetryAfter → ℚ
  | .seconds count => count
  | .missing | .unreadable => 60

/-- How one exchange with the server ends. -/
inductive RequestExchange where
  | raised (error : TransportError)
  | answered (statusCode : ℕ) (retryAfter : RetryAfter := .missing)
  deriving DecidableEq, Repr

/-- The delay of an exchange that ends with a 429. -/
def RequestExchange.limit : RequestExchange → Option ℚ
  | .answered statusCode retryAfter =>
    if statusCode = 429 then some retryAfter.waitSeconds else none
  | .raised _ => none

/-- Where a call of `_request` awaits: in the loop that waits for the flag, for the answer of an
attempt, between two attempts, or in the renewal of the session after an attempt. -/
inductive CallPhase where
  | waiting (wake : ℚ)
  | sent (attempt : ℕ)
  | backingOff (attempt : ℕ) (wake : ℚ)
  | refreshing (attempt : ℕ)
  | loggingIn (attempt authAttempt : ℕ)
  | loginPaused (attempt authAttempt : ℕ) (wake : ℚ)
  deriving DecidableEq, Repr

/-- A call of `_request`. -/
structure RequestCall where
  id : ℕ
  hft : Bool
  enqueueTime : ℚ
  phase : CallPhase
  deriving DecidableEq, Repr

/-- How a call of `_request` ends. -/
inductive RequestEnd where
  | returned (statusCode : ℕ)
  | raised (failure : Failure)
  | cancelled
  deriving DecidableEq, Repr

/-- What lets a call go on: its pause is over, or its exchange has ended. -/
inductive CallEvent where
  | woken
  | answered (exchange : RequestExchange)
  deriving DecidableEq, Repr

/-- What a call does until its next await. -/
inductive CallAction where
  | transmit (phase : CallPhase)
  | pause (phase : CallPhase)
  | finish (ending : RequestEnd)
  deriving DecidableEq, Repr

/-- The traffic as an observer records it, with the delay of every 429. -/
inductive Traffic where
  | transmitted (time : ℚ)
  | limited (time waitSeconds : ℚ)
  deriving DecidableEq, Repr

/-- The client with the calls that use it. The resume task is the time for which it sleeps.
Nothing in the source puts anything into the request queue. The last two fields are what an
observer records, the latest first. -/
structure ClientTasks where
  now : ℚ
  connected : Bool := false
  rateLimited : Bool := false
  rateLimitResumeTask : Option ℚ := none
  rateLimitQueue : ℕ := 0
  calls : ℕ := 0
  running : List RequestCall := []
  direct : ℕ := 0
  ended : List (ℕ × RequestEnd) := []
  traffic : List Traffic := []
  deriving DecidableEq, Repr

/-- What the schedule may choose next. -/
inductive ClientMove where
  | advanced (seconds : ℚ)
  | started
  | stopped
  | resumed
  | requestCalled (hft : Bool)
  | requestContinued (id : ℕ) (event : CallEvent)
  | requestCancelled (id : ℕ)
  /-- a login, a heartbeat or a close of a position is transmitted -/
  | directSent
  | directAnswered (exchange : RequestExchange)
  deriving DecidableEq, Repr

/-- The call transmits something. -/
def CallAction.isTransmission : CallAction → Bool
  | .transmit _ => true
  | _ => false

/-- The delay of a 429 that lets a call go on. -/
def CallEvent.limit : CallEvent → Option ℚ
  | .answered exchange => exchange.limit
  | .woken => none

/-- The call awaits the answer of an attempt. -/
def CallPhase.isSent : CallPhase → Bool
  | .sent _ => true
  | _ => false

namespace ClientTasks

/-- A client that nobody uses yet. -/
def constructed (now : ℚ) : ClientTasks := { now }

/-- Whether an HFT call has been under way for too long. -/
def late (client : ClientTasks) (call : RequestCall) : Bool :=
  call.hft && decide (Constants.hftLatencyRejectionMs < (client.now - call.enqueueTime) * 1000)

/-- Exponential backoff. -/
def backoff (attempt : ℕ) : ℚ := Constants.apiRetryBaseSeconds * 2 ^ attempt

/-- The end of a call that is under way for too long. -/
def latencyRejection : CallAction :=
  .finish (.raised (.hftLatencyRejection "HFT order cancelled due to excessive queuing latency"))

/-- An attempt of the retry loop. -/
def tryAttempt (client : ClientTasks) (call : RequestCall) (attempt : ℕ) : CallAction :=
  if attempt < Constants.apiRetryMaxAttempts then
    if client.late call then latencyRejection else .transmit (.sent attempt)
  else .finish (.raised (.igConnection "All retry attempts exhausted"))

/-- One turn of the loop that waits for the flag. -/
def waitForRateLimitClear (client : ClientTasks) (call : RequestCall) : CallAction :=
  if client.rateLimited then
    if client.late call then latencyRejection else .pause (.waiting (client.now + 1 / 20))
  else client.tryAttempt call 0

/-- An attempt has ended. -/
def afterAttempt (client : ClientTasks) (call : RequestCall) (attempt : ℕ) :
    RequestExchange → CallAction
  | .raised .http =>
    if attempt < Constants.apiRetryMaxAttempts - 1 then
      .pause (.backingOff attempt (client.now + backoff attempt))
    else .finish (.raised (.igConnection "All retry attempts exhausted"))
  | .raised (.other message) => .finish (.raised (.other message))
  | .answered statusCode _ =>
    if statusCode = 429 then client.tryAttempt call (attempt + 1)
    else if statusCode = 401 then .transmit (.refreshing attempt)
    else .finish (.returned statusCode)

/-- The refresh of the session has ended. -/
def afterRefresh (client : ClientTasks) (call : RequestCall) (attempt : ℕ) :
    RequestExchange → CallAction
  | .raised .http => .transmit (.loggingIn attempt 0)
  | .raised (.other message) => .finish (.raised (.other message))
  | .answered statusCode _ =>
    if statusCode = 200 then client.tryAttempt call (attempt + 1)
    else .transmit (.loggingIn attempt 0)

/-- A login has failed; the third failure ends the renewal, whose answer is not used. -/
def afterLoginFailure (client : ClientTasks) (call : RequestCall) (attempt authAttempt : ℕ) :
    CallAction :=
  if authAttempt < 2 then
    .pause (.loginPaused attempt authAttempt (client.now + backoff authAttempt))
  else client.tryAttempt call (attempt + 1)

/-- A login has ended. -/
def afterLogin (client : ClientTasks) (call : RequestCall) (attempt authAttempt : ℕ) :
    RequestExchange → CallAction
  | .raised .http => client.afterLoginFailure call attempt authAttempt
  | .raised (.other message) => .finish (.raised (.other message))
  | .answered statusCode _ =>
    if statusCode = 200 then client.tryAttempt call (attempt + 1)
    else client.afterLoginFailure call attempt authAttempt

/-- What an event makes a call do, where it awaits that event. -/
def next (client : ClientTasks) (call : RequestCall) (event : CallEvent) : Option CallAction :=
  match call.phase, event with
  | .waiting wake, .woken =>
    if wake ≤ client.now then some (client.waitForRateLimitClear call) else none
  | .sent attempt, .answered exchange => some (client.afterAttempt call attempt exchange)
  | .backingOff attempt wake, .woken =>
    if wake ≤ client.now then some (client.tryAttempt call (attempt + 1)) else none
  | .refreshing attempt, .answered exchange => some (client.afterRefresh call attempt exchange)
  | .loggingIn attempt authAttempt, .answered exchange =>
    some (client.afterLogin call attempt authAttempt exchange)
  | .loginPaused attempt authAttempt wake, .woken =>
    if wake ≤ client.now then some (.transmit (.loggingIn attempt (authAttempt + 1))) else none
  | _, _ => none

/-- A call ends. -/
def finish (client : ClientTasks) (call : RequestCall) (ending : RequestEnd) : ClientTasks :=
  { client with
      running := client.running.filter (·.id ≠ call.id)
      ended := (call.id, ending) :: client.ended }

/-- A call goes on to its next await. -/
def place (client : ClientTasks) (call : RequestCall) (phase : CallPhase) : ClientTasks :=
  { client with running := { call with phase } :: client.running.filter (·.id ≠ call.id) }

/-- Record traffic. -/
def observe (client : ClientTasks) (event : Traffic) : ClientTasks :=
  { client with traffic := event :: client.traffic }

/-- Carry out what a call does; without a connection nothing is transmitted. -/
def perform (client : ClientTasks) (call : RequestCall) : CallAction → ClientTasks
  | .transmit phase =>
    if client.connected then (client.observe (.transmitted client.now)).place call phase
    else client.finish call (.raised (.igConnection "HTTP client not initialized"))
  | .pause phase => client.place call phase
  | .finish ending => client.finish call ending

/-- A 429 of an attempt sets the flag, and a resume task is made unless one is pending. -/
def handleRateLimit (client : ClientTasks) (waitSeconds : ℚ) : ClientTasks :=
  { client with
      rateLimited := true
      rateLimitResumeTask :=
        match client.rateLimitResumeTask with
        | some deadline => some deadline
        | none => some (client.now + waitSeconds) }

/-- A 429 arrives at a call; only the one to an attempt is handled. -/
def hear (client : ClientTasks) (call : RequestCall) (event : CallEvent) : ClientTasks :=
  match event.limit with
  | none => client
  | some waitSeconds =>
    let heard := client.observe (.limited client.now waitSeconds)
    if call.phase.isSent then heard.handleRateLimit waitSeconds else heard

/-- A request is called: it waits while the rate is limited, else it makes its first attempt. -/
def request (client : ClientTasks) (hft : Bool) : ClientTasks :=
  let call : RequestCall := ⟨client.calls, hft, client.now, .waiting client.now⟩
  let issued := { client with calls := client.calls + 1 }
  if client.rateLimited && decide (Constants.requestQueueMaxSize ≤ client.rateLimitQueue) then
    issued.finish call (.raised (.rateLimit "Request queue at capacity during rate limiting"))
  else issued.perform call (issued.waitForRateLimitClear call)

/-- The resume task has slept for its time. -/
def resumeAfterRateLimit (client : ClientTasks) : ClientTasks :=
  match client.rateLimitResumeTask with
  | some deadline =>
    if deadline ≤ client.now then
      { client with rateLimited := false, rateLimitResumeTask := none }
    else client
  | none => client

/-- One move. Stopping cancels the resume task and leaves the flag as it is. -/
def step (client : ClientTasks) : ClientMove → ClientTasks
  | .advanced seconds => if 0 ≤ seconds then { client with now := client.now + seconds } else client
  | .started => { client with connected := true }
  | .stopped => { client with connected := false, rateLimitResumeTask := none }
  | .resumed => client.resumeAfterRateLimit
  | .requestCalled hft => client.request hft
  | .requestContinued id event =>
    match client.running.find? (·.id = id) with
    | some call =>
      match client.next call event with
      | some action => (client.hear call event).perform call action
      | none => client
    | none => client
  | .requestCancelled id =>
    match client.running.find? (·.id = id) with
    | some call => client.finish call .cancelled
    | none => client
  | .directSent =>
    if client.connected then
      { client.observe (.transmitted client.now) with direct := client.direct + 1 }
    else client
  | .directAnswered exchange =>
    if client.direct = 0 then client
    else
      let answered := { client with direct := client.direct - 1 }
      match exchange.limit with
      | some waitSeconds => answered.observe (.limited client.now waitSeconds)
      | none => answered

/-- A request goes on with an action, if it runs and can go on; otherwise nothing happens. -/
theorem request_continued_cases (client : ClientTasks) (id : ℕ) (event : CallEvent) :
    client.step (.requestContinued id event) = client ∨
      ∃ call action, client.running.find? (·.id = id) = some call ∧
        client.next call event = some action ∧
        client.step (.requestContinued id event) = (client.hear call event).perform call action := by
  cases found : client.running.find? (·.id = id) with
  | none => exact .inl (by simp only [step, found])
  | some call =>
    cases continued : client.next call event with
    | none => exact .inl (by simp only [step, found, continued])
    | some action =>
      exact .inr ⟨call, action, rfl, continued, by simp only [step, found, continued]⟩

end ClientTasks

end IgTradingBot
