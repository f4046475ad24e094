import IgTradingBot.Broker.IGClient
import IgTradingBot.Library.Retries
import Mathlib.Logic.Function.Iterate

/-!
# What a request does

The request helper as a bounded retry loop. Its effect at the server is the
effect of one processed attempt, repeated once for every processed attempt that
the loop makes; and it returns a response exactly when it makes an attempt that
is answered with this response and that it does not repeat.
-/

namespace IgTradingBot

open Sequential Sequential.Program

namespace RequestScript

variable {β : Type}

/-- The latency check before this attempt cancels the request. -/
def Stops (hft : Bool) (script : RequestScript β) (attempt : ℕ) : Prop :=
  (hft && script.late attempt) = true

/-- The server processes this attempt. -/
def Processes (script : RequestScript β) (attempt : ℕ) : Prop :=
  (script.attempts attempt).isProcessed = true

/-- The loop goes on after this attempt: after an exception of the HTTP library,
after a 429, and after a 401 unless the renewal of the session raises. -/
def Repeats (script : RequestScript β) (attempt : ℕ) : Prop :=
  match script.attempts attempt with
  | .disconnected => False
  | .raised _ error => error = .http
  | .answered _ response =>
    response.statusCode = 429 ∨
      (response.statusCode = 401 ∧ IGClient.renewSession (script.sessions attempt) = .ok ())

instance (hft : Bool) (script : RequestScript β) : DecidablePred (script.Stops hft) :=
  fun attempt => inferInstanceAs (Decidable ((hft && script.late attempt) = true))

instance (script : RequestScript β) : DecidablePred script.Processes :=
  fun attempt => inferInstanceAs (Decidable ((script.attempts attempt).isProcessed = true))

instance (script : RequestScript β) : DecidablePred script.Repeats := fun attempt =>
  match observed : script.attempts attempt with
  | .disconnected => isFalse (by simp [Repeats, observed])
  | .raised _ error =>
    decidable_of_iff (error = .http) (by simp [Repeats, observed])
  | .answered _ response =>
    decidable_of_iff (response.statusCode = 429 ∨
      (response.statusCode = 401 ∧ IGClient.renewSession (script.sessions attempt) = .ok ()))
      (by simp [Repeats, observed])

/-- The request passes the wait for the rate limit. -/
def Enters (hft : Bool) (script : RequestScript β) : Prop :=
  script.rateLimited = true → script.queueFull = false ∧ (hft && script.lateWhileWaiting) = false

instance (hft : Bool) (script : RequestScript β) : Decidable (script.Enters hft) :=
  inferInstanceAs (Decidable (_ → _))

/-- The request makes this attempt. -/
def Makes (hft : Bool) (script : RequestScript β) (attempt : ℕ) : Prop :=
  script.Enters hft ∧ attempt < Constants.apiRetryMaxAttempts ∧
    Retries.Reached (script.Stops hft) script.Repeats 0 attempt

/-- The request is answered with this response. -/
def Answers (hft : Bool) (script : RequestScript β) (response : HttpResponse β) : Prop :=
  ∃ attempt processed, script.Makes hft attempt ∧
    script.attempts attempt = .answered processed response ∧
    response.statusCode ≠ 429 ∧ response.statusCode ≠ 401

end RequestScript

namespace IGClient

variable {β : Type}

/-- How a request ends with an attempt that it does not repeat. -/
def endOf (script : RequestScript β) (attempt : ℕ) : Except Failure (HttpResponse β) :=
  match script.attempts attempt with
  | .disconnected => .error (.igConnection "HTTP client not initialized")
  | .raised _ error => .error error.failure
  | .answered _ response =>
    if response.statusCode = 401 then
      (renewSession (script.sessions attempt)).map fun _ => response
    else .ok response

/-- The client after one attempt. -/
def afterAttempt (processed : IGClient → IGClient) (script : RequestScript β) (attempt : ℕ)
    (client : IGClient) : IGClient :=
  if script.Processes attempt then processed client else client

section Steps

variable (processed : IGClient → IGClient) (hft : Bool) (script : RequestScript β)
  (fuel attempt : ℕ) (client : IGClient)

/-- A latency check that cancels the request ends the loop without an attempt. -/
theorem attempt_loop_stopped (stopped : script.Stops hft attempt) :
    attemptLoop processed hft script (fuel + 1) attempt client =
      (.error (.hftLatencyRejection "HFT order cancelled due to excessive queuing latency"),
        client) := by
  have late : (hft && script.late attempt) = true := stopped
  simp [attemptLoop, late]

/-- A repeated attempt leaves the loop with the next attempt. -/
theorem attempt_loop_repeated (running : ¬ script.Stops hft attempt)
    (again : script.Repeats attempt) :
    attemptLoop processed hft script (fuel + 1) attempt client =
      attemptLoop processed hft script fuel (attempt + 1)
        (afterAttempt processed script attempt client) := by
  have onTime : ¬ (hft && script.late attempt) = true := running
  rcases observed : script.attempts attempt with
    _ | ⟨isProcessed, error⟩ | ⟨isProcessed, response⟩
  · simp [RequestScript.Repeats, observed] at again
  · obtain rfl : error = .http := by simpa [RequestScript.Repeats, observed] using again
    simp [attemptLoop, onTime, observed, bind_run, afterAttempt, RequestScript.Processes,
      Attempt.isProcessed]
  · have status : response.statusCode = 429 ∨ (response.statusCode = 401 ∧
        renewSession (script.sessions attempt) = .ok ()) := by
      simpa [RequestScript.Repeats, observed] using again
    rcases status with limited | ⟨expired, renewed⟩
    · simp [attemptLoop, onTime, observed, bind_run, afterAttempt, RequestScript.Processes,
        Attempt.isProcessed, limited]
    · simp [attemptLoop, onTime, observed, bind_run, afterAttempt, RequestScript.Processes,
        Attempt.isProcessed, expired, renewed]

/-- An attempt that is not repeated ends the loop. -/
theorem attempt_loop_ended (running : ¬ script.Stops hft attempt)
    (finished : ¬ script.Repeats attempt) :
    attemptLoop processed hft script (fuel + 1) attempt client =
      (endOf script attempt, afterAttempt processed script attempt client) := by
  have onTime : ¬ (hft && script.late attempt) = true := running
  rcases observed : script.attempts attempt with
    _ | ⟨isProcessed, error⟩ | ⟨isProcessed, response⟩
  · simp [attemptLoop, onTime, observed, endOf, afterAttempt, RequestScript.Processes,
      Attempt.isProcessed]
  · have broken : error ≠ .http := by simpa [RequestScript.Repeats, observed] using finished
    cases error with
    | http => exact absurd rfl broken
    | other message =>
      simp [attemptLoop, onTime, observed, bind_run, endOf, afterAttempt, RequestScript.Processes,
        Attempt.isProcessed, TransportError.failure]
  · have status : response.statusCode ≠ 429 ∧ (response.statusCode = 401 →
        renewSession (script.sessions attempt) ≠ .ok ()) := by
      simpa [RequestScript.Repeats, observed] using finished
    by_cases expired : response.statusCode = 401
    · rcases renewed : renewSession (script.sessions attempt) with failure | answer
      · simp [attemptLoop, onTime, observed, bind_run, endOf, afterAttempt,
          RequestScript.Processes, Attempt.isProcessed, expired, renewed, Except.map]
      · exact absurd renewed (status.2 expired)
    · simp [attemptLoop, onTime, observed, bind_run, endOf, afterAttempt,
        RequestScript.Processes, Attempt.isProcessed, expired, status.1]

end Steps

/-- The loop applies the effect once for each processed attempt that it makes.
The induction follows the attempts that are left. -/
theorem attempt_loop_final (processed : IGClient → IGClient) (hft : Bool)
    (script : RequestScript β) (fuel attempt : ℕ) (client : IGClient) :
    final (attemptLoop processed hft script fuel attempt) client =
      processed^[Retries.effects (script.Stops hft) script.Processes script.Repeats fuel attempt]
        client := by
  induction fuel generalizing attempt client with
  | zero => rfl
  | succ fuel inductionHypothesis =>
    unfold final at inductionHypothesis ⊢
    by_cases stopped : script.Stops hft attempt
    · rw [attempt_loop_stopped _ _ _ _ _ _ stopped]
      simp [Retries.effects, stopped]
    · by_cases again : script.Repeats attempt
      · rw [attempt_loop_repeated _ _ _ _ _ _ stopped again, inductionHypothesis]
        by_cases effect : script.Processes attempt
        · simp [Retries.effects, stopped, again, effect, afterAttempt, Nat.add_comm 1]
        · simp [Retries.effects, stopped, again, effect, afterAttempt]
      · rw [attempt_loop_ended _ _ _ _ _ _ stopped again]
        by_cases effect : script.Processes attempt
        · simp [Retries.effects, stopped, again, effect, afterAttempt]
        · simp [Retries.effects, stopped, again, effect, afterAttempt]

/-- The loop returns a response exactly when it makes an attempt that is not
repeated and ends with it. -/
theorem attempt_loop_returns (processed : IGClient → IGClient) (hft : Bool)
    (script : RequestScript β) (fuel attempt : ℕ) (client : IGClient)
    (response : HttpResponse β) :
    outcome (attemptLoop processed hft script fuel attempt) client = .ok response ↔
      ∃ target, target < attempt + fuel ∧
        Retries.Reached (script.Stops hft) script.Repeats attempt target ∧
        ¬ script.Repeats target ∧ endOf script target = .ok response := by
  induction fuel generalizing attempt client with
  | zero =>
    constructor
    · intro returned
      simp [outcome, attemptLoop] at returned
    · rintro ⟨target, before, reached, _⟩
      have after := reached.1
      omega
  | succ fuel inductionHypothesis =>
    have rest := inductionHypothesis (attempt + 1) (afterAttempt processed script attempt client)
    unfold outcome at rest ⊢
    by_cases stopped : script.Stops hft attempt
    · rw [attempt_loop_stopped _ _ _ _ _ _ stopped]
      constructor
      · intro returned
        simp at returned
      · rintro ⟨target, _, reached, _⟩
        exact absurd stopped (reached.2.2 attempt le_rfl reached.1)
    · by_cases again : script.Repeats attempt
      · rw [attempt_loop_repeated _ _ _ _ _ _ stopped again, rest]
        constructor
        · rintro ⟨target, before, reached, ending⟩
          exact ⟨target, by omega, (Retries.reached_later reached.1).mpr ⟨stopped, again, reached⟩,
            ending⟩
        · rintro ⟨target, before, reached, ending⟩
          rcases Nat.eq_or_lt_of_le reached.1 with rfl | later
          · exact absurd again ending.1
          · exact ⟨target, by omega, ((Retries.reached_later later).mp reached).2.2, ending⟩
      · rw [attempt_loop_ended _ _ _ _ _ _ stopped again]
        constructor
        · intro returned
          exact ⟨attempt, by omega, (Retries.reached_first attempt).mpr stopped, again, returned⟩
        · rintro ⟨target, _, reached, _, ending⟩
          rcases Nat.eq_or_lt_of_le reached.1 with rfl | later
          · exact ending
          · exact absurd ((Retries.reached_later later).mp reached).2.1 again

/-- An attempt that ends a request with a response is answered with it, by a
status that the loop does not handle itself. -/
theorem ends_with_iff (script : RequestScript β) (attempt : ℕ) (response : HttpResponse β) :
    (¬ script.Repeats attempt ∧ endOf script attempt = .ok response) ↔
      (∃ isProcessed, script.attempts attempt = .answered isProcessed response) ∧
        response.statusCode ≠ 429 ∧ response.statusCode ≠ 401 := by
  rcases observed : script.attempts attempt with
    _ | ⟨isProcessed, error⟩ | ⟨isProcessed, given⟩
  · simp [endOf, observed]
  · simp [endOf, observed]
  · have answered : (∃ flag, Attempt.answered isProcessed given = .answered flag response) ↔
        given = response := by simp
    have again : script.Repeats attempt ↔ given.statusCode = 429 ∨
        (given.statusCode = 401 ∧ renewSession (script.sessions attempt) = .ok ()) := by
      simp [RequestScript.Repeats, observed]
    rw [answered, again]
    by_cases expired : given.statusCode = 401
    · rcases renewed : renewSession (script.sessions attempt) with failure | answer
      · have ending : endOf script attempt ≠ .ok response := by
          simp [endOf, observed, expired, renewed, Except.map]
        constructor
        · rintro ⟨_, returned⟩
          exact absurd returned ending
        · rintro ⟨rfl, _, status⟩
          exact absurd expired status
      · constructor
        · rintro ⟨finished, _⟩
          exact absurd (Or.inr ⟨expired, rfl⟩) finished
        · rintro ⟨rfl, _, status⟩
          exact absurd expired status
    · have ending : endOf script attempt = .ok response ↔ given = response := by
        simp [endOf, observed, expired]
      rw [ending]
      constructor
      · rintro ⟨finished, rfl⟩
        exact ⟨rfl, fun limited => finished (Or.inl limited), expired⟩
      · rintro ⟨rfl, unlimited, _⟩
        refine ⟨?_, rfl⟩
        rintro (limited | ⟨refused, _⟩)
        · exact unlimited limited
        · exact expired refused

/-- Effects of a request at the server. -/
def requestEffects (hft : Bool) (script : RequestScript β) : ℕ :=
  if script.Enters hft then
    Retries.effects (script.Stops hft) script.Processes script.Repeats
      Constants.apiRetryMaxAttempts 0
  else 0

/-- A request has an effect exactly when it makes a processed attempt. -/
theorem request_effects_pos_iff (hft : Bool) (script : RequestScript β) :
    0 < requestEffects hft script ↔
      ∃ target, script.Makes hft target ∧ script.Processes target := by
  by_cases entered : script.Enters hft
  · rw [requestEffects, if_pos entered, Retries.effects_pos_iff]
    constructor
    · rintro ⟨target, before, reached, effect⟩
      exact ⟨target, ⟨entered, by omega, reached⟩, effect⟩
    · rintro ⟨target, ⟨_, before, reached⟩, effect⟩
      exact ⟨target, by omega, reached, effect⟩
  · rw [requestEffects, if_neg entered]
    constructor
    · intro positive
      omega
    · rintro ⟨target, ⟨enters, _⟩, _⟩
      exact absurd enters entered

/-- A request has two effects exactly when it makes a processed attempt after
another processed one. -/
theorem one_lt_request_effects_iff (hft : Bool) (script : RequestScript β) :
    1 < requestEffects hft script ↔
      ∃ source target, source < target ∧ script.Makes hft target ∧ script.Processes source ∧
        script.Processes target := by
  by_cases entered : script.Enters hft
  · rw [requestEffects, if_pos entered, Retries.one_lt_effects_iff]
    constructor
    · rintro ⟨source, target, _, later, before, reached, first, second⟩
      exact ⟨source, target, later, ⟨entered, by omega, reached⟩, first, second⟩
    · rintro ⟨source, target, later, ⟨_, before, reached⟩, first, second⟩
      exact ⟨source, target, Nat.zero_le source, later, by omega, reached, first, second⟩
  · rw [requestEffects, if_neg entered]
    constructor
    · intro several
      omega
    · rintro ⟨source, target, _, ⟨enters, _⟩, _⟩
      exact absurd enters entered

/-- A request that passes the wait is its retry loop. -/
theorem request_entered (processed : IGClient → IGClient) (hft : Bool) (script : RequestScript β)
    (entered : script.Enters hft) :
    request processed hft script =
      attemptLoop processed hft script Constants.apiRetryMaxAttempts 0 := by
  by_cases limited : script.rateLimited = true
  · obtain ⟨room, onTime⟩ := entered limited
    simp [request, limited, room, onTime]
  · simp [request, limited]

/-- A request that does not pass the wait raises and does nothing. -/
theorem request_refused (processed : IGClient → IGClient) (hft : Bool) (script : RequestScript β)
    (client : IGClient) (refused : ¬ script.Enters hft) :
    ∃ failure, failure ≠ emergencyCloseFailed ∧
      request processed hft script client = (.error failure, client) := by
  have limited : script.rateLimited = true := by
    by_contra free
    exact refused fun set => absurd set free
  by_cases full : script.queueFull = true
  · exact ⟨.rateLimit "Request queue at capacity during rate limiting", by decide,
      by simp [request, limited, full]⟩
  · have late : (hft && script.lateWhileWaiting) = true := by
      by_contra onTime
      exact refused fun _ => ⟨Bool.eq_false_iff.mpr full, Bool.eq_false_iff.mpr onTime⟩
    exact ⟨.hftLatencyRejection "HFT order cancelled due to excessive queuing latency", by decide,
      by simp [request, limited, full, late]⟩

/-- A request applies its effect once for each processed attempt that it makes. -/
theorem request_final (processed : IGClient → IGClient) (hft : Bool) (script : RequestScript β)
    (client : IGClient) :
    final (request processed hft script) client =
      processed^[requestEffects hft script] client := by
  by_cases entered : script.Enters hft
  · rw [request_entered processed hft script entered, requestEffects, if_pos entered]
    exact attempt_loop_final processed hft script _ 0 client
  · obtain ⟨failure, _, refused⟩ := request_refused processed hft script client entered
    rw [requestEffects, if_neg entered]
    unfold final
    rw [refused]
    rfl

/-- A request returns a response exactly when it is answered with it. -/
theorem request_returns_iff (processed : IGClient → IGClient) (hft : Bool)
    (script : RequestScript β) (client : IGClient) (response : HttpResponse β) :
    outcome (request processed hft script) client = .ok response ↔
      script.Answers hft response := by
  by_cases entered : script.Enters hft
  · rw [request_entered processed hft script entered, attempt_loop_returns]
    constructor
    · rintro ⟨target, before, reached, ending⟩
      obtain ⟨⟨isProcessed, observed⟩, status⟩ := (ends_with_iff script target response).mp ending
      exact ⟨target, isProcessed, ⟨entered, by omega, reached⟩, observed, status⟩
    · rintro ⟨target, isProcessed, ⟨_, before, reached⟩, observed, status⟩
      exact ⟨target, by omega, reached,
        (ends_with_iff script target response).mpr ⟨⟨isProcessed, observed⟩, status⟩⟩
  · obtain ⟨failure, _, refused⟩ := request_refused processed hft script client entered
    unfold outcome
    rw [refused]
    constructor
    · intro returned
      simp at returned
    · rintro ⟨target, isProcessed, ⟨enters, _⟩, _⟩
      exact absurd enters entered

/-- No exception of the login attempts is the one of a failed emergency close. -/
theorem login_attempts_raises (logins : ℕ → SessionReply) (fuel attempt : ℕ) :
    loginAttempts logins fuel attempt ≠ .error emergencyCloseFailed := by
  induction fuel generalizing attempt with
  | zero => simp [loginAttempts]
  | succ fuel inductionHypothesis =>
    rcases observed : logins attempt with _ | (_ | message) | status
    · simp [loginAttempts, observed, emergencyCloseFailed]
    · simpa [loginAttempts, observed] using inductionHypothesis (attempt + 1)
    · simp [loginAttempts, observed, emergencyCloseFailed]
    · by_cases success : status = 200
      · simp [loginAttempts, observed, success]
      · simpa [loginAttempts, observed, success] using inductionHypothesis (attempt + 1)

/-- No exception of a renewal is the one of a failed emergency close. -/
theorem renew_session_raises (script : SessionScript) :
    renewSession script ≠ .error emergencyCloseFailed := by
  have loggedIn := login_attempts_raises script.logins 3 0
  unfold renewSession
  rcases refreshed : refreshSession script.refresh with failure | answer
  · intro same
    obtain rfl : failure = emergencyCloseFailed := by
      simpa [bind, Except.bind] using same
    rcases observed : script.refresh with _ | (_ | message) | status <;>
      simp [refreshSession, observed, emergencyCloseFailed] at refreshed
  · cases answer with
    | true => simp [bind, Except.bind, pure, Except.pure]
    | false =>
      rcases ended : login script.logins with failure | success
      · intro same
        obtain rfl : failure = emergencyCloseFailed := by
          simpa [bind, Except.bind] using same
        exact loggedIn ended
      · simp [bind, Except.bind, pure, Except.pure]

/-- No exception that ends a request is the one of a failed emergency close. -/
theorem end_of_raises (script : RequestScript β) (attempt : ℕ) :
    endOf script attempt ≠ .error emergencyCloseFailed := by
  rcases observed : script.attempts attempt with
    _ | ⟨isProcessed, error⟩ | ⟨isProcessed, response⟩
  · simp [endOf, observed, emergencyCloseFailed]
  · cases error <;> simp [endOf, observed, TransportError.failure, emergencyCloseFailed]
  · by_cases expired : response.statusCode = 401
    · have renewal := renew_session_raises (script.sessions attempt)
      rcases renewed : renewSession (script.sessions attempt) with failure | answer
      · intro same
        obtain rfl : failure = emergencyCloseFailed := by
          simpa [endOf, observed, expired, renewed, Except.map] using same
        exact renewal renewed
      · simp [endOf, observed, expired, renewed, Except.map]
    · simp [endOf, observed, expired]

/-- No exception of the loop is the one of a failed emergency close. -/
theorem attempt_loop_raises (processed : IGClient → IGClient) (hft : Bool)
    (script : RequestScript β) (fuel attempt : ℕ) (client : IGClient) :
    outcome (attemptLoop processed hft script fuel attempt) client ≠
      .error emergencyCloseFailed := by
  induction fuel generalizing attempt client with
  | zero => simp [outcome, attemptLoop, emergencyCloseFailed]
  | succ fuel inductionHypothesis =>
    unfold outcome at inductionHypothesis ⊢
    by_cases stopped : script.Stops hft attempt
    · rw [attempt_loop_stopped _ _ _ _ _ _ stopped]
      simp [emergencyCloseFailed]
    · by_cases again : script.Repeats attempt
      · rw [attempt_loop_repeated _ _ _ _ _ _ stopped again]
        exact inductionHypothesis (attempt + 1) (afterAttempt processed script attempt client)
      · rw [attempt_loop_ended _ _ _ _ _ _ stopped again]
        exact end_of_raises script attempt

/-- No exception of a request is the one of a failed emergency close. -/
theorem request_raises (processed : IGClient → IGClient) (hft : Bool) (script : RequestScript β)
    (client : IGClient) :
    outcome (request processed hft script) client ≠ .error emergencyCloseFailed := by
  by_cases entered : script.Enters hft
  · rw [request_entered processed hft script entered]
    exact attempt_loop_raises processed hft script _ 0 client
  · obtain ⟨failure, apart, refused⟩ := request_refused processed hft script client entered
    unfold outcome
    rw [refused]
    intro same
    exact apart (by simpa using same)

/-- A request without effect leaves the client as it is. -/
theorem get_final (script : RequestScript β) (client : IGClient) :
    final (get script) client = client := by
  unfold get
  rw [request_final]
  exact congrFun (Function.iterate_id _) client

end IGClient

end IgTradingBot
