import IgTradingBot.Broker.RateLimits

/-!
# Requests that wait for the rate limit

A request that is called while the rate is limited waits until the flag is clear. It is to be refused
when enough others wait, which the client reads off its queue of requests. Requests that wait are
never put into this queue, so it is never full, and all of them wait.
-/

namespace IgTradingBot

/-- The call waits for the flag. -/
def CallPhase.isWaiting : CallPhase → Bool
  | .waiting _ => true
  | _ => false

/-- The call goes on to wait for the flag. -/
def CallAction.waits : CallAction → Bool
  | .transmit phase | .pause phase => phase.isWaiting
  | .finish _ => false

namespace ClientTasks

/-- Number of the requests that wait for the flag. -/
def waitingCalls (client : ClientTasks) : ℕ := client.running.countP (·.phase.isWaiting)

/-- The rate is limited, and as many requests wait as may. -/
def AtCapacity (client : ClientTasks) : Prop :=
  client.rateLimited = true ∧ Constants.requestQueueMaxSize ≤ client.waitingCalls

instance (client : ClientTasks) : Decidable client.AtCapacity := inferInstanceAs (Decidable (_ ∧ _))

/-- No more requests wait than may, while the rate is limited. -/
def WaitersBounded (client : ClientTasks) : Prop :=
  client.rateLimited = true → client.waitingCalls ≤ Constants.requestQueueMaxSize

/-- A request that is called when no further one may wait ends with an error. -/
def RefusesFurther (client : ClientTasks) (next : ClientTasks) : ClientMove → Prop
  | .requestCalled _ => client.AtCapacity → next.ended =
      (client.calls, .raised (.rateLimit "Request queue at capacity during rate limiting")) ::
        client.ended
  | _ => True

/-- No request is called when no further one may wait. -/
def HasRoom (client : ClientTasks) : ClientMove → Prop
  | .requestCalled _ => ¬client.AtCapacity
  | _ => True

instance (client : ClientTasks) : ∀ move, Decidable (client.HasRoom move)
  | .requestCalled _ => inferInstanceAs (Decidable (¬_))
  | .advanced _ | .started | .stopped | .resumed | .requestContinued _ _ | .requestCancelled _
  | .directSent | .directAnswered _ => inferInstanceAs (Decidable True)

/-- The queue of requests is empty, and no more requests wait than may. -/
structure WaitersKept (client : ClientTasks) : Prop where
  queue : client.rateLimitQueue = 0
  waiting : client.waitingCalls ≤ Constants.requestQueueMaxSize

section Actions

variable {client : ClientTasks} {call : RequestCall} {event : CallEvent} {action : CallAction}

/-- An attempt does not wait for the flag. -/
theorem try_attempt_waits (attempt : ℕ) : (client.tryAttempt call attempt).waits = false := by
  unfold tryAttempt latencyRejection
  split_ifs <;> rfl

/-- The end of an exchange does not make a call wait for the flag. -/
theorem after_exchange_waits (attempt authAttempt : ℕ) (exchange : RequestExchange) :
    (client.afterAttempt call attempt exchange).waits = false ∧
      (client.afterRefresh call attempt exchange).waits = false ∧
      (client.afterLogin call attempt authAttempt exchange).waits = false := by
  have failed : (client.afterLoginFailure call attempt authAttempt).waits = false := by
    unfold afterLoginFailure
    split_ifs
    · rfl
    · exact try_attempt_waits _
  cases exchange with
  | raised error =>
    cases error with
    | http =>
      refine ⟨?_, rfl, failed⟩
      unfold afterAttempt
      dsimp only
      split_ifs <;> rfl
    | other message => exact ⟨rfl, rfl, rfl⟩
  | answered statusCode retryAfter =>
    refine ⟨?_, ?_, ?_⟩
    · unfold afterAttempt
      dsimp only
      split_ifs
      · exact try_attempt_waits _
      · rfl
      · rfl
    · unfold afterRefresh
      dsimp only
      split_ifs
      · exact try_attempt_waits _
      · rfl
    · unfold afterLogin
      dsimp only
      split_ifs
      · exact try_attempt_waits _
      · exact failed

/-- Only a call that waits for the flag goes on to wait for it. -/
theorem next_waits (continued : client.next call event = some action)
    (waits : action.waits = true) : call.phase.isWaiting = true := by
  by_contra others
  rw [Bool.not_eq_true] at others
  refine absurd waits (Bool.not_eq_true _ ▸ ?_)
  unfold next at continued
  split at continued
  case h_1 phase => exact absurd others (by simp [phase, CallPhase.isWaiting])
  case h_2 => exact Option.some.inj continued ▸ (after_exchange_waits _ 0 _).1
  case h_3 =>
    split_ifs at continued
    exact Option.some.inj continued ▸ try_attempt_waits _
  case h_4 => exact Option.some.inj continued ▸ (after_exchange_waits _ 0 _).2.1
  case h_5 => exact Option.some.inj continued ▸ (after_exchange_waits _ _ _).2.2
  case h_6 =>
    split_ifs at continued
    exact Option.some.inj continued ▸ rfl
  case h_7 => cases continued

/-- The requests that wait when a call goes on: this one, if it does, and others. -/
theorem waiting_performed (call : RequestCall) (action : CallAction) :
    (client.perform call action).waitingCalls ≤
      (client.running.filter (·.id ≠ call.id)).countP (·.phase.isWaiting) +
        if action.waits then 1 else 0 := by
  unfold perform
  cases action with
  | transmit phase =>
    cases client.connected with
    | true =>
      simp only [if_true, place, observe, waitingCalls, CallAction.waits, List.countP_cons]
      exact le_rfl
    | false =>
      simp only [Bool.false_eq_true, if_false]
      exact Nat.le_add_right _ _
  | pause phase =>
    simp only [place, waitingCalls, CallAction.waits, List.countP_cons]
    exact le_rfl
  | finish ending => exact Nat.le_add_right _ _

/-- The others that wait, and a call that runs if it waits, are all that wait. -/
theorem waiting_others (running : call ∈ client.running) :
    (client.running.filter (·.id ≠ call.id)).countP (·.phase.isWaiting) +
        (if call.phase.isWaiting then 1 else 0) ≤ client.waitingCalls := by
  unfold waitingCalls
  rw [List.countP_eq_countP_filter_add client.running _ fun other => decide (other.id ≠ call.id)]
  refine Nat.add_le_add_left ?_ _
  split_ifs with waits
  · refine List.countP_pos_iff.mpr ⟨call, ?_, waits⟩
    exact List.mem_filter.mpr ⟨running, by simp⟩
  · exact Nat.zero_le _

/-- What a call hears of a limit leaves the requests that run and the queue as they are. -/
theorem hear_keeps (call : RequestCall) (event : CallEvent) :
    (client.hear call event).running = client.running ∧
      (client.hear call event).rateLimitQueue = client.rateLimitQueue := by
  unfold hear handleRateLimit
  split
  · exact ⟨rfl, rfl⟩
  · split_ifs <;> exact ⟨rfl, rfl⟩

/-- A call that goes on, ends or is cancelled adds no request that waits. -/
theorem waiting_continued (running : call ∈ client.running)
    (continued : client.next call event = some action) :
    ((client.hear call event).perform call action).waitingCalls ≤ client.waitingCalls := by
  refine (waiting_performed call action).trans ?_
  rw [(hear_keeps call event).1]
  refine le_trans (Nat.add_le_add_left ?_ _) (waiting_others running)
  split_ifs with waits still still
  · exact le_rfl
  · exact absurd (next_waits continued waits) still
  · exact Nat.zero_le _
  · exact le_rfl

/-- A call that has just been made waits while the flag is set. -/
theorem new_call_waits (limited : client.rateLimited = true) (new : call.enqueueTime = client.now) :
    client.waitForRateLimitClear call = .pause (.waiting (client.now + 1 / 20)) := by
  have early : client.late call = false := by
    have soon : ¬Constants.hftLatencyRejectionMs < (client.now - client.now) * 1000 := by
      rw [sub_self, zero_mul]
      decide +kernel
    rw [late, new, decide_eq_false soon, Bool.and_false]
  rw [waitForRateLimitClear, if_pos limited, early, if_neg Bool.false_ne_true]

/-- A request that is called while the queue is empty is not refused: a call is issued, which looks at
the flag. -/
theorem request_goes_on (queue : client.rateLimitQueue = 0) (hft : Bool) :
    ∃ (issued : ClientTasks) (call : RequestCall), issued.rateLimited = client.rateLimited ∧
      issued.running = client.running ∧ issued.ended = client.ended ∧
      call.enqueueTime = issued.now ∧
      client.request hft = issued.perform call (issued.waitForRateLimitClear call) := by
  have room : ¬Constants.requestQueueMaxSize ≤ client.rateLimitQueue := by
    rw [queue]
    decide
  refine ⟨{ client with calls := client.calls + 1 },
    ⟨client.calls, hft, client.now, .waiting client.now⟩, rfl, rfl, rfl, rfl, ?_⟩
  unfold request
  rw [decide_eq_false room, Bool.and_false]
  rfl

/-- A request that is called while the rate is limited does not end, as the queue is empty. -/
theorem ended_of_request (queue : client.rateLimitQueue = 0) (limited : client.rateLimited = true)
    (hft : Bool) : (client.request hft).ended = client.ended := by
  obtain ⟨issued, call, flag, -, ended, new, goesOn⟩ := request_goes_on queue hft
  rw [goesOn, new_call_waits (flag.trans limited) new]
  exact ended

/-- A request that is called adds at most one that waits, and none unless the rate is limited. -/
theorem waiting_requested (queue : client.rateLimitQueue = 0) (hft : Bool) :
    (client.request hft).waitingCalls ≤
      client.waitingCalls + if client.rateLimited then 1 else 0 := by
  obtain ⟨issued, call, flag, running, -, new, goesOn⟩ := request_goes_on queue hft
  have others : (issued.running.filter (·.id ≠ call.id)).countP (·.phase.isWaiting) ≤
      client.waitingCalls := by
    rw [running]
    exact List.filter_sublist.countP_le
  rw [goesOn]
  refine (waiting_performed call _).trans (Nat.add_le_add others ?_)
  rw [← flag]
  cases limited : issued.rateLimited with
  | true =>
    rw [if_pos rfl]
    split_ifs
    · exact le_rfl
    · exact Nat.zero_le 1
  | false =>
    have attempts : issued.waitForRateLimitClear call = issued.tryAttempt call 0 :=
      if_neg (limited ▸ Bool.false_ne_true)
    rw [attempts, try_attempt_waits]

/-- A move that no request makes leaves the requests that run and the queue as they are. -/
theorem step_cases (move : ClientMove) :
    (∃ hft, move = .requestCalled hft) ∨ (∃ id event, move = .requestContinued id event) ∨
      (∃ id, move = .requestCancelled id) ∨ ((client.step move).running = client.running ∧
        (client.step move).rateLimitQueue = client.rateLimitQueue) := by
  cases move with
  | requestCalled hft => exact .inl ⟨hft, rfl⟩
  | requestContinued id event => exact .inr (.inl ⟨id, event, rfl⟩)
  | requestCancelled id => exact .inr (.inr (.inl ⟨id, rfl⟩))
  | started | stopped => exact .inr (.inr (.inr ⟨rfl, rfl⟩))
  | advanced seconds =>
    refine .inr (.inr (.inr ?_))
    simp only [ClientTasks.step]
    split_ifs <;> exact ⟨rfl, rfl⟩
  | resumed =>
    refine .inr (.inr (.inr ?_))
    simp only [ClientTasks.step, resumeAfterRateLimit]
    split
    · split_ifs <;> exact ⟨rfl, rfl⟩
    · exact ⟨rfl, rfl⟩
  | directSent =>
    refine .inr (.inr (.inr ?_))
    simp only [ClientTasks.step]
    split_ifs <;> exact ⟨rfl, rfl⟩
  | directAnswered exchange =>
    refine .inr (.inr (.inr ?_))
    simp only [ClientTasks.step]
    split_ifs
    · exact ⟨rfl, rfl⟩
    · cases exchange.limit <;> exact ⟨rfl, rfl⟩

/-- Nothing that a request does puts it into the queue. -/
theorem queue_of_perform (call : RequestCall) (action : CallAction) :
    (client.perform call action).rateLimitQueue = client.rateLimitQueue := by
  unfold perform
  cases action with
  | transmit phase =>
    dsimp only
    split_ifs <;> rfl
  | pause phase => rfl
  | finish ending => rfl

/-- Nothing is ever put into the queue of requests. -/
theorem queue_of_step (move : ClientMove) :
    (client.step move).rateLimitQueue = client.rateLimitQueue := by
  rcases client.step_cases move with
    ⟨hft, rfl⟩ | ⟨id, event, rfl⟩ | ⟨id, rfl⟩ | ⟨-, queue⟩
  · simp only [ClientTasks.step, request]
    split_ifs
    · rfl
    · exact queue_of_perform _ _
  · rcases client.request_continued_cases id event with same | ⟨call, action, -, -, goesOn⟩
    · rw [same]
    · rw [goesOn, queue_of_perform]
      exact (hear_keeps call event).2
  · simp only [ClientTasks.step]
    split <;> rfl
  · exact queue

/-- A move that has room keeps the requests that wait within what may. -/
theorem WaitersKept.step (kept : client.WaitersKept) (move : ClientMove)
    (room : client.HasRoom move) : (client.step move).WaitersKept := by
  refine ⟨(queue_of_step move).trans kept.queue, ?_⟩
  rcases client.step_cases move with
    ⟨hft, rfl⟩ | ⟨id, event, rfl⟩ | ⟨id, rfl⟩ | ⟨running, -⟩
  · refine (waiting_requested kept.queue hft).trans ?_
    split_ifs with limited
    · exact not_le.mp fun full => room ⟨limited, full⟩
    · exact kept.waiting
  · rcases client.request_continued_cases id event with same | ⟨call, action, found, next, goesOn⟩
    · rw [same]
      exact kept.waiting
    · rw [goesOn]
      exact (waiting_continued (List.mem_of_find?_eq_some found) next).trans kept.waiting
  · cases found : client.running.find? (·.id = id) with
    | none => simpa only [ClientTasks.step, found] using kept.waiting
    | some call =>
      simp only [ClientTasks.step, found]
      exact (List.filter_sublist.countP_le).trans kept.waiting
  · rw [waitingCalls, running]
    exact kept.waiting

end Actions

/-- In every run, with any number of concurrent requests: while the rate is limited at most as many
requests wait as may, and every further one ends with an error, exactly when no request is called
while the rate is limited and as many wait as may. -/
theorem waiters_bounded_iff (start : ℚ) (moves : List ClientMove) :
    ((∀ reached, reached <+: moves →
        (Machines.after step (constructed start) reached).WaitersBounded) ∧
      ∀ reached move, reached ++ [move] <+: moves →
        (Machines.after step (constructed start) reached).RefusesFurther
          (Machines.after step (constructed start) (reached ++ [move])) move) ↔
      Machines.Conforms step HasRoom (constructed start) moves := by
  have initial : (constructed start).WaitersKept := ⟨rfl, Nat.zero_le _⟩
  have kept : ∀ client move, WaitersKept client → HasRoom client move → WaitersKept (step client move) :=
    fun _ move before room => before.step move room
  have empty : ∀ (client : ClientTasks) (move : ClientMove), client.rateLimitQueue = 0 →
      (client.step move).rateLimitQueue = 0 := fun _ move before => (queue_of_step move).trans before
  have queue : ∀ reached, (Machines.after step (constructed start) reached).rateLimitQueue = 0 :=
    fun reached => Machines.after_keeps_always empty reached rfl
  constructor
  · rintro ⟨-, refuses⟩
    refine Machines.conforms_iff_forall_prefix.mpr fun reached move earlier => ?_
    have refused := refuses reached move earlier
    rw [Machines.after_append] at refused
    cases move with
    | requestCalled hft =>
      intro full
      -- the request that is called then waits too
      have ended := ended_of_request (queue reached) full.1 hft
      exact List.cons_ne_self _ _ ((refused full).symm.trans ended)
    | advanced | started | stopped | resumed | requestContinued | requestCancelled | directSent
    | directAnswered => trivial
  · intro room
    constructor
    · intro reached earlier _
      exact (Machines.reached_keeps kept initial room earlier).waiting
    · intro reached move earlier
      have hasRoom := Machines.conforms_iff_forall_prefix.mp room reached move earlier
      cases move with
      | requestCalled hft => exact fun full => absurd full hasRoom
      | advanced | started | stopped | resumed | requestContinued | requestCancelled | directSent
      | directAnswered => trivial

/-- A request is answered with a 429, and more requests are called than may wait. -/
def crowdedRun : List ClientMove :=
  [.started, .requestCalled false, .requestContinued 0 (.answered (.answered 429))] ++
    List.replicate (Constants.requestQueueMaxSize + 1) (.requestCalled false)

/-- All of them wait. -/
theorem crowded_run_waits :
    ¬((∀ reached, reached <+: crowdedRun →
        (Machines.after step (constructed 0) reached).WaitersBounded) ∧
      ∀ reached move, reached ++ [move] <+: crowdedRun →
        (Machines.after step (constructed 0) reached).RefusesFurther
          (Machines.after step (constructed 0) (reached ++ [move])) move) := by
  rintro ⟨bounded, -⟩
  have last := bounded crowdedRun (List.prefix_refl _)
  exact absurd (last (by decide +kernel)) (by decide +kernel)

end ClientTasks

end IgTradingBot
