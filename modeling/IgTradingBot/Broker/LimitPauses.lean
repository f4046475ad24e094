import IgTradingBot.Broker.RateLimits

/-!
# Pauses after a 429

A 429 asks for a pause. The client keeps it as long as the flag is what decides: while nothing
is transmitted past the flag, and while the one resume task that may be pending does not end
before the pause does. The condition below says so move by move, and every run that meets it
keeps every pause.
-/

namespace IgTradingBot

/-- A transmission after a 429 comes when its pause is over. -/
def Traffic.Respects (later earlier : Traffic) : Prop :=
  match later, earlier with
  | .transmitted time, .limited limitedAt waitSeconds => limitedAt + waitSeconds ≤ time
  | _, _ => True

instance (later earlier : Traffic) : Decidable (later.Respects earlier) :=
  match later, earlier with
  | .transmitted _, .limited _ _ => inferInstanceAs (Decidable (_ ≤ _))
  | .transmitted _, .transmitted _ | .limited _ _, _ => inferInstanceAs (Decidable True)

namespace ClientTasks

/-- Every pause is kept: nothing was transmitted in it, and the flag is set while it lasts. -/
structure KeepsPauses (client : ClientTasks) : Prop where
  silent : client.traffic.Pairwise Traffic.Respects
  flagged : ∀ limitedAt waitSeconds, .limited limitedAt waitSeconds ∈ client.traffic →
    client.now < limitedAt + waitSeconds → client.rateLimited = true

/-- The pending resume task, if there is one, leaves a pause from now on to its end. -/
def Spares (client : ClientTasks) (waitSeconds : ℚ) : Prop :=
  ∀ deadline ∈ client.rateLimitResumeTask, client.now + waitSeconds ≤ deadline

/-- A 429 that is not handled finds the flag set for long enough, or asks for no pause. -/
def Unneeded (client : ClientTasks) (waitSeconds : ℚ) : Prop :=
  waitSeconds ≤ 0 ∨ client.rateLimited = true ∧ client.Spares waitSeconds

/-- A 429 that is handled asks for no pause that ends after the pending resume task; without
a task the flag is clear. -/
def Resumable (client : ClientTasks) (waitSeconds : ℚ) : Prop :=
  (client.rateLimitResumeTask = none → client.rateLimited = false) ∧
    (waitSeconds ≤ 0 ∨ client.Spares waitSeconds)

/-- What a call does at an event disturbs no pause: it transmits only while the flag is clear,
and not in answer to a 429 that asks for a pause; a 429 asks for no pause that the flag would
not keep. -/
def Harmless (client : ClientTasks) (call : RequestCall) (event : CallEvent)
    (action : CallAction) : Prop :=
  (action.isTransmission = true → client.connected = true →
    client.rateLimited = false ∧ ∀ waitSeconds ∈ event.limit, waitSeconds ≤ 0) ∧
  ∀ waitSeconds ∈ event.limit,
    if call.phase.isSent then client.Resumable waitSeconds else client.Unneeded waitSeconds

/-- A move disturbs no pause: what a call does is harmless, and the direct transmissions are
made while the flag is clear and need no pause of their own. -/
def Undisturbed (client : ClientTasks) : ClientMove → Prop
  | .requestContinued id event =>
    ∀ call ∈ client.running.find? (·.id = id), ∀ action ∈ client.next call event,
      client.Harmless call event action
  | .directSent => client.connected = true → client.rateLimited = false
  | .directAnswered exchange =>
    client.direct ≠ 0 → ∀ waitSeconds ∈ exchange.limit, client.Unneeded waitSeconds
  | _ => True

instance (client : ClientTasks) (waitSeconds : ℚ) : Decidable (client.Spares waitSeconds) :=
  inferInstanceAs (Decidable (∀ deadline ∈ client.rateLimitResumeTask, _))

instance (client : ClientTasks) (waitSeconds : ℚ) : Decidable (client.Unneeded waitSeconds) :=
  inferInstanceAs (Decidable (_ ∨ _ ∧ _))

instance (client : ClientTasks) (waitSeconds : ℚ) : Decidable (client.Resumable waitSeconds) :=
  inferInstanceAs (Decidable ((_ → _) ∧ (_ ∨ _)))

instance (client : ClientTasks) (call : RequestCall) (event : CallEvent) (action : CallAction) :
    Decidable (client.Harmless call event action) :=
  inferInstanceAs (Decidable ((_ = true → _ = true →
      _ = false ∧ ∀ waitSeconds ∈ event.limit, waitSeconds ≤ 0) ∧
    ∀ waitSeconds ∈ event.limit,
      if call.phase.isSent then client.Resumable waitSeconds else client.Unneeded waitSeconds))

instance (client : ClientTasks) (move : ClientMove) : Decidable (client.Undisturbed move) :=
  match move with
  | .requestContinued id event =>
    inferInstanceAs (Decidable (∀ call ∈ client.running.find? (·.id = id),
      ∀ action ∈ client.next call event, client.Harmless call event action))
  | .directSent => inferInstanceAs (Decidable (_ → _))
  | .directAnswered _ => inferInstanceAs (Decidable (_ → _))
  | .advanced _ | .started | .stopped | .resumed | .requestCalled _ | .requestCancelled _ =>
    inferInstanceAs (Decidable True)

/-- What carries the pauses through a run: besides, a pause that lasts lies within the time of
the pending resume task. -/
structure PausesCovered (client : ClientTasks) : Prop where
  silent : client.traffic.Pairwise Traffic.Respects
  covered : ∀ limitedAt waitSeconds, .limited limitedAt waitSeconds ∈ client.traffic →
    client.now < limitedAt + waitSeconds →
      client.rateLimited = true ∧
        ∀ deadline ∈ client.rateLimitResumeTask, limitedAt + waitSeconds ≤ deadline

/-- Every pause so far is over. -/
def PausesOver (client : ClientTasks) : Prop :=
  ∀ limitedAt waitSeconds, .limited limitedAt waitSeconds ∈ client.traffic →
    limitedAt + waitSeconds ≤ client.now

section Steps

variable {client : ClientTasks} {call : RequestCall}

theorem PausesCovered.keepsPauses (covered : client.PausesCovered) : client.KeepsPauses :=
  ⟨covered.silent, fun limitedAt waitSeconds limited lasting =>
    (covered.covered limitedAt waitSeconds limited lasting).1⟩

/-- While the flag is clear, every pause is over. -/
theorem PausesCovered.past (covered : client.PausesCovered) (clear : client.rateLimited = false) :
    client.PausesOver := by
  intro limitedAt waitSeconds limited
  by_contra lasting
  have flagged := (covered.covered limitedAt waitSeconds limited (not_le.mp lasting)).1
  exact absurd (flagged.symm.trans clear) (by decide)

/-- The calls themselves do not matter to the pauses. -/
theorem PausesCovered.of_same {changed : ClientTasks} (covered : client.PausesCovered)
    (now : changed.now = client.now) (flag : changed.rateLimited = client.rateLimited)
    (task : changed.rateLimitResumeTask = client.rateLimitResumeTask)
    (traffic : changed.traffic = client.traffic) : changed.PausesCovered := by
  constructor
  · rw [traffic]
    exact covered.silent
  · rw [traffic, now, flag, task]
    exact covered.covered

/-- A 429 leaves the connection as it is. -/
theorem hear_connected (call : RequestCall) (event : CallEvent) :
    (client.hear call event).connected = client.connected := by
  cases limit : event.limit with
  | none => simp only [hear, limit]
  | some waitSeconds =>
    cases sent : call.phase.isSent <;> simp [hear, limit, sent, handleRateLimit, observe]

/-- A transmission after every pause keeps them all. -/
theorem PausesCovered.transmitted (covered : client.PausesCovered) (past : client.PausesOver) :
    (client.observe (.transmitted client.now)).PausesCovered := by
  constructor
  · apply List.pairwise_cons.mpr ⟨?_, covered.silent⟩
    rintro (_ | ⟨limitedAt, waitSeconds⟩) earlier
    · trivial
    · exact past limitedAt waitSeconds earlier
  · intro limitedAt waitSeconds limited
    obtain impossible | earlier := List.mem_cons.mp limited
    · cases impossible
    · exact covered.covered limitedAt waitSeconds earlier

/-- Whatever a call does keeps the pauses, when it transmits after every pause only. -/
theorem PausesCovered.performed (covered : client.PausesCovered) (action : CallAction)
    (past : action.isTransmission = true → client.connected = true → client.PausesOver) :
    (client.perform call action).PausesCovered := by
  cases action with
  | transmit phase =>
    by_cases connected : client.connected = true
    · rw [perform, if_pos connected]
      exact (covered.transmitted (past rfl connected)).of_same rfl rfl rfl rfl
    · rw [perform, if_neg connected]
      exact covered.of_same rfl rfl rfl rfl
  | pause phase => exact covered.of_same rfl rfl rfl rfl
  | finish ending => exact covered.of_same rfl rfl rfl rfl

/-- A 429 that is not handled opens no pause that is not kept already. -/
theorem PausesCovered.limited (covered : client.PausesCovered) {waitSeconds : ℚ}
    (unneeded : client.Unneeded waitSeconds) :
    (client.observe (.limited client.now waitSeconds)).PausesCovered := by
  constructor
  · exact List.pairwise_cons.mpr ⟨fun _ _ => trivial, covered.silent⟩
  · intro limitedAt asked limited lasting
    obtain latest | earlier := List.mem_cons.mp limited
    · obtain ⟨rfl, rfl⟩ := Traffic.limited.inj latest
      obtain none | kept := unneeded
      · exact absurd lasting (not_lt.mpr (add_le_of_nonpos_right none))
      · exact kept
    · exact covered.covered limitedAt asked earlier lasting

/-- A 429 that is handled opens a pause that its resume task leaves to its end. -/
theorem PausesCovered.handled (covered : client.PausesCovered) {waitSeconds : ℚ}
    (resumable : client.Resumable waitSeconds) :
    ((client.observe (.limited client.now waitSeconds)).handleRateLimit
      waitSeconds).PausesCovered := by
  constructor
  · exact List.pairwise_cons.mpr ⟨fun _ _ => trivial, covered.silent⟩
  · intro limitedAt asked limited lasting
    refine ⟨rfl, ?_⟩
    intro deadline pending
    cases task : client.rateLimitResumeTask with
    | none =>
      have created : client.now + waitSeconds = deadline := by
        simpa [handleRateLimit, observe, task] using pending
      obtain latest | earlier := List.mem_cons.mp limited
      · obtain ⟨rfl, rfl⟩ := Traffic.limited.inj latest
        exact created.le
      · -- without a task the flag was clear, so the earlier pause is over
        have past := covered.past (resumable.1 task) limitedAt asked earlier
        exact absurd lasting (not_lt.mpr past)
    | some awaited =>
      have same : awaited = deadline := by
        simpa [handleRateLimit, observe, task] using pending
      subst same
      obtain latest | earlier := List.mem_cons.mp limited
      · obtain ⟨rfl, rfl⟩ := Traffic.limited.inj latest
        obtain none | spares := resumable.2
        · exact absurd lasting (not_lt.mpr (add_le_of_nonpos_right none))
        · exact spares awaited task
      · exact (covered.covered limitedAt asked earlier lasting).2 awaited task

/-- A 429 at a call keeps the pauses. -/
theorem PausesCovered.heard (covered : client.PausesCovered) {event : CallEvent}
    (permitted : ∀ waitSeconds ∈ event.limit,
      if call.phase.isSent then client.Resumable waitSeconds else client.Unneeded waitSeconds) :
    (client.hear call event).PausesCovered := by
  cases limit : event.limit with
  | none => simpa only [hear, limit] using covered
  | some waitSeconds =>
    have allowed := permitted waitSeconds limit
    simp only [hear, limit]
    by_cases sent : call.phase.isSent = true
    · simp only [sent, if_true] at allowed ⊢
      exact covered.handled allowed
    · simp only [sent] at allowed ⊢
      exact covered.limited allowed

/-- A 429 that asks for no pause leaves every pause over. -/
theorem PausesOver.heard (past : client.PausesOver) {event : CallEvent}
    (none : ∀ waitSeconds ∈ event.limit, waitSeconds ≤ 0) :
    (client.hear call event).PausesOver := by
  cases limit : event.limit with
  | none => simpa only [hear, limit] using past
  | some waitSeconds =>
    have observed : (client.observe (.limited client.now waitSeconds)).PausesOver := by
      intro limitedAt asked limited
      obtain latest | earlier := List.mem_cons.mp limited
      · obtain ⟨rfl, rfl⟩ := Traffic.limited.inj latest
        exact add_le_of_nonpos_right (none _ limit)
      · exact past limitedAt asked earlier
    simp only [hear, limit]
    by_cases sent : call.phase.isSent = true
    · simp only [sent, if_true]
      exact observed
    · simp only [sent]
      exact observed

/-- What a call does at an event keeps the pauses when it is harmless: a transmission finds the
flag clear, and a 429 in whose answer it is made asks for no pause. -/
theorem PausesCovered.continued (covered : client.PausesCovered) {event : CallEvent}
    {action : CallAction} (harmless : client.Harmless call event action) :
    ((client.hear call event).perform call action).PausesCovered := by
  obtain ⟨unchecked, permitted⟩ := harmless
  apply (covered.heard permitted).performed action
  intro transmits connected
  have sameConnection : (client.hear call event).connected = client.connected :=
    hear_connected call event
  obtain ⟨clear, none⟩ := unchecked transmits (sameConnection ▸ connected)
  exact (covered.past clear).heard none

/-- Waiting for the flag transmits only once it is clear. -/
theorem wait_for_rate_limit_clear_transmits
    (transmits : (client.waitForRateLimitClear call).isTransmission = true) :
    client.rateLimited = false := by
  by_contra flagged
  have set : client.rateLimited = true := by simpa using flagged
  simp only [waitForRateLimitClear, set, if_true] at transmits
  split_ifs at transmits
  · cases transmits
  · cases transmits

/-- A request that is called keeps the pauses: it looks at the flag. -/
theorem PausesCovered.requested (covered : client.PausesCovered) (hft : Bool) :
    (client.request hft).PausesCovered := by
  have issued : { client with calls := client.calls + 1 }.PausesCovered :=
    covered.of_same rfl rfl rfl rfl
  unfold request
  split_ifs
  · exact issued.of_same rfl rfl rfl rfl
  · exact issued.performed _ fun transmits _ =>
      issued.past (wait_for_rate_limit_clear_transmits transmits)

/-- When the resume task has slept for its time, every pause is over. -/
theorem PausesCovered.resumed (covered : client.PausesCovered) :
    client.resumeAfterRateLimit.PausesCovered := by
  unfold resumeAfterRateLimit
  cases task : client.rateLimitResumeTask with
  | none => exact covered
  | some deadline =>
    by_cases reached : deadline ≤ client.now
    · simp only [reached, if_true]
      refine ⟨covered.silent, ?_⟩
      intro limitedAt waitSeconds limited lasting
      have before := (covered.covered limitedAt waitSeconds limited lasting).2 deadline task
      exact absurd lasting (not_lt.mpr (before.trans reached))
    · simp only [reached, if_false]
      exact covered

/-- Time that passes ends pauses and begins none. -/
theorem PausesCovered.advanced (covered : client.PausesCovered) {seconds : ℚ}
    (forward : 0 ≤ seconds) : { client with now := client.now + seconds }.PausesCovered := by
  refine ⟨covered.silent, ?_⟩
  intro limitedAt waitSeconds limited lasting
  have earlier : client.now ≤ client.now + seconds := le_add_of_nonneg_right forward
  exact covered.covered limitedAt waitSeconds limited (lt_of_le_of_lt earlier lasting)

/-- The step lemma: a move that does not disturb the pauses keeps them. -/
theorem PausesCovered.step (covered : client.PausesCovered) (move : ClientMove)
    (undisturbed : client.Undisturbed move) : (client.step move).PausesCovered := by
  cases move with
  | advanced seconds =>
    simp only [ClientTasks.step]
    split_ifs with forward
    · exact covered.advanced forward
    · exact covered
  | started => exact covered.of_same rfl rfl rfl rfl
  | stopped =>
    refine ⟨covered.silent, ?_⟩
    intro limitedAt waitSeconds limited lasting
    exact ⟨(covered.covered limitedAt waitSeconds limited lasting).1, by rintro _ ⟨⟩⟩
  | resumed => exact covered.resumed
  | requestCalled hft => exact covered.requested hft
  | requestContinued id event =>
    rcases client.request_continued_cases id event with
      same | ⟨call, action, found, continued, goesOn⟩
    · rw [same]
      exact covered
    · rw [goesOn]
      exact covered.continued (undisturbed call found action continued)
  | requestCancelled id =>
    cases found : client.running.find? (·.id = id) with
    | none => simpa only [ClientTasks.step, found] using covered
    | some call =>
      simp only [ClientTasks.step, found]
      exact covered.of_same rfl rfl rfl rfl
  | directSent =>
    simp only [ClientTasks.step]
    split_ifs with connected
    · exact (covered.transmitted (covered.past (undisturbed connected))).of_same rfl rfl rfl rfl
    · exact covered
  | directAnswered exchange =>
    simp only [ClientTasks.step]
    split_ifs with outstanding
    · exact covered
    · have answered : { client with direct := client.direct - 1 }.PausesCovered :=
        covered.of_same rfl rfl rfl rfl
      cases limit : exchange.limit with
      | none => exact answered
      | some waitSeconds => exact answered.limited (undisturbed outstanding waitSeconds limit)

end Steps

/-- In every run in which no transmission goes past a set flag, and no 429 asks for a pause that
the flag would not keep, every pause is kept. -/
theorem run_keeps_pauses (start : ℚ) (moves : List ClientMove)
    (undisturbed : Machines.Conforms step Undisturbed (constructed start) moves) :
    KeepsPauses (Machines.after step (constructed start) moves) := by
  have initial : (constructed start).PausesCovered :=
    ⟨List.Pairwise.nil, fun _ _ impossible => by cases impossible⟩
  have kept : ∀ client move, PausesCovered client → Undisturbed client move →
      PausesCovered (step client move) := by
    intro client move covered permitted
    exact covered.step move permitted
  exact (Machines.after_keeps kept initial undisturbed).keepsPauses

section Disturbances

variable {client : ClientTasks} {call : RequestCall}

/-- A transmission during a pause breaks it. -/
theorem transmission_breaks_pause (lasting : ¬ client.PausesOver) :
    ¬ (client.observe (.transmitted client.now)).KeepsPauses := by
  intro keeps
  apply lasting
  intro limitedAt waitSeconds limited
  exact (List.pairwise_cons.mp keeps.silent).1 _ limited

/-- A call that transmits in answer to a 429 breaks the pause that it asks for. -/
theorem retransmission_breaks_pause {id : ℕ} {event : CallEvent} {action : CallAction}
    {waitSeconds : ℚ} (found : client.running.find? (·.id = id) = some call)
    (continued : client.next call event = some action)
    (transmits : action.isTransmission = true) (connected : client.connected = true)
    (limit : event.limit = some waitSeconds) (positive : 0 < waitSeconds) :
    ¬ (client.step (.requestContinued id event)).KeepsPauses := by
  have lasting : ¬ (client.hear call event).PausesOver := by
    intro past
    have heard : .limited client.now waitSeconds ∈ (client.hear call event).traffic ∧
        (client.hear call event).now = client.now := by
      cases sent : call.phase.isSent <;> simp [hear, limit, sent, handleRateLimit, observe]
    have finished := past client.now waitSeconds heard.1
    rw [heard.2] at finished
    linarith
  have still : (client.hear call event).connected = true :=
    (hear_connected call event).trans connected
  cases action with
  | transmit phase =>
    simp only [step, found, continued, perform, still, if_true]
    intro keeps
    exact transmission_breaks_pause lasting ⟨keeps.silent, keeps.flagged⟩
  | pause phase => cases transmits
  | finish ending => cases transmits

/-- A pause that ends after the pending resume task is cut short by it. -/
theorem outlasting_pause_is_cut_short {waitSeconds deadline : ℚ}
    (pending : client.rateLimitResumeTask = some deadline) (ahead : client.now ≤ deadline)
    (outlasts : deadline < client.now + waitSeconds) :
    ¬ (Machines.after step
      ((client.observe (.limited client.now waitSeconds)).handleRateLimit waitSeconds)
      [.advanced (deadline - client.now), .resumed]).KeepsPauses := by
  intro keeps
  have arrived : client.now + (deadline - client.now) = deadline :=
    add_sub_cancel client.now deadline
  have cleared := keeps.flagged client.now waitSeconds
  simp [step, resumeAfterRateLimit, handleRateLimit, observe, pending, ahead, arrived,
    outlasts] at cleared

end Disturbances

/-- A run in which the last attempt of a request is answered with a 429 that asks for a pause,
and another request is called in the pause. -/
def exhaustedRun : List ClientMove :=
  [.started, .requestCalled false] ++
    ([2, 4, 8, 16].flatMap fun seconds =>
      [.requestContinued 0 (.answered (.raised .http)), .advanced seconds,
        .requestContinued 0 .woken]) ++
    [.requestContinued 0 (.answered (.answered 429 (.seconds 30))), .requestCalled false,
      .advanced 10, .requestContinued 1 .woken, .advanced 20, .resumed,
      .requestContinued 1 .woken]

/-- The other request is transmitted when the pause is over. -/
theorem exhausted_run_keeps_pause :
    KeepsPauses (Machines.after step (constructed 0) exhaustedRun) ∧
      (Machines.after step (constructed 0) exhaustedRun).traffic.take 2 =
        [.transmitted 60, .limited 30 30] :=
  ⟨run_keeps_pauses 0 exhaustedRun (by decide +kernel), by decide +kernel⟩

/-- The first attempt of a request is answered with a 429 that asks for thirty seconds, and the
next attempt is transmitted at once. -/
theorem retry_after_limit_is_transmitted :
    ¬ KeepsPauses (Machines.after step (constructed 0)
      [.started, .requestCalled false,
        .requestContinued 0 (.answered (.answered 429 (.seconds 30)))]) := by
  intro keeps
  have silent := keeps.silent
  revert silent
  decide +kernel

end ClientTasks

end IgTradingBot
