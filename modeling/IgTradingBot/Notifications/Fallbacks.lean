import IgTradingBot.Notifications.CriticalAlerts
import Mathlib.Data.List.TakeWhile

/-!
# Delivery through fallback

A notification is delivered if one of the channels that are tried accepts it. For each target that
fails one further channel is tried, whose own failure is not followed up: where many channels fail,
those that are registered last are not tried, and may be the only ones that accept.
-/

namespace IgTradingBot

namespace NotificationRecord

variable {V : Type}

/-- The statuses of a record are the one that was set last and earlier ones. -/
theorem mem_set_status {record : NotificationRecord V} {status other : ChannelDeliveryStatus}
    (member : other ∈ (record.setStatus status).channelStatuses) :
    other = status ∨ other ∈ record.channelStatuses := by
  unfold setStatus at member
  split_ifs at member with known
  · obtain ⟨earlier, isEarlier, same⟩ := List.mem_map.mp member
    split_ifs at same
    · exact .inl same.symm
    · exact .inr (same ▸ isEarlier)
  · rcases List.mem_append.mp member with isEarlier | last
    · exact .inr isEarlier
    · exact .inl (List.mem_singleton.mp last)

end NotificationRecord

namespace NotificationService

variable {V : Type}

/-- The channels that can take the place of targets that fail: those that are not targets, in front
of one without a name. -/
def fallbacks (service : NotificationService V) (targets : List String) : List String :=
  (service.untargeted targets).takeWhile (· ≠ "")

/-- The channels within reach of a notification: its targets, and one fallback for each of them. -/
def withinReach (service : NotificationService V) (targets : List String) : List String :=
  targets ++ (service.fallbacks targets).take targets.length

/-- Each delivery of the loop over the targets succeeds exactly if the channel it is made to accepts
messages. -/
def AnsweredBy (service : NotificationService V) (targets : List String) (message : String)
    (answers : ℕ → Bool → ℕ → SendAnswer) (accepts : String → Prop) :
    ℕ → List String → NotificationRecord V → List SentMessage → Prop
  | _, [], _, _ => True
  | position, channelName :: rest, record, sent =>
    let tried := (service.deliver (answers position false) channelName message record sent).2.1
    let passed := service.passTarget targets message (answers position false)
      (answers position true) channelName record sent
    (¬service.Fails (answers position false) ↔ accepts channelName) ∧
      (service.Fails (answers position false) →
        ∀ fallback ∈ service.getFallbackChannel channelName targets tried, fallback ≠ "" →
          (¬service.Fails (answers position true) ↔ accepts fallback)) ∧
      AnsweredBy service targets message answers accepts (position + 1) rest passed.1 passed.2

instance decidableAnsweredBy (service : NotificationService V) (targets : List String)
    (message : String) (answers : ℕ → Bool → ℕ → SendAnswer) (accepts : String → Prop)
    [DecidablePred accepts] : ∀ (position : ℕ) (remaining : List String)
      (record : NotificationRecord V) (sent : List SentMessage),
      Decidable (service.AnsweredBy targets message answers accepts position remaining record sent)
  | _, [], _, _ => inferInstanceAs (Decidable True)
  | position, channelName :: rest, record, sent =>
    let passed := service.passTarget targets message (answers position false)
      (answers position true) channelName record sent
    have := decidableAnsweredBy service targets message answers accepts (position + 1) rest
      passed.1 passed.2
    inferInstanceAs (Decidable (_ ∧ (_ → ∀ fallback ∈ _, _) ∧ _))

/-- The statuses of a record tell which of its channels accept messages. -/
def Tells (accepts : String → Prop) (record : NotificationRecord V) : Prop :=
  ∀ status ∈ record.channelStatuses, status.status = .delivered ↔ accepts status.channelName

section Deliveries

variable {service : NotificationService V} {accepts : String → Prop}
  {channelName message : String} {record : NotificationRecord V} {sent : List SentMessage}

/-- The status of a delivery says whether it succeeds. -/
theorem attempt_loop_status (answers : ℕ → SendAnswer) (message : String) (remaining : ℕ)
    (status : ChannelDeliveryStatus) (sent : List SentMessage) :
    let result := attemptLoop answers message remaining status sent
    result.2.1.status = .delivered ↔ result.1 = true := by
  induction remaining generalizing status sent with
  | zero => simp [attemptLoop]
  | succ remaining inductionHypothesis =>
    by_cases answer : answers status.attempts = .delivered
    · simp [attemptLoop, answer]
    · obtain ⟨tried, -, -, retried⟩ := attempt_loop_retry message remaining sent answer
      rw [← retried]
      exact inductionHypothesis tried _

/-- A delivery that succeeds exactly if the channel accepts messages is entered so. -/
theorem Tells.deliver (tells : Tells accepts record) (answers : ℕ → SendAnswer)
    (registered : channelName ∈ service.channelOrder)
    (answered : ¬service.Fails answers ↔ accepts channelName) :
    Tells accepts (service.deliver answers channelName message record sent).2.1 := by
  have delivered := (deliver_spec service answers registered message record sent).1
  have named := (attempt_loop_spec answers message service.retryConfig.maxRetries.toNat
    { channelName } sent).2.1
  have reported := attempt_loop_status answers message service.retryConfig.maxRetries.toNat
    { channelName } sent
  simp only [NotificationService.deliver, attemptDeliveryWithRetry, if_pos registered] at delivered ⊢
  intro status member
  rcases NotificationRecord.mem_set_status member with rfl | earlier
  · rw [named]
    exact reported.trans (delivered.trans answered)
  · exact tells status earlier

/-- A record that tells which channels accept is delivered exactly if one of its channels does. -/
theorem Tells.delivered_iff (tells : Tells accepts record) :
    record.isFullyDelivered = true ↔ ∃ name ∈ record.channelNames, accepts name := by
  unfold NotificationRecord.isFullyDelivered NotificationRecord.channelNames
  rw [List.any_eq_true]
  constructor
  · rintro ⟨status, member, delivered⟩
    exact ⟨status.channelName, List.mem_map_of_mem member,
      (tells status member).mp (of_decide_eq_true delivered)⟩
  · rintro ⟨name, named, accepted⟩
    obtain ⟨status, member, rfl⟩ := List.mem_map.mp named
    exact ⟨status, member, decide_eq_true ((tells status member).mpr accepted)⟩

end Deliveries

section Targets

variable {service : NotificationService V} {targets processed : List String}
  {accepts : String → Prop} {channelName message : String} {record : NotificationRecord V}
  {sent : List SentMessage}

/-- The channels that were tried for some of the targets: these targets, and, if none of them
accepts, one fallback for each of them. -/
structure Tried (service : NotificationService V) (targets : List String) (accepts : String → Prop)
    (processed : List String) (record : NotificationRecord V) : Prop where
  within : processed ⊆ targets
  tells : Tells accepts record
  targeted : processed ⊆ record.channelNames
  recorded : (∀ name ∈ processed, ¬accepts name) → ∀ name, name ∈ record.channelNames ↔
    name ∈ processed ∨ name ∈ (service.fallbacks targets).take processed.length

/-- A channel that can take the place of a target has a name. -/
theorem fallback_named (member : channelName ∈ service.fallbacks targets) : channelName ≠ "" := by
  have named := List.mem_takeWhile_imp member
  exact of_decide_eq_true named

/-- The next fallback is the next of the channels with a name, and behind the last of them there is
none, or one without a name. -/
theorem fallback_after {count : ℕ} (within : processed ⊆ targets)
    (recorded : ∀ name, name ∈ record.channelNames ↔
      name ∈ processed ∨ name ∈ (service.fallbacks targets).take count)
    (isTarget : channelName ∈ targets) :
    (∃ fallback, service.getFallbackChannel channelName targets record = some fallback ∧
        fallback ≠ "" ∧ (service.fallbacks targets)[count]? = some fallback) ∨
      ((∀ fallback, service.getFallbackChannel channelName targets record = some fallback →
        fallback = "") ∧ (service.fallbacks targets).length ≤ count) := by
  have parts : service.fallbacks targets ++ (service.untargeted targets).dropWhile (· ≠ "") =
      service.untargeted targets := List.takeWhile_append_dropWhile
  have first : (service.fallbacks targets).take count =
      (service.untargeted targets).take (min count (service.fallbacks targets).length) := by
    rw [← parts, List.take_append_of_le_length (min_le_right _ _), ← List.take_take,
      List.take_length]
  rw [first] at recorded
  rw [fallback_of_recorded within recorded isTarget]
  by_cases short : count < (service.fallbacks targets).length
  · left
    have next : (service.untargeted targets)[count]? = (service.fallbacks targets)[count]? := by
      rw [← parts, List.getElem?_append_left short]
    refine ⟨(service.fallbacks targets)[count], ?_, fallback_named (List.getElem_mem short),
      List.getElem?_eq_getElem short⟩
    rw [min_eq_left short.le, next, List.getElem?_eq_getElem short]
  · right
    rw [not_lt] at short
    refine ⟨fun fallback found => ?_, short⟩
    have unnamed := List.head?_dropWhile_not (fun name : String => decide (name ≠ ""))
      (service.untargeted targets)
    rw [min_eq_right short, ← parts, List.getElem?_append_right le_rfl, Nat.sub_self,
      ← List.head?_eq_getElem?] at found
    rw [found] at unnamed
    simpa using unnamed

section Passes

variable (answers fallbackAnswers : ℕ → SendAnswer)

/-- A delivery that succeeds is all that is done for its target. -/
theorem pass_target_delivered (registered : channelName ∈ service.channelOrder)
    (succeeds : ¬service.Fails answers) :
    (service.passTarget targets message answers fallbackAnswers channelName record sent).1 =
      (service.deliver answers channelName message record sent).2.1 := by
  have delivered := (deliver_spec service answers registered message record sent).1.mpr succeeds
  simp only [passTarget, delivered, if_true]

/-- A delivery that fails is all that is done for its target, where no channel with a name is
left. -/
theorem pass_target_alone (registered : channelName ∈ service.channelOrder)
    (fails : service.Fails answers)
    (none : ∀ fallback, service.getFallbackChannel channelName targets
      (service.deliver answers channelName message record sent).2.1 = some fallback →
        fallback = "") :
    (service.passTarget targets message answers fallbackAnswers channelName record sent).1 =
      (service.deliver answers channelName message record sent).2.1 := by
  have undelivered := mt (deliver_spec service answers registered message record sent).1.mp
    (not_not.mpr fails)
  simp only [passTarget, if_neg undelivered]
  cases next : service.getFallbackChannel channelName targets
      (service.deliver answers channelName message record sent).2.1 with
  | none => rfl
  | some fallback => simp only [if_pos (none fallback next)]

/-- A delivery that fails is followed by one to a channel with a name. -/
theorem pass_target_fallback {fallback : String} (registered : channelName ∈ service.channelOrder)
    (fails : service.Fails answers)
    (next : service.getFallbackChannel channelName targets
      (service.deliver answers channelName message record sent).2.1 = some fallback)
    (named : fallback ≠ "") :
    (service.passTarget targets message answers fallbackAnswers channelName record sent).1 =
      (service.deliver fallbackAnswers fallback message
        (service.deliver answers channelName message record sent).2.1
        (service.deliver answers channelName message record sent).2.2).2.1 := by
  have undelivered := mt (deliver_spec service answers registered message record sent).1.mp
    (not_not.mpr fails)
  simp only [passTarget, if_neg undelivered, next, if_neg named]

end Passes

/-- What is known after the delivery to a target, when its fallback is still to come. -/
structure Pending (service : NotificationService V) (targets : List String)
    (accepts : String → Prop) (processed : List String) (channelName : String)
    (record : NotificationRecord V) : Prop where
  isTarget : channelName ∈ targets
  within : processed ++ [channelName] ⊆ targets
  tells : Tells accepts record
  targeted : processed ++ [channelName] ⊆ record.channelNames
  recorded : (∀ name ∈ processed ++ [channelName], ¬accepts name) →
    ∀ name, name ∈ record.channelNames ↔ name ∈ processed ++ [channelName] ∨
      name ∈ (service.fallbacks targets).take processed.length

/-- A delivery to a target. -/
theorem Tried.deliver (tried : Tried service targets accepts processed record)
    (registered : targets ⊆ service.channelOrder) (isTarget : channelName ∈ targets)
    (answers : ℕ → SendAnswer) (answered : ¬service.Fails answers ↔ accepts channelName)
    (message : String) (sent : List SentMessage) :
    Pending service targets accepts processed channelName
      (service.deliver answers channelName message record sent).2.1 := by
  have names := (deliver_spec service answers (registered isTarget) message record sent).2.1
  refine ⟨isTarget, List.append_subset.mpr ⟨tried.within, by simpa using isTarget⟩,
    tried.tells.deliver answers (registered isTarget) answered, ?_, ?_⟩
  · intro name member
    rw [names]
    rcases List.mem_append.mp member with earlier | last
    · exact .inl (tried.targeted earlier)
    · exact .inr (List.mem_singleton.mp last)
  · intro refused name
    have earlier : ∀ name ∈ processed, ¬accepts name :=
      fun name member => refused name (List.mem_append_left _ member)
    rw [names, tried.recorded earlier, List.mem_append, List.mem_singleton, or_right_comm]

/-- A target that accepts settles the notification. -/
theorem Pending.settled (pending : Pending service targets accepts processed channelName record)
    (accepted : accepts channelName) :
    Tried service targets accepts (processed ++ [channelName]) record where
  within := pending.within
  tells := pending.tells
  targeted := pending.targeted
  recorded refused := absurd accepted (refused channelName (by simp))

/-- Where no channel with a name is left, nothing is tried in place of a target. -/
theorem Pending.alone (pending : Pending service targets accepts processed channelName record)
    (none : ∀ fallback, service.getFallbackChannel channelName targets record = some fallback →
      fallback = "") :
    Tried service targets accepts (processed ++ [channelName]) record where
  within := pending.within
  tells := pending.tells
  targeted := pending.targeted
  recorded := by
    intro refused name
    have known := pending.recorded refused
    rcases fallback_after pending.within known pending.isTarget with
      ⟨other, next, named, -⟩ | ⟨-, enough⟩
    · exact absurd (none other next) named
    · rw [known, List.length_append, List.take_of_length_le enough,
        List.take_of_length_le (Nat.le_add_right_of_le enough)]

/-- A delivery to the channel that takes the place of a target. -/
theorem Pending.fallBack (pending : Pending service targets accepts processed channelName record)
    {fallback : String} (answers : ℕ → SendAnswer) (message : String) (sent : List SentMessage)
    (next : service.getFallbackChannel channelName targets record = some fallback)
    (named : fallback ≠ "") (answered : ¬service.Fails answers ↔ accepts fallback) :
    Tried service targets accepts (processed ++ [channelName])
      (service.deliver answers fallback message record sent).2.1 := by
  have registered : fallback ∈ service.channelOrder := List.mem_of_find?_eq_some next
  have names := (deliver_spec service answers registered message record sent).2.1
  refine ⟨pending.within, pending.tells.deliver answers registered answered,
    fun name member => (names name).mpr (.inl (pending.targeted member)), fun refused name => ?_⟩
  have known := pending.recorded refused
  rcases fallback_after pending.within known pending.isTarget with
    ⟨other, sameNext, -, place⟩ | ⟨unnamed, -⟩
  · obtain rfl : fallback = other := Option.some.inj (next.symm.trans sameNext)
    have taken : (service.fallbacks targets).take (processed ++ [channelName]).length =
        (service.fallbacks targets).take processed.length ++ [fallback] := by
      rw [List.length_append, List.length_singleton, List.take_add_one, place, Option.toList_some]
    rw [names, known, taken, or_assoc]
    exact or_congr_right (by simp)
  · exact absurd (unnamed fallback next) named

/-- One pass of the loop: a delivery to a target, and one to its fallback if it fails. -/
theorem Tried.pass (tried : Tried service targets accepts processed record)
    (registered : targets ⊆ service.channelOrder) (isTarget : channelName ∈ targets)
    (answers fallbackAnswers : ℕ → SendAnswer)
    (answered : ¬service.Fails answers ↔ accepts channelName)
    (fallbackAnswered : service.Fails answers →
      ∀ fallback ∈ service.getFallbackChannel channelName targets
        (service.deliver answers channelName message record sent).2.1, fallback ≠ "" →
          (¬service.Fails fallbackAnswers ↔ accepts fallback)) :
    Tried service targets accepts (processed ++ [channelName])
      (service.passTarget targets message answers fallbackAnswers channelName record sent).1 := by
  have pending := tried.deliver registered isTarget answers answered message sent
  by_cases fails : service.Fails answers
  · by_cases follows : ∃ fallback, service.getFallbackChannel channelName targets
        (service.deliver answers channelName message record sent).2.1 = some fallback ∧
          fallback ≠ ""
    · obtain ⟨fallback, next, named⟩ := follows
      rw [pass_target_fallback answers fallbackAnswers (registered isTarget) fails next named]
      exact pending.fallBack fallbackAnswers message _ next named
        (fallbackAnswered fails fallback next named)
    · have alone : ∀ fallback, service.getFallbackChannel channelName targets
          (service.deliver answers channelName message record sent).2.1 = some fallback →
            fallback = "" := by
        intro fallback next
        by_contra named
        exact follows ⟨fallback, next, named⟩
      rw [pass_target_alone answers fallbackAnswers (registered isTarget) fails alone]
      exact pending.alone alone
  · rw [pass_target_delivered answers fallbackAnswers (registered isTarget) fails]
    exact pending.settled (answered.mp fails)

/-- The loop over the targets. The induction is on those that remain. -/
theorem Tried.passes (tried : Tried service targets accepts processed record)
    (registered : targets ⊆ service.channelOrder) (message : String)
    (answers : ℕ → Bool → ℕ → SendAnswer) {remaining : List String} (position : ℕ)
    (areTargets : remaining ⊆ targets)
    (answered : service.AnsweredBy targets message answers accepts position remaining record sent) :
    Tried service targets accepts (processed ++ remaining)
      (service.passTargets targets message answers position remaining record sent).1 := by
  induction remaining generalizing position processed record sent with
  | nil =>
    rw [List.append_nil]
    exact tried
  | cons channelName rest inductionHypothesis =>
    obtain ⟨byTarget, byFallback, later⟩ := answered
    have passed := tried.pass registered (areTargets List.mem_cons_self) (answers position false)
      (answers position true) byTarget byFallback
    rw [List.append_cons]
    exact inductionHypothesis passed (position + 1)
      (fun name member => areTargets (List.mem_cons_of_mem _ member)) later

/-- After the loop over all targets, the notification is delivered exactly if a channel within reach
accepts messages. -/
theorem pass_targets_delivered_iff (registered : targets ⊆ service.channelOrder) (message : String)
    (answers : ℕ → Bool → ℕ → SendAnswer) (new : record.channelStatuses = [])
    (answered : service.AnsweredBy targets message answers accepts 0 targets record []) :
    (service.passTargets targets message answers 0 targets record []).1.isFullyDelivered = true ↔
      ∃ name ∈ service.withinReach targets, accepts name := by
  have start : Tried service targets accepts [] record :=
    { within := List.nil_subset _
      tells := by simp [Tells, new]
      targeted := List.nil_subset _
      recorded := by simp [NotificationRecord.channelNames, new] }
  have finished := start.passes registered message answers 0 (List.Subset.refl targets) answered
  rw [List.nil_append] at finished
  rw [finished.tells.delivered_iff]
  by_cases settled : ∃ name ∈ targets, accepts name
  · obtain ⟨name, isTarget, accepted⟩ := settled
    exact iff_of_true ⟨name, finished.targeted isTarget, accepted⟩
      ⟨name, List.mem_append_left _ isTarget, accepted⟩
  · have refused : ∀ name ∈ targets, ¬accepts name :=
      fun name isTarget accepted => settled ⟨name, isTarget, accepted⟩
    refine exists_congr fun name => and_congr_left fun _ => ?_
    rw [finished.recorded refused, withinReach, List.mem_append]

end Targets

section Notifications

variable (values : PayloadValues V) (service : NotificationService V)
  (answers : ℕ → Bool → ℕ → SendAnswer) (id : String) (type : NotificationType)
  (payload : List (String × V)) (priority : Priority) (accepts : String → Prop)

/-- Each delivery of a notification succeeds exactly if the channel it is made to accepts
messages. -/
def SentThrough : Prop :=
  service.AnsweredBy (service.getChannelsForNotification type priority)
    (formatMessage values payload type) answers accepts 0
    (service.getChannelsForNotification type priority)
    { id, notificationType := type, priority, payload } []

instance [DecidablePred accepts] :
    Decidable (SentThrough values service answers id type payload priority accepts) :=
  decidableAnsweredBy ..

/-- A notification is delivered on some channel exactly if a channel within its reach accepts
messages: a target, or one of as many fallbacks as there are targets. -/
theorem delivered_on_some_channel_iff
    (answered : SentThrough values service answers id type payload priority accepts) :
    (sendInternal values service answers id type payload priority).2.1.isFullyDelivered = true ↔
      ∃ name ∈ service.withinReach (service.getChannelsForNotification type priority),
        accepts name := by
  have registered := service.get_channels_registered type priority
  have delivered := pass_targets_delivered_iff registered _ answers rfl answered
  rw [← delivered]
  simp only [sendInternal]
  split_ifs with none
  · rw [none]
    rfl
  · rfl

end Notifications

/-- The second of three channels takes the place of the first one. -/
theorem second_channel_is_delivered :
    (sendInternal textValues (create ["telegram", "discord", "email"])
      (fun _ isFallback _ => if isFallback then .delivered else .refused) "1" .riskAlert [] .normal
        ).2.1.isFullyDelivered = true :=
  (delivered_on_some_channel_iff textValues (create ["telegram", "discord", "email"])
    (fun _ isFallback _ => if isFallback then .delivered else .refused) "1" .riskAlert [] .normal
    (· = "discord") (by decide +kernel)).mpr ⟨"discord", by decide +kernel, rfl⟩

/-- The third of three channels is not tried where the first two refuse. -/
theorem third_channel_is_not_tried :
    ¬∀ (V : Type) (values : PayloadValues V) (service : NotificationService V)
      (answers : ℕ → Bool → ℕ → SendAnswer) (id : String) (type : NotificationType)
      (payload : List (String × V)) (priority : Priority) (accepts : String → Prop),
      SentThrough values service answers id type payload priority accepts →
      (∃ name ∈ service.channelOrder, accepts name) →
      service.getChannelsForNotification type priority ≠ [] →
        (sendInternal values service answers id type payload priority).2.1.isFullyDelivered =
          true := by
  intro claim
  have delivered := claim String textValues (create ["telegram", "discord", "email"])
    (fun _ _ _ => .refused) "1" .riskAlert [] .normal (· = "email") (by decide +kernel)
    ⟨"email", by decide +kernel, rfl⟩ (by decide +kernel)
  revert delivered
  decide +kernel

end NotificationService

end IgTradingBot
