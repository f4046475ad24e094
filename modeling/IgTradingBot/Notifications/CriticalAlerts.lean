import IgTradingBot.Library.Retries
import IgTradingBot.Notifications.NotificationService
import Mathlib.Data.List.Find

/-!
# Critical alerts

Which channels an alert reaches that was requested with critical priority. Calls of the old style,
and the helpers that make them, are routed with high priority, whatever they request: the channels
outside that route are tried only in place of those that fail.
-/

namespace IgTradingBot

/-- A call of the notification service. -/
inductive AlertRequest (V : Type) where
  | send (messageOrType : MessageOrType) (payloadOrType : PayloadOrType V) (priority : Priority)
      (notificationType : Option NotificationType)
  | alert (message level : String)
  | toAllChannels (inTime : Bool) (message : String)
  | trade (elapsed : ℕ → ℚ) (answered : ℕ → Option SendAnswer) (closed : Bool) (message : String)
  | killSwitch (inTime : Bool) (message : String)
  | hftCircuitBreaker (message : String)
  | hftModeDisabled (message : String)
  | crisisAlert (message : String)

namespace AlertRequest

variable {V : Type}

/-- The priority that a call requests. To hand a message to all channels is to request the
highest. -/
def priority : AlertRequest V → Option Priority
  | send _ _ priority _ => some priority
  | alert _ level => some (if level = "critical" then .critical else .normal)
  | toAllChannels _ _ => some .critical
  | trade _ _ _ _ => none
  | killSwitch _ _ => some .critical
  | hftCircuitBreaker _ => some .high
  | hftModeDisabled _ => some .critical
  | crisisAlert _ => some .high

/-- Whether a call hands its message to all channels at once. -/
def AtOnce : AlertRequest V → Prop
  | toAllChannels _ _ => True
  | killSwitch _ _ => True
  | _ => False

/-- The type of a call of the old style. -/
def oldStyle : AlertRequest V → Option NotificationType
  | send _ _ _ (some type) => some type
  | send _ (.notificationType type) _ none => some type
  | hftCircuitBreaker _ => some .hftCircuitBreaker
  | hftModeDisabled _ => some .hftModeDisabled
  | crisisAlert _ => some .crisisAlert
  | _ => none

end AlertRequest

namespace NotificationRecord

variable {V : Type}

/-- A status that is set adds its channel to those that have one. -/
theorem set_status_names (record : NotificationRecord V) (status : ChannelDeliveryStatus)
    (name : String) :
    name ∈ (record.setStatus status).channelNames ↔
      name ∈ record.channelNames ∨ name = status.channelName := by
  by_cases known : status.channelName ∈ record.channelNames
  · have keeps : (ChannelDeliveryStatus.channelName ∘ fun other : ChannelDeliveryStatus =>
        if other.channelName = status.channelName then status else other) =
        ChannelDeliveryStatus.channelName := by
      funext other
      simp only [Function.comp_apply]
      split_ifs with same
      · exact same.symm
      · rfl
    have same : (record.setStatus status).channelNames = record.channelNames := by
      simp only [setStatus, if_pos known]
      exact (List.map_map ..).trans (congrArg (List.map · record.channelStatuses) keeps)
    rw [same]
    exact (or_iff_left_of_imp fun named => named ▸ known).symm
  · have joined : (record.setStatus status).channelNames =
        record.channelNames ++ [status.channelName] := by
      simp only [setStatus, if_neg known]
      exact List.map_append
    rw [joined, List.mem_append, List.mem_singleton]

end NotificationRecord

namespace NotificationService

variable {V : Type}

/-- Every registered channel was handed the message. -/
def ReachesEvery (service : NotificationService V) (sent : List SentMessage) : Prop :=
  ∀ name ∈ service.channelOrder, name ∈ sent.map SentMessage.channelName

/-- The registered channels that are not targets. -/
def untargeted (service : NotificationService V) (targets : List String) : List String :=
  service.channelOrder.filter (· ∉ targets)

/-- No attempt of a delivery succeeds. -/
def Fails (service : NotificationService V) (answers : ℕ → SendAnswer) : Prop :=
  ∀ attempt < service.retryConfig.maxRetries.toNat, answers attempt ≠ .delivered

instance (service : NotificationService V) (answers : ℕ → SendAnswer) :
    Decidable (service.Fails answers) :=
  inferInstanceAs (Decidable (∀ attempt < _, _))

/-- How many of the deliveries to targets fail, from a position on. -/
def failures (service : NotificationService V) (answers : ℕ → Bool → ℕ → SendAnswer)
    (position : ℕ) (targets : List String) : ℕ :=
  (List.range' position targets.length).countP fun position =>
    service.Fails (answers position false)

/-- The channels that an old-style call of a type does not target can all take the place of one that
fails. -/
def CoversUntargeted (service : NotificationService V) (answers : ℕ → Bool → ℕ → SendAnswer)
    (type : NotificationType) : Prop :=
  let targets := service.getChannelsForNotification type .high
  "" ∉ service.untargeted targets ∧
    (service.untargeted targets).length ≤ service.failures answers 0 targets

instance (service : NotificationService V) (answers : ℕ → Bool → ℕ → SendAnswer)
    (type : NotificationType) : Decidable (service.CoversUntargeted answers type) :=
  inferInstanceAs (Decidable (_ ∧ _))

/-- What a call hands to channels. -/
def sentBy (values : PayloadValues V) (service : NotificationService V)
    (answers : ℕ → Bool → ℕ → SendAnswer) (id : String) : AlertRequest V → List SentMessage
  | .send messageOrType payloadOrType priority notificationType =>
    (send values service answers id messageOrType payloadOrType priority notificationType).2.2
  | .alert message level => (sendAlert values service answers id message level).2.2
  | .toAllChannels inTime message => (sendToAllChannels service answers inTime message).2
  | .trade elapsed answered closed message =>
    (sendTradeNotification service elapsed answered closed message).2
  | .killSwitch inTime message => (sendKillSwitchNotification service answers inTime message).2
  | .hftCircuitBreaker message =>
    (sendHftCircuitBreakerNotification values service answers id message).2.2
  | .hftModeDisabled message =>
    (sendHftModeDisabledNotification values service answers id message).2.2
  | .crisisAlert message => (sendCrisisAlertNotification values service answers id message).2.2

section Deliveries

variable {service : NotificationService V} {answers : ℕ → SendAnswer} {message channelName : String}

/-- An attempt that is not delivered is followed by the remaining ones. -/
theorem attempt_loop_retry (message : String) (remaining : ℕ) {status : ChannelDeliveryStatus}
    (sent : List SentMessage) (undelivered : answers status.attempts ≠ .delivered) :
    ∃ tried : ChannelDeliveryStatus,
      tried.attempts = status.attempts + 1 ∧ tried.channelName = status.channelName ∧
        attemptLoop answers message remaining tried (sent ++ [⟨status.channelName, message⟩]) =
          attemptLoop answers message (remaining + 1) status sent := by
  simp only [attemptLoop]
  cases answer : answers status.attempts with
  | delivered => exact absurd answer undelivered
  | refused => exact ⟨{ status with
      attempts := _
      status := if 0 < status.attempts then .retrying else .pending }, rfl, rfl, rfl⟩
  | raised error => exact ⟨{ status with
      attempts := _
      status := if 0 < status.attempts then .retrying else .pending
      error := some error }, rfl, rfl, rfl⟩

/-- What the attempts of a delivery do: they succeed if one of them does, the status stays that of
the channel, and the channel is handed the message if there is any attempt. -/
theorem attempt_loop_spec (answers : ℕ → SendAnswer) (message : String) (remaining : ℕ)
    (status : ChannelDeliveryStatus) (sent : List SentMessage) :
    let result := attemptLoop answers message remaining status sent
    (result.1 = true ↔ ∃ attempt, status.attempts ≤ attempt ∧
      attempt < status.attempts + remaining ∧ answers attempt = .delivered) ∧
    result.2.1.channelName = status.channelName ∧
    ∀ name, name ∈ result.2.2.map SentMessage.channelName ↔
      name ∈ sent.map SentMessage.channelName ∨ 0 < remaining ∧ name = status.channelName := by
  induction remaining generalizing status sent with
  | zero =>
    refine ⟨iff_of_false Bool.false_ne_true ?_, rfl, fun name => by simp [attemptLoop]⟩
    rintro ⟨attempt, after, before, -⟩
    omega
  | succ remaining inductionHypothesis =>
    by_cases answer : answers status.attempts = .delivered
    · simp only [attemptLoop, answer]
      refine ⟨iff_of_true trivial ⟨status.attempts, le_refl _, by omega, answer⟩, trivial,
        fun name => ?_⟩
      rw [List.map_append, List.mem_append]
      exact or_congr_right (by simp)
    · obtain ⟨tried, next, sameChannel, retried⟩ :=
        attempt_loop_retry message remaining sent answer
      obtain ⟨delivered, sameName, names⟩ :=
        inductionHypothesis tried (sent ++ [⟨status.channelName, message⟩])
      rw [← retried]
      refine ⟨?_, sameName.trans sameChannel, fun name => (names name).trans ?_⟩
      · rw [delivered, next, Retries.exists_among_succ, or_iff_right answer]
      · rw [sameChannel, List.map_append, List.mem_append, or_assoc]
        refine or_congr_right ⟨?_, fun named => Or.inl (List.mem_singleton.mpr named.2)⟩
        rintro (last | ⟨-, named⟩)
        · exact ⟨Nat.succ_pos _, List.mem_singleton.mp last⟩
        · exact ⟨Nat.succ_pos _, named⟩

/-- What a delivery to a registered channel does. -/
theorem deliver_spec (service : NotificationService V) (answers : ℕ → SendAnswer)
    (registered : channelName ∈ service.channelOrder) (message : String)
    (record : NotificationRecord V) (sent : List SentMessage) :
    let result := service.deliver answers channelName message record sent
    (result.1 = true ↔ ¬service.Fails answers) ∧
    (∀ name, name ∈ result.2.1.channelNames ↔ name ∈ record.channelNames ∨ name = channelName) ∧
    ∀ name, name ∈ result.2.2.map SentMessage.channelName ↔ name ∈ sent.map SentMessage.channelName ∨
      0 < service.retryConfig.maxRetries.toNat ∧ name = channelName := by
  obtain ⟨delivered, sameName, names⟩ := attempt_loop_spec answers message
    service.retryConfig.maxRetries.toNat { channelName } sent
  simp only [deliver, attemptDeliveryWithRetry, if_pos registered]
  refine ⟨delivered.trans ?_, fun name => ?_, names⟩
  · unfold Fails
    push Not
    exact exists_congr fun attempt => by simp
  · rw [NotificationRecord.set_status_names, sameName]

end Deliveries

section Targets

variable {service : NotificationService V} {targets : List String} {message channelName : String}
  {record : NotificationRecord V} {sent : List SentMessage}

/-- In a list without repetitions, the first item after its first ones is the next. -/
theorem find_not_mem_take {items : List String} (unique : items.Nodup) (count : ℕ) :
    items.find? (· ∉ items.take count) = items[count]? := by
  have parts := List.take_append_drop count items
  have apart : ∀ item ∈ items.drop count, item ∉ items.take count := by
    intro item later earlier
    rw [← parts] at unique
    exact (List.nodup_append.mp unique).2.2 item earlier item later rfl
  have none : (items.take count).find? (· ∉ items.take count) = none := by
    simp
  calc items.find? (· ∉ items.take count)
      = (items.take count ++ items.drop count).find? (· ∉ items.take count) := by rw [parts]
    _ = (items.drop count).find? (· ∉ items.take count) := by
        rw [List.find?_append, none, Option.none_or]
    _ = (items.drop count).head? := by
        cases rest : items.drop count with
        | nil => rfl
        | cons item later =>
          have new := apart item (rest ▸ List.mem_cons_self)
          rw [List.find?_cons_of_pos (by simpa using new), List.head?_cons]
    _ = items[count]? := List.head?_drop

/-- Deliveries were made to some targets and to the first untargeted channels: these have a status,
and were handed the message. -/
structure Progress (service : NotificationService V) (targets processed : List String) (fallbacks : ℕ)
    (record : NotificationRecord V) (sent : List SentMessage) : Prop where
  within : processed ⊆ targets
  recorded : ∀ name, name ∈ record.channelNames ↔
    name ∈ processed ∨ name ∈ (service.untargeted targets).take fallbacks
  handed : ∀ name, name ∈ sent.map SentMessage.channelName ↔
    name ∈ processed ∨ name ∈ (service.untargeted targets).take fallbacks

/-- Where some targets and the first untargeted channels have a status, the fallback for a target is
the next untargeted channel. -/
theorem fallback_of_recorded {processed : List String} {fallbacks : ℕ} (within : processed ⊆ targets)
    (recorded : ∀ name, name ∈ record.channelNames ↔
      name ∈ processed ∨ name ∈ (service.untargeted targets).take fallbacks)
    (isTarget : channelName ∈ targets) :
    service.getFallbackChannel channelName targets record =
      (service.untargeted targets)[fallbacks]? := by
  have unique : (service.untargeted targets).Nodup := service.unique.filter _
  rw [← find_not_mem_take unique, untargeted, List.find?_filter]
  unfold getFallbackChannel
  refine List.find?_congr fun name _ => ?_
  by_cases targeted : name ∈ targets
  · simp [targeted]
  · have unprocessed : name ∉ processed := fun done => targeted (within done)
    have different : name ≠ channelName := fun same => targeted (same ▸ isTarget)
    have known := recorded name
    simp only [unprocessed, false_or, untargeted] at known
    simp [targeted, different, known]

/-- The fallback for a target is the next untargeted channel. -/
theorem Progress.fallback {processed : List String} {fallbacks : ℕ}
    (progress : Progress service targets processed fallbacks record sent)
    (isTarget : channelName ∈ targets) :
    service.getFallbackChannel channelName targets record =
      (service.untargeted targets)[fallbacks]? :=
  fallback_of_recorded progress.within progress.recorded isTarget

/-- A delivery to a target. -/
theorem Progress.deliver {processed : List String} {fallbacks : ℕ}
    (progress : Progress service targets processed fallbacks record sent) (message : String)
    (attempts : 0 < service.retryConfig.maxRetries.toNat)
    (registered : targets ⊆ service.channelOrder)
    (isTarget : channelName ∈ targets) (answers : ℕ → SendAnswer) :
    let result := service.deliver answers channelName message record sent
    Progress service targets (processed ++ [channelName]) fallbacks result.2.1 result.2.2 := by
  obtain ⟨-, names, handed⟩ :=
    deliver_spec service answers (registered isTarget) message record sent
  refine ⟨List.append_subset.mpr ⟨progress.within, by simpa using isTarget⟩, fun name => ?_,
    fun name => ?_⟩
  · rw [names, progress.recorded, List.mem_append, List.mem_singleton, or_right_comm]
  · rw [handed, progress.handed, List.mem_append, List.mem_singleton, or_right_comm,
      and_iff_right attempts]

/-- A delivery to the next untargeted channel. -/
theorem Progress.deliver_fallback {processed : List String} {fallbacks : ℕ}
    (progress : Progress service targets processed fallbacks record sent)
    (attempts : 0 < service.retryConfig.maxRetries.toNat)
    (next : (service.untargeted targets)[fallbacks]? = some channelName) (answers : ℕ → SendAnswer) :
    let result := service.deliver answers channelName message record sent
    Progress service targets processed (fallbacks + 1) result.2.1 result.2.2 := by
  have registered : channelName ∈ service.channelOrder :=
    List.mem_of_mem_filter (List.mem_of_getElem? next)
  have longer : (service.untargeted targets).take (fallbacks + 1) =
      (service.untargeted targets).take fallbacks ++ [channelName] := by
    rw [List.take_add_one, next, Option.toList_some]
  obtain ⟨-, names, handed⟩ := deliver_spec service answers registered message record sent
  refine ⟨progress.within, fun name => ?_, fun name => ?_⟩
  · rw [names, progress.recorded, longer, List.mem_append, List.mem_singleton, or_assoc]
  · rw [handed, progress.handed, longer, List.mem_append, List.mem_singleton, or_assoc,
      and_iff_right attempts]

/-- One pass of the loop. An untargeted channel takes the place of a target that fails. -/
theorem Progress.pass {processed : List String} {fallbacks : ℕ}
    (progress : Progress service targets processed fallbacks record sent) (message : String)
    (attempts : 0 < service.retryConfig.maxRetries.toNat)
    (registered : targets ⊆ service.channelOrder) (named : "" ∉ service.untargeted targets)
    (isTarget : channelName ∈ targets) (answers fallbackAnswers : ℕ → SendAnswer) :
    let result := service.passTarget targets message answers fallbackAnswers channelName record sent
    Progress service targets (processed ++ [channelName])
      (fallbacks + if service.Fails answers then 1 else 0) result.1 result.2 := by
  have delivered := (deliver_spec service answers (registered isTarget) message record sent).1
  have first := progress.deliver message attempts registered isTarget answers
  simp only [passTarget]
  by_cases fails : service.Fails answers
  · rw [if_pos fails, if_neg (fun succeeded => delivered.mp succeeded fails),
      first.fallback isTarget]
    cases next : (service.untargeted targets)[fallbacks]? with
    | none =>
      have all : (service.untargeted targets).take (fallbacks + 1) =
          (service.untargeted targets).take fallbacks := by
        rw [List.take_add_one, next, Option.toList_none, List.append_nil]
      exact ⟨first.within, all ▸ first.recorded, all ▸ first.handed⟩
    | some fallback =>
      have nonempty : fallback ≠ "" := fun empty => named (empty ▸ List.mem_of_getElem? next)
      simp only [if_neg nonempty]
      exact first.deliver_fallback attempts next fallbackAnswers
  · rw [if_neg fails, if_pos (delivered.mpr fails)]
    exact first

/-- The loop over the targets. The induction is on those that remain. -/
theorem Progress.passes {processed : List String} {fallbacks : ℕ} (message : String)
    (attempts : 0 < service.retryConfig.maxRetries.toNat)
    (registered : targets ⊆ service.channelOrder) (named : "" ∉ service.untargeted targets)
    (answers : ℕ → Bool → ℕ → SendAnswer) {remaining : List String} (position : ℕ)
    (areTargets : remaining ⊆ targets)
    (progress : Progress service targets processed fallbacks record sent) :
    let result := service.passTargets targets message answers position remaining record sent
    Progress service targets (processed ++ remaining)
      (fallbacks + service.failures answers position remaining) result.1 result.2 := by
  induction remaining generalizing position processed fallbacks record sent with
  | nil =>
    rw [List.append_nil]
    exact progress
  | cons channelName rest inductionHypothesis =>
    have passed := progress.pass message attempts registered named
      (areTargets List.mem_cons_self) (answers position false) (answers position true)
    have finished := inductionHypothesis (position + 1)
      (fun name member => areTargets (List.mem_cons_of_mem _ member)) passed
    have counted : service.failures answers position (channelName :: rest) =
        (if service.Fails (answers position false) then 1 else 0) +
          service.failures answers (position + 1) rest := by
      simp only [failures, List.length_cons, List.range'_succ, List.countP_cons,
        decide_eq_true_eq]
      rw [Nat.add_comm]
    rw [counted, ← Nat.add_assoc, List.append_cons]
    exact finished

/-- A channel without a name is handed a message only as a target. -/
theorem pass_targets_named (answers : ℕ → Bool → ℕ → SendAnswer) {remaining : List String}
    (registered : remaining ⊆ service.channelOrder) (position : ℕ) (record : NotificationRecord V)
    (unsent : "" ∉ sent.map SentMessage.channelName) (untargeted : "" ∉ remaining) :
    "" ∉ (service.passTargets targets message answers position remaining record sent).2.map
      SentMessage.channelName := by
  induction remaining generalizing position record sent with
  | nil => exact unsent
  | cons channelName rest inductionHypothesis =>
    obtain ⟨notFirst, notLater⟩ := not_or.mp (mt List.mem_cons.mpr untargeted)
    obtain ⟨-, -, handed⟩ := deliver_spec service (answers position false)
      (registered List.mem_cons_self) message record sent
    have stillUnsent : "" ∉ (service.deliver (answers position false) channelName message record
        sent).2.2.map SentMessage.channelName := by
      rw [handed]
      exact not_or.mpr ⟨unsent, fun last => notFirst last.2⟩
    simp only [passTargets]
    refine inductionHypothesis (fun name member => registered (List.mem_cons_of_mem _ member)) _ _
      ?_ notLater
    simp only [passTarget]
    split_ifs with succeeded
    · exact stillUnsent
    · cases next : service.getFallbackChannel channelName targets
          (service.deliver (answers position false) channelName message record sent).2.1 with
      | none => exact stillUnsent
      | some fallback =>
        dsimp only
        split_ifs with empty
        · exact stillUnsent
        · have isRegistered : fallback ∈ service.channelOrder := List.mem_of_find?_eq_some next
          rw [(deliver_spec service (answers position true) isRegistered message _ _).2.2]
          exact not_or.mpr ⟨stillUnsent, fun last => empty last.2.symm⟩

/-- The loop over some registered targets reaches every channel exactly where the untargeted ones
can all take the place of a target that fails. -/
theorem pass_targets_reaches_iff (attempts : 0 < service.retryConfig.maxRetries.toNat)
    (registered : targets ⊆ service.channelOrder) (message : String)
    (answers : ℕ → Bool → ℕ → SendAnswer) (new : record.channelStatuses = []) :
    service.ReachesEvery
        (service.passTargets targets message answers 0 targets record []).2 ↔
      "" ∉ service.untargeted targets ∧
        (service.untargeted targets).length ≤ service.failures answers 0 targets := by
  by_cases named : "" ∈ service.untargeted targets
  · refine iff_of_false (fun reaches => ?_) (fun covers => covers.1 named)
    obtain ⟨isRegistered, notTarget⟩ := List.mem_filter.mp named
    exact pass_targets_named answers registered 0 record List.not_mem_nil
      (of_decide_eq_true notTarget) (reaches "" isRegistered)
  · have start : Progress service targets [] 0 record [] :=
      ⟨List.nil_subset _, by simp [NotificationRecord.channelNames, new], by simp⟩
    have final := Progress.passes message attempts registered named answers 0
      (List.Subset.refl targets) start
    rw [List.nil_append, Nat.zero_add] at final
    have unique : (service.untargeted targets).Nodup := service.unique.filter _
    refine Iff.trans ?_ (and_iff_right named).symm
    constructor
    · intro reaches
      by_contra short
      rw [not_le] at short
      have member := List.getElem_mem short
      obtain ⟨isRegistered, notTarget⟩ := List.mem_filter.mp member
      obtain target | early := (final.handed _).mp (reaches _ isRegistered)
      · exact of_decide_eq_true notTarget target
      · obtain ⟨earlier, before, same⟩ := List.mem_take_iff_getElem.mp early
        have equal := (List.Nodup.getElem_inj_iff unique).mp same
        omega
    · intro enough name isRegistered
      rw [final.handed, List.take_of_length_le enough]
      by_cases isTarget : name ∈ targets
      · exact .inl isTarget
      · exact .inr (List.mem_filter.mpr ⟨isRegistered, decide_eq_true isTarget⟩)

/-- Without attempts no channel is handed anything. -/
theorem pass_targets_without_attempts (none : service.retryConfig.maxRetries.toNat = 0)
    (answers : ℕ → Bool → ℕ → SendAnswer) (remaining : List String) (position : ℕ)
    (record : NotificationRecord V) :
    (service.passTargets targets message answers position remaining record []).2 = [] := by
  have nothing : ∀ (answers : ℕ → SendAnswer) (name : String) (record : NotificationRecord V),
      (service.deliver answers name message record []).2.2 = [] := by
    intro answers name record
    simp only [deliver, attemptDeliveryWithRetry, none]
    split_ifs
    · rfl
    · rfl
  induction remaining generalizing position record with
  | nil => rfl
  | cons channelName rest inductionHypothesis =>
    have passed : (service.passTarget targets message (answers position false)
        (answers position true) channelName record []).2 = [] := by
      simp only [passTarget]
      split_ifs
      · exact nothing _ _ _
      · split
        · exact nothing _ _ _
        · split_ifs
          · exact nothing _ _ _
          · rw [nothing (answers position false)]
            exact nothing _ _ _
    simp only [passTargets]
    rw [passed]
    exact inductionHypothesis _ _

end Targets

section Requests

variable (values : PayloadValues V) (service : NotificationService V)
  (answers : ℕ → Bool → ℕ → SendAnswer) (id : String)

/-- Notifications are routed to registered channels. -/
theorem get_channels_registered (type : NotificationType) (priority : Priority) :
    service.getChannelsForNotification type priority ⊆ service.channelOrder := by
  simp only [getChannelsForNotification]
  split_ifs
  · exact List.Subset.refl _
  · exact fun name member => of_decide_eq_true (List.mem_filter.mp member).2
  · exact fun name member =>
      of_decide_eq_true (List.mem_filter.mp (List.mem_of_mem_take member)).2
  · exact List.take_subset 2 _
  · exact List.take_subset 1 _

/-- A routed notification reaches every channel exactly where there is none, or attempts are made and
the untargeted channels can all take the place of a target that fails. -/
theorem send_internal_reaches_iff (type : NotificationType) (payload : List (String × V))
    (priority : Priority) :
    let targets := service.getChannelsForNotification type priority
    service.ReachesEvery (sendInternal values service answers id type payload priority).2.2 ↔
      service.channelOrder = [] ∨ 1 ≤ service.retryConfig.maxRetries ∧
        "" ∉ service.untargeted targets ∧
          (service.untargeted targets).length ≤ service.failures answers 0 targets := by
  intro targets
  have registered := service.get_channels_registered type priority
  have sent : (sendInternal values service answers id type payload priority).2.2 =
      (service.passTargets targets (formatMessage values payload type) answers 0 targets
        { id, notificationType := type, priority, payload } []).2 := by
    simp only [sendInternal]
    split_ifs with none
    · rw [show targets = [] from none]
      rfl
    · rfl
  rw [sent]
  by_cases empty : service.channelOrder = []
  · refine iff_of_true (fun name member => ?_) (.inl empty)
    rw [empty] at member
    exact absurd member List.not_mem_nil
  · rw [or_iff_right empty]
    by_cases attempts : 1 ≤ service.retryConfig.maxRetries
    · rw [and_iff_right attempts]
      exact pass_targets_reaches_iff (by omega) registered _ answers rfl
    · have none : service.retryConfig.maxRetries.toNat = 0 := by omega
      rw [pass_targets_without_attempts none]
      refine iff_of_false (fun reaches => ?_) fun condition => attempts condition.1
      obtain ⟨name, member⟩ := List.exists_mem_of_ne_nil _ empty
      exact List.not_mem_nil (reaches name member)

/-- Every channel is a target of a critical notification. -/
theorem untargeted_critical (type : NotificationType) :
    service.untargeted (service.getChannelsForNotification type .critical) = [] := by
  rw [untargeted, getChannelsForNotification, if_pos rfl]
  exact List.filter_eq_nil_iff.mpr fun name member notTarget =>
    of_decide_eq_true notTarget member

/-- For all channels and every configuration, and whatever channels answer: an alert that was
requested with critical priority reaches every channel exactly where there is none, it is handed to
all at once, or attempts are made and, in the old style, the channels outside the route of high
priority can all take the place of one that fails. -/
theorem critical_reaches_every_iff (request : AlertRequest V)
    (requested : request.priority = some .critical) :
    service.ReachesEvery (sentBy values service answers id request) ↔
      service.channelOrder = [] ∨ request.AtOnce ∨ 1 ≤ service.retryConfig.maxRetries ∧
        ∀ type ∈ request.oldStyle, service.CoversUntargeted answers type := by
  have oldStyle : ∀ type message,
      service.ReachesEvery (sendOldStyle values service answers id type message).2.2 ↔
        service.channelOrder = [] ∨ 1 ≤ service.retryConfig.maxRetries ∧
          service.CoversUntargeted answers type := fun type message =>
    send_internal_reaches_iff values service answers id type _ .high
  have newStyle : ∀ type payload,
      service.ReachesEvery (sendInternal values service answers id type payload .critical).2.2 ↔
        service.channelOrder = [] ∨ 1 ≤ service.retryConfig.maxRetries := by
    intro type payload
    have reaches := send_internal_reaches_iff values service answers id type payload .critical
    simpa only [untargeted_critical, List.not_mem_nil, not_false_eq_true, List.length_nil,
      Nat.zero_le, and_true] using reaches
  have atOnce : ∀ inTime message,
      service.ReachesEvery (sendToAllChannels service answers inTime message).2 := by
    intro inTime message name member
    simpa [sendToAllChannels] using member
  -- what is left of the condition for calls of the two styles
  have routed : ∀ type, (service.channelOrder = [] ∨ 1 ≤ service.retryConfig.maxRetries ∧
      service.CoversUntargeted answers type) ↔
      (service.channelOrder = [] ∨ False ∨ 1 ≤ service.retryConfig.maxRetries ∧
        ∀ other ∈ some type, service.CoversUntargeted answers other) := by simp
  have unrouted : (service.channelOrder = [] ∨ 1 ≤ service.retryConfig.maxRetries) ↔
      (service.channelOrder = [] ∨ False ∨ 1 ≤ service.retryConfig.maxRetries ∧
        ∀ other ∈ (none : Option NotificationType), service.CoversUntargeted answers other) := by simp
  cases request with
  | send messageOrType payloadOrType priority notificationType =>
    obtain rfl := Option.some.inj requested
    cases notificationType with
    | some type => exact (oldStyle type messageOrType.str).trans (routed type)
    | none =>
      cases payloadOrType with
      | notificationType type => exact (oldStyle type messageOrType.str).trans (routed type)
      | payload payload => exact (newStyle _ _).trans unrouted
      | text message => exact (newStyle _ _).trans unrouted
  | alert message level =>
    have isCritical : level = "critical" := by
      by_contra other
      simp [AlertRequest.priority, other] at requested
    subst isCritical
    exact (newStyle _ _).trans unrouted
  | toAllChannels inTime message => exact iff_of_true (atOnce inTime message) (.inr (.inl trivial))
  | trade elapsed answered closed message => cases requested
  | killSwitch inTime message => exact iff_of_true (atOnce inTime message) (.inr (.inl trivial))
  | hftCircuitBreaker message => cases requested
  | hftModeDisabled message =>
    exact (oldStyle .hftModeDisabled message).trans (routed .hftModeDisabled)
  | crisisAlert message => cases requested

end Requests

/-- Payloads of texts. -/
def textValues : PayloadValues String where
  text := id
  str := id
  truthy value := value ≠ ""
  isNone _ := false
  joined := id
  strPayload _ := ""

/-- Two channels, of which all deliveries succeed: that HFT mode is disabled reaches both. -/
theorem two_channels_are_reached :
    (create ["telegram", "discord"] : NotificationService String).ReachesEvery
      (sentBy textValues (create ["telegram", "discord"]) (fun _ _ _ => .delivered) "1"
        (.hftModeDisabled "HFT MODE DISABLED")) :=
  (critical_reaches_every_iff textValues (create ["telegram", "discord"])
    (fun _ _ _ => .delivered) "1" (.hftModeDisabled "HFT MODE DISABLED") rfl).mpr
    (.inr (.inr ⟨by decide, by
      intro type isType
      obtain rfl := Option.some.inj isType
      decide +kernel⟩))

/-- With a third channel, that HFT mode is disabled does not reach all of them. -/
theorem third_channel_is_not_reached :
    ¬∀ (V : Type) (values : PayloadValues V) (service : NotificationService V)
      (answers : ℕ → Bool → ℕ → SendAnswer) (id : String) (request : AlertRequest V),
      request.priority = some .critical →
        service.ReachesEvery (sentBy values service answers id request) := by
  intro claim
  have reached := claim String textValues (create ["telegram", "discord", "email"])
    (fun _ _ _ => .delivered) "1" (.hftModeDisabled "HFT MODE DISABLED") rfl "email"
    (by decide +kernel)
  revert reached
  decide +kernel

end NotificationService

end IgTradingBot
