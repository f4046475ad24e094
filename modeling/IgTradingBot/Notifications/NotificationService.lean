import Mathlib.Algebra.Order.Ring.Rat
import Mathlib.Data.List.AList

/-!
# Notification service

Routing, retries and fallback of `src/notifications/notification_service.py`. What a channel
answers is decided elsewhere: a delivery reads one answer for each of its attempts. The times that
records carry, which nothing reads, are left out, and so are the texts that the `send_*` helpers
format from their data.
-/

namespace IgTradingBot

/-- Types of notifications the system can send. -/
inductive NotificationType where
  | tradeAlert
  | killSwitch
  | crisisAlert
  | hftCircuitBreaker
  | strategyDisabled
  | tradeOpened
  | tradeClosed
  | hftModeDisabled
  | riskAlert
  | strategyChange
  | systemError
  deriving DecidableEq, Repr

/-- Notification priority levels. -/
inductive Priority where
  | critical
  | high
  | normal
  | low
  deriving DecidableEq, Repr

/-- Status of a notification delivery attempt. -/
inductive DeliveryStatus where
  | pending
  | delivered
  | failed
  | retrying
  deriving DecidableEq, Repr

/-- What a channel answers to one attempt to send. -/
inductive SendAnswer where
  | delivered
  | refused
  | raised (error : String)
  deriving DecidableEq, Repr

/-- A message that was handed to a channel. -/
structure SentMessage where
  channelName : String
  message : String
  deriving DecidableEq, Repr

/-- Configuration for notification retry behavior. -/
structure RetryConfig where
  maxRetries : ℤ := 3
  intervalSeconds : ℚ := 30
  deriving DecidableEq, Repr

/-- Delivery status for a single channel. -/
structure ChannelDeliveryStatus where
  channelName : String
  status : DeliveryStatus := .pending
  attempts : ℕ := 0
  error : Option String := none
  deriving DecidableEq, Repr

/-- The full delivery status of a notification across all channels. -/
structure NotificationRecord (V : Type) where
  id : String
  notificationType : NotificationType
  priority : Priority
  payload : List (String × V)
  channelStatuses : List ChannelDeliveryStatus := []

/-- Simple result of a notification delivery attempt. -/
structure DeliveryResult where
  success : Bool
  channelName : String
  attempts : ℕ := 1
  error : Option String := none
  fallbackUsed : Bool := false
  deriving DecidableEq, Repr

/-- What the service asks of the values of a payload. -/
structure PayloadValues (V : Type) where
  text : String → V
  str : V → String
  truthy : V → Bool
  isNone : V → Bool
  /-- The texts of a list of values, with commas between them. -/
  joined : V → String
  /-- A whole payload as text. -/
  strPayload : List (String × V) → String

/-- Channels in the order in which they were registered, their configuration, and the records. -/
structure NotificationService (V : Type) where
  channelOrder : List String
  unique : channelOrder.Nodup
  typeToChannels : AList (fun _ : NotificationType => List String)
  retryConfig : RetryConfig
  deliveryRecords : List (NotificationRecord V) := []

/-- The first argument of a call of `send`. -/
inductive MessageOrType where
  | notificationType (type : NotificationType)
  | text (message : String)
  deriving DecidableEq, Repr

/-- The second argument of a call of `send`. -/
inductive PayloadOrType (V : Type) where
  | payload (payload : List (String × V))
  | text (message : String)
  | notificationType (type : NotificationType)

/-- What a call of `send` returns. -/
inductive SendResult (V : Type) where
  | record (record : NotificationRecord V)
  | delivery (result : DeliveryResult)

namespace NotificationType

/-- The name of a member of the enumeration. -/
def name : NotificationType → String
  | tradeAlert => "TRADE_ALERT"
  | killSwitch => "KILL_SWITCH"
  | crisisAlert => "CRISIS_ALERT"
  | hftCircuitBreaker => "HFT_CIRCUIT_BREAKER"
  | strategyDisabled => "STRATEGY_DISABLED"
  | tradeOpened => "TRADE_OPENED"
  | tradeClosed => "TRADE_CLOSED"
  | hftModeDisabled => "HFT_MODE_DISABLED"
  | riskAlert => "RISK_ALERT"
  | strategyChange => "STRATEGY_CHANGE"
  | systemError => "SYSTEM_ERROR"

/-- The value of a member of the enumeration. -/
def value : NotificationType → String
  | tradeAlert => "trade_alert"
  | killSwitch => "kill_switch"
  | crisisAlert => "crisis_alert"
  | hftCircuitBreaker => "hft_circuit_breaker"
  | strategyDisabled => "strategy_disabled"
  | tradeOpened => "trade_opened"
  | tradeClosed => "trade_closed"
  | hftModeDisabled => "hft_mode_disabled"
  | riskAlert => "risk_alert"
  | strategyChange => "strategy_change"
  | systemError => "system_error"

/-- All members, in the order of their definition. -/
def all : List NotificationType :=
  [tradeAlert, killSwitch, crisisAlert, hftCircuitBreaker, strategyDisabled, tradeOpened,
    tradeClosed, hftModeDisabled, riskAlert, strategyChange, systemError]

/-- The member with a value. -/
def ofValue (text : String) : Option NotificationType := all.find? fun type => type.value = text

end NotificationType

/-- The text of the first argument of a call of `send`. -/
def MessageOrType.str : MessageOrType → String
  | .notificationType type => "NotificationType." ++ type.name
  | .text message => message

namespace NotificationRecord

variable {V : Type}

/-- Whether the notification was delivered to at least one channel. -/
def isFullyDelivered (record : NotificationRecord V) : Bool :=
  record.channelStatuses.any fun status => status.status = .delivered

/-- The names of the channels that have a status. -/
def channelNames (record : NotificationRecord V) : List String :=
  record.channelStatuses.map ChannelDeliveryStatus.channelName

/-- Set the status of a channel: in the place of an earlier one, or else at the end. -/
def setStatus (record : NotificationRecord V) (status : ChannelDeliveryStatus) :
    NotificationRecord V :=
  { record with
    channelStatuses :=
      if status.channelName ∈ record.channelNames then
        record.channelStatuses.map fun other =>
          if other.channelName = status.channelName then status else other
      else record.channelStatuses ++ [status] }

end NotificationRecord

namespace NotificationService

variable {V : Type}

/-- Register a channel. A name that is known keeps its place. -/
def registerChannel (service : NotificationService V) (name : String) : NotificationService V :=
  if known : name ∈ service.channelOrder then service
  else
    { service with
      channelOrder := service.channelOrder ++ [name]
      unique := List.nodup_append.mpr ⟨service.unique, List.nodup_singleton name,
        fun _ member _ last same => known (List.mem_singleton.mp last ▸ same ▸ member)⟩ }

/-- A service with its channels registered one after the other. -/
def create (channels : List String)
    (typeToChannels : AList (fun _ : NotificationType => List String) := ∅)
    (retryConfig : RetryConfig := {}) : NotificationService V :=
  channels.foldl registerChannel
    { channelOrder := [], unique := List.nodup_nil, typeToChannels, retryConfig }

/-- Configure the channels of a notification type. -/
def configureNotificationType (service : NotificationService V) (type : NotificationType)
    (channels : List String) : NotificationService V :=
  { service with typeToChannels := service.typeToChannels.insert type channels }

/-- The channels for a type and a priority. -/
def getChannelsForNotification (service : NotificationService V) (type : NotificationType)
    (priority : Priority) : List String :=
  if priority = .critical then service.channelOrder
  else
    let configured := (service.typeToChannels.lookup type).getD []
    if configured ≠ [] then
      let available := configured.filter (· ∈ service.channelOrder)
      if priority = .high then available else available.take 1
    else if priority = .high then service.channelOrder.take 2
    else service.channelOrder.take 1

section Formatting

variable (values : PayloadValues V) (payload : List (String × V))

/-- The text of an entry of a payload, or a default. -/
def entryText (key default : String) : String := ((payload.lookup key).map values.str).getD default

/-- Format a trade alert notification. -/
def formatTradeAlert : String :=
  let direction := entryText values payload "direction" "Unknown"
  let size := entryText values payload "size" "Unknown"
  let instrument := entryText values payload "instrument" "Unknown"
  let price := entryText values payload "price" (entryText values payload "entry_price" "Unknown")
  let strategy := entryText values payload "strategy" "Unknown"
  let message := s!"Trade Alert: {direction} {size} {instrument} @ {price} [{strategy}]"
  match payload.lookup "pnl" with
  | some pnl => if values.isNone pnl then message else message ++ " | PnL: " ++ values.str pnl
  | none => message

/-- Format a kill switch notification. -/
def formatKillSwitch : String :=
  let reason := entryText values payload "reason"
    (entryText values payload "activation_reason" "Unknown reason")
  let positions := entryText values payload "positions_count" "0"
  s!"⚠️ KILL SWITCH ACTIVATED: {reason} | Closing {positions} positions"

/-- Format a crisis alert notification. -/
def formatCrisisAlert : String :=
  let region := entryText values payload "region" "Unknown"
  let sentiment := entryText values payload "sentiment_avg" "N/A"
  let affected :=
    match payload.lookup "affected_instruments" with
    | some instruments => if values.truthy instruments then values.joined instruments else "N/A"
    | none => "N/A"
  s!"🚨 CRISIS ALERT [{region}]: Sentiment {sentiment} | Affected: {affected}"

/-- Format an HFT circuit breaker notification. -/
def formatHftCircuitBreaker : String :=
  let pnl := entryText values payload "pnl" (entryText values payload "pnl_loss" "N/A")
  let count := entryText values payload "breaker_count" "0"
  s!"⚡ HFT Circuit Breaker Activated: PnL {pnl} | Activation #{count}"

/-- Format a strategy disabled notification. -/
def formatStrategyDisabled : String :=
  let strategy := entryText values payload "strategy" "Unknown"
  let reason := entryText values payload "reason" "Performance below threshold"
  s!"Strategy Disabled: {strategy} | Reason: {reason}"

/-- Format a payload: its message, or else what its type prescribes. -/
def formatMessage (type : NotificationType) : String :=
  let byType :=
    match type with
    | .tradeAlert | .tradeOpened | .tradeClosed => formatTradeAlert values payload
    | .killSwitch => formatKillSwitch values payload
    | .crisisAlert => formatCrisisAlert values payload
    | .hftCircuitBreaker => formatHftCircuitBreaker values payload
    | .strategyDisabled | .strategyChange => formatStrategyDisabled values payload
    | .hftModeDisabled | .riskAlert | .systemError => values.strPayload payload
  match payload.lookup "message" with
  | some message => if values.truthy message then values.str message else byType
  | none => byType

end Formatting

/-- The attempts of one delivery, as long as some remain. The answers are numbered. -/
def attemptLoop (answers : ℕ → SendAnswer) (message : String) :
    ℕ → ChannelDeliveryStatus → List SentMessage →
      Bool × ChannelDeliveryStatus × List SentMessage
  | 0, status, sent => (false, { status with status := .failed }, sent)
  | remaining + 1, status, sent =>
    let tried := { status with
      attempts := status.attempts + 1
      status := if 0 < status.attempts then .retrying else .pending }
    let sent := sent ++ [⟨status.channelName, message⟩]
    match answers status.attempts with
    | .delivered => (true, { tried with status := .delivered }, sent)
    | .refused => attemptLoop answers message remaining tried sent
    | .raised error =>
      attemptLoop answers message remaining { tried with error := some error } sent

/-- Deliver a message to a channel, with retries. -/
def attemptDeliveryWithRetry (service : NotificationService V) (answers : ℕ → SendAnswer)
    (channelName message : String) (sent : List SentMessage) :
    Bool × ChannelDeliveryStatus × List SentMessage :=
  if channelName ∈ service.channelOrder then
    attemptLoop answers message service.retryConfig.maxRetries.toNat { channelName } sent
  else
    (false, { channelName, status := .failed, error := s!"Channel '{channelName}' not registered" },
      sent)

/-- The next channel that is neither targeted nor attempted. -/
def getFallbackChannel (service : NotificationService V) (failedChannel : String)
    (alreadyTargeted : List String) (record : NotificationRecord V) : Option String :=
  service.channelOrder.find? fun name =>
    name ≠ failedChannel ∧ name ∉ alreadyTargeted ∧ name ∉ record.channelNames

/-- A delivery whose status is entered into the record. -/
def deliver (service : NotificationService V) (answers : ℕ → SendAnswer)
    (channelName message : String) (record : NotificationRecord V) (sent : List SentMessage) :
    Bool × NotificationRecord V × List SentMessage :=
  let (delivered, status, sent) :=
    service.attemptDeliveryWithRetry answers channelName message sent
  (delivered, record.setStatus status, sent)

/-- One pass of the loop over the targets: a delivery, and one to a fallback channel if it fails.
A name that is empty is not taken as a fallback. -/
def passTarget (service : NotificationService V) (targets : List String) (message : String)
    (answers fallbackAnswers : ℕ → SendAnswer) (channelName : String)
    (record : NotificationRecord V) (sent : List SentMessage) :
    NotificationRecord V × List SentMessage :=
  let (delivered, record, sent) := service.deliver answers channelName message record sent
  if delivered then (record, sent)
  else
    match service.getFallbackChannel channelName targets record with
    | none => (record, sent)
    | some fallback =>
      if fallback = "" then (record, sent)
      else (service.deliver fallbackAnswers fallback message record sent).2

/-- The loop over the targets from a position on. The deliveries of a notification are known by the
position of the target and whether they are its fallback. -/
def passTargets (service : NotificationService V) (targets : List String) (message : String)
    (answers : ℕ → Bool → ℕ → SendAnswer) :
    ℕ → List String → NotificationRecord V → List SentMessage →
      NotificationRecord V × List SentMessage
  | _, [], record, sent => (record, sent)
  | position, channelName :: rest, record, sent =>
    let (record, sent) := service.passTarget targets message (answers position false)
      (answers position true) channelName record sent
    passTargets service targets message answers (position + 1) rest record sent

section Sending

variable (values : PayloadValues V) (service : NotificationService V)
  (answers : ℕ → Bool → ℕ → SendAnswer) (id : String)

/-- Send a notification: the record of its deliveries, and what was handed to channels. -/
def sendInternal (type : NotificationType) (payload : List (String × V)) (priority : Priority) :
    NotificationService V × NotificationRecord V × List SentMessage :=
  let record : NotificationRecord V := { id, notificationType := type, priority, payload }
  let targets := service.getChannelsForNotification type priority
  let (record, sent) :=
    if targets = [] then (record, [])
    else
      service.passTargets targets (formatMessage values payload type) answers 0 targets record []
  ({ service with deliveryRecords := service.deliveryRecords ++ [record] }, record, sent)

/-- The result of the old style that a record becomes. -/
def recordToDeliveryResult (record : NotificationRecord V) : DeliveryResult :=
  match record.channelStatuses.find? fun status => status.status = .delivered with
  | some status =>
    { success := true, channelName := status.channelName, attempts := status.attempts }
  | none =>
    match record.channelStatuses.getLast? with
    | some last =>
      { success := false
        channelName := last.channelName
        attempts := last.attempts
        error := some (if last.error.getD "" = "" then "All retries exhausted"
          else last.error.getD "")
        fallbackUsed := 1 < record.channelStatuses.length }
    | none =>
      { success := false
        channelName := "none"
        error := some "No channels configured for this notification type" }

/-- A call of the old style, which uses fallback delivery. -/
def sendOldStyle (type : NotificationType) (message : String) :
    NotificationService V × SendResult V × List SentMessage :=
  let (service, record, sent) :=
    sendInternal values service answers id type [("message", values.text message)] .high
  (service, .delivery (recordToDeliveryResult record), sent)

/-- The payload of a call of the new style. -/
def newStylePayload : PayloadOrType V → List (String × V)
  | .payload payload => payload
  | .text message => if message = "" then [] else [("message", values.text message)]
  | .notificationType type =>
    [("message", values.text (MessageOrType.notificationType type).str)]

/-- Send a notification routed to appropriate channels. A member of the enumeration is itself a
text, so a second one makes any call one of the old style. -/
def send (messageOrType : MessageOrType) (payloadOrType : PayloadOrType V := .text "")
    (priority : Priority := .normal) (notificationType : Option NotificationType := none) :
    NotificationService V × SendResult V × List SentMessage :=
  match notificationType, payloadOrType with
  | some type, _ => sendOldStyle values service answers id type messageOrType.str
  | none, .notificationType type => sendOldStyle values service answers id type messageOrType.str
  | none, payloadOrType =>
    let type :=
      match messageOrType with
      | .notificationType type => type
      | .text text => (NotificationType.ofValue text).getD .systemError
    let (service, record, sent) := sendInternal values service answers id type
      (newStylePayload values payloadOrType) priority
    (service, .record record, sent)

/-- Hand a message to every channel at once. Where the time runs out, the results say so. -/
def sendToAllChannels (inTime : Bool) (message : String) :
    List DeliveryResult × List SentMessage :=
  let results := service.channelOrder.zipIdx.map fun (name, position) =>
    if inTime then
      match answers position false 0 with
      | .delivered => { success := true, channelName := name }
      | .refused => { success := false, channelName := name }
      | .raised error => { success := false, channelName := name, error := some error }
    else { success := false, channelName := name, error := some "Timeout" }
  (results, service.channelOrder.map fun name => ⟨name, message⟩)

/-- Send a generic alert. -/
def sendAlert (message level : String) :
    NotificationService V × SendResult V × List SentMessage :=
  let type : NotificationType :=
    if level = "error" ∨ level = "critical" then .systemError else .riskAlert
  let priority : Priority := if level = "critical" then .critical else .normal
  send values service answers id (.notificationType type)
    (.payload [("message", values.text message)]) priority

/-- Try channels one after the other within ten seconds, until one delivers. The clock is read
before each of them, and `none` is an answer that does not come in time. -/
def tryChannels (elapsed : ℕ → ℚ) (answered : ℕ → Option SendAnswer) (message : String) :
    ℕ → List String → List SentMessage → Option DeliveryResult × List SentMessage
  | _, [], sent => (none, sent)
  | position, channelName :: rest, sent =>
    if 10 ≤ elapsed position then (none, sent)
    else if channelName ∉ service.channelOrder then
      tryChannels elapsed answered message (position + 1) rest sent
    else if answered position = some .delivered then
      (some { success := true, channelName }, sent ++ [⟨channelName, message⟩])
    else
      tryChannels elapsed answered message (position + 1) rest (sent ++ [⟨channelName, message⟩])

/-- Send a trade notification within 10 seconds. -/
def sendTradeNotification (elapsed : ℕ → ℚ) (answered : ℕ → Option SendAnswer) (closed : Bool)
    (message : String) : DeliveryResult × List SentMessage :=
  let type : NotificationType := if closed then .tradeClosed else .tradeOpened
  let routed := service.getChannelsForNotification type .high
  let channelNames := if routed = [] then service.channelOrder else routed
  if channelNames = [] then
    ({ success := false, channelName := "none", error := some "No channels configured" }, [])
  else
    match service.tryChannels elapsed answered message 0 channelNames [] with
    | (some result, sent) => (result, sent)
    | (none, sent) =>
      ({ success := false
         channelName := channelNames.getLastD "none"
         error := some "Trade notification delivery failed within 10s deadline" }, sent)

/-- Send a kill switch notification to all channels. -/
def sendKillSwitchNotification (inTime : Bool) (message : String) :
    List DeliveryResult × List SentMessage :=
  sendToAllChannels service answers inTime message

/-- Send an HFT circuit breaker activation notification. -/
def sendHftCircuitBreakerNotification (message : String) :
    NotificationService V × SendResult V × List SentMessage :=
  send values service answers id (.text message) (.text "") .high (some .hftCircuitBreaker)

/-- Send an HFT mode disabled (escalation) notification. -/
def sendHftModeDisabledNotification (message : String) :
    NotificationService V × SendResult V × List SentMessage :=
  send values service answers id (.text message) (.text "") .critical (some .hftModeDisabled)

/-- Send a news crisis alert notification. -/
def sendCrisisAlertNotification (message : String) :
    NotificationService V × SendResult V × List SentMessage :=
  send values service answers id (.text message) (.text "") .high (some .crisisAlert)

end Sending

end NotificationService

end IgTradingBot
