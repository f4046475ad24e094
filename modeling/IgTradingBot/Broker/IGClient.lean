import IgTradingBot.Config.Constants
import IgTradingBot.Core.Values
import IgTradingBot.Library.Programs
import Mathlib.Data.Finset.Basic

/-!
# Broker client

The request helper, the opening of a position and the emergency close of
`src/trading/ig_client.py`. Every exchange with the server is an attempt, and
every attempt says, apart from what comes back, whether the server processed the
request: an answer can be lost after the server has opened or closed a position.

A script holds the attempts of one request in order, together with what its
other await points meet. Session tokens appear in headers only, and the pauses
between attempts change nothing, so neither is part of the model. Bodies are
typed by what their endpoint answers and what the code reads of it.
-/

namespace IgTradingBot

open Sequential Sequential.Program

/-- Exceptions of the HTTP library: `httpx.HTTPError`, or anything else. -/
inductive TransportError where
  | http
  | other (message : String)
  deriving DecidableEq, Repr

/-- The exception as it leaves the client. -/
def TransportError.failure : TransportError → Failure
  | .http => .transport
  | .other message => .other message

/-- An HTTP response; the body is `none` when it is not JSON. -/
structure HttpResponse (β : Type) where
  statusCode : ℕ
  json : Option β
  deriving DecidableEq, Repr

/-- `200 <= response.status_code < 300`. -/
def HttpResponse.isSuccess {β : Type} (response : HttpResponse β) : Bool :=
  decide (200 ≤ response.statusCode ∧ response.statusCode < 300)

/-- `response.json()`. -/
def HttpResponse.decode {β : Type} (response : HttpResponse β) : Except Failure β :=
  match response.json with
  | some body => .ok body
  | none => .error .decode

/-- One attempt of a request. -/
inductive Attempt (β : Type) where
  /-- the client is closed and transmits nothing -/
  | disconnected
  | raised (processed : Bool) (error : TransportError)
  | answered (processed : Bool) (response : HttpResponse β)
  deriving DecidableEq, Repr

/-- The server has carried out the request of this attempt. -/
def Attempt.isProcessed {β : Type} : Attempt β → Bool
  | .disconnected => false
  | .raised processed _ => processed
  | .answered processed _ => processed

/-- One exchange with the session endpoint. -/
inductive SessionReply where
  | disconnected
  | raised (error : TransportError)
  | answered (statusCode : ℕ)
  deriving DecidableEq, Repr

/-- What the renewal of a session meets: one refresh, then up to three logins. -/
structure SessionScript where
  refresh : SessionReply := .answered 200
  logins : ℕ → SessionReply := fun _ => .answered 200

/-- What one request meets. The rate limit is the flag as the request finds it;
other tasks set and clear it. The latency checks apply to HFT requests only. -/
structure RequestScript (β : Type) where
  rateLimited : Bool := false
  queueFull : Bool := false
  lateWhileWaiting : Bool := false
  late : ℕ → Bool := fun _ => false
  attempts : ℕ → Attempt β
  sessions : ℕ → SessionScript := fun _ => {}

/-- The fields of a deal confirmation or of an order reply that the client or its
callers read. -/
structure DealReply where
  dealReference : Option String := none
  dealStatus : Option String := none
  dealId : Option String := none
  level : Option Numeral := none
  stopLevel : Option Numeral := none
  limitLevel : Option Numeral := none
  closeLevel : Option Numeral := none
  profit : Option Numeral := none
  deriving DecidableEq, Repr

/-- `str(confirm.get("dealStatus", "")).upper() == "ACCEPTED"`. -/
def DealReply.isAccepted (reply : DealReply) : Bool :=
  match reply.dealStatus with
  | some status => decide (status.toUpper = "ACCEPTED")
  | none => false

/-- A decoded deal body. -/
inductive DealBody where
  | dict (reply : DealReply)
  | notADict
  deriving DecidableEq, Repr

/-- Use a body as a dictionary. -/
def DealBody.fields : DealBody → Except Failure DealReply
  | .dict reply => .ok reply
  | .notADict => .error .badShape

/-- A decoded body of a position lookup: the position that it contains, a value
under `position` that is no dictionary, or a body that is no dictionary itself. -/
inductive PositionBody where
  | position (stopLevel limitLevel : Option Numeral)
  | otherValue
  | notADict
  deriving DecidableEq, Repr

/-- A decoded body of a market lookup, or one whose parts are no dictionaries. -/
inductive MarketBody where
  | details (snapshotScaling instrumentScaling : Option Numeral)
  | notADict
  deriving DecidableEq, Repr

/-- The payload of an opening order. -/
structure OrderPayload where
  epic : String
  direction : String
  size : ℚ
  currencyCode : String
  stopDistance : ℚ
  limitDistance : ℚ
  dealReference : String
  deriving DecidableEq, Repr

/-- What happened at the broker during a call. -/
inductive ClientEvent where
  | positionCreated (payload : OrderPayload)
  | levelsRead (stopLevel limitLevel : Option Numeral)
  | positionClosed (dealId : String)
  deriving DecidableEq, Repr

/-- State of a client during a call: the permits and the events, latest first. -/
structure IGClient where
  openingOrderPermits : Finset String := ∅
  history : List ClientEvent := []

/-- Programs of the client. -/
abbrev ClientProgram := Program Failure IGClient

namespace IGClient

/-- Add an event to the history. -/
def record (event : ClientEvent) (client : IGClient) : IGClient :=
  { client with history := event :: client.history }

/-- Renew the session tokens; false when the server refuses or cannot be reached. -/
def refreshSession : SessionReply → Except Failure Bool
  | .disconnected => .ok false
  | .raised .http => .ok false
  | .raised (.other message) => .error (.other message)
  | .answered statusCode => .ok (decide (statusCode = 200))

/-- The remaining login attempts. A closed client raises out of the loop, since
the loop handles exceptions of the HTTP library only. -/
def loginAttempts (logins : ℕ → SessionReply) : ℕ → ℕ → Except Failure Bool
  | 0, _ => .ok false
  | fuel + 1, attempt =>
    match logins attempt with
    | .disconnected => .error (.igConnection "HTTP client not initialized")
    | .raised (.other message) => .error (.other message)
    | .raised .http => loginAttempts logins fuel (attempt + 1)
    | .answered statusCode =>
      if statusCode = 200 then .ok true else loginAttempts logins fuel (attempt + 1)

/-- Log in, with three attempts. -/
def login (logins : ℕ → SessionReply) : Except Failure Bool := loginAttempts logins 3 0

/-- What the request loop does on a 401: refresh, and log in if that fails. The
answers are not used; only an exception matters. -/
def renewSession (script : SessionScript) : Except Failure Unit := do
  let refreshed ← refreshSession script.refresh
  if refreshed then pure ()
  else do
    let _ ← login script.logins
    pure ()

section Requests

variable {β : Type}

/-- The retry loop of a request. Exceptions of the HTTP library are retried with
a pause; a 429 and a 401 are retried at once. Any other answer is returned,
whatever its status. `processed` is the effect at the server. -/
def attemptLoop (processed : IGClient → IGClient) (hft : Bool) (script : RequestScript β) :
    ℕ → ℕ → ClientProgram (HttpResponse β)
  | 0, _ => raise (.igConnection "All retry attempts exhausted")
  | fuel + 1, attempt =>
    if hft && script.late attempt then
      raise (.hftLatencyRejection "HFT order cancelled due to excessive queuing latency")
    else
      match script.attempts attempt with
      | .disconnected => raise (.igConnection "HTTP client not initialized")
      | .raised isProcessed error => do
          modify fun client => if isProcessed then processed client else client
          match error with
          | .http => attemptLoop processed hft script fuel (attempt + 1)
          | .other message => raise (.other message)
      | .answered isProcessed response => do
          modify fun client => if isProcessed then processed client else client
          if response.statusCode = 429 then
            attemptLoop processed hft script fuel (attempt + 1)
          else if response.statusCode = 401 then do
            ofExcept (renewSession (script.sessions attempt))
            attemptLoop processed hft script fuel (attempt + 1)
          else pure response

/-- Execute a request: wait while the rate is limited, then try. -/
def request (processed : IGClient → IGClient) (hft : Bool) (script : RequestScript β) :
    ClientProgram (HttpResponse β) :=
  if script.rateLimited then
    if script.queueFull then
      raise (.rateLimit "Request queue at capacity during rate limiting")
    else if hft && script.lateWhileWaiting then
      raise (.hftLatencyRejection "HFT order cancelled due to excessive queuing latency")
    else attemptLoop processed hft script Constants.apiRetryMaxAttempts 0
  else attemptLoop processed hft script Constants.apiRetryMaxAttempts 0

/-- A request that changes nothing at the server. -/
def get (script : RequestScript β) : ClientProgram (HttpResponse β) :=
  request id false script

end Requests

/-- What a close meets: the request is sent once, past the retry loop. -/
structure CloseScript where
  closing : Attempt DealBody
  confirmation : RequestScript DealBody

/-- What an opening call meets. -/
structure OpeningScript where
  market : RequestScript MarketBody
  opening : RequestScript DealBody
  confirmation : RequestScript DealBody
  readBacks : ℕ → RequestScript PositionBody
  emergency : CloseScript

/-- Retrieve one open position. -/
def getPosition (script : RequestScript PositionBody) : ClientProgram PositionBody := do
  let response ← get script
  if response.isSuccess then
    match response.json with
    | none => raise (.igConnection "IG position lookup returned invalid JSON")
    | some .notADict => raise .badShape
    | some body => pure body
  else raise (.igConnection "IG position lookup failed")

/-- Scaling factors that need no request. -/
def knownScalingFactor (epic : String) : Option ℚ :=
  if epic = "CS.D.EURUSD.CFD.IP" ∨ epic = "CS.D.GBPUSD.CFD.IP" then some 10000
  else if epic = "CS.D.USDJPY.CFD.IP" then some 100
  else if epic = "IX.D.FTSE.DAILY.IP" ∨ epic = "IX.D.DAX.DAILY.IP" then some 1
  else none

/-- The scaling factor of a market body; anything unusable counts as 1. -/
def scalingOfMarket : MarketBody → ℚ
  | .details snapshotScaling instrumentScaling =>
    match Numeral.orElse snapshotScaling instrumentScaling with
    | some (.number scaling) => scaling
    | _ => 1
  | .notADict => 1

/-- Points per price unit of an instrument; every failure is answered with 1. -/
def getScalingFactor (script : RequestScript MarketBody) (epic : String) : ClientProgram ℚ :=
  match knownScalingFactor epic with
  | some scaling => pure scaling
  | none =>
    rescue
      (do
        let response ← get script
        let body ← ofExcept response.decode
        pure (scalingOfMarket body))
      (fun _ => pure 1)

/-- Dealing currency of an instrument. -/
def getInstrumentCurrency (epic : String) : String :=
  if epic = "IX.D.FTSE.DAILY.IP" then "GBP"
  else if epic = "IX.D.DAX.DAILY.IP" then "EUR"
  else "USD"

/-- The confirmation of a close whose reply names a deal reference; a
confirmation that cannot be had is replaced by the reply itself. -/
def confirmClose (script : CloseScript) (result : DealReply) : ClientProgram DealReply :=
  if truthyText result.dealReference then
    rescue
      (do
        let confirmation ← get script.confirmation
        let confirmed ← ofExcept confirmation.decode
        ofExcept confirmed.fields)
      (fun _ => pure result)
  else pure result

/-- Close a position with a single request and fetch the confirmation. -/
def closePosition (script : CloseScript) (dealId : String) : ClientProgram DealReply :=
  match script.closing with
  | .disconnected => raise (.igConnection "HTTP client not initialized")
  | .raised isProcessed error => do
      modify fun client => if isProcessed then record (.positionClosed dealId) client else client
      raise error.failure
  | .answered isProcessed response => do
      modify fun client => if isProcessed then record (.positionClosed dealId) client else client
      let body ← ofExcept response.decode
      let result ← ofExcept body.fields
      confirmClose script result

/-- One read-back of the protection: whether both levels are present, and
whether the last body that was read is a dictionary. -/
def readBack (script : RequestScript PositionBody) (lastIsDict : Bool) :
    ClientProgram (Bool × Bool) :=
  rescue
    (do
      let body ← getPosition script
      match body with
      | .position stopLevel limitLevel => do
          modify (record (.levelsRead stopLevel limitLevel))
          pure (stopLevel.isSome && limitLevel.isSome, true)
      | _ => pure (false, false))
    (fun _ => pure (false, lastIsDict))

/-- The remaining read-backs: whether one of them shows both levels, and whether
the last body that was read is a dictionary. -/
def readBackLoop (readBacks : ℕ → RequestScript PositionBody) :
    ℕ → ℕ → Bool → ClientProgram (Bool × Bool)
  | 0, _, lastIsDict => pure (false, lastIsDict)
  | fuel + 1, attempt, lastIsDict => do
      let shown ← readBack (readBacks attempt) lastIsDict
      if shown.1 then pure shown
      else readBackLoop readBacks fuel (attempt + 1) shown.2

/-- The message of a failed emergency close. -/
def emergencyCloseFailed : Failure :=
  .igConnection "Unprotected position detected and emergency close failed"

/-- The message of an emergency close that did not raise. -/
def emergencyClosed : Failure :=
  .igConnection "Unprotected position detected and emergency closed"

/-- Require that a read-back shows both levels, else close the position and
raise. The final message quotes the levels of the last body that was read, which
raises in its own way when that body is no dictionary. -/
def verifyAttachedProtection (script : OpeningScript) (dealId : String) : ClientProgram Unit := do
  let shown ← readBackLoop script.readBacks 3 0 true
  if shown.1 then pure ()
  else do
    let _ ← rescue (closePosition script.emergency dealId) (fun _ => raise emergencyCloseFailed)
    if shown.2 then raise emergencyClosed else raise .badShape

/-- The confirmation of an opening order, with the verification of its protection. -/
def confirmOpening (script : OpeningScript) : ClientProgram DealReply := do
  let response ← get script.confirmation
  let body ← ofExcept response.decode
  let confirm ← ofExcept body.fields
  if confirm.isAccepted then
    match confirm.dealId with
    | some dealId =>
      if dealId = "" then
        raise (.igConnection "Accepted opening order did not include a deal ID")
      else do
        verifyAttachedProtection script dealId
        pure confirm
    | none => raise (.igConnection "Accepted opening order did not include a deal ID")
  else pure confirm

/-- Transmit an opening order and confirm it. Exceptions of the confirmation are
raised again only when they are connection errors; otherwise the order reply is
returned. -/
def transmitOpening (script : OpeningScript) (payload : OrderPayload) (hft : Bool) :
    ClientProgram DealReply := do
  let response ← request (record (.positionCreated payload)) hft script.opening
  let body ← ofExcept response.decode
  let result ← ofExcept body.fields
  if truthyText (orText result.dealReference (some payload.dealReference)) then
    rescue (confirmOpening script) (fun failure =>
      if failure.isIGConnectionError then raise failure else pure result)
  else pure result

/-- Place a new order: consume the permit, require both distances, and transmit. -/
def placeOrder (script : OpeningScript) (epic direction : String) (size : ℚ)
    (stopDistance limitDistance : Option ℚ) (hft : Bool) (executionPermit : Option String) :
    ClientProgram DealReply := do
  let permits ← read (·.openingOrderPermits)
  match executionPermit with
  | none =>
    raise (.igConnection "Opening order blocked: missing or invalid guarded execution permit")
  | some permit =>
    if permit ∈ permits then do
      modify fun client =>
        { client with openingOrderPermits := client.openingOrderPermits.erase permit }
      match stopDistance, limitDistance with
      | some stop, some limit =>
        if stop ≤ 0 ∨ limit ≤ 0 then
          raise (.igConnection
            "Opening order blocked: stop and limit distances must be positive")
        else do
          let scaling ← getScalingFactor script.market epic
          transmitOpening script
            { epic, direction, size
              currencyCode := getInstrumentCurrency epic
              stopDistance := stop * scaling
              limitDistance := limit * scaling
              dealReference := permit } hft
      | _, _ =>
        raise (.igConnection "Opening order blocked: broker-side stop and limit are required")
    else
      raise (.igConnection "Opening order blocked: missing or invalid guarded execution permit")

/-- Issue a permit under a fresh identifier. -/
def issueOpeningOrderPermit (fresh : String) : ClientProgram String := do
  let permit := "GUARDED-" ++ fresh
  modify fun client =>
    { client with openingOrderPermits := insert permit client.openingOrderPermits }
  pure permit

end IGClient

end IgTradingBot
