import IgTradingBot.Broker.Requests
import Mathlib.Algebra.Order.Ring.Rat

/-!
# Opening orders: one position per permit, and its protection

What a call that opens a position does at the broker, for every script of
replies. The first part counts the positions that a call creates; the second
part follows the confirmation, the read-backs and the emergency close, and says
exactly when the caller of an opening can trust its answer.
-/

namespace IgTradingBot

open Sequential Sequential.Program

/-- The event is the creation of a position. -/
def ClientEvent.isCreation : ClientEvent → Bool
  | .positionCreated _ => true
  | _ => false

/-- The event is the closing of a position. -/
def ClientEvent.isClosing : ClientEvent → Bool
  | .positionClosed _ => true
  | _ => false

/-- The event is a read-back that shows both protective levels. -/
def ClientEvent.showsBothLevels : ClientEvent → Bool
  | .levelsRead stopLevel limitLevel => stopLevel.isSome && limitLevel.isSome
  | _ => false

namespace IGClient

/-- Positions created so far. -/
def createdPositions (client : IGClient) : ℕ := client.history.countP ClientEvent.isCreation

/-- Positions closed so far. -/
def closedPositions (client : IGClient) : ℕ := client.history.countP ClientEvent.isClosing

/-- Read-backs so far that showed both levels. -/
def completeReads (client : IGClient) : ℕ := client.history.countP ClientEvent.showsBothLevels

/-- From one state to a later one, this many positions are created and closed
and this many complete read-backs are made. -/
structure Advances (created closed reads : ℕ) (before after : IGClient) : Prop where
  created : after.createdPositions = before.createdPositions + created
  closed : after.closedPositions = before.closedPositions + closed
  reads : after.completeReads = before.completeReads + reads

/-- Two advances in sequence. -/
theorem Advances.trans {first second third : IGClient} {created closed reads : ℕ}
    {createdLater closedLater readsLater : ℕ} (one : Advances created closed reads first second)
    (two : Advances createdLater closedLater readsLater second third) :
    Advances (created + createdLater) (closed + closedLater) (reads + readsLater) first third :=
  ⟨by rw [two.created, one.created, Nat.add_assoc], by rw [two.closed, one.closed, Nat.add_assoc],
    by rw [two.reads, one.reads, Nat.add_assoc]⟩

/-- A state advances by nothing to itself. -/
theorem Advances.refl (client : IGClient) : Advances 0 0 0 client client := ⟨rfl, rfl, rfl⟩

/-- An event counts for what it is. -/
theorem advances_record (event : ClientEvent) (client : IGClient) :
    Advances (if event.isCreation then 1 else 0) (if event.isClosing then 1 else 0)
      (if event.showsBothLevels then 1 else 0) client (record event client) := by
  refine ⟨?_, ?_, ?_⟩
  · exact List.countP_cons
  · exact List.countP_cons
  · exact List.countP_cons

/-- A repeated creation advances by the number of repetitions. -/
theorem advances_creations (payload : OrderPayload) (count : ℕ) (client : IGClient) :
    Advances count 0 0 client ((record (.positionCreated payload))^[count] client) := by
  induction count with
  | zero => exact Advances.refl client
  | succ count inductionHypothesis =>
    rw [Function.iterate_succ_apply']
    exact inductionHypothesis.trans (advances_record (.positionCreated payload) _)

/-- An order request creates one position for each processed attempt. -/
theorem advances_opening (payload : OrderPayload) (hft : Bool) (script : RequestScript DealBody)
    (client : IGClient) :
    Advances (requestEffects hft script) 0 0 client
      (final (request (record (.positionCreated payload)) hft script) client) := by
  rw [request_final]
  exact advances_creations payload _ client

/-- The scaling factor is always found, and looking for it changes nothing. -/
theorem get_scaling_factor_run (script : RequestScript MarketBody) (epic : String)
    (client : IGClient) : ∃ scaling, getScalingFactor script epic client = (.ok scaling, client) := by
  unfold getScalingFactor
  cases knownScalingFactor epic with
  | some scaling => exact ⟨scaling, rfl⟩
  | none =>
    have unchanged := get_final script client
    unfold final at unchanged
    simp only [rescue_run, bind_run]
    rcases fetched : get script client with ⟨failure | response, after⟩
    · rw [fetched] at unchanged
      exact ⟨1, by rw [← unchanged]; rfl⟩
    · rw [fetched] at unchanged
      obtain rfl : after = client := unchanged
      cases decoded : response.decode with
      | error failure => exact ⟨1, by simp [decoded]⟩
      | ok body => exact ⟨scalingOfMarket body, by simp [decoded]⟩

section Frames

variable {invariant : IGClient → Prop}

/-- A request keeps what its effect keeps. -/
theorem keeps_request {β : Type} {processed : IGClient → IGClient}
    (stable : ∀ client, invariant client → invariant (processed client)) (hft : Bool)
    (script : RequestScript β) : Keeps invariant (request processed hft script) := by
  refine keeps_of_final fun client holds => ?_
  have ended := request_final processed hft script client
  unfold final at ended
  rw [ended]
  generalize requestEffects hft script = count
  induction count with
  | zero => exact holds
  | succ count inductionHypothesis =>
    rw [Function.iterate_succ_apply']
    exact stable _ inductionHypothesis

/-- A request that reads keeps everything. -/
theorem keeps_get {β : Type} (script : RequestScript β) : Keeps invariant (get script) :=
  keeps_request (fun _ holds => holds) false script

variable (stable : ∀ event client, invariant client → invariant (record event client))

include stable

/-- A read-back only records. -/
theorem keeps_read_back (script : RequestScript PositionBody) (lastIsDict : Bool) :
    Keeps invariant (readBack script lastIsDict) := by
  refine keeps_rescue (keeps_bind (keeps_bind (keeps_get script) fun response => ?_)
    fun body => ?_) fun _ => keeps_pure _
  · refine keeps_ite (fun _ => ?_) fun _ => keeps_raise _
    rcases response.json with _ | _ | _ | _
    · exact keeps_raise _
    · exact keeps_pure _
    · exact keeps_pure _
    · exact keeps_raise _
  · cases body with
    | position stopLevel limitLevel =>
      exact keeps_bind (keeps_modify (stable _)) fun _ => keeps_pure _
    | otherValue => exact keeps_pure _
    | notADict => exact keeps_pure _

/-- The read-backs only record; the induction follows those that are left. -/
theorem keeps_read_back_loop (readBacks : ℕ → RequestScript PositionBody) (fuel attempt : ℕ)
    (lastIsDict : Bool) : Keeps invariant (readBackLoop readBacks fuel attempt lastIsDict) := by
  induction fuel generalizing attempt lastIsDict with
  | zero => exact keeps_pure _
  | succ fuel inductionHypothesis =>
    refine keeps_bind (keeps_read_back stable (readBacks attempt) lastIsDict) fun shown => ?_
    exact keeps_ite (fun _ => keeps_pure _) fun _ => inductionHypothesis (attempt + 1) shown.2

/-- Closing only records. -/
theorem keeps_close_position (script : CloseScript) (dealId : String) :
    Keeps invariant (closePosition script dealId) := by
  have recorded (isProcessed : Bool) : Keeps invariant (Program.modify fun client : IGClient =>
      if isProcessed then record (.positionClosed dealId) client else client :
        ClientProgram Unit) := by
    refine keeps_modify fun client holds => ?_
    cases isProcessed with
    | true => exact stable _ _ holds
    | false => exact holds
  unfold closePosition
  rcases script.closing with _ | ⟨isProcessed, error⟩ | ⟨isProcessed, response⟩
  · exact keeps_raise _
  · exact keeps_bind (recorded isProcessed) fun _ => keeps_raise _
  · refine keeps_bind (recorded isProcessed) fun _ => ?_
    refine keeps_bind (keeps_ofExcept _) fun body => ?_
    refine keeps_bind (keeps_ofExcept _) fun result => ?_
    refine keeps_ite (fun _ => ?_) fun _ => keeps_pure _
    refine keeps_rescue ?_ fun _ => keeps_pure _
    refine keeps_bind (keeps_get _) fun confirmation => ?_
    exact keeps_bind (keeps_ofExcept _) fun confirmed => keeps_ofExcept _

/-- The verification of the protection only records. -/
theorem keeps_verify_attached_protection (script : OpeningScript) (dealId : String) :
    Keeps invariant (verifyAttachedProtection script dealId) := by
  refine keeps_bind (keeps_read_back_loop stable script.readBacks 3 0 true) fun shown => ?_
  refine keeps_ite (fun _ => keeps_pure _) fun _ => ?_
  refine keeps_bind (keeps_rescue (keeps_close_position stable script.emergency dealId)
    fun _ => keeps_raise _) fun _ => ?_
  exact keeps_ite (fun _ => keeps_raise _) fun _ => keeps_raise _

/-- A transmission only records: what no event changes stays as it is. -/
theorem keeps_transmit_opening (script : OpeningScript) (payload : OrderPayload) (hft : Bool) :
    Keeps invariant (transmitOpening script payload hft) := by
  refine keeps_bind (keeps_request (stable _) hft script.opening) fun response => ?_
  refine keeps_bind (keeps_ofExcept _) fun body => ?_
  refine keeps_bind (keeps_ofExcept _) fun result => ?_
  refine keeps_ite (fun _ => ?_) fun _ => keeps_pure _
  refine keeps_rescue ?_ fun failure => keeps_ite (fun _ => keeps_raise _) fun _ => keeps_pure _
  refine keeps_bind (keeps_get _) fun confirmation => ?_
  refine keeps_bind (keeps_ofExcept _) fun confirmed => ?_
  refine keeps_bind (keeps_ofExcept _) fun confirm => ?_
  refine keeps_ite (fun _ => ?_) fun _ => keeps_pure _
  cases confirm.dealId with
  | none => exact keeps_raise _
  | some dealId =>
    refine keeps_ite (fun _ => keeps_raise _) fun _ => ?_
    exact keeps_bind (keeps_verify_attached_protection stable script dealId) fun _ => keeps_pure _

end Frames

/-- The call passes its own checks and transmits the order. -/
def Transmits (client : IGClient) (stopDistance limitDistance : Option ℚ)
    (executionPermit : Option String) (permit : String) : Prop :=
  executionPermit = some permit ∧ permit ∈ client.openingOrderPermits ∧
    ∃ stop limit, stopDistance = some stop ∧ limitDistance = some limit ∧ 0 < stop ∧ 0 < limit

/-- The client with a permit removed. -/
def withoutPermit (client : IGClient) (permit : String) : IGClient :=
  { client with openingOrderPermits := client.openingOrderPermits.erase permit }

/-- A call that passes its checks is a transmission without its permit. -/
theorem place_order_transmits (script : OpeningScript) (epic direction : String) (size : ℚ)
    (stopDistance limitDistance : Option ℚ) (hft : Bool) (executionPermit : Option String)
    (permit : String) (client : IGClient)
    (passed : Transmits client stopDistance limitDistance executionPermit permit) :
    ∃ payload : OrderPayload, payload.dealReference = permit ∧
      placeOrder script epic direction size stopDistance limitDistance hft executionPermit client =
        transmitOpening script payload hft (client.withoutPermit permit) := by
  obtain ⟨rfl, permitted, stop, limit, rfl, rfl, stopPositive, limitPositive⟩ := passed
  obtain ⟨scaling, found⟩ :=
    get_scaling_factor_run script.market epic (client.withoutPermit permit)
  have positive : ¬ (stop ≤ 0 ∨ limit ≤ 0) := by
    rintro (bad | bad)
    · exact absurd stopPositive (not_lt.mpr bad)
    · exact absurd limitPositive (not_lt.mpr bad)
  refine ⟨⟨epic, direction, size, getInstrumentCurrency epic, stop * scaling, limit * scaling,
    permit⟩, rfl, ?_⟩
  unfold withoutPermit at found ⊢
  simp only [placeOrder, bind_run, read_run, permitted, if_true, modify_run, positive, if_false,
    found]

/-- A call that does not pass its checks raises and transmits nothing. -/
theorem place_order_blocked (script : OpeningScript) (epic direction : String) (size : ℚ)
    (stopDistance limitDistance : Option ℚ) (hft : Bool) (executionPermit : Option String)
    (client : IGClient)
    (blocked : ∀ permit, ¬ Transmits client stopDistance limitDistance executionPermit permit) :
    (final (placeOrder script epic direction size stopDistance limitDistance hft executionPermit)
      client).history = client.history := by
  unfold final
  cases executionPermit with
  | none => rfl
  | some permit =>
    by_cases permitted : permit ∈ client.openingOrderPermits
    · rcases stopDistance with _ | stop
      · simp [placeOrder, bind_run, permitted]
      · rcases limitDistance with _ | limit
        · simp [placeOrder, bind_run, permitted]
        · have bad : stop ≤ 0 ∨ limit ≤ 0 := by
            by_contra positive
            obtain ⟨stopPositive, limitPositive⟩ := not_or.mp positive
            exact blocked permit ⟨rfl, permitted, stop, limit, rfl, rfl,
              not_le.mp stopPositive, not_le.mp limitPositive⟩
          simp [placeOrder, bind_run, permitted, bad]
    · simp [placeOrder, bind_run, permitted]

/-- The read-back is answered with a position that shows both levels. -/
def ShowsLevels (script : RequestScript PositionBody) : Prop :=
  ∃ response stopLevel limitLevel, script.Answers false response ∧
    response.isSuccess = true ∧
      response.json = some (.position (some stopLevel) (some limitLevel))

/-- A request that reads returns in the state in which it started. -/
theorem get_run {β : Type} (script : RequestScript β) (client : IGClient) :
    (∃ response, script.Answers false response ∧ get script client = (.ok response, client)) ∨
      ((∀ response, ¬ script.Answers false response) ∧
        ∃ failure, failure ≠ emergencyCloseFailed ∧ get script client = (.error failure, client)) := by
  have unchanged := get_final script client
  have apart := request_raises id false script client
  have answers := request_returns_iff id false script client
  unfold final at unchanged
  unfold get at unchanged ⊢
  unfold outcome at answers apart
  rcases ended : request id false script client with ⟨failure | response, after⟩
  · rw [ended] at unchanged answers apart
    obtain rfl : after = client := unchanged
    refine Or.inr ⟨?_, failure, ?_, rfl⟩
    · intro response answered
      have returned := (answers response).mpr answered
      simp at returned
    · rintro rfl
      exact apart rfl
  · rw [ended] at unchanged answers
    obtain rfl : after = client := unchanged
    exact Or.inl ⟨response, (answers response).mp rfl, rfl⟩

/-- A request is answered with at most one response. -/
theorem answers_unique {β : Type} {script : RequestScript β} {one other : HttpResponse β}
    (first : script.Answers false one) (second : script.Answers false other) : one = other := by
  have returnedOne := (request_returns_iff id false script {} one).mpr first
  have returnedOther := (request_returns_iff id false script {} other).mpr second
  rw [returnedOne] at returnedOther
  exact Except.ok.inj returnedOther

/-- A request that reads returns the response that answers it. -/
theorem get_answered {β : Type} {script : RequestScript β} {response : HttpResponse β}
    (answered : script.Answers false response) (client : IGClient) :
    get script client = (.ok response, client) := by
  rcases get_run script client with ⟨other, otherAnswered, fetched⟩ | ⟨unanswered, _⟩
  · rw [fetched, answers_unique otherAnswered answered]
  · exact absurd answered (unanswered response)

/-- The lookup of a position is answered with these levels. -/
def ReadsLevels (script : RequestScript PositionBody) (stopLevel limitLevel : Option Numeral) :
    Prop :=
  ∃ response, script.Answers false response ∧ response.isSuccess = true ∧
    response.json = some (.position stopLevel limitLevel)

/-- A lookup is answered with the levels of one position. -/
theorem reads_levels_unique {script : RequestScript PositionBody}
    {stopLevel limitLevel otherStop otherLimit : Option Numeral}
    (reads : ReadsLevels script stopLevel limitLevel)
    (again : ReadsLevels script otherStop otherLimit) :
    stopLevel = otherStop ∧ limitLevel = otherLimit := by
  obtain ⟨response, answered, _, body⟩ := reads
  obtain ⟨other, otherAnswered, _, otherBody⟩ := again
  obtain rfl := answers_unique answered otherAnswered
  simpa [body] using otherBody

/-- A lookup returns the position that it is answered with, without one it returns some other value
or raises, and it changes nothing. -/
theorem get_position_run (script : RequestScript PositionBody) (client : IGClient) :
    (∃ stopLevel limitLevel, ReadsLevels script stopLevel limitLevel ∧
        getPosition script client = (.ok (.position stopLevel limitLevel), client)) ∨
      ((∀ stopLevel limitLevel, ¬ReadsLevels script stopLevel limitLevel) ∧
        (getPosition script client = (.ok .otherValue, client) ∨
          ∃ failure, getPosition script client = (.error failure, client))) := by
  rcases get_run script client with ⟨response, answered, fetched⟩ | ⟨unanswered, failure, _, fetched⟩
  · have hidden (reason : ¬∃ stopLevel limitLevel, response.isSuccess = true ∧
        response.json = some (.position stopLevel limitLevel)) :
        ∀ stopLevel limitLevel, ¬ReadsLevels script stopLevel limitLevel := by
      rintro stopLevel limitLevel ⟨other, otherAnswered, shows⟩
      obtain rfl := answers_unique otherAnswered answered
      exact reason ⟨stopLevel, limitLevel, shows⟩
    by_cases success : response.isSuccess = true
    · rcases body : response.json with _ | ⟨stopLevel, limitLevel⟩ | _ | _
      · exact Or.inr ⟨hidden (by simp [body]), Or.inr ⟨_, by
          simp [getPosition, bind_run, fetched, success, body]; rfl⟩⟩
      · exact Or.inl ⟨stopLevel, limitLevel, ⟨response, answered, success, body⟩,
          by simp [getPosition, bind_run, fetched, success, body]⟩
      · exact Or.inr ⟨hidden (by simp [body]), Or.inl
          (by simp [getPosition, bind_run, fetched, success, body])⟩
      · exact Or.inr ⟨hidden (by simp [body]), Or.inr ⟨.badShape,
          by simp [getPosition, bind_run, fetched, success, body]⟩⟩
    · exact Or.inr ⟨hidden (by simp [success]), Or.inr ⟨.igConnection "IG position lookup failed",
        by simp [getPosition, bind_run, fetched, success]⟩⟩
  · refine Or.inr ⟨?_, Or.inr ⟨failure, by simp [getPosition, bind_run, fetched]⟩⟩
    rintro stopLevel limitLevel ⟨response, answered, _⟩
    exact unanswered response answered

/-- The levels are shown exactly when the lookup is answered with both. -/
theorem shows_levels_iff (script : RequestScript PositionBody) :
    ShowsLevels script ↔ ∃ stopLevel limitLevel, ReadsLevels script (some stopLevel)
      (some limitLevel) := by
  constructor
  · rintro ⟨response, stopLevel, limitLevel, shows⟩
    exact ⟨stopLevel, limitLevel, response, shows⟩
  · rintro ⟨stopLevel, limitLevel, response, shows⟩
    exact ⟨response, stopLevel, limitLevel, shows⟩

/-- A read-back never raises, reports both levels exactly when the broker shows
them, and counts as complete exactly then. -/
theorem read_back_spec (script : RequestScript PositionBody) (lastIsDict : Bool)
    (client : IGClient) :
    ∃ shown isDict after, readBack script lastIsDict client = (.ok (shown, isDict), after) ∧
      (shown = true ↔ ShowsLevels script) ∧ Advances 0 0 (if shown then 1 else 0) client after := by
  rw [shows_levels_iff]
  rcases get_position_run script client with ⟨stop, limit, reads, read⟩ | ⟨hidden, unread⟩
  · refine ⟨stop.isSome && limit.isSome, true, record (.levelsRead stop limit) client,
      by simp [readBack, rescue_run, bind_run, read], ?_,
      advances_record (.levelsRead stop limit) client⟩
    constructor
    · intro both
      obtain ⟨stopShown, limitShown⟩ := Bool.and_eq_true_iff.mp both
      obtain ⟨stopLevel, rfl⟩ := Option.isSome_iff_exists.mp stopShown
      obtain ⟨limitLevel, rfl⟩ := Option.isSome_iff_exists.mp limitShown
      exact ⟨stopLevel, limitLevel, reads⟩
    · rintro ⟨stopLevel, limitLevel, shows⟩
      obtain ⟨rfl, rfl⟩ := reads_levels_unique reads shows
      rfl
  · have unshown : (false = true ↔ ∃ stopLevel limitLevel,
        ReadsLevels script (some stopLevel) (some limitLevel)) :=
      iff_of_false Bool.false_ne_true fun ⟨_, _, shows⟩ => hidden _ _ shows
    rcases unread with other | ⟨failure, raised⟩
    · exact ⟨false, false, client, by simp [readBack, rescue_run, bind_run, other], unshown,
        Advances.refl client⟩
    · exact ⟨false, lastIsDict, client, by simp [readBack, rescue_run, bind_run, raised], unshown,
        Advances.refl client⟩

/-- The read-backs never raise; they report success exactly when one of them
shows both levels, and count as one complete read exactly then. -/
theorem read_back_loop_spec (readBacks : ℕ → RequestScript PositionBody) (fuel attempt : ℕ)
    (lastIsDict : Bool) (client : IGClient) :
    ∃ shown isDict after,
      readBackLoop readBacks fuel attempt lastIsDict client = (.ok (shown, isDict), after) ∧
        (shown = true ↔ ∃ i, attempt ≤ i ∧ i < attempt + fuel ∧ ShowsLevels (readBacks i)) ∧
        Advances 0 0 (if shown then 1 else 0) client after := by
  induction fuel generalizing attempt lastIsDict client with
  | zero =>
    refine ⟨false, lastIsDict, client, rfl, ?_, Advances.refl client⟩
    constructor
    · intro shown
      exact absurd shown (by simp)
    · rintro ⟨i, after, before, _⟩
      omega
  | succ fuel inductionHypothesis =>
    obtain ⟨shown, isDict, after, readOnce, shows, advanced⟩ :=
      read_back_spec (readBacks attempt) lastIsDict client
    cases shown with
    | true =>
      refine ⟨true, isDict, after, by simp [readBackLoop, bind_run, readOnce], ?_, advanced⟩
      simp only [true_iff]
      exact ⟨attempt, le_rfl, by omega, shows.mp rfl⟩
    | false =>
      obtain ⟨later, isDictLater, afterLater, readLater, showsLater, advancedLater⟩ :=
        inductionHypothesis (attempt + 1) isDict after
      refine ⟨later, isDictLater, afterLater,
        by simp [readBackLoop, bind_run, readOnce, readLater], ?_, ?_⟩
      · have notNow : ¬ ShowsLevels (readBacks attempt) := mt shows.mpr Bool.false_ne_true
        rw [showsLater, Retries.exists_among_succ, or_iff_right notNow]
      · simpa using advanced.trans advancedLater

/-- The close request is answered with a dictionary, so that closing does not
raise, whatever the dictionary says. -/
def CloseAnswered (script : CloseScript) : Prop :=
  ∃ isProcessed response reply, script.closing = .answered isProcessed response ∧
    response.json = some (.dict reply)

/-- The confirmation of a close always has an answer and changes nothing. -/
theorem confirm_close_run (script : CloseScript) (result : DealReply) (client : IGClient) :
    ∃ reply, confirmClose script result client = (.ok reply, client) := by
  by_cases named : truthyText result.dealReference = true
  · rcases get_run script.confirmation client with
      ⟨response, _, fetched⟩ | ⟨_, failure, _, fetched⟩
    · rcases body : response.json with _ | ⟨confirmed⟩ | _
      · exact ⟨result, by simp [confirmClose, named, rescue_run, bind_run, fetched,
          HttpResponse.decode, body]⟩
      · exact ⟨confirmed, by simp [confirmClose, named, rescue_run, bind_run, fetched,
          HttpResponse.decode, body, DealBody.fields]⟩
      · exact ⟨result, by simp [confirmClose, named, rescue_run, bind_run, fetched,
          HttpResponse.decode, body, DealBody.fields]⟩
    · exact ⟨result, by simp [confirmClose, named, rescue_run, bind_run, fetched]⟩
  · exact ⟨result, by simp [confirmClose, named]⟩

/-- Closing returns exactly when the close request is answered, and it closes the
position exactly when the server has processed that request. -/
theorem close_position_spec (script : CloseScript) (dealId : String) (client : IGClient) :
    ∃ ended after, closePosition script dealId client = (ended, after) ∧
      ((∃ reply, ended = .ok reply) ↔ CloseAnswered script) ∧
      Advances 0 (if script.closing.isProcessed then 1 else 0) 0 client after := by
  have advanced (isProcessed : Bool) : Advances 0 (if isProcessed then 1 else 0) 0 client
      (if isProcessed = true then record (.positionClosed dealId) client else client) := by
    cases isProcessed with
    | true => exact advances_record (.positionClosed dealId) client
    | false => exact Advances.refl client
  rcases observed : script.closing with _ | ⟨isProcessed, error⟩ | ⟨isProcessed, response⟩
  · refine ⟨.error (.igConnection "HTTP client not initialized"), client,
      by simp [closePosition, observed], ?_, Advances.refl client⟩
    simp [CloseAnswered, observed]
  · refine ⟨.error error.failure, _, by simp only [closePosition, observed]; rfl, ?_,
      advanced isProcessed⟩
    simp [CloseAnswered, observed]
  · rcases body : response.json with _ | ⟨reply⟩ | _
    · refine ⟨.error .decode, _, ?_, ?_, advanced isProcessed⟩
      · simp only [closePosition, observed, bind_run, modify_run, ofExcept_run,
          HttpResponse.decode, body]
      · simp [CloseAnswered, observed, body]
    · have answered : CloseAnswered script := ⟨isProcessed, response, reply, observed, body⟩
      obtain ⟨confirmed, confirming⟩ := confirm_close_run script reply
        (if isProcessed = true then record (.positionClosed dealId) client else client)
      refine ⟨.ok confirmed, _, ?_, ?_, advanced isProcessed⟩
      · simp only [closePosition, observed, bind_run, modify_run, ofExcept_run,
          HttpResponse.decode, body, DealBody.fields]
        exact confirming
      · exact ⟨fun _ => answered, fun _ => ⟨confirmed, rfl⟩⟩
    · refine ⟨.error .badShape, _, ?_, ?_, advanced isProcessed⟩
      · simp only [closePosition, observed, bind_run, modify_run, ofExcept_run,
          HttpResponse.decode, body, DealBody.fields]
      · simp [CloseAnswered, observed, body]

/-- One of the read-backs of an opening shows both levels. -/
def ShowsProtection (script : OpeningScript) : Prop :=
  ∃ i < 3, ShowsLevels (script.readBacks i)

/-- The verification returns after a complete read. Otherwise it sends the
emergency close and raises; the exception says that this close failed exactly
when the close request is not answered. -/
theorem verify_attached_protection_spec (script : OpeningScript) (dealId : String)
    (client : IGClient) :
    ∃ ended after, verifyAttachedProtection script dealId client = (ended, after) ∧
      (ShowsProtection script → ended = .ok () ∧ Advances 0 0 1 client after) ∧
      (¬ ShowsProtection script →
        (∃ failure, ended = .error failure ∧
          (failure = emergencyCloseFailed ↔ ¬ CloseAnswered script.emergency)) ∧
        Advances 0 (if script.emergency.closing.isProcessed then 1 else 0) 0 client after) := by
  obtain ⟨shown, isDict, read, readBacks, shows, advanced⟩ :=
    read_back_loop_spec script.readBacks 3 0 true client
  have protection : shown = true ↔ ShowsProtection script := by
    rw [shows, ShowsProtection]
    simp
  cases shown with
  | true =>
    refine ⟨.ok (), read, by simp [verifyAttachedProtection, bind_run, readBacks], ?_, ?_⟩
    · intro _
      exact ⟨rfl, by simpa using advanced⟩
    · intro hidden
      exact absurd (protection.mp rfl) hidden
  | false =>
    have hidden : ¬ ShowsProtection script := by
      intro shown
      exact absurd (protection.mpr shown) (by simp)
    obtain ⟨closing, after, closed, answers, advancedClose⟩ :=
      close_position_spec script.emergency dealId read
    have advances : Advances 0 (if script.emergency.closing.isProcessed then 1 else 0) 0
        client after := by
      simpa using advanced.trans advancedClose
    cases closing with
    | error failure =>
      have unanswered : ¬ CloseAnswered script.emergency := by
        rw [← answers]
        simp
      refine ⟨.error emergencyCloseFailed, after,
        by simp [verifyAttachedProtection, bind_run, readBacks, rescue_run, closed], ?_, ?_⟩
      · intro shown
        exact absurd shown hidden
      · intro _
        exact ⟨⟨emergencyCloseFailed, rfl, by simpa using unanswered⟩, advances⟩
    | ok reply =>
      have answered : CloseAnswered script.emergency := answers.mp ⟨reply, rfl⟩
      refine ⟨.error (if isDict then emergencyClosed else .badShape), after, ?_, ?_, ?_⟩
      · cases isDict <;>
          simp [verifyAttachedProtection, bind_run, readBacks, rescue_run, closed]
      · intro shown
        exact absurd shown hidden
      · intro _
        refine ⟨⟨_, rfl, ?_⟩, advances⟩
        cases isDict <;> simp [answered, emergencyClosed, emergencyCloseFailed]

/-- The opening order is answered with a dictionary, and the confirmation is
looked up under its deal reference or under the permit. -/
def Replied (script : OpeningScript) (hft : Bool) (permit : String) : Prop :=
  ∃ response reply, script.opening.Answers hft response ∧ response.json = some (.dict reply) ∧
    truthyText (orText reply.dealReference (some permit)) = true

/-- The confirmation reports an accepted deal and names it. -/
def Confirms (script : OpeningScript) (confirm : DealReply) : Prop :=
  ∃ response, script.confirmation.Answers false response ∧
    response.json = some (.dict confirm) ∧ confirm.isAccepted = true ∧
      truthyText confirm.dealId = true

/-- At most one deal is confirmed. -/
theorem confirms_unique {script : OpeningScript} {one other : DealReply}
    (first : Confirms script one) (second : Confirms script other) : one = other := by
  obtain ⟨response, answered, body, _⟩ := first
  obtain ⟨response', answered', body', _⟩ := second
  obtain rfl := answers_unique answered answered'
  simpa using body.symm.trans body'

/-- The protection of a confirmed deal is verified before the confirmation returns. -/
theorem confirm_opening_confirmed {script : OpeningScript} {confirm : DealReply}
    (confirms : Confirms script confirm) (client : IGClient) :
    ∃ dealId, confirmOpening script client =
      (verifyAttachedProtection script dealId >>= fun _ => pure confirm) client := by
  obtain ⟨response, answered, body, accepted, named⟩ := confirms
  have fetched := get_answered answered client
  cases identified : confirm.dealId with
  | none => simp [identified, truthyText] at named
  | some dealId =>
    have nonempty : dealId ≠ "" := by
      simpa [identified, truthyText] using named
    refine ⟨dealId, ?_⟩
    simp [confirmOpening, bind_run, fetched, HttpResponse.decode, body, DealBody.fields, accepted,
      identified, nonempty]

/-- Without a confirmed deal nothing is verified: the state stays as it is, and
no emergency close is reported. -/
theorem confirm_opening_unconfirmed {script : OpeningScript}
    (unconfirmed : ∀ confirm, ¬ Confirms script confirm) (client : IGClient) :
    ∃ ended, confirmOpening script client = (ended, client) ∧
      ended ≠ .error emergencyCloseFailed := by
  rcases get_run script.confirmation client with
    ⟨response, answered, fetched⟩ | ⟨_, failure, apart, fetched⟩
  · rcases body : response.json with _ | ⟨confirm⟩ | _
    · exact ⟨.error .decode,
        by simp [confirmOpening, bind_run, fetched, HttpResponse.decode, body],
        by simp [emergencyCloseFailed]⟩
    · by_cases accepted : confirm.isAccepted = true
      · have unnamed : ¬ truthyText confirm.dealId = true := by
          intro named
          exact unconfirmed confirm ⟨response, answered, body, accepted, named⟩
        refine ⟨.error (.igConnection "Accepted opening order did not include a deal ID"), ?_,
          by simp [emergencyCloseFailed]⟩
        rcases identified : confirm.dealId with _ | dealId
        · simp [confirmOpening, bind_run, fetched, HttpResponse.decode, body, DealBody.fields,
            accepted, identified]
        · have blank : dealId = "" := by
            simpa [identified, truthyText] using unnamed
          simp [confirmOpening, bind_run, fetched, HttpResponse.decode, body, DealBody.fields,
            accepted, identified, blank]
      · exact ⟨.ok confirm, by simp [confirmOpening, bind_run, fetched, HttpResponse.decode, body,
          DealBody.fields, accepted], by simp⟩
    · exact ⟨.error .badShape, by simp [confirmOpening, bind_run, fetched, HttpResponse.decode,
        body, DealBody.fields], by simp [emergencyCloseFailed]⟩
  · exact ⟨.error failure, by simp [confirmOpening, bind_run, fetched], by simpa using apart⟩

/-- How a confirmation ends: it returns the confirmation of an accepted deal only
after a complete read, and the other ways of ending are told apart. -/
theorem confirm_opening_spec (script : OpeningScript) (client : IGClient) :
    ∃ ended after, confirmOpening script client = (ended, after) ∧
      (∀ confirm, Confirms script confirm →
        (ShowsProtection script → ended = .ok confirm ∧ Advances 0 0 1 client after) ∧
        (¬ ShowsProtection script →
          (∃ failure, ended = .error failure ∧
            (failure = emergencyCloseFailed ↔ ¬ CloseAnswered script.emergency)) ∧
          Advances 0 (if script.emergency.closing.isProcessed then 1 else 0) 0 client after)) ∧
      ((∀ confirm, ¬ Confirms script confirm) →
        ended ≠ .error emergencyCloseFailed ∧ Advances 0 0 0 client after) := by
  by_cases confirmed : ∃ confirm, Confirms script confirm
  · obtain ⟨confirm, confirms⟩ := confirmed
    obtain ⟨dealId, confirming⟩ := confirm_opening_confirmed confirms client
    obtain ⟨ended, after, verified, shown, hidden⟩ :=
      verify_attached_protection_spec script dealId client
    rw [confirming]
    by_cases protection : ShowsProtection script
    · obtain ⟨rfl, advanced⟩ := shown protection
      refine ⟨.ok confirm, after, by rw [bind_ok verified]; rfl, ?_, ?_⟩
      · intro other otherConfirms
        obtain rfl := confirms_unique confirms otherConfirms
        exact ⟨fun _ => ⟨rfl, advanced⟩, fun unshown => absurd protection unshown⟩
      · intro unconfirmed
        exact absurd confirms (unconfirmed confirm)
    · obtain ⟨⟨failure, rfl, reported⟩, advanced⟩ := hidden protection
      refine ⟨.error failure, after, by rw [bind_error verified], ?_, ?_⟩
      · intro other _
        exact ⟨fun shows => absurd shows protection, fun _ => ⟨⟨failure, rfl, reported⟩, advanced⟩⟩
      · intro unconfirmed
        exact absurd confirms (unconfirmed confirm)
  · have unconfirmed : ∀ confirm, ¬ Confirms script confirm := not_exists.mp confirmed
    obtain ⟨ended, confirming, silent⟩ := confirm_opening_unconfirmed unconfirmed client
    refine ⟨ended, client, confirming, ?_, fun _ => ⟨silent, Advances.refl client⟩⟩
    intro confirm confirms
    exact absurd confirms (unconfirmed confirm)

/-- The answer of an opening is a confirmed deal. -/
def Settles (script : OpeningScript) (hft : Bool) (permit : String) (confirm : DealReply) : Prop :=
  Replied script hft permit ∧ Confirms script confirm

/-- The handler of a transmission raises the exception of a failed emergency
close again, and no other one turns into it. -/
theorem raised_again_iff (failure : Failure) (reply : DealReply) :
    (if failure.isIGConnectionError then .error failure else .ok reply :
      Except Failure DealReply) = .error emergencyCloseFailed ↔ failure = emergencyCloseFailed := by
  by_cases connection : failure.isIGConnectionError = true
  · simp [connection]
  · simp only [connection]
    constructor
    · intro impossible
      simp at impossible
    · rintro rfl
      exact absurd rfl connection

/-- A replied order request goes on to the confirmation, whose exceptions are
filtered; by then the positions of the request are created. -/
theorem transmit_opening_replied {script : OpeningScript} {payload : OrderPayload} {hft : Bool}
    (replied : Replied script hft payload.dealReference) (client : IGClient) :
    ∃ reply opened, Advances (requestEffects hft script.opening) 0 0 client opened ∧
      transmitOpening script payload hft client =
        rescue (confirmOpening script) (fun failure =>
          if failure.isIGConnectionError then raise failure else pure reply) opened := by
  obtain ⟨response, reply, answered, body, named⟩ := replied
  have returned := (request_returns_iff (record (.positionCreated payload)) hft script.opening
    client response).mpr answered
  have created := advances_opening payload hft script.opening client
  unfold outcome at returned
  unfold final at created
  rcases requested : request (record (.positionCreated payload)) hft script.opening client with
    ⟨answer, opened⟩
  rw [requested] at returned created
  obtain rfl : answer = .ok response := returned
  refine ⟨reply, opened, created, ?_⟩
  simp [transmitOpening, bind_run, requested, HttpResponse.decode, body, DealBody.fields, named]

/-- A transmission that is not replied to ends after its order request, and no
emergency close is reported. -/
theorem transmit_opening_unreplied {script : OpeningScript} {payload : OrderPayload} {hft : Bool}
    (unreplied : ¬ Replied script hft payload.dealReference) (client : IGClient) :
    ∃ ended after, transmitOpening script payload hft client = (ended, after) ∧
      ended ≠ .error emergencyCloseFailed ∧
        Advances (requestEffects hft script.opening) 0 0 client after := by
  have returns := request_returns_iff (record (.positionCreated payload)) hft script.opening client
  have raises := request_raises (record (.positionCreated payload)) hft script.opening client
  have created := advances_opening payload hft script.opening client
  unfold outcome at returns raises
  unfold final at created
  rcases requested : request (record (.positionCreated payload)) hft script.opening client with
    ⟨failure | response, opened⟩
  · rw [requested] at created raises
    refine ⟨.error failure, opened, by simp [transmitOpening, bind_run, requested], ?_, created⟩
    intro reported
    exact raises (by simpa using reported)
  · rw [requested] at created returns
    have answered : script.opening.Answers hft response := (returns response).mp rfl
    rcases body : response.json with _ | ⟨reply⟩ | _
    · exact ⟨.error .decode, opened,
        by simp [transmitOpening, bind_run, requested, HttpResponse.decode, body],
        by simp [emergencyCloseFailed], created⟩
    · have unnamed : ¬ truthyText (orText reply.dealReference (some payload.dealReference)) =
          true := by
        intro named
        exact unreplied ⟨response, reply, answered, body, named⟩
      exact ⟨.ok reply, opened, by simp [transmitOpening, bind_run, requested,
        HttpResponse.decode, body, DealBody.fields, unnamed], by simp, created⟩
    · exact ⟨.error .badShape, opened, by simp [transmitOpening, bind_run, requested,
        HttpResponse.decode, body, DealBody.fields], by simp [emergencyCloseFailed], created⟩

/-- How a transmission ends. It creates one position for each processed attempt
of the order request; if the deal is confirmed, it ends as the verification of
the protection does. -/
theorem transmit_opening_spec (script : OpeningScript) (payload : OrderPayload) (hft : Bool)
    (client : IGClient) :
    ∃ ended after, transmitOpening script payload hft client = (ended, after) ∧
      (∀ confirm, Settles script hft payload.dealReference confirm →
        (ShowsProtection script →
          ended = .ok confirm ∧ Advances (requestEffects hft script.opening) 0 1 client after) ∧
        (¬ ShowsProtection script →
          (ended = .error emergencyCloseFailed ↔ ¬ CloseAnswered script.emergency) ∧
          Advances (requestEffects hft script.opening)
            (if script.emergency.closing.isProcessed then 1 else 0) 0 client after)) ∧
      ((∀ confirm, ¬ Settles script hft payload.dealReference confirm) →
        ended ≠ .error emergencyCloseFailed ∧
          Advances (requestEffects hft script.opening) 0 0 client after) := by
  by_cases replied : Replied script hft payload.dealReference
  · obtain ⟨reply, opened, created, transmitting⟩ := transmit_opening_replied replied client
    obtain ⟨ended, after, confirmed, settled, unsettled⟩ := confirm_opening_spec script opened
    rw [transmitting, rescue_run, confirmed]
    cases ended with
    | ok confirm =>
      refine ⟨.ok confirm, after, rfl, ?_, ?_⟩
      · rintro other ⟨_, otherConfirms⟩
        obtain ⟨shown, hidden⟩ := settled other otherConfirms
        refine ⟨?_, ?_⟩
        · intro protection
          obtain ⟨same, advanced⟩ := shown protection
          exact ⟨same, by simpa using created.trans advanced⟩
        · intro protection
          obtain ⟨⟨failure, impossible, _⟩, _⟩ := hidden protection
          simp at impossible
      · intro unconfirmed
        have advanced := (unsettled fun other confirms => unconfirmed other ⟨replied, confirms⟩).2
        exact ⟨by simp, by simpa using created.trans advanced⟩
    | error failure =>
      refine ⟨if failure.isIGConnectionError then .error failure else .ok reply, after, ?_, ?_, ?_⟩
      · by_cases connection : failure.isIGConnectionError = true <;> simp [connection]
      · rintro other ⟨_, otherConfirms⟩
        obtain ⟨shown, hidden⟩ := settled other otherConfirms
        refine ⟨?_, ?_⟩
        · intro protection
          have impossible := (shown protection).1
          simp at impossible
        · intro protection
          obtain ⟨⟨_, same, reported⟩, advanced⟩ := hidden protection
          obtain rfl := Except.error.inj same
          refine ⟨?_, by simpa using created.trans advanced⟩
          rw [raised_again_iff, reported]
      · intro unconfirmed
        obtain ⟨apart, advanced⟩ := unsettled fun other confirms =>
          unconfirmed other ⟨replied, confirms⟩
        refine ⟨?_, by simpa using created.trans advanced⟩
        rw [ne_eq, raised_again_iff]
        simpa using apart
  · obtain ⟨ended, after, transmitted, silent, created⟩ :=
      transmit_opening_unreplied replied client
    refine ⟨ended, after, transmitted, ?_, fun _ => ⟨silent, created⟩⟩
    rintro confirm ⟨repliedTo, _⟩
    exact absurd repliedTo replied

/-- The positions that a transmission creates, however it ends. -/
theorem created_positions_transmit (script : OpeningScript) (payload : OrderPayload) (hft : Bool)
    (client : IGClient) :
    (final (transmitOpening script payload hft) client).createdPositions =
      client.createdPositions + requestEffects hft script.opening := by
  obtain ⟨ended, after, transmitted, settled, unsettled⟩ :=
    transmit_opening_spec script payload hft client
  unfold final
  rw [transmitted]
  by_cases settles : ∃ confirm, Settles script hft payload.dealReference confirm
  · obtain ⟨confirm, settles⟩ := settles
    obtain ⟨shown, hidden⟩ := settled confirm settles
    by_cases protection : ShowsProtection script
    · exact (shown protection).2.created
    · exact (hidden protection).2.created
  · exact (unsettled fun confirm settles' => settles ⟨confirm, settles'⟩).2.created

section Calls

variable (script : OpeningScript) (epic direction : String) (size : ℚ)
  (stopDistance limitDistance : Option ℚ) (hft : Bool) (executionPermit : Option String)

/-- The order request of this call creates two positions: the call transmits, and
the request makes a processed attempt after another processed one. Only an
exception of the HTTP library, a 429 and a 401 are followed by another attempt,
so the first of the two came back in one of these ways. -/
def CreatesTwice (client : IGClient) : Prop :=
  (∃ permit, Transmits client stopDistance limitDistance executionPermit permit) ∧
    ∃ source target, source < target ∧ script.opening.Makes hft target ∧
      script.opening.Processes source ∧ script.opening.Processes target

/-- One call of an opening creates at most one position, except when its order
request is tried again after an attempt that the server has processed.

Proof: a call that does not pass its checks creates nothing. Otherwise the
permit is gone and the call makes one order request, whose effects are counted
by the attempts that the request helper makes. -/
theorem place_order_creates_once_iff (client : IGClient) :
    (final (placeOrder script epic direction size stopDistance limitDistance hft executionPermit)
        client).createdPositions ≤ client.createdPositions + 1 ↔
      ¬ CreatesTwice script stopDistance limitDistance hft executionPermit client := by
  by_cases passes : ∃ permit, Transmits client stopDistance limitDistance executionPermit permit
  · obtain ⟨permit, passed⟩ := passes
    obtain ⟨payload, _, transmits⟩ := place_order_transmits script epic direction size
      stopDistance limitDistance hft executionPermit permit client passed
    have created := created_positions_transmit script payload hft (client.withoutPermit permit)
    unfold final at created ⊢
    rw [transmits, created]
    have several := one_lt_request_effects_iff hft script.opening
    have sameCount : (client.withoutPermit permit).createdPositions = client.createdPositions := rfl
    rw [CreatesTwice, ← several, sameCount]
    constructor
    · rintro few ⟨_, twice⟩
      omega
    · intro once
      have few : ¬ 1 < requestEffects hft script.opening := by
        intro twice
        exact once ⟨⟨permit, passed⟩, twice⟩
      omega
  · have blocked := place_order_blocked script epic direction size stopDistance limitDistance hft
      executionPermit client (fun permit passed => passes ⟨permit, passed⟩)
    have sameCount : (final (placeOrder script epic direction size stopDistance limitDistance hft
        executionPermit) client).createdPositions = client.createdPositions := by
      rw [createdPositions, blocked, createdPositions]
    rw [sameCount]
    constructor
    · rintro _ ⟨transmits, _⟩
      exact passes transmits
    · intro _
      omega

/-- No call leaves its permit behind, so a permit serves one call only. -/
theorem place_order_consumes_permit (client : IGClient) (permit : String) :
    permit ∉ (final (placeOrder script epic direction size stopDistance limitDistance hft
      (some permit)) client).openingOrderPermits := by
  have consumed (change : OrderPayload) : Keeps
      (fun client => permit ∉ client.openingOrderPermits) (transmitOpening script change hft) :=
    keeps_transmit_opening (fun _ _ gone => gone) script change hft
  unfold final
  simp only [placeOrder, bind_run, read_run]
  by_cases permitted : permit ∈ client.openingOrderPermits
  · have gone : permit ∉ (client.withoutPermit permit).openingOrderPermits := by
      simp [withoutPermit]
    simp only [permitted, if_true, bind_run, modify_run]
    rcases stopDistance with _ | stop
    · exact gone
    · rcases limitDistance with _ | limit
      · exact gone
      · by_cases bad : stop ≤ 0 ∨ limit ≤ 0
        · simp only [bad, if_true]
          exact gone
        · obtain ⟨scaling, found⟩ :=
            get_scaling_factor_run script.market epic (client.withoutPermit permit)
          unfold withoutPermit at found gone
          simp only [bad, if_false, bind_run, found]
          exact (consumed _).final gone
  · simp [permitted]

/-- If the broker holds a position of this call when the call has ended, the call
has returned an accepted confirmation after a complete read-back, or it has
raised the exception that says that the emergency close failed. -/
def EndsProtected (ended : Except Failure DealReply) (after : IGClient) : Prop :=
  after.closedPositions < after.createdPositions →
    (∃ confirm, ended = .ok confirm ∧ confirm.isAccepted = true ∧ 0 < after.completeReads) ∨
      ended = .error emergencyCloseFailed

/-- A call that ends without a complete read and without the report of a failed
emergency close is protected only when it leaves no position. -/
theorem ends_protected_silent_iff {ended : Except Failure DealReply} {after : IGClient}
    (silent : ended ≠ .error emergencyCloseFailed) (unread : after.completeReads = 0) :
    EndsProtected ended after ↔ after.createdPositions ≤ after.closedPositions := by
  rw [← not_lt]
  constructor
  · intro protected' held
    rcases protected' held with ⟨_, _, _, read⟩ | raised
    · omega
    · exact silent raised
  · intro covered held
    exact absurd held covered

/-- The replies that keep an opening protected: the order request is never
processed, or the deal is confirmed and then a read-back shows both levels, or
the emergency close is not answered, or it is carried out on the only position. -/
def ProtectingReplies (permit : String) : Prop :=
  (∀ target, script.opening.Makes hft target → ¬ script.opening.Processes target) ∨
    ∃ confirm, Settles script hft permit confirm ∧
      (ShowsProtection script ∨ ¬ CloseAnswered script.emergency ∨
        (script.emergency.closing.isProcessed = true ∧
          ∀ source target, source < target → script.opening.Makes hft target →
            script.opening.Processes source → ¬ script.opening.Processes target))

/-- An emergency close covers what the order request created exactly when it is carried out and the
request was processed once. -/
theorem emergency_covers_iff (processed : requestEffects hft script.opening ≠ 0) :
    requestEffects hft script.opening ≤
        (if script.emergency.closing.isProcessed = true then 1 else 0) ↔
      script.emergency.closing.isProcessed = true ∧
        ∀ source target, source < target → script.opening.Makes hft target →
          script.opening.Processes source → ¬ script.opening.Processes target := by
  have several := one_lt_request_effects_iff hft script.opening
  constructor
  · intro covered
    by_cases carriedOut : script.emergency.closing.isProcessed = true
    · rw [if_pos carriedOut] at covered
      refine ⟨carriedOut, fun source target later made first second => ?_⟩
      have twice := several.mpr ⟨source, target, later, made, first, second⟩
      omega
    · rw [if_neg carriedOut] at covered
      omega
  · rintro ⟨carriedOut, single⟩
    rw [if_pos carriedOut]
    by_contra twice
    obtain ⟨source, target, later, made, first, second⟩ := several.mp (not_le.mp twice)
    exact single source target later made first second

/-- A transmission from the start of a call ends protected exactly on the
protecting replies. -/
theorem transmit_opening_protected_iff (payload : OrderPayload) (client : IGClient)
    (start : client.history = []) :
    EndsProtected (transmitOpening script payload hft client).1
        (transmitOpening script payload hft client).2 ↔
      ProtectingReplies script hft payload.dealReference := by
  have counted := created_positions_transmit script payload hft client
  obtain ⟨ended, after, transmitted, settled, unsettled⟩ :=
    transmit_opening_spec script payload hft client
  have noneCreated : client.createdPositions = 0 := by simp [createdPositions, start]
  have noneClosed : client.closedPositions = 0 := by simp [closedPositions, start]
  have noneRead : client.completeReads = 0 := by simp [completeReads, start]
  have positive := request_effects_pos_iff hft script.opening
  unfold final at counted
  rw [transmitted, noneCreated, Nat.zero_add] at counted
  rw [transmitted]
  by_cases unprocessed : requestEffects hft script.opening = 0
  · -- no attempt was processed, so that there is no position to protect
    have never : ∀ target, script.opening.Makes hft target → ¬ script.opening.Processes target := by
      intro target made processed
      have effect := positive.mpr ⟨target, made, processed⟩
      omega
    refine iff_of_true ?_ (Or.inl never)
    intro held
    simp only [counted] at held
    omega
  · have processed : ¬ ∀ target, script.opening.Makes hft target →
        ¬ script.opening.Processes target := by
      intro never
      obtain ⟨target, made, effect⟩ := positive.mp (Nat.pos_of_ne_zero unprocessed)
      exact never target made effect
    by_cases settles : ∃ confirm, Settles script hft payload.dealReference confirm
    · obtain ⟨confirm, settles⟩ := settles
      obtain ⟨shown, hidden⟩ := settled confirm settles
      by_cases protection : ShowsProtection script
      · obtain ⟨rfl, advanced⟩ := shown protection
        refine iff_of_true ?_ (Or.inr ⟨confirm, settles, Or.inl protection⟩)
        intro _
        obtain ⟨_, _, _, accepted, _⟩ := settles.2
        exact Or.inl ⟨confirm, rfl, accepted, by rw [advanced.reads, noneRead]; exact Nat.one_pos⟩
      · obtain ⟨reported, advanced⟩ := hidden protection
        by_cases answered : CloseAnswered script.emergency
        · have silent : ended ≠ .error emergencyCloseFailed := by
            rw [ne_eq, reported]
            exact not_not.mpr answered
          rw [ends_protected_silent_iff silent (by rw [advanced.reads, noneRead]), counted,
            advanced.closed, noneClosed, Nat.zero_add, emergency_covers_iff script hft unprocessed]
          constructor
          · exact fun covers => Or.inr ⟨confirm, settles, Or.inr (Or.inr covers)⟩
          · rintro (never | ⟨_, _, shows | unanswered | covers⟩)
            · exact absurd never processed
            · exact absurd shows protection
            · exact absurd answered unanswered
            · exact covers
        · refine iff_of_true ?_ (Or.inr ⟨confirm, settles, Or.inr (Or.inl answered)⟩)
          intro _
          exact Or.inr (reported.mpr answered)
    · obtain ⟨silent, advanced⟩ := unsettled fun confirm settles' => settles ⟨confirm, settles'⟩
      refine iff_of_false ?_ ?_
      · rw [ends_protected_silent_iff silent (by rw [advanced.reads, noneRead]), counted,
          advanced.closed, noneClosed]
        omega
      · rintro (never | ⟨confirm, settles', _⟩)
        · exact processed never
        · exact settles ⟨confirm, settles'⟩

/-- A call that opens a position ends protected exactly on the protecting replies.

Proof: the events of the call are counted from its start. Without a processed
order request there is no position. Otherwise a position is left unless the
emergency close is carried out on the only one, and the way of ending decides. -/
theorem place_order_ends_protected_iff (permits : Finset String) :
    EndsProtected
        (outcome (placeOrder script epic direction size stopDistance limitDistance hft
          executionPermit) { openingOrderPermits := permits })
        (final (placeOrder script epic direction size stopDistance limitDistance hft
          executionPermit) { openingOrderPermits := permits }) ↔
      ∀ permit, Transmits { openingOrderPermits := permits } stopDistance limitDistance
        executionPermit permit → ProtectingReplies script hft permit := by
  by_cases passes : ∃ permit, Transmits { openingOrderPermits := permits } stopDistance
      limitDistance executionPermit permit
  · obtain ⟨permit, passed⟩ := passes
    obtain ⟨payload, rfl, transmits⟩ := place_order_transmits script epic direction size
      stopDistance limitDistance hft executionPermit permit _ passed
    have only : (∀ other, Transmits { openingOrderPermits := permits } stopDistance limitDistance
        executionPermit other → ProtectingReplies script hft other) ↔
          ProtectingReplies script hft payload.dealReference := by
      constructor
      · intro each
        exact each _ passed
      · rintro protecting other ⟨given, _⟩
        obtain rfl : payload.dealReference = other := Option.some.inj (passed.1.symm.trans given)
        exact protecting
    rw [only]
    unfold outcome final
    rw [transmits]
    exact transmit_opening_protected_iff script hft payload _ rfl
  · have blocked := place_order_blocked script epic direction size stopDistance limitDistance hft
      executionPermit { openingOrderPermits := permits }
      (fun permit passed => passes ⟨permit, passed⟩)
    constructor
    · intro _ permit passed
      exact absurd ⟨permit, passed⟩ passes
    · intro _ held
      simp [createdPositions, blocked] at held

end Calls

/-- A request that is answered at once. -/
def answering {β : Type} (body : β) : RequestScript β :=
  { attempts := fun _ => .answered true ⟨200, some body⟩ }

/-- A script of an accepted opening; the order request, the stop level of the
read-backs and the reply to the emergency close are the arguments. -/
def acceptedOpening (opening : ℕ → Attempt DealBody) (stopLevel : Option Numeral)
    (closing : Attempt DealBody) : OpeningScript where
  market := answering .notADict
  opening := { attempts := opening }
  confirmation := answering (.dict { dealStatus := some "ACCEPTED", dealId := some "DEAL-1" })
  readBacks := fun _ => answering (.position stopLevel (some (.number (11 / 10))))
  emergency :=
    { closing, confirmation := answering (.dict { dealStatus := some "REJECTED" }) }

/-- An order request that the server processes although its first answer is lost. -/
def lostAnswer : ℕ → Attempt DealBody
  | 0 => .raised true .http
  | _ => .answered true ⟨200, some (.dict { dealReference := some "GUARDED-1" })⟩

/-- A lost answer makes one permit open two positions. -/
theorem lost_answer_creates_twice :
    ¬ ∀ (script : OpeningScript) (epic direction : String) (size : ℚ)
      (stopDistance limitDistance : Option ℚ) (hft : Bool) (executionPermit : Option String)
      (client : IGClient),
      (final (placeOrder script epic direction size stopDistance limitDistance hft executionPermit)
        client).createdPositions ≤ client.createdPositions + 1 := by
  intro creates_once
  have few := creates_once (acceptedOpening lostAnswer (some (.number 1)) .disconnected)
    "CS.D.EURUSD.CFD.IP" "BUY" 1 (some (1 / 100)) (some (2 / 100)) false (some "GUARDED-1")
    { openingOrderPermits := {"GUARDED-1"} }
  revert few
  decide +kernel

/-- The opening whose stop level is missing and whose emergency close the broker
rejects. -/
def rejectedEmergency : OpeningScript :=
  acceptedOpening (fun _ => .answered true ⟨200, some (.dict { dealReference := some "GUARDED-1" })⟩)
    none (.answered false ⟨200, some (.dict { dealReference := some "CLOSE-1" })⟩)

/-- A rejected emergency close is reported as a close, while the position stays
open without its stop. -/
theorem rejected_emergency_reported_closed :
    ¬ ∀ (script : OpeningScript) (epic direction : String) (size : ℚ)
      (stopDistance limitDistance : Option ℚ) (hft : Bool) (executionPermit : Option String)
      (permits : Finset String),
      EndsProtected
        (outcome (placeOrder script epic direction size stopDistance limitDistance hft
          executionPermit) { openingOrderPermits := permits })
        (final (placeOrder script epic direction size stopDistance limitDistance hft
          executionPermit) { openingOrderPermits := permits }) := by
  intro ends_protected
  have ended : outcome (placeOrder rejectedEmergency "CS.D.EURUSD.CFD.IP" "BUY" 1
      (some (1 / 100)) (some (2 / 100)) false (some "GUARDED-1"))
      { openingOrderPermits := {"GUARDED-1"} } = .error emergencyClosed := by
    decide +kernel
  rcases ends_protected rejectedEmergency "CS.D.EURUSD.CFD.IP" "BUY" 1 (some (1 / 100))
      (some (2 / 100)) false (some "GUARDED-1") {"GUARDED-1"} (by decide +kernel) with
    ⟨confirm, returned, _⟩ | raised
  · rw [ended] at returned
    simp at returned
  · rw [ended] at raised
    simp [emergencyClosed, emergencyCloseFailed] at raised

end IGClient

end IgTradingBot
