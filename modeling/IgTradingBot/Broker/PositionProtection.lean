import IgTradingBot.Broker.OpeningOrders

/-!
# The protection of an open position

The update of the stop and the target of an open position in `src/trading/ig_client.py`. The broker
may accept an update in the confirmation or in the body of the reply; without a verdict of either,
the position is read back until it shows the levels. What the update changes at the server is seen
through these read-backs only.
-/

namespace IgTradingBot

open Sequential Sequential.Program

/-- `str(confirm.get("dealStatus", "")).upper() == "REJECTED"`. -/
def DealReply.isRejected (reply : DealReply) : Bool :=
  match reply.dealStatus with
  | some status => decide (status.toUpper = "REJECTED")
  | none => false

/-- The answer to an update: a body of the broker, or the levels of a read-back. -/
structure UpdateReply extends DealReply where
  verifiedByPositionReadback : Bool := false
  deriving DecidableEq, Repr

namespace IGClient

/-- What an update of the protection meets. -/
structure UpdateScript where
  update : RequestScript DealBody
  confirmation : RequestScript DealBody
  readBacks : ℕ → RequestScript PositionBody

/-- `math.isclose(actual, expected, rel_tol=1e-9, abs_tol=1e-5)`. -/
def isClose (actual expected : ℚ) : Bool :=
  decide (|actual - expected| ≤ max (1 / 1000000000 * max |actual| |expected|) (1 / 100000))

/-- Whether a level that was read is the expected one; a level that is not
expected matches whatever was read. -/
def levelsMatch (actual : Option Numeral) (expected : Option ℚ) : Bool :=
  match expected, actual with
  | none, _ => true
  | some level, some (.number value) => isClose value level
  | some _, _ => false

/-- The exception of an update that the broker rejects. -/
def updateRejected : Failure := .igConnection "IG rejected SL/TP update"

/-- The body of the reply to an update; a body that is not JSON counts as empty. -/
def updateResult (response : HttpResponse DealBody) : Except Failure DealReply :=
  match response.json with
  | some body => body.fields
  | none => .ok {}

/-- The confirmation of an update: its data when it accepts the update, and
nothing when it gives no verdict or cannot be had. Exceptions are raised again
only when they are connection errors. -/
def confirmUpdate (script : UpdateScript) (dealReference : Option String) :
    ClientProgram (Option DealReply) :=
  if truthyText dealReference then
    rescue
      (do
        let response ← get script.confirmation
        let body ← ofExcept response.decode
        let confirm ← ofExcept body.fields
        if confirm.isAccepted then pure (some confirm)
        else if confirm.isRejected then raise updateRejected
        else pure none)
      (fun failure => if failure.isIGConnectionError then raise failure else pure none)
  else pure none

/-- One read-back of an updated position: its levels when they are the expected
ones, and whether the last body that was read is a dictionary. -/
def readUpdated (script : RequestScript PositionBody) (stopLevel limitLevel : Option ℚ)
    (lastIsDict : Bool) : ClientProgram (Option (Option Numeral × Option Numeral) × Bool) :=
  rescue
    (do
      let body ← getPosition script
      match body with
      | .position stop limit => do
          modify (record (.levelsRead stop limit))
          if levelsMatch stop stopLevel && levelsMatch limit limitLevel then
            pure (some (stop, limit), true)
          else pure (none, true)
      | _ => pure (none, false))
    (fun _ => pure (none, lastIsDict))

/-- The remaining read-backs of an updated position. -/
def readUpdatedLoop (readBacks : ℕ → RequestScript PositionBody)
    (stopLevel limitLevel : Option ℚ) :
    ℕ → ℕ → Bool → ClientProgram (Option (Option Numeral × Option Numeral) × Bool)
  | 0, _, lastIsDict => pure (none, lastIsDict)
  | fuel + 1, attempt, lastIsDict => do
      let found ← readUpdated (readBacks attempt) stopLevel limitLevel lastIsDict
      if found.1.isSome then pure found
      else readUpdatedLoop readBacks stopLevel limitLevel fuel (attempt + 1) found.2

/-- Read the position back when neither the confirmation nor the body of the reply gives a verdict.
The final message quotes the levels of the last body that was read, which raises in its own way when
that body is no dictionary. -/
def verifyPositionProtection (readBacks : ℕ → RequestScript PositionBody) (dealId : String)
    (stopLevel limitLevel : Option ℚ) (dealReference : Option String) :
    ClientProgram UpdateReply := do
  let found ← readUpdatedLoop readBacks stopLevel limitLevel 3 0 true
  match found.1 with
  | some levels =>
    pure
      { dealStatus := some "ACCEPTED"
        dealId := some dealId
        dealReference
        stopLevel := levels.1
        limitLevel := levels.2
        verifiedByPositionReadback := true }
  | none =>
    if found.2 then
      raise (.igConnection "Could not verify SL/TP protection after IG update")
    else raise .badShape

/-- Update the stop and the target of an open position. -/
def updatePositionSlTp (script : UpdateScript) (dealId : String)
    (stopLevel limitLevel : Option ℚ) : ClientProgram UpdateReply := do
  let response ← get script.update
  if response.isSuccess then do
    let result ← ofExcept (updateResult response)
    let confirmed ← confirmUpdate script result.dealReference
    match confirmed with
    | some confirm => pure { toDealReply := confirm }
    | none =>
      if result.isRejected then raise updateRejected
      else if result.isAccepted then pure { toDealReply := result }
      else
        verifyPositionProtection script.readBacks dealId stopLevel limitLevel result.dealReference
  else raise (.igConnection "IG rejected SL/TP update request")

/-- A level that was read lies within the tolerance of the requested one, if one is requested. -/
def Shows (actual : Option Numeral) (expected : Option ℚ) : Prop :=
  ∀ level, expected = some level → ∃ value, actual = some (.number value) ∧
    |value - level| ≤ max (1 / 1000000000 * max |value| |level|) (1 / 100000)

/-- The read-back is answered with a position that shows every requested level. -/
def ShowsRequested (script : RequestScript PositionBody) (stopLevel limitLevel : Option ℚ) : Prop :=
  ∃ response stop limit, script.Answers false response ∧ response.isSuccess = true ∧
    response.json = some (.position stop limit) ∧ Shows stop stopLevel ∧ Shows limit limitLevel

/-- The broker takes the update and replies with this body. -/
def UpdateScript.Replies (script : UpdateScript) (result : DealReply) : Prop :=
  ∃ response, script.update.Answers false response ∧ response.isSuccess = true ∧
    updateResult response = .ok result

/-- The reply names a deal, and its confirmation is answered with this body. -/
def UpdateScript.Confirms (script : UpdateScript) (result confirm : DealReply) : Prop :=
  truthyText result.dealReference = true ∧ ∃ response, script.confirmation.Answers false response ∧
    response.json = some (.dict confirm)

/-- The confirmation gives no verdict: it is not asked for, it cannot be had, or
it neither accepts nor rejects the update. -/
def UpdateScript.NoVerdict (script : UpdateScript) (result : DealReply) : Prop :=
  ∀ confirm, script.Confirms result confirm →
    confirm.isAccepted = false ∧ confirm.isRejected = false

/-- Some stage accepts the update: the confirmation, the reply, or one of the read-backs. -/
def UpdateScript.Accepts (script : UpdateScript) (stopLevel limitLevel : Option ℚ) : Prop :=
  ∃ result, script.Replies result ∧
    ((∃ confirm, script.Confirms result confirm ∧ confirm.isAccepted = true) ∨
      result.isAccepted = true ∨
      ∃ attempt < 3, ShowsRequested (script.readBacks attempt) stopLevel limitLevel)

/-- The confirmation rejects the update, or it gives no verdict while the reply rejects the update. -/
def UpdateScript.Rejects (script : UpdateScript) : Prop :=
  ∃ result, script.Replies result ∧
    ((∃ confirm, script.Confirms result confirm ∧ confirm.isRejected = true) ∨
      (script.NoVerdict result ∧ result.isRejected = true))

/-- A level matches exactly when it shows what was requested. -/
theorem levels_match_iff (actual : Option Numeral) (expected : Option ℚ) :
    levelsMatch actual expected = true ↔ Shows actual expected := by
  unfold Shows
  rcases expected with _ | level
  · simp [levelsMatch]
  · rcases actual with _ | value | _
    · simp [levelsMatch]
    · simp [levelsMatch, isClose]
    · simp [levelsMatch]

/-- A status says one thing only. -/
theorem not_accepted_of_rejected {reply : DealReply} (rejected : reply.isRejected = true) :
    reply.isAccepted = false := by
  rcases reported : reply.dealStatus with _ | status
  · simp [DealReply.isRejected, reported] at rejected
  · have upper : status.toUpper = "REJECTED" := by
      simpa [DealReply.isRejected, reported] using rejected
    simp [DealReply.isAccepted, reported, upper]

/-- A read-back shows the requested levels exactly when it is answered with levels that match. -/
theorem shows_requested_iff (script : RequestScript PositionBody)
    (stopLevel limitLevel : Option ℚ) :
    ShowsRequested script stopLevel limitLevel ↔ ∃ stop limit, ReadsLevels script stop limit ∧
      levelsMatch stop stopLevel = true ∧ levelsMatch limit limitLevel = true := by
  constructor
  · rintro ⟨response, stop, limit, answered, success, body, stopShown, limitShown⟩
    exact ⟨stop, limit, ⟨response, answered, success, body⟩, (levels_match_iff _ _).mpr stopShown,
      (levels_match_iff _ _).mpr limitShown⟩
  · rintro ⟨stop, limit, ⟨response, answered, success, body⟩, stopMatches, limitMatches⟩
    exact ⟨response, stop, limit, answered, success, body, (levels_match_iff _ _).mp stopMatches,
      (levels_match_iff _ _).mp limitMatches⟩

/-- A read-back never raises, and it finds levels exactly when the broker shows the requested
ones. -/
theorem read_updated_spec (script : RequestScript PositionBody) (stopLevel limitLevel : Option ℚ)
    (lastIsDict : Bool) (client : IGClient) :
    ∃ found after, readUpdated script stopLevel limitLevel lastIsDict client = (.ok found, after) ∧
      (found.1.isSome = true ↔ ShowsRequested script stopLevel limitLevel) := by
  rw [shows_requested_iff]
  rcases get_position_run script client with ⟨stop, limit, reads, read⟩ | ⟨hidden, unread⟩
  · by_cases both : levelsMatch stop stopLevel = true ∧ levelsMatch limit limitLevel = true
    · exact ⟨(some (stop, limit), true), record (.levelsRead stop limit) client,
        by simp [readUpdated, rescue_run, bind_run, read, both],
        iff_of_true rfl ⟨stop, limit, reads, both⟩⟩
    · refine ⟨(none, true), record (.levelsRead stop limit) client,
        by simp [readUpdated, rescue_run, bind_run, read, if_neg both], ?_⟩
      refine iff_of_false Bool.false_ne_true ?_
      rintro ⟨otherStop, otherLimit, again, bothMatch⟩
      obtain ⟨rfl, rfl⟩ := reads_levels_unique reads again
      exact both bothMatch
  · have unshown : ¬∃ stop limit, ReadsLevels script stop limit ∧
        levelsMatch stop stopLevel = true ∧ levelsMatch limit limitLevel = true :=
      fun ⟨_, _, reads, _⟩ => hidden _ _ reads
    rcases unread with other | ⟨failure, raised⟩
    · exact ⟨(none, false), client, by simp [readUpdated, rescue_run, bind_run, other],
        iff_of_false Bool.false_ne_true unshown⟩
    · exact ⟨(none, lastIsDict), client, by simp [readUpdated, rescue_run, bind_run, raised],
        iff_of_false Bool.false_ne_true unshown⟩

/-- The read-backs never raise; they find levels exactly when one of them shows the requested ones.
The induction follows the read-backs that are left. -/
theorem read_updated_loop_spec (readBacks : ℕ → RequestScript PositionBody)
    (stopLevel limitLevel : Option ℚ) (fuel attempt : ℕ) (lastIsDict : Bool) (client : IGClient) :
    ∃ found after,
      readUpdatedLoop readBacks stopLevel limitLevel fuel attempt lastIsDict client =
        (.ok found, after) ∧
      (found.1.isSome = true ↔ ∃ i, attempt ≤ i ∧ i < attempt + fuel ∧
        ShowsRequested (readBacks i) stopLevel limitLevel) := by
  induction fuel generalizing attempt lastIsDict client with
  | zero =>
    refine ⟨(none, lastIsDict), client, rfl, ?_⟩
    constructor
    · intro found
      exact absurd found (by simp)
    · rintro ⟨i, after, before, _⟩
      omega
  | succ fuel inductionHypothesis =>
    obtain ⟨found, after, readOnce, shows⟩ :=
      read_updated_spec (readBacks attempt) stopLevel limitLevel lastIsDict client
    by_cases matched : found.1.isSome = true
    · refine ⟨found, after, by simp [readUpdatedLoop, bind_run, readOnce, matched], ?_⟩
      exact iff_of_true matched ⟨attempt, le_rfl, by omega, shows.mp matched⟩
    · obtain ⟨later, afterLater, readLater, showsLater⟩ :=
        inductionHypothesis (attempt + 1) found.2 after
      refine ⟨later, afterLater,
        by simp [readUpdatedLoop, bind_run, readOnce, matched, readLater], ?_⟩
      rw [showsLater, Retries.exists_among_succ, or_iff_right (mt shows.mpr matched)]

/-- The verification returns exactly when one of the read-backs shows the requested levels. -/
theorem verify_position_protection_returns (readBacks : ℕ → RequestScript PositionBody)
    (dealId : String) (stopLevel limitLevel : Option ℚ) (dealReference : Option String)
    (client : IGClient) :
    (∃ reply, outcome (verifyPositionProtection readBacks dealId stopLevel limitLevel dealReference)
        client = .ok reply) ↔
      ∃ attempt < 3, ShowsRequested (readBacks attempt) stopLevel limitLevel := by
  obtain ⟨⟨levels, isDict⟩, after, read, shows⟩ :=
    read_updated_loop_spec readBacks stopLevel limitLevel 3 0 true client
  have shown : levels.isSome = true ↔
      ∃ attempt < 3, ShowsRequested (readBacks attempt) stopLevel limitLevel := by
    simpa using shows
  rw [← shown]
  unfold outcome
  cases levels with
  | some levels => simp [verifyPositionProtection, bind_run, read]
  | none => cases isDict <;> simp [verifyPositionProtection, bind_run, read]

section Confirmations

variable (script : UpdateScript) (result : DealReply) (client : IGClient)

/-- A reply is confirmed with at most one body. -/
theorem update_confirms_unique {one other : DealReply} (first : script.Confirms result one)
    (second : script.Confirms result other) : one = other := by
  obtain ⟨_, response, answered, body⟩ := first
  obtain ⟨_, otherResponse, otherAnswered, otherBody⟩ := second
  obtain rfl := answers_unique otherAnswered answered
  simpa [body] using otherBody

/-- A confirmation that accepts the update is returned, one that rejects it raises, and any other
one decides nothing. -/
theorem confirm_update_confirmed {confirm : DealReply} (confirms : script.Confirms result confirm) :
    confirmUpdate script result.dealReference client =
      (if confirm.isAccepted then .ok (some confirm)
        else if confirm.isRejected then .error updateRejected else .ok none, client) := by
  obtain ⟨named, response, answered, body⟩ := confirms
  have fetched := get_answered answered client
  by_cases accepted : confirm.isAccepted = true
  · simp [confirmUpdate, named, rescue_run, bind_run, fetched, HttpResponse.decode, body,
      DealBody.fields, accepted]
  · by_cases rejected : confirm.isRejected = true
    · simp [confirmUpdate, named, rescue_run, bind_run, fetched, HttpResponse.decode, body,
        DealBody.fields, accepted, rejected, updateRejected, Failure.isIGConnectionError]
    · simp [confirmUpdate, named, rescue_run, bind_run, fetched, HttpResponse.decode, body,
        DealBody.fields, accepted, rejected]

/-- Without a confirmation that can be read, an update is decided elsewhere or raises. -/
theorem confirm_update_unconfirmed (unconfirmed : ∀ confirm, ¬script.Confirms result confirm) :
    confirmUpdate script result.dealReference client = (.ok none, client) ∨
      ∃ failure, confirmUpdate script result.dealReference client = (.error failure, client) := by
  by_cases named : truthyText result.dealReference = true
  · rcases get_run script.confirmation client with
      ⟨response, answered, fetched⟩ | ⟨_, failure, _, fetched⟩
    · rcases body : response.json with _ | ⟨confirm⟩ | _
      · left
        simp [confirmUpdate, named, rescue_run, bind_run, fetched, HttpResponse.decode, body,
          Failure.isIGConnectionError]
      · exact absurd ⟨named, response, answered, body⟩ (unconfirmed confirm)
      · left
        simp [confirmUpdate, named, rescue_run, bind_run, fetched, HttpResponse.decode, body,
          DealBody.fields, Failure.isIGConnectionError]
    · by_cases connection : failure.isIGConnectionError = true
      · right
        exact ⟨failure, by simp [confirmUpdate, named, rescue_run, bind_run, fetched, connection]⟩
      · left
        simp [confirmUpdate, named, rescue_run, bind_run, fetched, connection]
  · left
    simp [confirmUpdate, named]

/-- The confirmation returns a body only if the body accepts the update, and it decides nothing only
if it gives no verdict. -/
theorem confirm_update_spec :
    ∃ ended, confirmUpdate script result.dealReference client = (ended, client) ∧
      (∀ confirm, ended = .ok (some confirm) →
        script.Confirms result confirm ∧ confirm.isAccepted = true) ∧
      (ended = .ok none → script.NoVerdict result) := by
  by_cases confirmed : ∃ confirm, script.Confirms result confirm
  · obtain ⟨confirm, confirms⟩ := confirmed
    refine ⟨_, confirm_update_confirmed script result client confirms, ?_, ?_⟩
    · intro returned ended
      by_cases accepted : confirm.isAccepted = true
      · obtain rfl : confirm = returned := by simpa [accepted] using ended
        exact ⟨confirms, accepted⟩
      · by_cases rejected : confirm.isRejected = true <;> simp [accepted, rejected] at ended
    · intro ended other otherConfirms
      obtain rfl := update_confirms_unique script result confirms otherConfirms
      by_cases accepted : confirm.isAccepted = true
      · simp [accepted] at ended
      · by_cases rejected : confirm.isRejected = true
        · simp [accepted, rejected] at ended
        · exact ⟨by simpa using accepted, by simpa using rejected⟩
  · have unconfirmed : ∀ confirm, ¬script.Confirms result confirm :=
      fun confirm confirms => confirmed ⟨confirm, confirms⟩
    have silent : script.NoVerdict result :=
      fun confirm confirms => absurd confirms (unconfirmed confirm)
    rcases confirm_update_unconfirmed script result client unconfirmed with none | ⟨failure, raised⟩
    · exact ⟨_, none, by simp, fun _ => silent⟩
    · exact ⟨_, raised, by simp, by simp⟩

end Confirmations

/-- An update is truthful: it returns only if some stage accepts it, and it raises whenever the
broker rejects it. -/
def Truthful (script : UpdateScript) (stopLevel limitLevel : Option ℚ)
    (ended : Except Failure UpdateReply) : Prop :=
  ((∃ reply, ended = .ok reply) → script.Accepts stopLevel limitLevel) ∧
    (script.Rejects → ∃ failure, ended = .error failure)

section Updates

variable (script : UpdateScript) (dealId : String) (stopLevel limitLevel : Option ℚ)
  (client : IGClient)

/-- Without a reply, an update raises. -/
theorem update_unreplied (unreplied : ∀ result, ¬script.Replies result) :
    ∃ failure, outcome (updatePositionSlTp script dealId stopLevel limitLevel) client =
      .error failure := by
  unfold outcome
  rcases get_run script.update client with ⟨response, answered, fetched⟩ | ⟨_, failure, _, fetched⟩
  · by_cases success : response.isSuccess = true
    · rcases body : updateResult response with failure | result
      · exact ⟨failure, by simp [updatePositionSlTp, bind_run, fetched, success, body]⟩
      · exact absurd ⟨response, answered, success, body⟩ (unreplied result)
    · exact ⟨_, by simp [updatePositionSlTp, bind_run, fetched, success]; rfl⟩
  · exact ⟨failure, by simp [updatePositionSlTp, bind_run, fetched]⟩

/-- After a reply, the confirmation comes first, then the body of the reply, and then the
read-backs. -/
theorem update_replied {result : DealReply} (replies : script.Replies result) :
    outcome (updatePositionSlTp script dealId stopLevel limitLevel) client =
      match (confirmUpdate script result.dealReference client).1 with
      | .error failure => .error failure
      | .ok (some confirm) => .ok { toDealReply := confirm }
      | .ok none =>
        if result.isRejected then .error updateRejected
        else if result.isAccepted then .ok { toDealReply := result }
        else outcome (verifyPositionProtection script.readBacks dealId stopLevel limitLevel
          result.dealReference) client := by
  obtain ⟨response, answered, success, body⟩ := replies
  obtain ⟨ended, confirmed, _⟩ := confirm_update_spec script result client
  have fetched := get_answered answered client
  unfold outcome
  rcases ended with failure | _ | confirm
  · simp [updatePositionSlTp, bind_run, fetched, success, body, confirmed]
  · by_cases rejected : result.isRejected = true
    · simp [updatePositionSlTp, bind_run, fetched, success, body, confirmed, rejected]
    · by_cases accepted : result.isAccepted = true
      · simp [updatePositionSlTp, bind_run, fetched, success, body, confirmed, rejected, accepted]
      · simp [updatePositionSlTp, bind_run, fetched, success, body, confirmed, rejected, accepted]
  · simp [updatePositionSlTp, bind_run, fetched, success, body, confirmed]

/-- An update that returns was accepted by some stage. -/
theorem accepts_of_returned {reply : UpdateReply}
    (returned : outcome (updatePositionSlTp script dealId stopLevel limitLevel) client = .ok reply) :
    script.Accepts stopLevel limitLevel := by
  by_cases replied : ∃ result, script.Replies result
  · obtain ⟨result, replies⟩ := replied
    obtain ⟨ended, confirmed, accepts, _⟩ := confirm_update_spec script result client
    rw [update_replied script dealId stopLevel limitLevel client replies, confirmed] at returned
    refine ⟨result, replies, ?_⟩
    rcases ended with failure | _ | confirm
    · simp at returned
    · by_cases rejected : result.isRejected = true
      · simp [rejected] at returned
      · by_cases accepted : result.isAccepted = true
        · exact Or.inr (Or.inl accepted)
        · have verified : outcome (verifyPositionProtection script.readBacks dealId stopLevel
              limitLevel result.dealReference) client = .ok reply := by
            simpa [rejected, accepted] using returned
          exact Or.inr (Or.inr ((verify_position_protection_returns script.readBacks dealId
            stopLevel limitLevel result.dealReference client).mp ⟨reply, verified⟩))
    · exact Or.inl ⟨confirm, accepts confirm rfl⟩
  · obtain ⟨failure, raised⟩ := update_unreplied script dealId stopLevel limitLevel client
      fun result replies => replied ⟨result, replies⟩
    rw [raised] at returned
    simp at returned

/-- An update that the broker rejects raises. -/
theorem raises_of_rejects (rejects : script.Rejects) :
    ∃ failure, outcome (updatePositionSlTp script dealId stopLevel limitLevel) client =
      .error failure := by
  obtain ⟨result, replies, ⟨confirm, confirms, rejected⟩ | ⟨silent, rejected⟩⟩ := rejects
  · rw [update_replied script dealId stopLevel limitLevel client replies,
      confirm_update_confirmed script result client confirms]
    exact ⟨updateRejected, by simp [not_accepted_of_rejected rejected, rejected]⟩
  · obtain ⟨ended, confirmed, accepts, _⟩ := confirm_update_spec script result client
    rw [update_replied script dealId stopLevel limitLevel client replies, confirmed]
    rcases ended with failure | _ | confirm
    · exact ⟨failure, rfl⟩
    · exact ⟨updateRejected, by simp [rejected]⟩
    · obtain ⟨confirms, accepted⟩ := accepts confirm rfl
      simp [(silent confirm confirms).1] at accepted

/-- The update of the protection is truthful for every sequence of replies. -/
theorem update_position_sl_tp_truthful :
    Truthful script stopLevel limitLevel
      (outcome (updatePositionSlTp script dealId stopLevel limitLevel) client) := by
  constructor
  · rintro ⟨reply, returned⟩
    exact accepts_of_returned script dealId stopLevel limitLevel client returned
  · exact raises_of_rejects script dealId stopLevel limitLevel client

end Updates

/-- Replies without a body or a verdict, and read-backs of which the second one shows the levels. -/
def lateReadBack : UpdateScript where
  update := { attempts := fun _ => .answered true ⟨200, none⟩ }
  confirmation := answering .notADict
  readBacks := fun attempt =>
    if attempt = 0 then { attempts := fun _ => .raised false .http }
    else answering (.position (some (.number (1100005 / 1000000))) none)

example : (outcome (updatePositionSlTp lateReadBack "DEAL-1" (some (11 / 10)) none) {}).map
    (·.verifiedByPositionReadback) = .ok true := by
  decide +kernel

end IGClient

end IgTradingBot
