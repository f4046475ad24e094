import IgTradingBot.Broker.OpeningOrders
import IgTradingBot.Loop.Cycle

/-!
# The position list after a refresh

`IGClient.get_positions` reads a defaulted field of whatever JSON the request helper returns,
also of an error reply, and `_update_account_state` puts the result in the place of the
position list. The list survives an exception, but not every error reply is one.
-/

namespace IgTradingBot

open Sequential Sequential.Program

/-- A decoded value under `positions`: a list of dictionaries, an empty dictionary or text,
or anything else. -/
inductive PositionsValue where
  | listed (positions : List PositionDict)
  | emptyContainer
  | unreadable
  deriving DecidableEq, Repr

/-- A decoded reply to the positions request. -/
inductive PositionsBody where
  | dict (positions : Option PositionsValue)
  | notADict
  deriving DecidableEq, Repr

/-- The positions that a reader finds in a value; an empty container is read like an empty
list. -/
def PositionsValue.entries : PositionsValue → Except Failure (List PositionDict)
  | .listed positions => .ok positions
  | .emptyContainer => .ok []
  | .unreadable => .error .badShape

namespace IGClient

/-- Retrieve all open positions. -/
def getPositions (script : RequestScript PositionsBody) : ClientProgram PositionsValue := do
  let response ← get script
  let data ← ofExcept response.decode
  match data with
  | .dict positions => pure (positions.getD (.listed []))
  | .notADict => raise .badShape

/-- What a decoded reply is taken for; `none` stands for an exception. -/
def positionsOf (response : HttpResponse PositionsBody) : Option PositionsValue :=
  match response.json with
  | some (.dict positions) => some (positions.getD (.listed []))
  | _ => none

/-- A positions request that is answered returns what its reply is taken for, whatever the
status is. -/
theorem get_positions_answered {script : RequestScript PositionsBody}
    {response : HttpResponse PositionsBody} (answered : script.Answers false response)
    (client : IGClient) (value : PositionsValue) :
    outcome (getPositions script) client = .ok value ↔ positionsOf response = some value := by
  have fetched := get_answered answered client
  unfold outcome getPositions
  rw [bind_ok fetched]
  rcases body : response.json with _ | ⟨positions⟩ | _
  · simp [HttpResponse.decode, body, bind_run, positionsOf]
  · simp [HttpResponse.decode, body, bind_run, positionsOf]
  · simp [HttpResponse.decode, body, bind_run, positionsOf]

/-- A positions request that is not answered raises. -/
theorem get_positions_unanswered {script : RequestScript PositionsBody}
    (unanswered : ∀ response, ¬ script.Answers false response) (client : IGClient)
    (value : PositionsValue) : outcome (getPositions script) client ≠ .ok value := by
  obtain ⟨response, answered, _⟩ | ⟨_, failure, _, fetched⟩ := get_run script client
  · exact absurd answered (unanswered response)
  · unfold outcome getPositions
    rw [bind_error fetched]
    simp

end IGClient

namespace TradingLoop

/-- The update of the account state whose positions come from a request. -/
def withRequest (script : RequestScript PositionsBody) (account : AccountScript) : AccountScript :=
  { account with
      positions :=
        { account.positions with
            reply := outcome (IGClient.getPositions script) {} >>= PositionsValue.entries } }

/-- The position list that the entry gates read after an update. A held value that is neither
a list nor an empty container makes every reader of it raise. -/
def snapshotAfter (config : LoopConfig) (script : RequestScript PositionsBody)
    (account : AccountScript) (world : World) : Except Failure (List PositionDict) :=
  match outcome (IGClient.getPositions script) {} with
  | .ok .unreadable => .error .badShape
  | _ =>
    .ok (final (updateAccountState config (withRequest script account)) world).desk.openPositions

/-- Neither a reconciliation nor the refresh of the equity touches the position list. -/
theorem listing_reconcile_rules (positions : List PositionDict) :
    ReconcileRules fun world => world.desk.openPositions = positions where
  toClerical := (listing_incidental positions).toClerical
  reconciled _ _ _ _ holds := holds

/-- A refresh leaves the list that was fetched, or the one that was held when the fetch
raised. -/
theorem refresh_positions_lists (config : LoopConfig) (account : AccountScript)
    (held : List PositionDict) :
    Ensures (fun world => world.desk.openPositions = held) (refreshPositions config account)
      (fun _ world => world.desk.openPositions = account.positions.reply.toOption.getD held)
      (fun _ world => world.desk.openPositions = account.positions.reply.toOption.getD held) := by
  cases replied : account.positions.reply with
  | error failure =>
    apply keeps_rescue
    · apply ensures_bind ((listing_reconcile_rules held).keeps_await account.positions).traced
      rintro positions world ⟨_, earlier, _, answered⟩
      rw [await_run, replied] at answered
      simp at answered
    · intro _
      exact keeps_pure _
  | ok positions =>
    have fetched : Ensures (fun world => world.desk.openPositions = held) (await account.positions)
        (fun found _ => found = positions) (fun _ world => world.desk.openPositions = positions) := by
      intro world _
      rw [await_run, replied]
    have reconciled : Keeps (fun world : World => world.desk.openPositions = positions)
        (reconcileBrokerClosedPositions config account.reconcile positions) :=
      (listing_reconcile_rules positions).keeps_reconcile _ _ _
    refine ensures_rescue (ensures_bind fetched fun found => ?_) fun _ => keeps_pure _
    apply ensures_of_known (found = positions) fun _ known => known
    rintro rfl
    exact ensures_bind (ensures_modify _ fun _ _ => rfl) fun _ => reconciled

/-- An update leaves the list that its refresh leaves. -/
theorem update_account_state_lists (config : LoopConfig) (account : AccountScript)
    (world : World) :
    (final (updateAccountState config account) world).desk.openPositions =
      account.positions.reply.toOption.getD world.desk.openPositions := by
  have updated : Ensures (fun other => other.desk.openPositions = world.desk.openPositions)
      (updateAccountState config account)
      (fun _ other => other.desk.openPositions =
        account.positions.reply.toOption.getD world.desk.openPositions)
      (fun _ other => other.desk.openPositions =
        account.positions.reply.toOption.getD world.desk.openPositions) := by
    refine ensures_bind (listing_reconcile_rules world.desk.openPositions).ensures_readClock ?_
    intro now
    apply ensures_bind ((refresh_positions_lists config account _).enter (fun _ holds => holds.1))
    intro _
    exact (listing_reconcile_rules _).keeps_afterPositions account now
  exact updated.final rfl

/-- After a request that is not answered, or whose answer is no dictionary, the gates read the
list that was held. -/
theorem snapshot_after_raised (config : LoopConfig) {script : RequestScript PositionsBody}
    (account : AccountScript) (world : World)
    (raised : ∀ value, outcome (IGClient.getPositions script) {} ≠ .ok value) :
    snapshotAfter config script account world = .ok world.desk.openPositions := by
  cases fetched : outcome (IGClient.getPositions script) {} with
  | ok value => exact absurd fetched (raised value)
  | error failure =>
    simp only [snapshotAfter, fetched, update_account_state_lists, withRequest]
    rfl

/-- After a request that returns a value the gates read the positions that it holds. -/
theorem snapshot_after_fetched (config : LoopConfig) {script : RequestScript PositionsBody}
    (account : AccountScript) (world : World) {value : PositionsValue}
    (fetched : outcome (IGClient.getPositions script) {} = .ok value) :
    snapshotAfter config script account world = value.entries := by
  cases value with
  | unreadable => simp only [snapshotAfter, fetched, PositionsValue.entries]
  | listed positions =>
    simp only [snapshotAfter, fetched, update_account_state_lists, withRequest]
    rfl
  | emptyContainer =>
    simp only [snapshotAfter, fetched, update_account_state_lists, withRequest]
    rfl

/-- What is assumed of the broker: the positions of a 2xx reply are its open positions. -/
def ReportsPositions (script : RequestScript PositionsBody) (actual : List PositionDict) : Prop :=
  ∀ response positions, script.Answers false response → response.isSuccess = true →
    response.json = some (.dict positions) → positions = some (.listed actual)

/-- A reply that cannot pass for another list: a 2xx reply, one that is no dictionary, or one
whose value under `positions`, by default the empty list, is the actual or the held list. -/
def HarmlessReply (actual held : List PositionDict) (response : HttpResponse PositionsBody) :
    Prop :=
  response.isSuccess = true ∨ ∀ positions, response.json = some (.dict positions) →
    (positions.getD (.listed [])).entries = .ok actual ∨
      (positions.getD (.listed [])).entries = .ok held

/-- After an update the gates read the broker's open positions or the list that was held
exactly when no reply of another status passes for another list. -/
theorem position_list_kept_iff (config : LoopConfig) (script : RequestScript PositionsBody)
    (account : AccountScript) (world : World) (actual : List PositionDict)
    (reports : ReportsPositions script actual) :
    (snapshotAfter config script account world = .ok actual ∨
        snapshotAfter config script account world = .ok world.desk.openPositions) ↔
      ∀ response, script.Answers false response →
        HarmlessReply actual world.desk.openPositions response := by
  obtain ⟨response, answered, _⟩ | ⟨unanswered, _⟩ := IGClient.get_run script {}
  · have only : ∀ other, script.Answers false other → other = response := fun _ given =>
      IGClient.answers_unique given answered
    have returned := IGClient.get_positions_answered answered {}
    by_cases isDict : ∃ positions, response.json = some (.dict positions)
    · obtain ⟨positions, body⟩ := isDict
      have fetched : outcome (IGClient.getPositions script) {} =
          .ok (positions.getD (.listed [])) := by
        apply (returned _).mpr
        simp only [IGClient.positionsOf, body]
      rw [snapshot_after_fetched config account world fetched]
      constructor
      · intro kept other given
        obtain rfl := only other given
        right
        intro found same
        obtain rfl := PositionsBody.dict.inj (Option.some.inj (body.symm.trans same))
        exact kept
      · intro harmless
        obtain success | kept := harmless response answered
        · rw [reports response positions answered success body]
          exact Or.inl rfl
        · exact kept positions body
    · have raised : ∀ value, outcome (IGClient.getPositions script) {} ≠ .ok value := by
        intro value fetched
        have taken := (returned value).mp fetched
        rcases body : response.json with _ | ⟨positions⟩ | _
        · simp [IGClient.positionsOf, body] at taken
        · exact isDict ⟨positions, body⟩
        · simp [IGClient.positionsOf, body] at taken
      rw [snapshot_after_raised config account world raised]
      refine iff_of_true (Or.inr rfl) ?_
      intro other given
      obtain rfl := only other given
      exact Or.inr fun positions body => absurd ⟨positions, body⟩ isDict
  · have raised := IGClient.get_positions_unanswered unanswered {}
    rw [snapshot_after_raised config account world raised]
    exact iff_of_true (Or.inr rfl) fun response answered => absurd answered (unanswered response)

/-- A listed position. -/
def heldPosition : PositionDict := { position := some { dealId := some "DEAL-1" } }

/-- The demo world with a position in the list. -/
def holdingWorld : World :=
  { demoWorld with desk := { demoWorld.desk with openPositions := [heldPosition] } }

/-- A request that is answered at once. -/
def answeredPositions (response : HttpResponse PositionsBody) : RequestScript PositionsBody :=
  { attempts := fun _ => .answered true response }

/-- The only answer of such a request. -/
theorem answered_positions_answer {response given : HttpResponse PositionsBody}
    (status : response.statusCode ≠ 429 ∧ response.statusCode ≠ 401)
    (answered : (answeredPositions response).Answers false given) : given = response := by
  have first : (answeredPositions response).Answers false response := by
    refine ⟨0, true, ⟨?_, by decide, (Retries.reached_first 0).mpr ?_⟩, rfl, status⟩
    · intro limited
      cases limited
    · simp [RequestScript.Stops]
  exact IGClient.answers_unique answered first

/-- An error reply with a JSON body empties the list of a position that is still open. -/
theorem error_reply_empties_list :
    ReportsPositions (answeredPositions ⟨500, some (.dict none)⟩) [heldPosition] ∧
      ¬ (snapshotAfter demoConfig (answeredPositions ⟨500, some (.dict none)⟩)
            { positions := { reply := .ok [] } } holdingWorld = .ok [heldPosition] ∨
        snapshotAfter demoConfig (answeredPositions ⟨500, some (.dict none)⟩)
            { positions := { reply := .ok [] } } holdingWorld =
          .ok holdingWorld.desk.openPositions) := by
  constructor
  · intro response positions answered success _
    obtain rfl := answered_positions_answer (by decide) answered
    exact absurd success (by decide)
  · have emptied : snapshotAfter demoConfig (answeredPositions ⟨500, some (.dict none)⟩)
        { positions := { reply := .ok [] } } holdingWorld = .ok [] := by decide +kernel
    rw [emptied]
    decide

/-- An error reply without JSON keeps the list. -/
theorem undecodable_reply_keeps_list :
    snapshotAfter demoConfig (answeredPositions ⟨500, none⟩)
        { positions := { reply := .ok [] } } holdingWorld = .ok [heldPosition] ∨
      snapshotAfter demoConfig (answeredPositions ⟨500, none⟩)
          { positions := { reply := .ok [] } } holdingWorld =
        .ok holdingWorld.desk.openPositions := by
  apply (position_list_kept_iff demoConfig _ _ holdingWorld [heldPosition] ?_).mpr
  · intro response answered
    obtain rfl := answered_positions_answer (by decide) answered
    exact Or.inr fun _ body => by cases body
  · intro response positions answered _ body
    obtain rfl := answered_positions_answer (by decide) answered
    cases body

end TradingLoop

end IgTradingBot
