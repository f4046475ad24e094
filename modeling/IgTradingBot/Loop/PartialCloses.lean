import IgTradingBot.Loop.Cycle

/-!
# Partial closes of a position

The loop marks a partial close as taken after it has moved the stop of the rest. The broker
accepts the close before that, so an exception in between leaves an accepted partial close
without its mark. The mark is a credit: while every accepted partial close gets to it, a
position never has more accepted partial closes than its management data has credit.
-/

namespace IgTradingBot

open Sequential Sequential.Program

/-- Partial closes of a deal that the broker has accepted since its management started. -/
def acceptedPartials (dealId : String) : List LoopEvent → ℕ
  | [] => 0
  | .managementStarted started :: earlier =>
    if started = dealId then 0 else acceptedPartials dealId earlier
  | .partialCloseRequested request accepted _ :: earlier =>
    if request.dealId = dealId ∧ accepted = true then acceptedPartials dealId earlier + 1
    else acceptedPartials dealId earlier
  | _ :: earlier => acceptedPartials dealId earlier

/-- A partial close is accepted, but the loop does not get to its own record of it. -/
def LoopEvent.isUnsettledPartial : LoopEvent → Bool
  | .partialCloseRequested _ accepted settled => accepted && !settled
  | _ => false

/-- At every time of a history each position has at most one accepted partial close. -/
def AtMostOnePartial (history : List LoopEvent) : Prop :=
  ∀ reached, reached <:+ history → ∀ dealId, acceptedPartials dealId reached ≤ 1

/-- Events that are not about the management leave the number of partial closes alone. -/
theorem accepted_partials_other {event : LoopEvent} (other : event.isManagement = false)
    (dealId : String) (earlier : List LoopEvent) :
    acceptedPartials dealId (event :: earlier) = acceptedPartials dealId earlier := by
  cases event with
  | managementStarted => cases other
  | partialCloseRequested => cases other
  | _ => rfl

/-- One more event keeps a history within the bound when the numbers after it are. -/
theorem AtMostOnePartial.cons {event : LoopEvent} {earlier : List LoopEvent}
    (once : AtMostOnePartial earlier)
    (bounded : ∀ dealId, acceptedPartials dealId (event :: earlier) ≤ 1) :
    AtMostOnePartial (event :: earlier) := by
  intro reached suffix dealId
  obtain rfl | past := List.suffix_cons_iff.mp suffix
  · exact bounded dealId
  · exact once reached past dealId

namespace TradingLoop

/-- How many accepted partial closes the management data of a deal accounts for: a position
that is marked, or managed no more, gets no further one. -/
def partialCredit : Option ProfessionalPosition → ℕ
  | none => 1
  | some management => if management.partialTaken then 1 else 0

/-- The account of the partial closes: as long as every accepted one was settled, none was
accepted twice, and the credits cover them, but for a deal whose partial close is on its
way. -/
def PartialAccount (pending : Option String) (world : World) : Prop :=
  (∀ event ∈ world.history, event.isUnsettledPartial = false) →
    AtMostOnePartial world.history ∧
      ∀ dealId, pending ≠ some dealId →
        acceptedPartials dealId world.history ≤
          partialCredit (world.desk.professionalPositions.lookup dealId)

section Account

variable {pending : Option String} {world : World} {dealId : String}

/-- The account depends on the history and on the management data only. -/
theorem PartialAccount.of_same (account : PartialAccount pending world) {change : World}
    (sameHistory : change.history = world.history)
    (sameData : change.desk.professionalPositions = world.desk.professionalPositions) :
    PartialAccount pending change := by
  unfold PartialAccount
  rw [sameHistory, sameData]
  exact account

/-- Events that are not about the management do not matter. -/
theorem PartialAccount.record (account : PartialAccount pending world) {event : LoopEvent}
    (other : event.isManagement = false) {change : World}
    (recorded : change.history = event :: world.history)
    (sameData : change.desk.professionalPositions = world.desk.professionalPositions) :
    PartialAccount pending change := by
  intro settled
  rw [recorded] at settled
  obtain ⟨once, covered⟩ := account fun earlier member =>
    settled earlier (List.mem_cons_of_mem event member)
  constructor
  · rw [recorded]
    apply once.cons
    intro dealId
    rw [accepted_partials_other other]
    exact once world.history List.suffix_rfl dealId
  · intro dealId elsewhere
    rw [recorded, sameData, accepted_partials_other other]
    exact covered dealId elsewhere

/-- A position that is managed no more has its credit. -/
theorem PartialAccount.released (account : PartialAccount pending world) (dealId : String) :
    PartialAccount pending
      { world with
        desk :=
          { world.desk with
            professionalPositions := world.desk.professionalPositions.erase dealId } } := by
  intro settled
  obtain ⟨once, covered⟩ := account settled
  refine ⟨once, ?_⟩
  intro other elsewhere
  by_cases same : other = dealId
  · subst same
    rw [AList.lookup_erase]
    exact once world.history List.suffix_rfl other
  · rw [AList.lookup_erase_ne same]
    exact covered other elsewhere

/-- With the start of the management the count begins anew. -/
theorem PartialAccount.started (account : PartialAccount pending world) (dealId : String)
    (management : ProfessionalPosition) :
    PartialAccount pending (startManagement dealId management world) := by
  intro settled
  obtain ⟨once, covered⟩ := account fun earlier member =>
    settled earlier (List.mem_cons_of_mem _ member)
  constructor
  · apply once.cons
    intro other
    simp only [acceptedPartials]
    split_ifs
    · exact Nat.zero_le 1
    · exact once world.history List.suffix_rfl other
  · intro other elsewhere
    by_cases same : dealId = other
    · subst same
      simp [startManagement, acceptedPartials]
    · simp only [startManagement, acceptedPartials, same, if_false]
      rw [AList.lookup_insert_ne (Ne.symm same)]
      exact covered other elsewhere

/-- The mark gives the credit that was missing. -/
theorem PartialAccount.marked (account : PartialAccount (some dealId) world)
    (management : ProfessionalPosition) :
    PartialAccount none
      { world with
        desk :=
          { world.desk with
            professionalPositions :=
              world.desk.professionalPositions.insert dealId
                { management with partialTaken := true } } } := by
  intro settled
  obtain ⟨once, covered⟩ := account settled
  refine ⟨once, ?_⟩
  intro other _
  by_cases same : other = dealId
  · subst same
    rw [AList.lookup_insert]
    exact once world.history List.suffix_rfl other
  · rw [AList.lookup_insert_ne same]
    exact covered other (by simpa using Ne.symm same)

/-- An account without a pending deal is one with any. -/
theorem PartialAccount.suspend (account : PartialAccount none world) (dealId : String) :
    PartialAccount (some dealId) world := by
  intro settled
  obtain ⟨once, covered⟩ := account settled
  exact ⟨once, fun other _ => covered other (by simp)⟩

/-- The request of a partial close is pending when the position is not marked yet. -/
theorem PartialAccount.requested (account : PartialAccount none world) (script : ManageScript)
    (request : CloseRequest) {management : ProfessionalPosition}
    (managed : world.desk.professionalPositions.lookup request.dealId = some management)
    (untaken : management.partialTaken = false) :
    PartialAccount (some request.dealId) (recordPartial script request management world) := by
  intro settled
  obtain ⟨once, covered⟩ := account fun earlier member =>
    settled earlier (List.mem_cons_of_mem _ member)
  have unused : acceptedPartials request.dealId world.history = 0 := by
    have bound := covered request.dealId (by simp)
    simpa [managed, partialCredit, untaken] using bound
  constructor
  · apply once.cons
    intro dealId
    simp only [acceptedPartials]
    split_ifs with this
    · rw [← this.1, unused]
    · exact once world.history List.suffix_rfl dealId
  · intro dealId elsewhere
    have different : request.dealId ≠ dealId := by simpa using elsewhere
    simp only [recordPartial, acceptedPartials, different, false_and, if_false]
    exact covered dealId (by simp)

/-- A partial close that will not be settled may only be one that is not accepted. -/
theorem PartialAccount.unaccepted (account : PartialAccount none world) {script : ManageScript}
    (request : CloseRequest) {management : ProfessionalPosition}
    (unsettled : partialSettled script management = false) :
    PartialAccount none (recordPartial script request management world) := by
  intro settled
  obtain ⟨once, covered⟩ := account fun earlier member =>
    settled earlier (List.mem_cons_of_mem _ member)
  have last := settled _ List.mem_cons_self
  have refused : partialAccepted script = false := by
    simpa [LoopEvent.isUnsettledPartial, unsettled] using last
  have same : ∀ dealId, acceptedPartials dealId (recordPartial script request management
      world).history = acceptedPartials dealId world.history := by
    intro dealId
    simp [recordPartial, acceptedPartials, refused]
  constructor
  · apply once.cons
    intro dealId
    exact (same dealId).le.trans (once world.history List.suffix_rfl dealId)
  · intro dealId elsewhere
    rw [same]
    exact covered dealId elsewhere

end Account

theorem partial_account_clerical (pending : Option String) : Clerical (PartialAccount pending) where
  clock _ _ _ account := account.of_same rfl rfl
  engine _ _ _ account := account.of_same rfl rfl
  closed _ account := account.record rfl rfl rfl
  clerk _ _ _ managed account := account.of_same rfl managed
  released _ dealId account := account.released dealId
  persisted _ _ account := account.record rfl rfl rfl

theorem partial_account_gate : GateRules (PartialAccount none) where
  toAmbient := (partial_account_clerical none).toAmbient
  rolled _ account := account.of_same rfl rfl
  realizedRead _ _ account := account.record rfl rfl rfl

theorem partial_account_entry : EntryContracts (PartialAccount none) where
  toRolls := partial_account_gate.toRolls
  opened _ _ account := account.record rfl rfl rfl
  counted _ _ _ account := account.of_same rfl rfl
  keepsOpening :=
    (partial_account_clerical none).toAmbient.keeps_keepOpening
      (fun _ _ _ _ _ account => account.started _ _)
      fun _ _ _ _ _ _ _ _ => (partial_account_clerical none).keeps_persistOpenTrade _ _ _ _ _ _ _
  submitted _ _ account := account.record rfl rfl rfl

theorem partial_account_reconcile : ReconcileRules (PartialAccount none) where
  toClerical := partial_account_clerical none
  reconciled _ _ _ _ account := account.record rfl rfl rfl

/-- A mark may be set at any time. -/
theorem partial_account_keeps_mark (dealId : String) (management : ProfessionalPosition) :
    Keeps (PartialAccount none) (markPartialTaken dealId management) :=
  keeps_modify fun _ account => (account.suspend dealId).marked management

/-- A settled partial close gets to its mark. -/
theorem ensures_settled_mark {script : ManageScript} {management : ProfessionalPosition}
    (request : CloseRequest) (settled : partialSettled script management = true) :
    Ensures (PartialAccount (some request.dealId)) (settlePartial script request management)
      (fun _ => PartialAccount none) (fun _ => PartialAccount none) := by
  have stable := (partial_account_clerical (some request.dealId)).toAmbient
  obtain ⟨⟨seen, parsed⟩, updated⟩ :
      (acceptanceSeen script = true ∧ management.finalTargetLevel.parse.isOk = true) ∧
        script.update.reply.isOk = true := by
    simpa [partialSettled] using settled
  cases answered : script.partialClose.reply with
  | error failure => simp [acceptanceSeen, answered] at seen
  | ok reply =>
    have accepted : reportsAccepted reply = true := by simpa [acceptanceSeen, answered] using seen
    apply ensures_bind (stable.ensures_await_ok answered)
    intro found
    apply ensures_of_known (found = reply) fun _ holds => holds.1
    rintro rfl
    apply ensures_bind ((stable.ensures_readClock).enter fun _ holds => holds.2)
    intro _
    have taken : Ensures (PartialAccount (some request.dealId))
        (modify (takeCloseReply request false (reportsAccepted found)
          (Numeral.amount found.profit)) : LoopProgram Unit)
        (fun _ => PartialAccount (some request.dealId)) (fun _ => PartialAccount none) :=
      ensures_modify _ fun _ account => account.record rfl rfl rfl
    apply ensures_bind (taken.enter fun _ holds => holds.1)
    intro _
    simp only [accepted, if_true]
    cases target : management.finalTargetLevel.parse with
    | error failure => simp [target, Except.isOk, Except.toBool] at parsed
    | ok level =>
      cases done : script.update.reply with
      | error failure => simp [done, Except.isOk, Except.toBool] at updated
      | ok _ =>
        apply ensures_bind (stable.ensures_await_ok done)
        intro _
        exact ensures_modify _ fun _ holds => holds.2.marked management

/-- A partial close of a position that is not marked yet keeps the account. -/
theorem partial_account_keeps_takePartial (script : ManageScript) (request : CloseRequest)
    (management : ProfessionalPosition) (untaken : management.partialTaken = false) :
    Ensures
      (fun world => PartialAccount none world ∧
        world.desk.professionalPositions.lookup request.dealId = some management)
      (takePartial script request management)
      (fun _ => PartialAccount none) (fun _ => PartialAccount none) := by
  cases settled : partialSettled script management with
  | true =>
    refine ensures_bind (ensures_modify _ ?_) fun _ => ensures_settled_mark request settled
    exact fun _ holds => holds.1.requested script request holds.2 untaken
  | false =>
    refine ensures_bind (ensures_modify _ ?_) fun _ =>
      (partial_account_clerical none).keeps_settlePartial script request ?_
        (partial_account_keeps_mark _ _)
    · exact fun _ holds => holds.1.unaccepted request settled
    · exact fun _ _ _ _ account => account.record rfl rfl rfl

/-- The management of a position keeps the account. -/
theorem partial_account_keeps_management (script : ManageScript) (position : PositionDict)
    (epic : String) :
    Keeps (PartialAccount none) (manageProfessionalPosition script position epic) := by
  have leave : ∀ {desk : Desk}, Ensures (fun world => PartialAccount none world ∧
      world.desk = desk) (pure () : LoopProgram Unit)
      (fun _ => PartialAccount none) (fun _ => PartialAccount none) :=
    ensures_pure () fun _ holds => holds.1
  apply ensures_read_bind
  intro desk
  cases managed : desk.professionalPositions.lookup (dealIdOf position) with
  | none => exact leave
  | some management =>
    cases priced : desk.lastSnapshots.lookup epic with
    | none => exact leave
    | some snapshot =>
      apply ensures_ite
      · exact fun _ => leave
      intro active
      have untaken : management.partialTaken = false := by
        simp only [not_or, Bool.not_eq_true] at active
        exact active.2.1
      have sized : Ensures (fun world => PartialAccount none world ∧ world.desk = desk)
          (ofExcept (sizeOf position management.size) : LoopProgram ℚ)
          (fun _ world => PartialAccount none world ∧ world.desk = desk)
          (fun _ => PartialAccount none) := by
        intro world holds
        cases sizeOf position management.size with
        | ok size => exact holds
        | error failure => exact holds.1
      apply ensures_bind sized
      intro totalSize
      apply ensures_ite
      · intro _
        exact (partial_account_keeps_mark _ _).enter fun _ holds => holds.1
      · intro _
        apply (partial_account_keeps_takePartial script _ management untaken).enter
        rintro world ⟨account, rfl⟩
        exact ⟨account, managed⟩

/-- Every part of a run keeps the account. -/
theorem partial_account_contracts (config : LoopConfig) :
    CycleContracts config (fun _ => True) (PartialAccount none) where
  toGateRules := partial_account_gate
  answered _ _ _ _ _ account := account.record rfl rfl rfl
  keepsPersistence := (partial_account_clerical none).keeps_persistClosedTrade config
  listed _ _ account := account.of_same rfl rfl
  keepsReconciliation := partial_account_reconcile.keeps_reconcile config
  keepsManagement := partial_account_keeps_management
  entered _ input _ _ _ :=
    (partial_account_entry.keeps_gatedEntry partial_account_gate config input.entry _).enter
      fun _ holds => holds.1

/-- In every run whose accepted partial closes are all settled, the broker accepts at most one
partial close of a position. -/
theorem run_takes_partial_once (config : LoopConfig) (starts : List StartInput) (clock : ℚ)
    (schedule : ℕ → ℚ) (engine : RiskEngine) (desk : Desk) (openAtBroker : ℕ)
    (settled : ∀ event ∈
      (final (run config starts) (constructed clock schedule engine desk openAtBroker)).history,
      event.isUnsettledPartial = false) :
    AtMostOnePartial
      (final (run config starts) (constructed clock schedule engine desk openAtBroker)).history := by
  have initial : PartialAccount none (constructed clock schedule engine desk openAtBroker) := by
    refine fun _ => ⟨?_, fun dealId _ => Nat.zero_le _⟩
    intro reached suffix dealId
    obtain rfl : reached = [] := List.suffix_nil.mp suffix
    exact Nat.zero_le 1
  exact (((partial_account_contracts config).keeps_run starts
    fun _ _ _ _ _ _ => trivial).final initial settled).1

/-- The position of a professional signal as the broker lists it. -/
def managedPosition (size : ℚ) : PositionDict :=
  { position :=
      some { dealId := some "DEAL-1", direction := some "BUY", size := some (.number size) }
    market := some (some "CS.D.EURUSD.CFD.IP") }

/-- A cycle that opens a position of the professional strategy. -/
def professionalOpening : CycleInput :=
  demoCycle []
    [("CS.D.EURUSD.CFD.IP",
      { (demoStep "CS.D.EURUSD.CFD.IP" (demoAcceptance "DEAL-1")).2 with
        analysis :=
          { reply := .ok
              (some { demoSignal "CS.D.EURUSD.CFD.IP" with strategyName := "professional_ict" }) } })]

/-- A cycle that finds the first target reached. The partial close is accepted, and the update of
the stop returns or raises. -/
def targetReached (size : ℚ) (updated : Bool) : CycleInput :=
  { account :=
      { positions :=
          { meanwhile := [.snapshotPolled "CS.D.EURUSD.CFD.IP" ⟨12 / 10, 12001 / 10000⟩]
            reply := .ok [managedPosition size] } }
    epics :=
      [("CS.D.EURUSD.CFD.IP",
        { analysis := { reply := .ok none }
          manage :=
            { partialClose := { reply := .ok { dealStatus := some "ACCEPTED" } }
              update :=
                { reply :=
                    if updated then .ok ()
                    else .error (.igConnection "All retry attempts exhausted") } }
          entry := (demoStep "CS.D.EURUSD.CFD.IP" (demoAcceptance "DEAL-1")).2.entry })] }

/-- The update of the stop raises after the accepted partial close, and the next cycle closes a
part again. -/
theorem failed_update_takes_partial_twice :
    ¬ AtMostOnePartial
      (final (run demoConfig [{ cycles :=
        [professionalOpening, targetReached 1 false, targetReached (1 / 2) false] }])
        demoWorld).history := by
  intro once
  have twice := once _ List.suffix_rfl "DEAL-1"
  revert twice
  decide +kernel

/-- With an update that returns, the second cycle finds the mark. -/
theorem updated_stop_takes_partial_once :
    AtMostOnePartial
      (final (run demoConfig [{ cycles :=
        [professionalOpening, targetReached 1 true, targetReached (1 / 2) true] }])
        demoWorld).history := by
  apply run_takes_partial_once
  decide +kernel

end TradingLoop

end IgTradingBot
