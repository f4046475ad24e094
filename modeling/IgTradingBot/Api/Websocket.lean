import IgTradingBot.Library.Machines
import Mathlib.Data.Finset.Card
import Mathlib.Data.List.Nodup
import Mathlib.Data.Rat.Defs
import Mathlib.Order.Basic

/-!
# Connections of the dashboard

The manager of `websocket.py` sends updates to all connections from a task that it makes for the
first of them and cancels with the last. A broadcast goes through the list of connections by place
and awaits every send, while others connect and leave: a run is any order of these.
-/

namespace IgTradingBot

open Machines

/-- A broadcast that awaits a send. `attempted` has the connections that it came to so far, and `left`
counts those that were removed from the list meanwhile; both are kept for the theorems. -/
structure Broadcast (W : Type) where
  current : W
  position : ℕ
  disconnected : List W
  began : ℚ
  attempted : List W
  left : ℕ
  deriving Repr

/-- A task of the broadcast loop. -/
inductive BroadcastTask (W : Type) where
  | sleeping (cancelled : Bool)
  | sending (broadcast : Broadcast W) (cancelled : Bool)
  | ended
  deriving Repr

/-- A broadcast that is over: the connections that it came to, those of its end that it did not come
to, and how many were removed during it. -/
structure FinishedBroadcast (W : Type) where
  attempted : List W
  missed : List W
  left : ℕ
  deriving Repr

/-- The manager with all its tasks. `known` are the connections that ever were. -/
structure ConnectionManager (W : Type) where
  activeConnections : List W := []
  running : Bool := false
  broadcastTask : Option ℕ := none
  lastBroadcastTime : ℚ := 0
  tasks : List (BroadcastTask W) := []
  known : List W := []
  finished : List (FinishedBroadcast W) := []

/-- What can happen next: a connection is accepted, its endpoint gives it up, a task of the loop goes
on after its sleep, or the send that it awaits ends. -/
inductive ConnectionMove (W : Type) where
  | connect (websocket : W)
  | leaves (websocket : W)
  | wakes (task : ℕ) (now : ℚ)
  | sent (task : ℕ) (succeeds : Bool)
  deriving DecidableEq, Repr

namespace BroadcastTask

variable {W : Type}

def cancel : BroadcastTask W → BroadcastTask W
  | sleeping _ => sleeping true
  | sending broadcast _ => sending broadcast true
  | ended => ended

/-- The task goes on with the loop. -/
def isLive : BroadcastTask W → Bool
  | sleeping cancelled => !cancelled
  | sending _ cancelled => !cancelled
  | ended => false

/-- A connection leaves the list. -/
def countLeft : BroadcastTask W → BroadcastTask W
  | sending broadcast cancelled => sending { broadcast with left := broadcast.left + 1 } cancelled
  | task => task

end BroadcastTask

namespace ConnectionManager

variable {W : Type} [DecidableEq W]

/-- `connect`, once the connection is accepted. No connection is accepted twice. -/
def connect (websocket : W) (manager : ConnectionManager W) : ConnectionManager W :=
  if websocket ∈ manager.known then manager
  else
    let joined := { manager with
      activeConnections := manager.activeConnections ++ [websocket]
      known := manager.known ++ [websocket] }
    if !manager.running && manager.broadcastTask.isNone then
      { joined with
        running := true
        broadcastTask := some manager.tasks.length
        tasks := manager.tasks ++ [.sleeping false] }
    else joined

/-- The connection is removed from the list. -/
def remove (websocket : W) (manager : ConnectionManager W) : ConnectionManager W :=
  if websocket ∈ manager.activeConnections then
    { manager with
      activeConnections := manager.activeConnections.erase websocket
      tasks := manager.tasks.map BroadcastTask.countLeft }
  else manager

/-- The loop is cancelled when no connection is left. -/
def stopIfEmpty (manager : ConnectionManager W) : ConnectionManager W :=
  if manager.activeConnections.isEmpty && manager.running then
    { manager with
      running := false
      broadcastTask := none
      tasks := match manager.broadcastTask with
        | some task => manager.tasks.modify task BroadcastTask.cancel
        | none => manager.tasks }
  else manager

def disconnect (websocket : W) (manager : ConnectionManager W) : ConnectionManager W :=
  (manager.remove websocket).stopIfEmpty

/-- The end of `broadcast`: who could not be sent to is disconnected, and the loop sleeps. -/
def finish (task : ℕ) (broadcast : Broadcast W) (manager : ConnectionManager W) :
    ConnectionManager W :=
  broadcast.disconnected.foldl (fun manager websocket => manager.disconnect websocket)
    { manager with
      lastBroadcastTime := broadcast.began
      tasks := manager.tasks.set task (.sleeping false)
      finished := manager.finished ++ [{
        attempted := broadcast.attempted
        missed := manager.activeConnections.filter fun websocket =>
          websocket ∉ broadcast.attempted
        left := broadcast.left }] }

/-- The loop after its sleep: a broadcast is due a second after the last one. -/
def wakes (task : ℕ) (now : ℚ) (manager : ConnectionManager W) : ConnectionManager W :=
  match manager.tasks[task]? with
  | some (.sleeping cancelled) =>
    if cancelled || !manager.running then { manager with tasks := manager.tasks.set task .ended }
    else
      match manager.activeConnections with
      | first :: _ =>
        if 1 ≤ now - manager.lastBroadcastTime then
          { manager with
            tasks := manager.tasks.set task (.sending ⟨first, 0, [], now, [first], 0⟩ false) }
        else manager
      | [] => manager
  | _ => manager

/-- A send ends, and the broadcast goes on to the next place of the list as it is now. A task that was
cancelled gets no further. -/
def sent (task : ℕ) (succeeds : Bool) (manager : ConnectionManager W) : ConnectionManager W :=
  match manager.tasks[task]? with
  | some (.sending broadcast cancelled) =>
    if cancelled then { manager with tasks := manager.tasks.set task .ended }
    else
      let went := { broadcast with
        disconnected :=
          if succeeds then broadcast.disconnected else broadcast.disconnected ++ [broadcast.current] }
      match manager.activeConnections[broadcast.position + 1]? with
      | some next =>
        { manager with
          tasks := manager.tasks.set task (.sending { went with
            current := next
            position := broadcast.position + 1
            attempted := broadcast.attempted ++ [next] } false) }
      | none => manager.finish task went
  | _ => manager

/-- One move of a run. -/
def step (manager : ConnectionManager W) : ConnectionMove W → ConnectionManager W
  | .connect websocket => manager.connect websocket
  | .leaves websocket => manager.disconnect websocket
  | .wakes task now => manager.wakes task now
  | .sent task succeeds => manager.sent task succeeds

/-! ## The loop -/

/-- The loop runs exactly while there are connections, in the one task that the manager refers to. -/
structure Supervised (manager : ConnectionManager W) : Prop where
  running : manager.running = true ↔ manager.activeConnections ≠ []
  referenced : manager.broadcastTask.isSome = manager.running
  live : ∀ place task, manager.tasks[place]? = some task →
    (task.isLive = true ↔ manager.broadcastTask = some place)
  exists_task : ∀ place, manager.broadcastTask = some place → place < manager.tasks.length

section Tasks

variable {W : Type} {manager : ConnectionManager W} {broadcast : Broadcast W} {place : ℕ}

@[simp] theorem isLive_countLeft (task : BroadcastTask W) : task.countLeft.isLive = task.isLive := by
  cases task <;> rfl

@[simp] theorem isLive_cancel (task : BroadcastTask W) : task.cancel.isLive = false := by
  cases task <;> rfl

/-- A task that changes without ending, or that was not live, leaves the manager supervised. -/
theorem Supervised.set (supervised : manager.Supervised) {former : BroadcastTask W}
    (latter : BroadcastTask W) (known : manager.tasks[place]? = some former)
    (same : latter.isLive = former.isLive) :
    { manager with tasks := manager.tasks.set place latter }.Supervised := by
  obtain ⟨running, referenced, live, exists_task⟩ := supervised
  refine ⟨running, referenced, ?_, ?_⟩
  · intro other task found
    by_cases here : place = other
    · subst here
      have inside := (List.getElem?_eq_some_iff.mp known).1
      rw [List.getElem?_set_self inside] at found
      rw [← Option.some.inj found, same]
      exact live place former known
    · rw [List.getElem?_set_ne here] at found
      exact live other task found
  · intro other isTask
    rw [List.length_set]
    exact exists_task other isTask

/-- A loop whose connections are all gone is cancelled. -/
theorem Supervised.stop (supervised : manager.Supervised) (runs : manager.running = true)
    (tasks : List (BroadcastTask W))
    (cancelled : tasks = match manager.broadcastTask with
      | some task => manager.tasks.modify task BroadcastTask.cancel
      | none => manager.tasks) :
    { manager with
      activeConnections := []
      running := false
      broadcastTask := none
      tasks }.Supervised := by
  obtain ⟨running, referenced, live, exists_task⟩ := supervised
  rw [runs] at referenced
  obtain ⟨reference, isReference⟩ := Option.isSome_iff_exists.mp referenced
  rw [isReference] at cancelled
  refine ⟨by simp, rfl, ?_, by simp⟩
  intro other task found
  refine iff_of_false ?_ (by simp)
  subst cancelled
  rw [List.getElem?_modify] at found
  obtain ⟨former, known, rfl⟩ := Option.map_eq_some_iff.mp found
  by_cases here : reference = other
  · simp [here]
  · rw [if_neg here, live other former known, isReference]
    exact fun same => here (Option.some.inj same)

/-- To count who left changes no task otherwise. -/
theorem Supervised.countLeft (supervised : manager.Supervised) (activeConnections : List W)
    (still : activeConnections ≠ [] ↔ manager.activeConnections ≠ []) :
    { manager with
      activeConnections
      tasks := manager.tasks.map BroadcastTask.countLeft }.Supervised := by
  obtain ⟨running, referenced, live, exists_task⟩ := supervised
  refine ⟨running.trans still.symm, referenced, ?_, ?_⟩
  · intro other task found
    obtain ⟨former, known, rfl⟩ := Option.map_eq_some_iff.mp (List.getElem?_map ▸ found)
    rw [isLive_countLeft]
    exact live other former known
  · intro other isTask
    rw [List.length_map]
    exact exists_task other isTask

/-- A live task finds the manager running. -/
theorem Supervised.running_of_live (supervised : manager.Supervised) {task : BroadcastTask W}
    (known : manager.tasks[place]? = some task) (live : task.isLive = true) :
    manager.running = true := by
  rw [← supervised.referenced, (supervised.live place task known).mp live]
  rfl

/-- A broadcast of a task that may have been cancelled. -/
theorem sending_of_modify {task : ℕ} {cancelled : Bool}
    (member : .sending broadcast cancelled ∈ manager.tasks.modify task BroadcastTask.cancel) :
    ∃ before, .sending broadcast before ∈ manager.tasks := by
  obtain ⟨other, found⟩ := List.mem_iff_getElem?.mp member
  rw [List.getElem?_modify] at found
  obtain ⟨former, known, becomes⟩ := Option.map_eq_some_iff.mp found
  have among := List.mem_of_getElem? known
  split_ifs at becomes
  · cases former with
    | sending other before =>
      cases becomes
      exact ⟨before, among⟩
    | sleeping before => cases becomes
    | ended => cases becomes
  · exact ⟨cancelled, becomes ▸ among⟩

/-- The tasks after one of them went on. -/
theorem sending_of_set {task : BroadcastTask W} {cancelled : Bool}
    (member : .sending broadcast cancelled ∈ manager.tasks.set place task) :
    (∃ before, .sending broadcast before ∈ manager.tasks) ∨ .sending broadcast cancelled = task :=
  (List.mem_or_eq_of_mem_set member).imp_left fun before => ⟨cancelled, before⟩

end Tasks

section Loop

variable {manager : ConnectionManager W} {place : ℕ}

/-- A connection that leaves stops the loop when it was the last. -/
theorem Supervised.disconnect (supervised : manager.Supervised) (websocket : W) :
    (manager.disconnect websocket).Supervised := by
  rw [ConnectionManager.disconnect, remove]
  split
  case isTrue connected =>
    have some' : manager.activeConnections ≠ [] := List.ne_nil_of_mem connected
    have runs : manager.running = true := supervised.running.mpr some'
    by_cases last : manager.activeConnections.erase websocket = []
    · have stopped := (supervised.countLeft manager.activeConnections Iff.rfl).stop runs _ rfl
      rw [stopIfEmpty, last, if_pos (by simp [runs])]
      exact stopped
    · have kept := supervised.countLeft _ (iff_of_true last some')
      rw [stopIfEmpty, if_neg (by simp [last])]
      exact kept
  case isFalse =>
    have nothing : (manager.activeConnections.isEmpty && manager.running) = false := by
      cases runs : manager.running with
      | true => simpa using supervised.running.mp runs
      | false => exact Bool.and_false _
    rw [stopIfEmpty, nothing]
    exact supervised

/-- The end of a broadcast. -/
theorem Supervised.finish (supervised : manager.Supervised) {broadcast former : Broadcast W}
    (known : manager.tasks[place]? = some (.sending former false)) :
    (manager.finish place broadcast).Supervised := by
  have sleeps := supervised.set (.sleeping false) known rfl
  rw [ConnectionManager.finish]
  generalize broadcast.disconnected = disconnected
  refine List.foldlRecOn (motive := Supervised) disconnected _ ?_ ?_
  · exact ⟨sleeps.running, sleeps.referenced, sleeps.live, sleeps.exists_task⟩
  · exact fun manager supervised websocket _ => supervised.disconnect websocket

/-- One step keeps the manager supervised. -/
theorem Supervised.step (supervised : manager.Supervised) (move : ConnectionMove W) :
    (manager.step move).Supervised := by
  cases move with
  | connect websocket =>
    rw [ConnectionManager.step, connect]
    split
    case isTrue => exact supervised
    case isFalse =>
      obtain ⟨running, referenced, live, exists_task⟩ := supervised
      split
      case isTrue starts =>
        rw [Bool.and_eq_true, Bool.not_eq_true', Option.isNone_iff_eq_none] at starts
        refine ⟨by simp, rfl, ?_, by simp⟩
        intro other task found
        obtain inside | beyond := lt_or_ge other manager.tasks.length
        · rw [List.getElem?_append_left inside] at found
          rw [live other task found, starts.2]
          simp [inside.ne']
        · obtain ⟨rfl, rfl⟩ : manager.tasks.length = other ∧ task = .sleeping false := by
            rw [List.getElem?_append_right beyond, List.getElem?_singleton] at found
            split_ifs at found with here
            exact ⟨by omega, (Option.some.inj found).symm⟩
          simp [BroadcastTask.isLive]
      case isFalse goesOn =>
        have runs : manager.running = true := by
          rw [Bool.and_eq_true, not_and, Bool.not_eq_true', Option.isNone_iff_eq_none] at goesOn
          cases runs : manager.running with
          | true => rfl
          | false =>
            rw [runs] at referenced
            exact absurd (Option.isSome_eq_false_iff.mp referenced |> Option.isNone_iff_eq_none.mp)
              (goesOn runs)
        exact ⟨by simp [runs], referenced, live, exists_task⟩
  | leaves websocket => exact supervised.disconnect websocket
  | wakes task now =>
    rw [ConnectionManager.step, wakes]
    split
    case h_1 cancelled known =>
      split
      case isTrue ends =>
        refine supervised.set _ known ?_
        have wasCancelled : cancelled = true := by
          cases isCancelled : cancelled with
          | true => rfl
          | false =>
            have runs := supervised.running_of_live known (by rw [isCancelled]; rfl)
            simp [isCancelled, runs] at ends
        rw [wasCancelled]
        rfl
      case isFalse goesOn =>
        rw [Bool.not_eq_true, Bool.or_eq_false_iff] at goesOn
        split
        · split
          · exact supervised.set _ known (by rw [goesOn.1]; rfl)
          · exact supervised
        · exact supervised
    case h_2 => exact supervised
  | sent task succeeds =>
    rw [ConnectionManager.step, sent]
    split
    case h_1 broadcast cancelled known =>
      split
      case isTrue ends => exact supervised.set _ known (by rw [ends]; rfl)
      case isFalse goesOn =>
        rw [Bool.not_eq_true] at goesOn
        subst goesOn
        dsimp only
        split
        · exact supervised.set _ known rfl
        · exact supervised.finish known
    case h_2 => exact supervised

/-- In every run, the manager refers to a task of the loop exactly while somebody is connected, and a
task goes on with the loop exactly when it is that one: the loop never runs twice, and never stops
on those who are connected. -/
theorem loop_runs_iff_connected (moves : List (ConnectionMove W)) :
    let manager := after step ({} : ConnectionManager W) moves
    (manager.broadcastTask.isSome = true ↔ manager.activeConnections ≠ []) ∧
      ∀ place, (∃ task ∈ manager.tasks[place]?, task.isLive = true) ↔
        manager.broadcastTask = some place := by
  intro manager
  have supervised : manager.Supervised := by
    refine after_keeps_always (fun _ move supervised => supervised.step move) moves ?_
    exact ⟨by simp, rfl, by simp, by simp⟩
  refine ⟨supervised.referenced ▸ supervised.running, fun place => ⟨?_, fun isTask => ?_⟩⟩
  · rintro ⟨task, known, live⟩
    exact (supervised.live place task known).mp live
  · have known := List.getElem?_eq_getElem (supervised.exists_task place isTask)
    exact ⟨_, known, (supervised.live place _ known).mpr isTask⟩

end Loop

/-! ## Broadcasts -/

/-- A broadcast came to one connection for each place, to nobody twice and to nobody behind its place;
of those that it came to, no more are gone than left meanwhile. -/
structure FairSend (manager : ConnectionManager W) (broadcast : Broadcast W) : Prop where
  once : broadcast.attempted.Nodup
  places : broadcast.attempted.length = broadcast.position + 1
  known : broadcast.attempted ⊆ manager.known
  ahead : ∀ websocket ∈ manager.activeConnections.drop (broadcast.position + 1),
    websocket ∉ broadcast.attempted
  gone : (broadcast.attempted.toFinset \ manager.activeConnections.toFinset).card ≤ broadcast.left

/-- The broadcasts of a manager are fair, those that go on and those that are over. -/
structure Fair (manager : ConnectionManager W) : Prop where
  distinct : manager.activeConnections.Nodup
  known : manager.activeConnections ⊆ manager.known
  sending : ∀ broadcast cancelled, .sending broadcast cancelled ∈ manager.tasks →
    manager.FairSend broadcast
  finished : ∀ broadcast ∈ manager.finished,
    broadcast.attempted.Nodup ∧ broadcast.missed.length ≤ broadcast.left

section Broadcasts

variable {manager next : ConnectionManager W} {broadcast : Broadcast W} {place : ℕ}

/-- A connection that leaves is one more that may be gone, and brings nobody behind the place of a
broadcast. -/
theorem FairSend.remove (fair : manager.FairSend broadcast) {websocket : W}
    (distinct : manager.activeConnections.Nodup)
    (active : next.activeConnections = manager.activeConnections.erase websocket)
    (same : next.known = manager.known) :
    next.FairSend { broadcast with left := broadcast.left + 1 } := by
  obtain ⟨once, places, known, ahead, gone⟩ := fair
  refine ⟨once, places, same ▸ known, ?_, ?_⟩
  · intro other member
    rw [active] at member
    exact ahead other ((List.erase_sublist.drop _).mem member)
  · have more : broadcast.attempted.toFinset \ next.activeConnections.toFinset ⊆
        insert websocket (broadcast.attempted.toFinset \ manager.activeConnections.toFinset) := by
      intro other member
      rw [Finset.mem_sdiff, List.mem_toFinset, List.mem_toFinset, active,
        distinct.mem_erase_iff] at member
      by_cases here : other = websocket
      · exact here ▸ Finset.mem_insert_self _ _
      · refine Finset.mem_insert_of_mem (Finset.mem_sdiff.mpr ⟨List.mem_toFinset.mpr member.1, ?_⟩)
        exact fun connected => member.2 ⟨here, List.mem_toFinset.mp connected⟩
    calc (broadcast.attempted.toFinset \ next.activeConnections.toFinset).card
        ≤ _ := Finset.card_le_card more
      _ ≤ (broadcast.attempted.toFinset \ manager.activeConnections.toFinset).card + 1 :=
        Finset.card_insert_le _ _
      _ ≤ broadcast.left + 1 := Nat.succ_le_succ gone

/-- A connection that joins was not come to before. -/
theorem FairSend.join (fair : manager.FairSend broadcast) {websocket : W}
    (isNew : websocket ∉ manager.known)
    (active : next.activeConnections = manager.activeConnections ++ [websocket])
    (more : manager.known ⊆ next.known) : next.FairSend broadcast := by
  obtain ⟨once, places, known, ahead, gone⟩ := fair
  refine ⟨once, places, fun _ member => more (known member), ?_, ?_⟩
  · intro other member
    rw [active, List.drop_append] at member
    obtain before | isOther := List.mem_append.mp member
    · exact ahead other before
    · rw [List.mem_singleton.mp (List.mem_of_mem_drop isOther)]
      exact fun among => isNew (known among)
  · refine (Finset.card_le_card (Finset.sdiff_subset_sdiff le_rfl ?_)).trans gone
    intro other member
    rw [List.mem_toFinset] at member ⊢
    exact active ▸ List.mem_append_left _ member

/-- The broadcast goes on to the connection at the next place. -/
theorem FairSend.goesOn (fair : manager.FairSend broadcast) {latter : Broadcast W} {websocket : W}
    (distinct : manager.activeConnections.Nodup) (all : manager.activeConnections ⊆ manager.known)
    (found : manager.activeConnections[broadcast.position + 1]? = some websocket)
    (position : latter.position = broadcast.position + 1)
    (attempted : latter.attempted = broadcast.attempted ++ [websocket])
    (left : latter.left = broadcast.left) : manager.FairSend latter := by
  obtain ⟨once, places, known, ahead, gone⟩ := fair
  obtain ⟨inside, rfl⟩ := List.getElem?_eq_some_iff.mp found
  have dropped := List.drop_eq_getElem_cons inside
  have distinctDrop := distinct.sublist (List.drop_sublist (broadcast.position + 1) _)
  rw [dropped] at ahead distinctDrop
  refine ⟨?_, ?_, ?_, ?_, ?_⟩
  · rw [attempted]
    refine List.nodup_append.mpr ⟨once, List.nodup_singleton _, ?_⟩
    rintro other among _ isNext rfl
    exact ahead _ (List.mem_singleton.mp isNext ▸ List.mem_cons_self) among
  · rw [attempted, position, List.length_append, places]
    rfl
  · rw [attempted]
    exact List.append_subset.mpr ⟨known, fun _ isNext =>
      all (List.mem_singleton.mp isNext ▸ List.getElem_mem inside)⟩
  · intro other member
    rw [position] at member
    rw [attempted, List.mem_append, not_or, List.mem_singleton]
    refine ⟨ahead other (List.mem_cons_of_mem _ member), ?_⟩
    rintro rfl
    exact (List.nodup_cons.mp distinctDrop).1 member
  · rw [attempted, left]
    refine (Finset.card_le_card ?_).trans gone
    intro other member
    rw [Finset.mem_sdiff, List.mem_toFinset, List.mem_toFinset] at member ⊢
    obtain before | isNext := List.mem_append.mp member.1
    · exact ⟨before, member.2⟩
    · exact absurd (List.mem_singleton.mp isNext ▸ List.getElem_mem inside) member.2

/-- At the end of the list, a broadcast missed no more connections than left during it. -/
theorem FairSend.missed (fair : manager.FairSend broadcast)
    (distinct : manager.activeConnections.Nodup)
    (ended : manager.activeConnections[broadcast.position + 1]? = none) :
    (manager.activeConnections.filter fun websocket => websocket ∉ broadcast.attempted).length ≤
      broadcast.left := by
  obtain ⟨once, places, -, -, gone⟩ := fair
  have length := List.getElem?_eq_none_iff.mp ended
  have missed : (manager.activeConnections.filter fun websocket =>
      websocket ∉ broadcast.attempted).toFinset =
        manager.activeConnections.toFinset \ broadcast.attempted.toFinset := by
    ext other
    simp
  have first := Finset.card_sdiff_add_card_inter manager.activeConnections.toFinset
    broadcast.attempted.toFinset
  have second := Finset.card_sdiff_add_card_inter broadcast.attempted.toFinset
    manager.activeConnections.toFinset
  rw [Finset.inter_comm, List.toFinset_card_of_nodup once] at second
  rw [List.toFinset_card_of_nodup distinct] at first
  rw [← List.toFinset_card_of_nodup (distinct.filter _), missed]
  omega

/-- A change that leaves the connections alone, and adds no broadcast that is not fair. -/
theorem Fair.congr (fair : manager.Fair)
    (active : next.activeConnections = manager.activeConnections) (known : next.known = manager.known)
    (sending : ∀ broadcast cancelled, .sending broadcast cancelled ∈ next.tasks →
      (∃ before, .sending broadcast before ∈ manager.tasks) ∨ manager.FairSend broadcast)
    (finished : ∀ broadcast ∈ next.finished, broadcast ∈ manager.finished ∨
      broadcast.attempted.Nodup ∧ broadcast.missed.length ≤ broadcast.left) : next.Fair := by
  obtain ⟨distinct, all, fairly, over'⟩ := fair
  have same {broadcast : Broadcast W} (fair : manager.FairSend broadcast) :
      next.FairSend broadcast := by
    obtain ⟨once, places, knows, ahead, gone⟩ := fair
    exact ⟨once, places, known ▸ knows, active ▸ ahead, active ▸ gone⟩
  refine ⟨active ▸ distinct, active ▸ known ▸ all, ?_, ?_⟩
  · intro broadcast cancelled member
    obtain ⟨before, was⟩ | isFair := sending broadcast cancelled member
    · exact same (fairly broadcast before was)
    · exact same isFair
  · intro broadcast member
    obtain before | isFair := finished broadcast member
    · exact over' broadcast before
    · exact isFair

/-- A connection that leaves keeps the broadcasts fair. -/
theorem Fair.disconnect (fair : manager.Fair) (websocket : W) :
    (manager.disconnect websocket).Fair := by
  have removed : (manager.remove websocket).Fair := by
    rw [remove]
    split
    case isTrue =>
      obtain ⟨distinct, all, fairly, ended⟩ := fair
      refine ⟨distinct.erase websocket, fun _ member => all (List.mem_of_mem_erase member), ?_, ended⟩
      intro broadcast cancelled member
      obtain ⟨task, known, becomes⟩ := List.mem_map.mp member
      cases task with
      | sending former before =>
        cases becomes
        exact (fairly former _ known).remove distinct rfl rfl
      | sleeping before => cases becomes
      | ended => cases becomes
    case isFalse => exact fair
  rw [ConnectionManager.disconnect, stopIfEmpty]
  split
  case isTrue =>
    refine removed.congr rfl rfl (fun broadcast cancelled member => .inl ?_) fun _ => .inl
    split at member
    · exact sending_of_modify member
    · exact ⟨cancelled, member⟩
  case isFalse => exact removed

/-- The end of a broadcast is fair, and so is what comes of those who are disconnected. -/
theorem Fair.finish (fair : manager.Fair) {latter : Broadcast W} (isFair : manager.FairSend broadcast)
    (ended : manager.activeConnections[broadcast.position + 1]? = none)
    (attempted : latter.attempted = broadcast.attempted) (left : latter.left = broadcast.left) :
    (manager.finish place latter).Fair := by
  rw [ConnectionManager.finish]
  refine List.foldlRecOn (motive := Fair) latter.disconnected _ ?_ ?_
  · refine fair.congr rfl rfl ?_ ?_
    · intro other cancelled member
      obtain before | isTask := sending_of_set member
      · exact .inl before
      · cases isTask
    · intro other member
      obtain before | isNew := List.mem_append.mp member
      · exact .inl before
      · rw [List.mem_singleton.mp isNew, attempted, left]
        exact .inr ⟨isFair.once, isFair.missed fair.distinct ended⟩
  · exact fun manager fair websocket _ => fair.disconnect websocket

/-- A broadcast that begins is at the first connection. -/
theorem fairSend_first (fair : manager.Fair) {first : W} {rest : List W}
    (active : manager.activeConnections = first :: rest) (now : ℚ) :
    manager.FairSend ⟨first, 0, [], now, [first], 0⟩ := by
  have distinct := fair.distinct
  rw [active] at distinct
  refine ⟨List.nodup_singleton _, rfl, ?_, ?_, ?_⟩
  · intro other isFirst
    rw [List.mem_singleton.mp isFirst]
    exact fair.known (active ▸ List.mem_cons_self)
  · rw [active]
    intro other member isFirst
    rw [List.mem_singleton.mp isFirst] at member
    exact (List.nodup_cons.mp distinct).1 member
  · simp [active]

/-- One step keeps the broadcasts fair. -/
theorem Fair.step (fair : manager.Fair) (move : ConnectionMove W) : (manager.step move).Fair := by
  cases move with
  | connect websocket =>
    rw [ConnectionManager.step, connect]
    split
    case isTrue => exact fair
    case isFalse isNew =>
      obtain ⟨distinct, all, fairly, ended⟩ := fair
      have joined : { manager with
          activeConnections := manager.activeConnections ++ [websocket]
          known := manager.known ++ [websocket] }.Fair := by
        refine ⟨?_, ?_, ?_, ended⟩
        · refine List.nodup_append.mpr ⟨distinct, List.nodup_singleton _, ?_⟩
          rintro other connected _ isWebsocket rfl
          exact isNew (List.mem_singleton.mp isWebsocket ▸ all connected)
        · exact List.append_subset.mpr ⟨fun _ member => List.mem_append_left _ (all member),
            fun _ member => List.mem_append_right _ member⟩
        · exact fun broadcast cancelled member =>
            (fairly broadcast cancelled member).join isNew rfl fun _ => List.mem_append_left _
      split
      case isTrue =>
        refine joined.congr rfl rfl ?_ fun _ => .inl
        intro broadcast cancelled member
        obtain before | isNew := List.mem_append.mp member
        · exact .inl ⟨cancelled, before⟩
        · cases List.mem_singleton.mp isNew
      case isFalse => exact joined
  | leaves websocket => exact fair.disconnect websocket
  | wakes task now =>
    rw [ConnectionManager.step, wakes]
    split
    case h_1 asleep known =>
      split
      case isTrue =>
        refine fair.congr rfl rfl ?_ fun _ => .inl
        intro broadcast cancelled member
        obtain before | isTask := sending_of_set member
        · exact .inl before
        · cases isTask
      case isFalse =>
        split
        case h_1 first rest active =>
          split
          · refine fair.congr rfl rfl ?_ fun _ => .inl
            intro broadcast cancelled member
            obtain before | isTask := sending_of_set member
            · exact .inl before
            · cases isTask
              exact .inr (fairSend_first fair active now)
          · exact fair
        case h_2 => exact fair
    case h_2 => exact fair
  | sent task succeeds =>
    rw [ConnectionManager.step, sent]
    split
    case h_1 broadcast wasCancelled known =>
      have isFair := fair.sending broadcast wasCancelled (List.mem_of_getElem? known)
      split
      case isTrue =>
        refine fair.congr rfl rfl ?_ fun _ => .inl
        intro broadcast cancelled member
        obtain before | isTask := sending_of_set member
        · exact .inl before
        · cases isTask
      case isFalse =>
        dsimp only
        split
        case h_1 websocket found =>
          refine fair.congr rfl rfl ?_ fun _ => .inl
          intro latter cancelled member
          obtain before | isTask := sending_of_set member
          · exact .inl before
          · cases isTask
            exact .inr (isFair.goesOn fair.distinct fair.known found rfl rfl rfl)
        case h_2 ended => exact fair.finish isFair ended rfl rfl
    case h_2 => exact fair

/-- In every run, a broadcast that is over came to no connection twice, and those of its end that it did
not come to are no more than the connections that left during it: where none leaves, it reaches
everybody, also those who joined meanwhile. -/
theorem missed_le_left (moves : List (ConnectionMove W)) :
    ∀ broadcast ∈ (after step ({} : ConnectionManager W) moves).finished,
      broadcast.attempted.Nodup ∧ broadcast.missed.length ≤ broadcast.left := by
  have fair : (after step ({} : ConnectionManager W) moves).Fair := by
    refine after_keeps_always (fun _ move fair => fair.step move) moves ?_
    exact ⟨List.nodup_nil, List.nil_subset _, by simp, by simp⟩
  exact fair.finished

/-- A broadcast to three connections, the first of which leaves while it is sent to. -/
def departureRun : List (ConnectionMove ℕ) :=
  [.connect 1, .connect 2, .connect 3, .wakes 0 10, .leaves 1, .sent 0 true, .sent 0 true]

/-- Those behind it move up, so that the second is passed over. -/
theorem departure_passes_one :
    ∃ broadcast ∈ (after step ({} : ConnectionManager ℕ) departureRun).finished,
      broadcast.missed = [2] ∧ broadcast.attempted.Nodup ∧
        broadcast.missed.length ≤ broadcast.left := by
  have computed : (after step ({} : ConnectionManager ℕ) departureRun).finished.map
      (fun broadcast => broadcast.missed) = [[2]] := by decide +kernel
  have among : [2] ∈ (after step ({} : ConnectionManager ℕ) departureRun).finished.map
      (fun broadcast => broadcast.missed) := computed ▸ List.mem_cons_self
  obtain ⟨broadcast, ended, missed⟩ := List.mem_map.mp among
  exact ⟨broadcast, ended, missed, missed_le_left departureRun broadcast ended⟩

end Broadcasts

end ConnectionManager

end IgTradingBot
