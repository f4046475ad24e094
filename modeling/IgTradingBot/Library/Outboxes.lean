import Mathlib.Algebra.Order.Group.Nat
import Mathlib.Data.List.Basic

/-!
# Outboxes with one place

Messages are handed over one at a time: a message waits in the only place of the outbox until it is
dispatched, and the receiver takes it or not. A new message takes the place of one that waits, and
a message that is not taken is gone. Each message has a key. Under the invariant that there are
messages for due keys only, the lemmas say exactly when every due key still has one message.
-/

/-- The messages that were taken, and the one that waits. -/
structure Outbox (α : Type) where
  sent : List α := []
  waiting : Option α := none

namespace Outbox

variable {α K : Type} [DecidableEq K]

/-- The messages that are not lost. -/
def messages (outbox : Outbox α) : List α := outbox.sent ++ outbox.waiting.toList

/-- A message waits, in the place of the one that did. -/
def put (message : α) (outbox : Outbox α) : Outbox α := { outbox with waiting := some message }

/-- The message that waits is handed over, and is taken or not. -/
def dispatch (taken : Bool) (outbox : Outbox α) : Outbox α where
  sent := outbox.sent ++ if taken then outbox.waiting.toList else []
  waiting := none

/-- How many messages there are for a key. -/
def copies (key : α → K) (value : K) (outbox : Outbox α) : ℕ :=
  outbox.messages.countP fun message => key message = value

/-- There is one message for every due key. -/
def Once (key : α → K) (due : K → Prop) (outbox : Outbox α) : Prop :=
  ∀ value, due value → outbox.copies key value = 1

/-- There are messages for due keys only. -/
def OnlyDue (key : α → K) (due : K → Prop) (outbox : Outbox α) : Prop :=
  ∀ message ∈ outbox.messages, due (key message)

section Laws

variable {key : α → K} {due later : K → Prop} {outbox : Outbox α}

/-- The messages for a key are those that were sent and the one that waits. -/
theorem copies_eq (value : K) :
    outbox.copies key value = outbox.sent.countP (fun message => key message = value) +
      outbox.waiting.toList.countP fun message => key message = value :=
  List.countP_append

/-- There is no message for a key that is not due. -/
theorem OnlyDue.copies_eq_zero (only : outbox.OnlyDue key due) {value : K}
    (notDue : ¬due value) : outbox.copies key value = 0 := by
  refine List.countP_eq_zero.mpr fun message among => ?_
  simp only [decide_eq_true_eq]
  rintro rfl
  exact notDue (only message among)

/-- No message for a key that is not due was sent. -/
theorem OnlyDue.sent_eq_zero (only : outbox.OnlyDue key due) {value : K} (notDue : ¬due value) :
    outbox.sent.countP (fun message => key message = value) = 0 :=
  Nat.eq_zero_of_add_eq_zero_right ((copies_eq value).symm.trans (only.copies_eq_zero notDue))

omit [DecidableEq K] in
/-- A message for a due key may wait. -/
theorem OnlyDue.put (only : outbox.OnlyDue key due) (more : ∀ value, due value → later value)
    {message : α} (isDue : later (key message)) : (outbox.put message).OnlyDue key later := by
  intro other among
  obtain sent | waits := List.mem_append.mp among
  · exact more _ (only other (List.mem_append_left _ sent))
  · obtain rfl := List.mem_singleton.mp waits
    exact isDue

omit [DecidableEq K] in
/-- A dispatch adds no message. -/
theorem OnlyDue.dispatch (only : outbox.OnlyDue key due) (taken : Bool) :
    (outbox.dispatch taken).OnlyDue key due := by
  intro message among
  refine only message ?_
  cases taken with
  | true => simpa [Outbox.dispatch, messages] using among
  | false => exact List.mem_append_left _ (by simpa [Outbox.dispatch, messages] using among)

/-- A key that becomes due has no message where another message is put. -/
theorem OnlyDue.put_not_once (only : outbox.OnlyDue key due) {message : α} {value : K}
    (notDue : ¬due value) (isDue : later value) (other : key message ≠ value) :
    ¬(outbox.put message).Once key later := by
  intro once
  have none : (outbox.put message).copies key value = 0 := by
    rw [copies_eq]
    refine Nat.add_eq_zero_iff.mpr ⟨only.sent_eq_zero notDue, ?_⟩
    simp [Outbox.put, other]
  exact absurd (none.symm.trans (once value isDue)) (by decide)

/-- A message that is put keeps one message for every due key exactly where it replaces none and
its key becomes due, or replaces one for its own key. -/
theorem OnlyDue.put_once_iff (only : outbox.OnlyDue key due) (once : outbox.Once key due)
    {message : α} (more : ∀ value, later value ↔ due value ∨ value = key message) :
    (outbox.put message).Once key later ↔
      (outbox.waiting = none ∧ ¬due (key message)) ∨
        ∃ replaced ∈ outbox.waiting, key replaced = key message := by
  have after : ∀ value, (outbox.put message).copies key value =
      outbox.sent.countP (fun message => key message = value) +
        if key message = value then 1 else 0 := by
    intro value
    rw [copies_eq]
    by_cases same : key message = value <;> simp [Outbox.put, same]
  cases waits : outbox.waiting with
  | none =>
    have before : ∀ value, outbox.copies key value =
        outbox.sent.countP fun message => key message = value := by
      intro value
      simp [copies_eq, waits]
    constructor
    · intro onceLater
      refine Or.inl ⟨rfl, fun wasDue => ?_⟩
      have two := onceLater _ ((more _).mpr (Or.inr rfl))
      rw [after, ← before, once _ wasDue, if_pos rfl] at two
      exact absurd two (by decide)
    · rintro (⟨-, notDue⟩ | ⟨replaced, isReplaced, -⟩) value isDue
      · obtain wasDue | rfl := (more value).mp isDue
        · have other : key message ≠ value := fun same => notDue (same ▸ wasDue)
          rw [after, ← before, once _ wasDue, if_neg other]
        · rw [after, only.sent_eq_zero notDue, if_pos rfl]
      · exact absurd isReplaced (by simp)
  | some replaced =>
    have replacedDue : due (key replaced) :=
      only replaced (List.mem_append_right _ (by simp [waits]))
    have before : ∀ value, outbox.copies key value =
        outbox.sent.countP (fun message => key message = value) +
          if key replaced = value then 1 else 0 := by
      intro value
      rw [copies_eq, waits]
      by_cases same : key replaced = value <;> simp [same]
    constructor
    · intro onceLater
      refine Or.inr ⟨replaced, rfl, ?_⟩
      by_contra other
      have kept := onceLater _ ((more _).mpr (Or.inl replacedDue))
      have was := once _ replacedDue
      rw [after, if_neg fun same => other same.symm] at kept
      rw [before, if_pos rfl] at was
      omega
    · rintro (⟨noneWaits, -⟩ | ⟨other, isReplaced, same⟩) value isDue
      · exact absurd noneWaits (by simp)
      · obtain rfl := Option.some.inj isReplaced
        have wasDue : due value := ((more value).mp isDue).elim id fun own => own ▸ same ▸ replacedDue
        rw [after, ← same, ← before, once _ wasDue]

/-- A dispatch keeps one message for every due key exactly where it is taken, or nothing waits. -/
theorem OnlyDue.dispatch_once_iff (only : outbox.OnlyDue key due) (once : outbox.Once key due)
    (taken : Bool) :
    (outbox.dispatch taken).Once key due ↔ (outbox.waiting = none ∨ taken = true) := by
  have sent : outbox.waiting = none ∨ taken = true → (outbox.dispatch taken).Once key due := by
    intro kept value isDue
    rw [← once value isDue]
    unfold copies
    congr 1
    obtain none | rfl := kept
    · simp [Outbox.dispatch, messages, none]
    · exact List.append_nil _
  refine ⟨fun onceLater => ?_, sent⟩
  cases waits : outbox.waiting with
  | none => exact Or.inl rfl
  | some lost =>
    refine Or.inr ?_
    by_contra notTaken
    have isDue : due (key lost) := only lost (List.mem_append_right _ (by simp [waits]))
    have kept := onceLater _ isDue
    have was := once _ isDue
    rw [copies_eq, waits] at was
    rw [copies_eq] at kept
    simp [Outbox.dispatch, notTaken] at kept
    simp [kept] at was

end Laws

end Outbox
