import Mathlib.Logic.Basic

/-!
# Sequential programs that may raise

A program reads and changes a shared state and ends either with a value or with
a raised exception. State changes made before an exception stay in place, as
they do for the attributes of an object whose method raises; a handler
therefore starts from the state in which the exception was raised.

`Ensures` is a total contract with one postcondition for each way of ending,
and `Keeps` is the contract of an invariant. The rules below follow the
constructors of a program, so a contract for a long program is assembled from
the contracts of its parts without opening any of them.
-/

namespace Sequential

/-- A program maps an initial state to its outcome and its final state. -/
def Program (ε σ α : Type) : Type := σ → Except ε α × σ

variable {ε σ τ α β : Type}

namespace Program

/-- Continue with a value, or stop with the exception and the state reached. -/
def andThen (body : Program ε σ α) (next : α → Program ε σ β) : Program ε σ β := fun s =>
  match body s with
  | (.ok a, t) => next a t
  | (.error e, t) => (.error e, t)

instance : Monad (Program ε σ) where
  pure a := fun s => (.ok a, s)
  bind := andThen

/-- Stop with an exception and leave the state as it is. -/
def raise (e : ε) : Program ε σ α := fun s => (.error e, s)

/-- End with an outcome that was decided elsewhere. -/
def ofExcept (outcome : Except ε α) : Program ε σ α := fun s => (outcome, s)

/-- Read one view of the state. -/
def read (view : σ → α) : Program ε σ α := fun s => (.ok (view s), s)

/-- Change the state. -/
def modify (change : σ → σ) : Program ε σ Unit := fun s => (.ok (), change s)

/-- Run the handler from the state in which the body raised. -/
def rescue (body : Program ε σ α) (handler : ε → Program ε σ α) : Program ε σ α := fun s =>
  match body s with
  | (.ok a, t) => (.ok a, t)
  | (.error e, t) => handler e t

/-- Run a program on one component of a larger state. -/
def zoom (view : σ → τ) (update : τ → σ → σ) (body : Program ε τ α) : Program ε σ α := fun s =>
  let result := body (view s)
  (result.1, update result.2 s)

/-- Run one program for each item in order; an exception ends the loop. -/
def forEach (items : List β) (body : β → Program ε σ Unit) : Program ε σ Unit :=
  match items with
  | [] => pure ()
  | item :: rest => do
      body item
      forEach rest body

/-- How a program ends. -/
def outcome (body : Program ε σ α) (s : σ) : Except ε α := (body s).1

/-- The state in which a program ends, whichever way it ends. -/
def final (body : Program ε σ α) (s : σ) : σ := (body s).2

@[simp] theorem pure_run (a : α) (s : σ) : (pure a : Program ε σ α) s = (.ok a, s) := rfl

@[simp] theorem raise_run (e : ε) (s : σ) : (raise e : Program ε σ α) s = (.error e, s) := rfl

@[simp] theorem ofExcept_run (ended : Except ε α) (s : σ) :
    (ofExcept ended : Program ε σ α) s = (ended, s) := rfl

@[simp] theorem read_run (view : σ → α) (s : σ) :
    (read view : Program ε σ α) s = (.ok (view s), s) := rfl

@[simp] theorem modify_run (change : σ → σ) (s : σ) :
    (modify change : Program ε σ Unit) s = (.ok (), change s) := rfl

@[simp] theorem zoom_run (view : σ → τ) (update : τ → σ → σ) (body : Program ε τ α) (s : σ) :
    zoom view update body s = ((body (view s)).1, update (body (view s)).2 s) := rfl

/-- A first part that returns hands its value and its state to the rest. -/
theorem bind_ok {body : Program ε σ α} {next : α → Program ε σ β} {s t : σ} {a : α}
    (ended : body s = (.ok a, t)) : (body >>= next) s = next a t := by
  change andThen body next s = next a t
  simp [andThen, ended]

/-- A first part that raises skips the rest. -/
theorem bind_error {body : Program ε σ α} {next : α → Program ε σ β} {s t : σ} {e : ε}
    (ended : body s = (.error e, t)) : (body >>= next) s = (.error e, t) := by
  change andThen body next s = (.error e, t)
  simp [andThen, ended]

/-- Sequencing decided by the outcome of the first part. -/
theorem bind_run (body : Program ε σ α) (next : α → Program ε σ β) (s : σ) :
    (body >>= next) s = match body s with
      | (.ok a, t) => next a t
      | (.error e, t) => (.error e, t) := rfl

/-- A sequence returns exactly when both its parts do. -/
theorem bind_eq_ok {body : Program ε σ α} {next : α → Program ε σ β} {s u : σ} {b : β} :
    (body >>= next) s = (.ok b, u) ↔ ∃ a t, body s = (.ok a, t) ∧ next a t = (.ok b, u) := by
  rcases ended : body s with ⟨answer, t⟩
  cases answer with
  | ok a =>
    rw [bind_ok ended]
    constructor
    · intro finished
      exact ⟨a, t, rfl, finished⟩
    · rintro ⟨value, state, same, finished⟩
      simp only [Prod.mk.injEq, Except.ok.injEq] at same
      obtain ⟨rfl, rfl⟩ := same
      exact finished
  | error e =>
    rw [bind_error ended]
    simp

/-- The handler decides how a body that raised ends. -/
theorem rescue_run (body : Program ε σ α) (handler : ε → Program ε σ α) (s : σ) :
    rescue body handler s = match body s with
      | (.ok a, t) => (.ok a, t)
      | (.error e, t) => handler e t := rfl

end Program

open Program

/-- From every state that satisfies `before`, the program ends in a state that
satisfies `after` at the value it returns, or `raised` at the exception. -/
def Ensures (before : σ → Prop) (body : Program ε σ α)
    (after : α → σ → Prop) (raised : ε → σ → Prop) : Prop :=
  ∀ s, before s → match body s with
    | (.ok a, t) => after a t
    | (.error e, t) => raised e t

/-- The program preserves a property of the state, whichever way it ends. -/
def Keeps (invariant : σ → Prop) (body : Program ε σ α) : Prop :=
  Ensures invariant body (fun _ => invariant) (fun _ => invariant)

section Contracts

variable {before middle : σ → Prop} {after : α → σ → Prop} {raised : ε → σ → Prop}

/-- A contract may be used with a stronger precondition and weaker conclusions. -/
theorem Ensures.weaken {body : Program ε σ α} {stronger : σ → Prop}
    {weaker : α → σ → Prop} {weakerRaised : ε → σ → Prop}
    (contract : Ensures before body after raised)
    (entry : ∀ s, stronger s → before s)
    (returns : ∀ a s, after a s → weaker a s)
    (raises : ∀ e s, raised e s → weakerRaised e s) :
    Ensures stronger body weaker weakerRaised := by
  intro s holds
  have ended := contract s (entry s holds)
  revert ended
  rcases body s with ⟨answer, t⟩
  cases answer with
  | ok a => exact returns a t
  | error e => exact raises e t

/-- A contract holds from every state that its precondition covers. -/
theorem Ensures.enter {body : Program ε σ α} {stronger : σ → Prop}
    (contract : Ensures before body after raised) (entry : ∀ s, stronger s → before s) :
    Ensures stronger body after raised := fun s holds => contract s (entry s holds)

/-- A fact that the precondition implies may be used for the whole program. -/
theorem ensures_of_known {body : Program ε σ α} (fact : Prop) (known : ∀ s, before s → fact)
    (contract : fact → Ensures before body after raised) : Ensures before body after raised :=
  fun s entry => contract (known s entry) s entry

/-- A value satisfies whatever the precondition gives about it. -/
theorem ensures_pure (a : α) (holds : ∀ s, before s → after a s) :
    Ensures before (pure a : Program ε σ α) after raised := fun s entry => holds s entry

/-- Raising satisfies the exceptional postcondition in the current state. -/
theorem ensures_raise (e : ε) (holds : ∀ s, before s → raised e s) :
    Ensures before (raise e : Program ε σ α) after raised := fun s entry => holds s entry

/-- A change establishes its postcondition in the changed state. -/
theorem ensures_modify {after : Unit → σ → Prop} (change : σ → σ)
    (holds : ∀ s, before s → after () (change s)) :
    Ensures before (modify change : Program ε σ Unit) after raised :=
  fun s entry => holds s entry

/-- The rule of sequencing: the first part's postcondition is the precondition
of the rest, and both may raise. -/
theorem ensures_bind {body : Program ε σ β} {next : β → Program ε σ α}
    {between : β → σ → Prop} (first : Ensures before body between raised)
    (rest : ∀ b, Ensures (between b) (next b) after raised) :
    Ensures before (body >>= next) after raised := by
  intro s entry
  have ended := first s entry
  rw [bind_run]
  revert ended
  rcases body s with ⟨answer, t⟩
  cases answer with
  | ok b => exact rest b t
  | error e => exact id

/-- What follows a read knows the value that it has read. -/
theorem ensures_read_bind (view : σ → β) {next : β → Program ε σ α}
    (rest : ∀ b, Ensures (fun s => before s ∧ view s = b) (next b) after raised) :
    Ensures before (read view >>= next) after raised :=
  fun s entry => rest (view s) s ⟨entry, rfl⟩

/-- Each branch of a condition knows how it was decided. -/
theorem ensures_ite {condition : Prop} [Decidable condition] {yes no : Program ε σ α}
    (whenTrue : condition → Ensures before yes after raised)
    (whenFalse : ¬ condition → Ensures before no after raised) :
    Ensures before (if condition then yes else no) after raised := by
  by_cases holds : condition
  · simpa only [holds, if_true] using whenTrue holds
  · simpa only [holds, if_false] using whenFalse holds

/-- The rule of exception handling: the handler starts from the exceptional
postcondition of the body. -/
theorem ensures_rescue {body : Program ε σ α} {handler : ε → Program ε σ α}
    {caught : ε → σ → Prop} (first : Ensures before body after caught)
    (handled : ∀ e, Ensures (caught e) (handler e) after raised) :
    Ensures before (rescue body handler) after raised := by
  intro s entry
  have ended := first s entry
  rw [rescue_run]
  revert ended
  rcases body s with ⟨answer, t⟩
  cases answer with
  | ok a => exact id
  | error e => exact handled e t

/-- A conclusion that does not depend on the way of ending holds in the final state. -/
theorem Ensures.final {body : Program ε σ α} {ended : σ → Prop} {s : σ}
    (contract : Ensures before body (fun _ => ended) (fun _ => ended)) (entry : before s) :
    ended (body s).2 := by
  have finished := contract s entry
  revert finished
  rcases body s with ⟨answer, t⟩
  cases answer <;> exact id

/-- A returned value may be traced to the run that returned it. -/
theorem Ensures.traced {body : Program ε σ α} (contract : Ensures before body after raised) :
    Ensures before body (fun a t => after a t ∧ ∃ s, before s ∧ body s = (.ok a, t)) raised := by
  intro s entry
  have ended := contract s entry
  rcases result : body s with ⟨answer, t⟩
  rw [result] at ended
  cases answer with
  | ok a => exact ⟨ended, s, entry, result⟩
  | error e => exact ended

end Contracts

section Invariants

variable {invariant : σ → Prop}

/-- An invariant holds in the final state of every program that keeps it. -/
theorem Keeps.final {body : Program ε σ α} (kept : Keeps invariant body) {s : σ}
    (entry : invariant s) : invariant (body s).2 := Ensures.final kept entry

/-- It suffices to look at the final state: an invariant does not depend on
the value or on the exception. -/
theorem keeps_of_final {body : Program ε σ α}
    (kept : ∀ s, invariant s → invariant (body s).2) : Keeps invariant body := by
  intro s entry
  have ended := kept s entry
  revert ended
  rcases body s with ⟨answer, t⟩
  cases answer <;> exact id

theorem keeps_pure (a : α) : Keeps invariant (pure a : Program ε σ α) := fun _ entry => entry

theorem keeps_raise (e : ε) : Keeps invariant (raise e : Program ε σ α) := fun _ entry => entry

theorem keeps_read (view : σ → α) : Keeps invariant (read view : Program ε σ α) :=
  fun _ entry => entry

theorem keeps_ofExcept (ended : Except ε α) :
    Keeps invariant (ofExcept ended : Program ε σ α) :=
  keeps_of_final fun _ entry => entry

/-- A change keeps an invariant that the changed state satisfies again. -/
theorem keeps_modify {change : σ → σ} (stable : ∀ s, invariant s → invariant (change s)) :
    Keeps invariant (modify change : Program ε σ Unit) := fun s entry => stable s entry

theorem keeps_bind {body : Program ε σ β} {next : β → Program ε σ α}
    (first : Keeps invariant body) (rest : ∀ b, Keeps invariant (next b)) :
    Keeps invariant (body >>= next) := ensures_bind first rest

theorem keeps_rescue {body : Program ε σ α} {handler : ε → Program ε σ α}
    (first : Keeps invariant body) (handled : ∀ e, Keeps invariant (handler e)) :
    Keeps invariant (rescue body handler) := ensures_rescue first handled

theorem keeps_ite {condition : Prop} [Decidable condition] {yes no : Program ε σ α}
    (whenTrue : condition → Keeps invariant yes) (whenFalse : ¬ condition → Keeps invariant no) :
    Keeps invariant (if condition then yes else no) := ensures_ite whenTrue whenFalse

/-- A program that works on one component keeps what its update keeps. -/
theorem keeps_zoom {view : σ → τ} {update : τ → σ → σ} {body : Program ε τ α}
    (stable : ∀ s, invariant s → invariant (update (body (view s)).2 s)) :
    Keeps invariant (zoom view update body) := keeps_of_final stable

/-- A loop keeps the invariant that each of its iterations keeps. The induction
is on the remaining items; an exception ends it in a state the body reached. -/
theorem keeps_forEach {items : List β} {body : β → Program ε σ Unit}
    (each : ∀ item ∈ items, Keeps invariant (body item)) :
    Keeps invariant (forEach items body) := by
  induction items with
  | nil => exact keeps_pure ()
  | cons item rest inductionHypothesis =>
    have remaining : ∀ later ∈ rest, Keeps invariant (body later) := by
      intro later member
      exact each later (List.mem_cons_of_mem item member)
    exact keeps_bind (each item List.mem_cons_self)
      (fun _ => inductionHypothesis remaining)

/-- A program that always returns keeps an invariant without an exceptional case. -/
theorem Keeps.of_returns {body : Program ε σ α} (kept : Keeps invariant body)
    (returns : ∀ s, ∃ a t, body s = (.ok a, t)) {raised : ε → σ → Prop} :
    Ensures invariant body (fun _ => invariant) raised := by
  intro s entry
  obtain ⟨a, t, ended⟩ := returns s
  have holds := kept.final entry
  rw [ended] at holds ⊢
  exact holds

/-- Two kept invariants are kept together; whoever handles an exception is given
the first one only. -/
theorem Keeps.beside {other : σ → Prop} {body : Program ε σ α}
    (left : Keeps invariant body) (right : Keeps other body) :
    Ensures (fun s => invariant s ∧ other s) body (fun _ s => invariant s ∧ other s)
      (fun _ s => invariant s) := by
  have both : Keeps (fun s => invariant s ∧ other s) body :=
    keeps_of_final fun _ entry => ⟨left.final entry.1, right.final entry.2⟩
  exact both.weaken (fun _ entry => entry) (fun _ _ ended => ended) (fun _ _ ended => ended.1)

end Invariants

end Sequential
