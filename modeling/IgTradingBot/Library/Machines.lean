import Mathlib.Data.List.Infix
import Mathlib.Logic.Basic

/-!
# Runs of a machine

A machine answers every move with its next state; a move that is not possible in a state
leaves it as it is. A run is a finite list of moves, chosen by whoever schedules them, so
a property of all lists of moves is a property of all schedules.

`Conforms` is the condition under which a run is good: each of its moves meets a condition
in the state in which it is made. An invariant that the moves which meet the condition
preserve holds in every state that a conforming run reaches.
-/

namespace Machines

variable {σ μ : Type}

/-- The state after a run. -/
def after (step : σ → μ → σ) (initial : σ) (moves : List μ) : σ := moves.foldl step initial

/-- Every move of a run meets a condition in the state in which it is made. -/
def Conforms (step : σ → μ → σ) (condition : σ → μ → Prop) : σ → List μ → Prop
  | _, [] => True
  | current, move :: rest =>
    condition current move ∧ Conforms step condition (step current move) rest

section Runs

variable {step : σ → μ → σ} {condition : σ → μ → Prop} {invariant : σ → Prop}

instance decidableConforms [∀ current move, Decidable (condition current move)] :
    ∀ (current : σ) (moves : List μ), Decidable (Conforms step condition current moves)
  | _, [] => inferInstanceAs (Decidable True)
  | current, move :: rest =>
    have := decidableConforms (step current move) rest
    inferInstanceAs (Decidable (_ ∧ _))

@[simp] theorem after_nil (initial : σ) : after step initial ([] : List μ) = initial := rfl

@[simp] theorem after_cons (initial : σ) (move : μ) (rest : List μ) :
    after step initial (move :: rest) = after step (step initial move) rest := rfl

/-- Two runs one after the other. -/
theorem after_append (initial : σ) (first second : List μ) :
    after step initial (first ++ second) = after step (after step initial first) second :=
  List.foldl_append

/-- A run conforms when its first part does and the rest does from where that ends. -/
theorem conforms_append (initial : σ) (first second : List μ) :
    Conforms step condition initial (first ++ second) ↔
      Conforms step condition initial first ∧
        Conforms step condition (after step initial first) second := by
  induction first generalizing initial with
  | nil => exact (iff_of_eq (true_and _)).symm
  | cons move rest inductionHypothesis =>
    exact (and_congr_right fun _ => inductionHypothesis _).trans and_assoc.symm

/-- A run meets two conditions when it meets each of them. -/
theorem conforms_and {other : σ → μ → Prop} {initial : σ} {moves : List μ} :
    Conforms step (fun current move => condition current move ∧ other current move) initial moves ↔
      Conforms step condition initial moves ∧ Conforms step other initial moves := by
  induction moves generalizing initial with
  | nil => exact (iff_of_eq (true_and _)).symm
  | cons move rest inductionHypothesis =>
    exact (and_congr_right fun _ => inductionHypothesis).trans and_and_and_comm

/-- A run conforms when each of its moves meets the condition after the moves before it. -/
theorem conforms_iff_forall_prefix {initial : σ} {moves : List μ} :
    Conforms step condition initial moves ↔
      ∀ reached move, reached ++ [move] <+: moves → condition (after step initial reached) move := by
  constructor
  · rintro conforms reached move ⟨later, rfl⟩
    rw [conforms_append, conforms_append] at conforms
    exact conforms.1.2.1
  · intro all
    induction moves generalizing initial with
    | nil => trivial
    | cons move rest inductionHypothesis =>
      refine ⟨all [] move (List.prefix_append [move] rest), inductionHypothesis ?_⟩
      intro reached later earlier
      exact all (move :: reached) later ((List.cons_prefix_cons).mpr ⟨rfl, earlier⟩)

/-- The rule of invariants: what every move that meets the condition preserves holds after
every conforming run. The induction is on the moves. -/
theorem after_keeps (kept : ∀ current move, invariant current → condition current move →
      invariant (step current move))
    {initial : σ} {moves : List μ} (holds : invariant initial)
    (conforms : Conforms step condition initial moves) :
    invariant (after step initial moves) := by
  induction moves generalizing initial with
  | nil => exact holds
  | cons move rest inductionHypothesis =>
    exact inductionHypothesis (kept initial move holds conforms.1) conforms.2

/-- A run conforms to whatever its condition gives under an invariant that it keeps. -/
theorem conforms_under {other : σ → μ → Prop}
    (kept : ∀ current move, invariant current → condition current move →
      invariant (step current move))
    (gives : ∀ current move, invariant current → condition current move → other current move)
    {initial : σ} {moves : List μ} (holds : invariant initial)
    (conforms : Conforms step condition initial moves) : Conforms step other initial moves := by
  induction moves generalizing initial with
  | nil => trivial
  | cons move rest inductionHypothesis =>
    exact ⟨gives initial move holds conforms.1,
      inductionHypothesis (kept initial move holds conforms.1) conforms.2⟩

/-- Two conditions that are the same under an invariant are met by the same runs, where the moves
keep the invariant. -/
theorem conforms_congr_under {first second : σ → μ → Prop}
    (kept : ∀ current move, invariant current → condition current move →
      invariant (step current move))
    (same : ∀ current move, invariant current → condition current move →
      (first current move ↔ second current move))
    {initial : σ} {moves : List μ} (holds : invariant initial)
    (conforms : Conforms step condition initial moves) :
    Conforms step first initial moves ↔ Conforms step second initial moves := by
  induction moves generalizing initial with
  | nil => exact Iff.rfl
  | cons move rest inductionHypothesis =>
    exact and_congr (same initial move holds conforms.1)
      (inductionHypothesis (kept initial move holds conforms.1) conforms.2)

/-- What every move preserves holds after every run. -/
theorem after_keeps_always (kept : ∀ current move, invariant current →
      invariant (step current move))
    {initial : σ} (moves : List μ) (holds : invariant initial) :
    invariant (after step initial moves) := by
  induction moves generalizing initial with
  | nil => exact holds
  | cons move rest inductionHypothesis =>
    exact inductionHypothesis (kept initial move holds)

/-- A run conforms when each of its moves meets the condition wherever it is made. -/
theorem conforms_of_forall {initial : σ} {moves : List μ}
    (meets : ∀ move ∈ moves, ∀ current, condition current move) :
    Conforms step condition initial moves := by
  induction moves generalizing initial with
  | nil => trivial
  | cons move rest inductionHypothesis =>
    exact ⟨meets move List.mem_cons_self initial,
      inductionHypothesis fun later among => meets later (List.mem_cons_of_mem _ among)⟩

/-- A conforming run keeps the invariant in every state that it reaches. -/
theorem reached_keeps (kept : ∀ current move, invariant current → condition current move →
      invariant (step current move))
    {initial : σ} {moves reached : List μ} (holds : invariant initial)
    (conforms : Conforms step condition initial moves) (earlier : reached <+: moves) :
    invariant (after step initial reached) := by
  obtain ⟨later, rfl⟩ := earlier
  exact after_keeps kept holds ((conforms_append initial reached later).mp conforms).1

/-- A property that a move of a kind keeps exactly when another condition decides so, under an
invariant that moves of this kind keep: it holds in every state that a run of such moves reaches
exactly when the run conforms to the other condition. -/
theorem always_iff_conforms_under {property : σ → Prop} {decides : σ → μ → Prop}
    (kept : ∀ current move, invariant current → condition current move →
      invariant (step current move))
    (exact : ∀ current move, invariant current → condition current move → property current →
      (property (step current move) ↔ decides current move))
    {initial : σ} {moves : List μ} (holds : invariant initial) (starts : property initial)
    (conforms : Conforms step condition initial moves) :
    (∀ reached, reached <+: moves → property (after step initial reached)) ↔
      Conforms step decides initial moves := by
  induction moves generalizing initial with
  | nil =>
    refine iff_of_true ?_ trivial
    rintro reached isPrefix
    rwa [List.prefix_nil.mp isPrefix]
  | cons move rest inductionHypothesis =>
    have first := exact initial move holds conforms.1 starts
    have next := kept initial move holds conforms.1
    constructor
    · intro always
      have good := always [move] (List.prefix_append [move] rest)
      refine ⟨first.mp good, (inductionHypothesis next good conforms.2).mp ?_⟩
      exact fun reached earlier =>
        always (move :: reached) (List.cons_prefix_cons.mpr ⟨rfl, earlier⟩)
    · rintro ⟨decided, later⟩ reached earlier
      cases reached with
      | nil => exact starts
      | cons other reached =>
        obtain ⟨rfl, isPrefix⟩ := List.cons_prefix_cons.mp earlier
        exact (inductionHypothesis next (first.mpr decided) conforms.2).mpr later reached isPrefix

/-- A property that a move keeps exactly when it meets the condition, where every move keeps the
invariant: it holds in every state that a run reaches exactly when the run conforms. -/
theorem always_iff_conforms {property : σ → Prop}
    (kept : ∀ current move, invariant current → invariant (step current move))
    (exact : ∀ current move, invariant current → property current →
      (property (step current move) ↔ condition current move))
    {initial : σ} {moves : List μ} (holds : invariant initial) (starts : property initial) :
    (∀ reached, reached <+: moves → property (after step initial reached)) ↔
      Conforms step condition initial moves := by
  have anyMove : Conforms step (fun _ _ => True) initial moves :=
    conforms_of_forall fun _ _ _ => trivial
  exact always_iff_conforms_under (fun current move before _ => kept current move before)
    (fun current move before _ => exact current move before) holds starts anyMove

/-- Two conditions that are the same for every move are met by the same runs. -/
theorem conforms_congr {other : σ → μ → Prop}
    (same : ∀ current move, condition current move ↔ other current move) {initial : σ}
    {moves : List μ} :
    Conforms step condition initial moves ↔ Conforms step other initial moves := by
  induction moves generalizing initial with
  | nil => exact Iff.rfl
  | cons move rest inductionHypothesis => exact and_congr (same initial move) inductionHypothesis

end Runs

end Machines
