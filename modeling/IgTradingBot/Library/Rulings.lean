import Mathlib.Data.List.Forall2
import Mathlib.Data.List.ReduceOption

/-!
# Rulings on the items of a list

A pass over a list gives some of its items a ruling and leaves the others where they are. What
is known of every item and its ruling holds of the items that are taken out and of those that
are kept; together these are the items of the list.
-/

namespace Rulings

variable {α β γ : Type}

/-- The items that have a ruling, with it. -/
def given : List α → List (Option β) → List (α × β)
  | item :: items, some ruling :: rulings => (item, ruling) :: given items rulings
  | _ :: items, none :: rulings => given items rulings
  | _, _ => []

/-- The items that have none. -/
def kept : List α → List (Option β) → List α
  | _ :: items, some _ :: rulings => kept items rulings
  | item :: items, none :: rulings => item :: kept items rulings
  | items, _ => items

section Lists

variable {items : List α} {rulings : List (Option β)}

/-- The rulings come in the order of the items. -/
theorem given_rulings (sameLength : items.length = rulings.length) :
    (given items rulings).map Prod.snd = rulings.reduceOption := by
  induction items generalizing rulings with
  | nil =>
    obtain rfl := List.length_eq_zero_iff.mp sameLength.symm
    rfl
  | cons item items inductionHypothesis =>
    cases rulings with
    | nil => exact absurd sameLength (Nat.succ_ne_zero _)
    | cons ruling rulings =>
      have rest := inductionHypothesis (Nat.succ.inj sameLength)
      cases ruling with
      | none => simpa only [given, List.reduceOption_cons_of_none] using rest
      | some ruling =>
        simpa only [given, List.map_cons, List.reduceOption_cons_of_some, List.cons.injEq,
          true_and] using rest

/-- The items that are taken out stay in order. -/
theorem given_sublist (items : List α) (rulings : List (Option β)) :
    ((given items rulings).map Prod.fst).Sublist items := by
  induction items generalizing rulings with
  | nil => exact List.Sublist.refl []
  | cons item items inductionHypothesis =>
    cases rulings with
    | nil => exact List.nil_sublist _
    | cons ruling rulings =>
      cases ruling with
      | none => exact (inductionHypothesis rulings).cons item
      | some ruling => exact (inductionHypothesis rulings).cons_cons item

/-- The items that are kept stay in order. -/
theorem kept_sublist (items : List α) (rulings : List (Option β)) :
    (kept items rulings).Sublist items := by
  induction items generalizing rulings with
  | nil => exact List.Sublist.refl []
  | cons item items inductionHypothesis =>
    cases rulings with
    | nil => exact List.Sublist.refl _
    | cons ruling rulings =>
      cases ruling with
      | none => exact (inductionHypothesis rulings).cons_cons item
      | some ruling => exact (inductionHypothesis rulings).cons item

/-- Every item is either taken out or kept, once. -/
theorem given_append_kept (items : List α) (rulings : List (Option β)) :
    ((given items rulings).map Prod.fst ++ kept items rulings).Perm items := by
  induction items generalizing rulings with
  | nil => exact List.Perm.refl []
  | cons item items inductionHypothesis =>
    cases rulings with
    | nil => exact List.Perm.refl _
    | cons ruling rulings =>
      cases ruling with
      | none => exact List.perm_middle.trans ((inductionHypothesis rulings).cons item)
      | some ruling => exact (inductionHypothesis rulings).cons item

/-- What is kept of the images is the image of what is kept. -/
theorem kept_map (image : α → γ) (items : List α) (rulings : List (Option β)) :
    kept (items.map image) rulings = (kept items rulings).map image := by
  induction items generalizing rulings with
  | nil => rfl
  | cons item items inductionHypothesis =>
    cases rulings with
    | nil => rfl
    | cons ruling rulings =>
      cases ruling with
      | none => exact congrArg (image item :: ·) (inductionHypothesis rulings)
      | some ruling => exact inductionHypothesis rulings

/-- What is kept of two lists one after the other. -/
theorem kept_append (sameLength : items.length = rulings.length) (later : List α)
    (laterRulings : List (Option β)) :
    kept (items ++ later) (rulings ++ laterRulings) =
      kept items rulings ++ kept later laterRulings := by
  induction items generalizing rulings with
  | nil =>
    obtain rfl := List.length_eq_zero_iff.mp sameLength.symm
    rfl
  | cons item items inductionHypothesis =>
    cases rulings with
    | nil => exact absurd sameLength (Nat.succ_ne_zero _)
    | cons ruling rulings =>
      have rest := inductionHypothesis (Nat.succ.inj sameLength)
      cases ruling with
      | none => exact congrArg (item :: ·) rest
      | some ruling => exact rest

/-- Without a ruling every item is kept. -/
theorem kept_all (items : List α) : kept items (items.map fun _ => (none : Option β)) = items := by
  induction items with
  | nil => rfl
  | cons item items inductionHypothesis => exact congrArg (item :: ·) inductionHypothesis

/-- What is taken out of two lists one after the other. -/
theorem given_append (sameLength : items.length = rulings.length) (later : List α)
    (laterRulings : List (Option β)) :
    given (items ++ later) (rulings ++ laterRulings) =
      given items rulings ++ given later laterRulings := by
  induction items generalizing rulings with
  | nil =>
    obtain rfl := List.length_eq_zero_iff.mp sameLength.symm
    rfl
  | cons item items inductionHypothesis =>
    cases rulings with
    | nil => exact absurd sameLength (Nat.succ_ne_zero _)
    | cons ruling rulings =>
      have rest := inductionHypothesis (Nat.succ.inj sameLength)
      cases ruling with
      | none => exact rest
      | some ruling => exact congrArg ((item, ruling) :: ·) rest

/-- Without a ruling no item is taken out. -/
theorem given_none (items : List α) : given items (items.map fun _ => (none : Option β)) = [] := by
  induction items with
  | nil => rfl
  | cons item items inductionHypothesis => exact inductionHypothesis

/-- What holds of every item and its ruling holds of the items that are taken out. -/
theorem given_related {related : α → Option β → Prop} (all : List.Forall₂ related items rulings)
    {item : α} {ruling : β} (member : (item, ruling) ∈ given items rulings) :
    related item (some ruling) := by
  induction all with
  | nil => exact absurd member List.not_mem_nil
  | @cons head verdict items rulings first _ inductionHypothesis =>
    cases verdict with
    | none => exact inductionHypothesis member
    | some verdict =>
      obtain same | later := List.mem_cons.mp member
      · obtain ⟨rfl, rfl⟩ := Prod.mk.inj same
        exact first
      · exact inductionHypothesis later

/-- When no item gets a ruling of a kind behind an item that is kept, the items with such a
ruling come before those that are kept. -/
theorem given_before_kept {before : α → α → Prop} {kind : β → Prop}
    (ordered : items.Pairwise before)
    (held : rulings.Pairwise fun earlier later =>
      earlier = none → ∀ ruling, later = some ruling → ¬ kind ruling)
    {item earlier : α} {ruling : β} (waits : item ∈ kept items rulings)
    (taken : (earlier, ruling) ∈ given items rulings) (ofKind : kind ruling)
    (sameLength : items.length = rulings.length) : before earlier item := by
  induction items generalizing rulings with
  | nil => exact absurd waits (by simp [kept])
  | cons head items inductionHypothesis =>
    cases rulings with
    | nil => exact absurd sameLength (Nat.succ_ne_zero _)
    | cons verdict rulings =>
      obtain ⟨heldFirst, heldRest⟩ := List.pairwise_cons.mp held
      obtain ⟨orderedFirst, orderedRest⟩ := List.pairwise_cons.mp ordered
      have shorter := Nat.succ.inj sameLength
      cases verdict with
      | none =>
        -- behind the first item, which is kept, nothing of the kind is given
        have late : some ruling ∈ rulings := by
          have listed := List.mem_map_of_mem (f := Prod.snd) taken
          rw [given, given_rulings shorter] at listed
          exact List.reduceOption_mem_iff.mp listed
        exact absurd ofKind (heldFirst _ late rfl ruling rfl)
      | some verdict =>
        obtain same | later := List.mem_cons.mp taken
        · obtain ⟨rfl, rfl⟩ := Prod.mk.inj same
          exact orderedFirst item ((kept_sublist items rulings).subset waits)
        · exact inductionHypothesis orderedRest heldRest waits later shorter

end Lists

end Rulings
