import Mathlib.Data.List.Forall2

namespace RuleVerify

variable {α β : Type} {f : α → Option β} {as : List α} {bs : List β}

/-- Two relations that agree on the items of a list relate it to the same lists. -/
theorem forall₂_iff_of_mem {r s : α → β → Prop} (h : ∀ a ∈ as, ∀ b, r a b ↔ s a b) :
    List.Forall₂ r as bs ↔ List.Forall₂ s as bs := by
  induction as generalizing bs with
  | nil => simp
  | cons a as ih =>
    rw [List.forall_mem_cons] at h
    simp only [List.forall₂_cons_left_iff, h.1, ih h.2]

/-- A list is read exactly when each of its items is. -/
theorem mapM_eq_some_iff : as.mapM f = some bs ↔ List.Forall₂ (fun a b => f a = some b) as bs := by
  induction as generalizing bs with
  | nil => simp [eq_comm]
  | cons a as ih =>
    simp only [List.mapM_cons, Option.bind_eq_bind, Option.bind_eq_some_iff, Option.pure_def,
      Option.some.injEq, List.forall₂_cons_left_iff, ih, exists_and_left, @eq_comm _ bs]

/-- Where every item is written in one way only, so is the list. -/
theorem mapM_eq_some_iff_eq_map {g : β → α} (h : ∀ a b, f a = some b ↔ a = g b) :
    as.mapM f = some bs ↔ as = bs.map g := by
  simp only [mapM_eq_some_iff, h]
  rw [← List.forall₂_map_right_iff, List.forall₂_eq_eq_eq]

end RuleVerify
