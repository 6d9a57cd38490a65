import Mathlib.Data.List.Forall2
import Mathlib.Logic.Relation

/-!
Lists whose members are related one by one.
-/

namespace MediaMarkup

section

variable {α β : Type} {R : α → β → Prop} {xs : List α} {ys : List β}

theorem forall₂_mem_right (related : List.Forall₂ R xs ys) : ∀ y ∈ ys, ∃ x ∈ xs, R x y := by
  induction related with
  | nil => simp
  | cons head _ ih =>
    intro y mem
    rcases List.mem_cons.mp mem with rfl | mem
    · exact ⟨_, List.mem_cons_self, head⟩
    · obtain ⟨x, mem, related⟩ := ih y mem
      exact ⟨x, List.mem_cons_of_mem _ mem, related⟩

theorem forall₂_mem_left (related : List.Forall₂ R xs ys) : ∀ x ∈ xs, ∃ y ∈ ys, R x y := by
  intro x mem
  exact forall₂_mem_right related.flip x mem

/-- Where a relation holds for each pair just when something holds of its first part, it holds for
all just when that holds of all first parts. -/
theorem forall₂_iff_of_each {holds : α → Prop}
    (each : List.Forall₂ (fun x y => R x y ↔ holds x) xs ys) :
    List.Forall₂ R xs ys ↔ ∀ x ∈ xs, holds x := by
  induction each with
  | nil => simp
  | cons here _ ih => rw [List.forall₂_cons, List.forall_mem_cons, here, ih]

theorem forall₂_comp {γ : Type} {S : β → γ → Prop} {zs : List γ} (first : List.Forall₂ R xs ys)
    (second : List.Forall₂ S ys zs) : List.Forall₂ (Relation.Comp R S) xs zs := by
  induction first generalizing zs with
  | nil => rw [List.forall₂_nil_left_iff.mp second]; exact .nil
  | cons related _ ih =>
    cases second with
    | cons related' second => exact .cons ⟨_, related, related'⟩ (ih second)

end

/-- Steps from the front of a list can go before those from the whole list. -/
theorem forall₂_transGen_append {α : Type} {R : α → α → Prop} {xs ys rest zs : List α}
    (first : List.Forall₂ (Relation.TransGen R) xs ys)
    (second : List.Forall₂ (Relation.TransGen R) (ys ++ rest) zs) :
    List.Forall₂ (Relation.TransGen R) (xs ++ rest) zs := by
  induction first generalizing zs with
  | nil => exact second
  | cons related _ ih =>
    cases second with
    | cons related' second => exact .cons (related.trans related') (ih second)

end MediaMarkup
