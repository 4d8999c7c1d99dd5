/-
  Feedcast.Lib.Traverse — lists member by member: a partial function over one,
  all or nothing, and a relation of two.

    • `map_of_mapM` — what the function keeps of each member, `mapM` keeps of
      the list,
    • `isSome_mapM` — it succeeds exactly if it does on every member,
    • `exists_left` — a member of the second list has its partner in the first.
-/
import Mathlib.Data.List.Basic

namespace Feedcast.Lib

variable {α β γ : Type} {f : α → Option β}

theorem mapM_cons_some {x : α} {xs : List α} {ys : List β} :
    (x :: xs).mapM f = some ys ↔ ∃ y ys', f x = some y ∧ xs.mapM f = some ys' ∧ ys = y :: ys' := by
  simp only [List.mapM_cons, Option.pure_def, Option.bind_eq_bind, Option.bind_eq_some_iff,
    Option.some.injEq]
  constructor
  · intro h
    obtain ⟨y, hy, ys', hys, rfl⟩ := h
    exact ⟨y, ys', hy, hys, rfl⟩
  · intro h
    obtain ⟨y, ys', hy, hys, rfl⟩ := h
    exact ⟨y, hy, ys', hys, rfl⟩

theorem map_of_mapM {g : β → γ} {h : α → γ} (hf : ∀ x y, f x = some y → g y = h x) {xs : List α}
    {ys : List β} (hm : xs.mapM f = some ys) : ys.map g = xs.map h := by
  induction xs generalizing ys with
  | nil =>
      rw [List.mapM_nil] at hm
      cases hm
      rfl
  | cons x xs ih =>
      obtain ⟨y, ys', hy, hys, rfl⟩ := mapM_cons_some.mp hm
      rw [List.map_cons, List.map_cons, hf x y hy, ih hys]

theorem isSome_mapM {xs : List α} : (xs.mapM f).isSome ↔ ∀ x ∈ xs, (f x).isSome := by
  induction xs with
  | nil => simp
  | cons x xs ih =>
      rw [List.forall_mem_cons, ← ih]
      cases hx : f x with
      | none => simp [List.mapM_cons, hx]
      | some y => cases hm : xs.mapM f <;> simp [List.mapM_cons, hx, hm]

theorem exists_left {R : α → β → Prop} {xs : List α} {ys : List β} (h : List.Forall₂ R xs ys)
    {y : β} (hy : y ∈ ys) : ∃ x ∈ xs, R x y := by
  induction h with
  | nil => cases hy
  | cons hxy _ ih =>
      rcases List.mem_cons.mp hy with rfl | hy
      · exact ⟨_, List.mem_cons_self, hxy⟩
      · obtain ⟨x, hx, hrest⟩ := ih hy
        exact ⟨x, List.mem_cons_of_mem _ hx, hrest⟩

end Feedcast.Lib
