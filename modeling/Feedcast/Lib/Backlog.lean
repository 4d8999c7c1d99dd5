/-
  Feedcast.Lib.Backlog — a backlog served in batches, oldest first.

  Every item has turns left.  A round serves the first so many of the items that
  wait, sorted, and each of them spends a turn or leaves.  An item that waits is
  served in a round, or the whole batch stands before it:

    • `take_full` — an item the batch left out has a full batch before it,
    • `ahead_served` — a round takes a turn off `ahead` for each item before it
      that was served,
    • `ahead_le` — nobody has more turns than the bound.
-/
import Mathlib.Algebra.BigOperators.Group.List.Basic
import Mathlib.Algebra.Order.Ring.Int
import Mathlib.Data.List.Sort

namespace Feedcast.Lib

variable {α : Type*}

/-! ## §1. The batch. -/

section Batch

variable {r : α → α → Prop} [DecidableRel r] [Std.Total r] [IsTrans α r] {xs : List α} {x y : α}
  {size : Nat}

/-- **An item the batch left out has a full batch before it.** -/
theorem take_full (hx : x ∈ xs) (hout : x ∉ (xs.insertionSort r).take size) :
    ((xs.insertionSort r).take size).length = size
      ∧ ∀ y ∈ (xs.insertionSort r).take size, r y x := by
  have hsorted := List.pairwise_insertionSort r xs
  have hmem : x ∈ (xs.insertionSort r).take size ++ (xs.insertionSort r).drop size := by
    rw [List.take_append_drop]
    exact (List.mem_insertionSort r).mpr hx
  -- an item of the list that is not taken is in the rest of it
  have hlate : x ∈ (xs.insertionSort r).drop size := (List.mem_append.mp hmem).resolve_left hout
  constructor
  · have hpos := List.length_pos_of_mem hlate
    rw [List.length_drop] at hpos
    rw [List.length_take]
    omega
  -- sorted: what is taken comes before what is left
  · intro y hy
    rw [← List.take_append_drop size (xs.insertionSort r)] at hsorted
    exact (List.pairwise_append.mp hsorted).2.2 y hy x hlate

end Batch

/-! ## §2. The turns ahead. -/

/-- The turns left to the items of a kind. -/
def ahead (turns : α → Nat) (before : α → Prop) [DecidablePred before] (xs : List α) : Nat :=
  ((xs.filter before).map turns).sum

section Ahead

variable {turns : α → Nat} {before served : α → Prop} [DecidablePred before]
  [DecidablePred served] {serve : α → α} {xs ys : List α} {bound : Nat}

@[simp] theorem ahead_nil : ahead turns before [] = 0 := rfl

theorem ahead_cons (x : α) (xs : List α) :
    ahead turns before (x :: xs) = (if before x then turns x else 0) + ahead turns before xs := by
  unfold ahead
  by_cases h : before x
  · rw [List.filter_cons_of_pos (by simpa using h), if_pos h, List.map_cons, List.sum_cons]
  · rw [List.filter_cons_of_neg (by simpa using h), if_neg h, Nat.zero_add]

theorem ahead_congr {before' : α → Prop} [DecidablePred before']
    (h : ∀ x ∈ xs, before' x ↔ before x) : ahead turns before' xs = ahead turns before xs := by
  induction xs with
  | nil => rfl
  | cons x xs ih =>
      rw [ahead_cons, ahead_cons, ih fun y hy => h y (List.mem_cons_of_mem x hy)]
      simp only [h x List.mem_cons_self]

theorem ahead_append : ahead turns before (xs ++ ys)
    = ahead turns before xs + ahead turns before ys := by
  unfold ahead
  rw [List.filter_append, List.map_append, List.sum_append]

/-- **A round takes a turn off for each item ahead that was served.** -/
theorem ahead_served (hbefore : ∀ x ∈ xs, before (serve x) ↔ before x)
    (hle : ∀ x ∈ xs, turns (serve x) ≤ turns x)
    (hserved : ∀ x ∈ xs, served x → turns (serve x) < turns x) :
    ahead turns before (xs.map serve) + xs.countP (fun x => before x ∧ served x)
      ≤ ahead turns before xs := by
  induction xs with
  | nil => exact Nat.le_refl 0
  | cons x xs ih =>
      have hrest := ih (fun y hy => hbefore y (List.mem_cons_of_mem x hy))
        (fun y hy => hle y (List.mem_cons_of_mem x hy))
        (fun y hy => hserved y (List.mem_cons_of_mem x hy))
      have hx : x ∈ x :: xs := List.mem_cons_self
      -- one item: its turns go down by one where it is ahead and served
      have hone : (if before (serve x) then turns (serve x) else 0)
          + (if before x ∧ served x then 1 else 0) ≤ if before x then turns x else 0 := by
        by_cases hb : before x
        · rw [if_pos ((hbefore x hx).mpr hb), if_pos hb]
          by_cases hs : served x
          · rw [if_pos ⟨hb, hs⟩]
            exact hserved x hx hs
          · rw [if_neg fun h => hs h.2]
            exact hle x hx
        · rw [if_neg fun h => hb ((hbefore x hx).mp h), if_neg hb, if_neg fun h => hb h.1]
      rw [List.map_cons, ahead_cons, ahead_cons, List.countP_cons]
      simp only [decide_eq_true_eq]
      omega

/-- Nobody has more turns left than the bound. -/
theorem ahead_le (h : ∀ x ∈ xs, turns x ≤ bound) :
    ahead turns before xs ≤ (xs.countP fun x => before x ∧ 0 < turns x) * bound := by
  induction xs with
  | nil => exact Nat.zero_le _
  | cons x xs ih =>
      have hrest := ih fun y hy => h y (List.mem_cons_of_mem x hy)
      have hx := h x List.mem_cons_self
      rw [ahead_cons, List.countP_cons, Nat.add_mul, Nat.add_comm]
      refine Nat.add_le_add hrest ?_
      -- an item counts only while it is ahead and has turns left
      by_cases hb : before x
      · by_cases hpos : 0 < turns x
        · simp only [hb, hpos, and_self, decide_true, if_true, Nat.one_mul]
          exact hx
        · rw [if_pos hb, Nat.eq_zero_of_not_pos hpos]
          exact Nat.zero_le _
      · rw [if_neg hb]
        exact Nat.zero_le _

end Ahead

end Feedcast.Lib
