/-
  Feedcast.Lib.StableSort — what a stable sort keeps of the order it was given.

  `List.insertionSort` is stable: elements that its relation ties stay in their
  old order.  A coarse relation therefore sorts a list like a finer one exactly
  if every tie already stood in the finer order:

    • `tied_sublist` — a tie keeps its order,
    • `insertionSort_eq_iff` — when two sorts agree on a list.
-/
import Mathlib.Data.List.Sort

namespace Feedcast.Lib

variable {α : Type*} {r s : α → α → Prop} [DecidableRel r] [DecidableRel s] {xs : List α} {a b : α}

/-- One of two distinct elements comes first. -/
theorem pair_sublist_or (hab : a ≠ b) (ha : a ∈ xs) (hb : b ∈ xs) :
    [a, b].Sublist xs ∨ [b, a].Sublist xs := by
  induction xs with
  | nil => cases ha
  | cons x xs ih =>
      -- whichever of the two is met first stands first
      rcases List.mem_cons.mp ha with rfl | ha'
      · have hb' : b ∈ xs := (List.mem_cons.mp hb).resolve_left (Ne.symm hab)
        exact Or.inl ((List.singleton_sublist.mpr hb').cons_cons a)
      · rcases List.mem_cons.mp hb with rfl | hb'
        · exact Or.inr ((List.singleton_sublist.mpr ha').cons_cons b)
        · rcases ih ha' hb' with h | h
          · exact Or.inl (h.cons x)
          · exact Or.inr (h.cons x)

/-- Two elements do not stand in both orders. -/
theorem not_pair_sublist_swap (hnd : xs.Nodup) (h : [a, b].Sublist xs) : ¬ [b, a].Sublist xs := by
  intro h'
  induction xs with
  | nil => cases h
  | cons x xs ih =>
      obtain ⟨hx, hnd'⟩ := List.nodup_cons.mp hnd
      -- the head is the first of the pair or none of it
      cases h with
      | cons _ h =>
          cases h' with
          | cons _ h' => exact ih hnd' h h'
          | cons_cons _ _ => exact hx (h.subset (by simp))
      | cons_cons _ h =>
          cases h' with
          | cons _ h' => exact hx (h'.subset (by simp))
          | cons_cons _ _ => exact hx (h.subset (by simp))

/-- A pair of a sorted list that the relation ties stood in this order before. -/
theorem tied_sublist (hnd : xs.Nodup) (hab : a ≠ b) (hba : r b a)
    (h : [a, b].Sublist (xs.insertionSort r)) : [a, b].Sublist xs := by
  have ha : a ∈ xs := (List.mem_insertionSort r).mp (h.subset (by simp))
  have hb : b ∈ xs := (List.mem_insertionSort r).mp (h.subset (by simp))
  have hnd' : (xs.insertionSort r).Nodup := (List.perm_insertionSort r xs).nodup_iff.mpr hnd
  rcases pair_sublist_or hab ha hb with hold | hold
  · exact hold
  · exact absurd (List.pair_sublist_insertionSort hba hold) (not_pair_sublist_swap hnd' h)

variable [Std.Total r] [IsTrans α r] [Std.Total s] [IsTrans α s]

/-- **When two sorts agree**: a list without repetitions, sorted by `r`, is
sorted by the finer `s` exactly if what `r` ties already stood in the order of
`s`. -/
theorem insertionSort_eq_iff (hfiner : ∀ a b, s a b → r a b)
    (hanti : ∀ a ∈ xs, ∀ b ∈ xs, s a b → s b a → a = b) (hnd : xs.Nodup) :
    xs.insertionSort r = xs.insertionSort s ↔ xs.Pairwise fun a b => r a b → r b a → s a b := by
  constructor
  · intro h
    rw [List.pairwise_iff_forall_sublist]
    intro a b hold hab _
    -- the sort by `r` keeps the pair, and it is the sort by `s`
    have hpair := List.pair_sublist_insertionSort hab hold
    rw [h] at hpair
    exact List.pairwise_iff_forall_sublist.mp (List.pairwise_insertionSort s xs) hpair
  · intro h
    have hsorted : (xs.insertionSort r).Pairwise s := by
      rw [List.pairwise_iff_forall_sublist]
      intro a b hpair
      have hab := List.pairwise_iff_forall_sublist.mp (List.pairwise_insertionSort r xs) hpair
      by_cases hba : r b a
      · have hne : a ≠ b := by
          intro heq
          subst heq
          have hnd' := (List.perm_insertionSort r xs).nodup_iff.mpr hnd
          exact not_pair_sublist_swap hnd' hpair hpair
        exact List.pairwise_iff_forall_sublist.mp h (tied_sublist hnd hne hba hpair) hab hba
      · exact (Std.Total.total a b).resolve_right fun hs => hba (hfiner b a hs)
    refine List.Perm.eq_of_pairwise ?_ hsorted (List.pairwise_insertionSort s xs)
      ((List.perm_insertionSort r xs).trans (List.perm_insertionSort s xs).symm)
    intro a b ha hb hab hba
    exact hanti a ((List.mem_insertionSort r).mp ha) b ((List.mem_insertionSort s).mp hb) hab hba

end Feedcast.Lib
