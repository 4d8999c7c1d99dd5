/-
  Feedcast.Lib.Paging — a list read a page at a time.

    • `take_append_page` — a page extends the prefix it starts at,
    • `pages_flatten` — the first `n` pages are the prefix of their length,
    • `pages_all` — enough pages are the whole list,
    • `exists_mem_page` — what is on some page is in the list,
    • `prefix_append_page` — a page read from further down leaves a gap.
-/
import Mathlib.Data.List.Nodup

namespace Feedcast.Lib

variable {α β : Type*}

/-- `size` elements from `offset`. -/
def page (size offset : Nat) (xs : List α) : List α := (xs.drop offset).take size

theorem map_page (f : α → β) (size offset : Nat) (xs : List α) :
    (page size offset xs).map f = page size offset (xs.map f) := by
  simp [page, List.map_take, List.map_drop]

/-- **A page extends the prefix it starts at.** -/
theorem take_append_page (size offset : Nat) (xs : List α) :
    xs.take offset ++ page size offset xs = xs.take (offset + size) :=
  List.take_add.symm

/-- **Pages in turn are a prefix.** -/
theorem pages_flatten (size n : Nat) (xs : List α) :
    (List.range n).flatMap (fun k => page size (k * size) xs) = xs.take (n * size) := by
  induction n with
  | zero => simp
  | succ n ih =>
      rw [List.range_succ, List.flatMap_append, ih, List.flatMap_singleton, take_append_page,
          Nat.succ_mul]

/-- **Enough pages are the whole list.** -/
theorem pages_all {size n : Nat} {xs : List α} (h : xs.length ≤ n * size) :
    (List.range n).flatMap (fun k => page size (k * size) xs) = xs := by
  rw [pages_flatten, List.take_of_length_le h]

/-- What is on some page is what is in the list. -/
theorem exists_mem_page {size : Nat} {x : α} {xs : List α} (hsize : 0 < size) :
    (∃ offset, x ∈ page size offset xs) ↔ x ∈ xs := by
  constructor
  · intro h
    obtain ⟨offset, h⟩ := h
    exact List.mem_of_mem_drop (List.mem_of_mem_take h)
  · intro h
    obtain ⟨before, after, rfl⟩ := List.append_of_mem h
    refine ⟨before.length, ?_⟩
    obtain ⟨size, rfl⟩ := Nat.exists_eq_succ_of_ne_zero (Nat.ne_of_gt hsize)
    unfold page
    rw [List.drop_left, List.take_succ_cons]
    exact List.mem_cons_self

/-- **A page asked for from further down leaves a gap**: appended to a prefix of
a list without repetitions it makes a longer prefix only if it starts where the
prefix ends, or is empty. -/
theorem prefix_append_page {xs read : List α} (hnodup : xs.Nodup) (hread : read <+: xs)
    (size skipped : Nat) (hsize : 0 < size) :
    read ++ page size (read.length + skipped) xs <+: xs
      ↔ skipped = 0 ∨ xs.length ≤ read.length + skipped := by
  have htake : read = xs.take read.length := List.prefix_iff_eq_take.mp hread
  constructor
  · intro h
    by_cases hend : xs.length ≤ read.length + skipped
    · exact Or.inr hend
    · -- the first element of the page stands where the next one should
      left
      have hlt : read.length + skipped < xs.length := Nat.lt_of_not_le hend
      have hlen : read.length < (read ++ page size (read.length + skipped) xs).length := by
        simp only [page, List.length_append, List.length_take, List.length_drop]
        omega
      have hfirst : (read ++ page size (read.length + skipped) xs)[read.length]
          = xs[read.length + skipped] := by
        rw [List.getElem_append_right (Nat.le_refl _)]
        simp [page]
      have hnext := h.getElem hlen
      rw [hfirst] at hnext
      have hsame := (List.Nodup.getElem_inj_iff hnodup).mp hnext
      omega
  · intro h
    -- nothing was skipped, or what was skipped reaches the end of the list
    rcases h with rfl | hend
    · rw [Nat.add_zero]
      have hpage := take_append_page size read.length xs
      rw [← htake] at hpage
      rw [hpage]
      exact List.take_prefix _ _
    · have hempty : page size (read.length + skipped) xs = [] := by
        unfold page
        rw [List.drop_eq_nil_of_le hend, List.take_nil]
      rw [hempty, List.append_nil]
      exact hread

end Feedcast.Lib
