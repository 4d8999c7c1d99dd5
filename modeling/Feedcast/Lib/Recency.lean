/-
  Feedcast.Lib.Recency — keys in the order they were last touched.

  The list is what a history of touches leaves; the stamps are what a table keeps
  of it.  While every touch is stamped later than those before it, the two agree:

    • `Recency.touch`, `Recency.drop` — a touched key comes first, a key that goes
      leaves the others in order,
    • `Recency.eq_of_perm` — any sort of the keys by their stamps, latest first,
      is the list.
-/
import Mathlib.Data.List.Pairwise
import Mathlib.Data.List.Sort
import Mathlib.Logic.Function.Basic

namespace Feedcast.Lib

variable {κ τ : Type*} [LinearOrder τ] {stamp stamp' : κ → τ} {recent keys : List κ}
  {key : κ} {now : τ}

/-- The keys, latest stamp first, no two stamps alike. -/
def Recency (stamp : κ → τ) (recent : List κ) : Prop :=
  recent.Pairwise fun a b => stamp b < stamp a

theorem Recency.nodup (h : Recency stamp recent) : recent.Nodup := by
  refine List.Pairwise.imp ?_ h
  intro a b hlt heq
  exact lt_irrefl _ (heq ▸ hlt)

/-- Only the stamps of the keys matter. -/
theorem Recency.congr (h : Recency stamp recent) (heq : ∀ k ∈ recent, stamp' k = stamp k) :
    Recency stamp' recent := by
  refine List.Pairwise.imp_of_mem ?_ h
  intro a b ha hb hlt
  rw [heq a ha, heq b hb]
  exact hlt

/-- **Any sort of the keys by their stamps is the list.** -/
theorem Recency.eq_of_perm (h : Recency stamp recent) (hperm : keys.Perm recent)
    (hsorted : keys.Pairwise fun a b => stamp b ≤ stamp a) : keys = recent := by
  refine List.Perm.eq_of_pairwise ?_ hsorted (h.imp fun hlt => le_of_lt hlt) hperm
  intro a b ha hb hab hba
  -- two keys of the list with one stamp are one key
  by_contra hne
  have : Std.Symm fun a b => stamp a ≠ stamp b := ⟨fun _ _ hne => hne.symm⟩
  have hdistinct : recent.Pairwise fun a b => stamp a ≠ stamp b := h.imp fun hlt => ne_of_gt hlt
  exact hdistinct.forall (hperm.mem_iff.mp ha) hb hne (le_antisymm hba hab)

section Touch

variable [DecidableEq κ]

/-- **A touched key comes first.** -/
theorem Recency.touch (h : Recency stamp recent) (hnow : stamp' key = now)
    (hlater : ∀ k ∈ recent, stamp k < now) (hother : ∀ k ∈ recent, k ≠ key → stamp' k = stamp k) :
    Recency stamp' (key :: recent.erase key) := by
  have hmem {k : κ} (hk : k ∈ recent.erase key) : k ∈ recent ∧ k ≠ key :=
    ⟨List.mem_of_mem_erase hk, (h.nodup.mem_erase_iff.mp hk).1⟩
  -- the key touched is later than all; among the others nothing changes
  refine List.Pairwise.cons ?_ ?_
  · intro k hk
    obtain ⟨hin, hne⟩ := hmem hk
    rw [hnow, hother k hin hne]
    exact hlater k hin
  · have hrest : Recency stamp (recent.erase key) := List.Pairwise.sublist List.erase_sublist h
    exact hrest.congr fun k hk => hother k (hmem hk).1 (hmem hk).2

/-- A key that goes leaves the others in order. -/
theorem Recency.drop (h : Recency stamp recent)
    (hother : ∀ k ∈ recent, k ≠ key → stamp' k = stamp k) :
    Recency stamp' (recent.erase key) := by
  have hrest : Recency stamp (recent.erase key) := List.Pairwise.sublist List.erase_sublist h
  refine hrest.congr ?_
  intro k hk
  obtain ⟨hne, hin⟩ := h.nodup.mem_erase_iff.mp hk
  exact hother k hin hne

end Touch

end Feedcast.Lib
