/-
  Feedcast.Lib.Custody — keys that parties hold before they reach a table.

  Each party holds keys of its own for a while; a key is in the table, or with
  one party, or nowhere.  One rule says when a party may change what it holds
  (`Custody.update`), and its three uses follow:

    • `Custody.release` — a party lets go of keys,
    • `Custody.take` — a party takes a key that nobody has,
    • `Custody.commit` — a party moves what it holds into the table.
-/
import Mathlib.Data.List.Nodup
import Mathlib.Logic.Function.Basic

namespace Feedcast.Lib

variable {ι κ : Type*} [DecidableEq ι]

/-- Every key is in the table once, or with one party once, and not in both. -/
structure Custody (table : List κ) (held : ι → List κ) : Prop where
  stored : table.Nodup
  distinct : ∀ i, (held i).Nodup
  new : ∀ i, ∀ x ∈ held i, x ∉ table
  alone : ∀ i j, i ≠ j → ∀ x ∈ held i, x ∉ held j

namespace Custody

variable {table : List κ} {held : ι → List κ} {i : ι} {keys : List κ} {x : κ}

/-- **A party may hold any keys** that are new, distinct and nobody else's. -/
theorem update (h : Custody table held) (hnodup : keys.Nodup) (hnew : ∀ x ∈ keys, x ∉ table)
    (halone : ∀ j, j ≠ i → ∀ x ∈ keys, x ∉ held j) :
    Custody table (Function.update held i keys) := by
  -- every clause asks first whether the party is the one that changed
  refine { stored := h.stored, distinct := ?_, new := ?_, alone := ?_ }
  · intro j
    by_cases hj : j = i
    · rw [hj, Function.update_self]
      exact hnodup
    · rw [Function.update_of_ne hj]
      exact h.distinct j
  · intro j x hx
    by_cases hj : j = i
    · rw [hj, Function.update_self] at hx
      exact hnew x hx
    · rw [Function.update_of_ne hj] at hx
      exact h.new j x hx
  · intro j k hjk x hx hx'
    by_cases hj : j = i
    · -- the party that changed, against another one
      have hk : k ≠ i := fun hk => hjk (hj.trans hk.symm)
      rw [hj, Function.update_self] at hx
      rw [Function.update_of_ne hk] at hx'
      exact halone k hk x hx hx'
    · rw [Function.update_of_ne hj] at hx
      by_cases hk : k = i
      · rw [hk, Function.update_self] at hx'
        exact halone j hj x hx' hx
      · rw [Function.update_of_ne hk] at hx'
        exact h.alone j k hjk x hx hx'

theorem release (h : Custody table held) (hsub : keys.Sublist (held i)) :
    Custody table (Function.update held i keys) := by
  refine h.update ((h.distinct i).sublist hsub) ?_ ?_
  · intro x hx
    exact h.new i x (hsub.subset hx)
  · intro j hj x hx
    exact h.alone i j (Ne.symm hj) x (hsub.subset hx)

theorem take (h : Custody table held) (hnew : x ∉ table) (hown : x ∉ held i)
    (hfree : ∀ j, j ≠ i → x ∉ held j) :
    Custody table (Function.update held i (held i ++ [x])) := by
  -- what is held after it: the keys of before and the one taken
  refine h.update ?_ ?_ ?_
  · rw [← List.concat_eq_append]
    exact List.Nodup.concat hown (h.distinct i)
  · intro y hy
    rcases List.mem_append.mp hy with hold | hnew'
    · exact h.new i y hold
    · rw [List.mem_singleton.mp hnew']
      exact hnew
  · intro j hj y hy
    rcases List.mem_append.mp hy with hold | hnew'
    · exact h.alone i j (Ne.symm hj) y hold
    · rw [List.mem_singleton.mp hnew']
      exact hfree j hj

theorem commit (h : Custody table held) (i : ι) :
    Custody (table ++ held i) (Function.update held i []) := by
  -- the party lets go of its keys, which the table now stores
  have hreleased := h.release (List.nil_sublist (held i))
  refine { stored := ?_, distinct := hreleased.distinct, new := ?_
           alone := hreleased.alone }
  · rw [List.nodup_append]
    refine ⟨h.stored, h.distinct i, ?_⟩
    intro x hx y hy hxy
    exact h.new i y hy (hxy ▸ hx)
  · intro j x hx hmem
    -- what another party holds was new to the table and is not among these
    by_cases hj : j = i
    · rw [hj, Function.update_self] at hx
      cases hx
    · rw [Function.update_of_ne hj] at hx
      rcases List.mem_append.mp hmem with htable | hheld
      · exact h.new j x hx htable
      · exact h.alone j i hj x hx hheld

end Custody

end Feedcast.Lib
