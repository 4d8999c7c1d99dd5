/-
  Feedcast.Lib.Insertion — a block of new elements put into a list at a marker.

  A block goes before the first marked element, or to the end where none is.
  The elements of the list may carry keys, and of the candidates only those go
  in whose key the list does not have yet:

    • `insertBefore_iff` — the one list an insertion can give,
    • `Insertion.fresh_insert_of_subset` — candidates that went in are not new
      again,
    • `Insertion.insert_insert` — so a second insertion changes nothing.
-/
import Mathlib.Data.List.TakeWhile
import Mathlib.Data.List.Perm.Basic

namespace Feedcast.Lib

variable {α β κ : Type*}

/-! ## §1. A block before the first marked element. -/

/-- The block before the first element that is marked, or at the end. -/
def insertBefore (marked : α → Bool) (block xs : List α) : List α :=
  xs.takeWhile (fun x => !marked x) ++ block ++ xs.dropWhile fun x => !marked x

section Block

variable {marked : α → Bool} {block xs ys : List α}

/-- The same, with the marked element looked up by its index. -/
theorem insertBefore_eq_take_drop (marked : α → Bool) (block xs : List α) :
    insertBefore marked block xs
      = xs.take (xs.findIdx marked) ++ block ++ xs.drop (xs.findIdx marked) := by
  unfold insertBefore
  rw [List.takeWhile_eq_take_findIdx_not, List.dropWhile_eq_drop_findIdx_not]
  simp only [Bool.not_not]

/-- **What an insertion gives**: the block, before it only what is not marked,
and right behind it the first that is. -/
theorem insertBefore_iff :
    insertBefore marked block xs = ys ↔
      ∃ before after, xs = before ++ after ∧ (∀ x ∈ before, marked x = false)
        ∧ (∀ x ∈ after.head?, marked x = true) ∧ ys = before ++ block ++ after := by
  constructor
  · intro h
    refine ⟨_, _, List.takeWhile_append_dropWhile.symm, ?_, ?_, h.symm⟩
    · intro x hx
      simpa using List.mem_takeWhile_imp hx
    · intro x hx
      have hnot := List.head?_dropWhile_not (fun x => !marked x) xs
      rw [Option.mem_def.mp hx] at hnot
      simpa using hnot
  · intro h
    obtain ⟨before, after, rfl, hbefore, hafter, rfl⟩ := h
    -- the block starts at the first marked item, or after the last one
    have htake : after.takeWhile (fun x => !marked x) = [] := by
      cases after with
      | nil => rfl
      | cons x after => simp [hafter x rfl]
    have hdrop : after.dropWhile (fun x => !marked x) = after := by
      cases after with
      | nil => rfl
      | cons x after => simp [hafter x rfl]
    have hall : ∀ x ∈ before, (!marked x) = true := fun x hx => by rw [hbefore x hx]; rfl
    unfold insertBefore
    rw [List.takeWhile_append_of_pos hall, List.dropWhile_append_of_pos hall, htake, hdrop,
      List.append_nil]

theorem insertBefore_nil (marked : α → Bool) (xs : List α) : insertBefore marked [] xs = xs := by
  unfold insertBefore
  rw [List.append_nil, List.takeWhile_append_dropWhile]

/-- Nothing is lost, and nothing but the block comes in. -/
theorem insertBefore_perm (marked : α → Bool) (block xs : List α) :
    (insertBefore marked block xs).Perm (xs ++ block) := by
  unfold insertBefore
  rw [List.append_assoc]
  refine (List.perm_append_comm.append_left _).trans ?_
  rw [← List.append_assoc, List.takeWhile_append_dropWhile]

end Block

/-! ## §2. Candidates under keys. -/

/-- How a list takes in candidates: before which element, and under which
keys. -/
structure Insertion (α β κ : Type*) where
  marked : α → Bool
  /-- The key of an element, if it has one. -/
  key : α → Option κ
  /-- The key of a candidate. -/
  name : β → κ
  make : β → α
  key_make : ∀ b, key (make b) = some (name b)

namespace Insertion

variable [DecidableEq κ] (I : Insertion α β κ) {xs : List α} {cands cands' : List β}

/-- The candidates whose key the list does not have. -/
def fresh (xs : List α) (cands : List β) : List β :=
  cands.filter fun b => I.name b ∉ xs.filterMap I.key

def insert (cands : List β) (xs : List α) : List α :=
  insertBefore I.marked ((I.fresh xs cands).map I.make) xs

/-- After an insertion the list has the keys it had, and those of the
candidates. -/
theorem mem_keys_insert {k : κ} :
    k ∈ (I.insert cands xs).filterMap I.key ↔
      k ∈ xs.filterMap I.key ∨ k ∈ cands.map I.name := by
  -- what is made of a candidate carries its name as key
  have hmade : ((I.fresh xs cands).map I.make).filterMap I.key
      = (I.fresh xs cands).map I.name := by
    rw [List.filterMap_map, ← List.filterMap_eq_map]
    exact List.filterMap_congr fun b _ => I.key_make b
  unfold insert
  rw [((insertBefore_perm _ _ _).filterMap I.key).mem_iff, List.filterMap_append, hmade,
    List.mem_append]
  constructor
  · intro h
    rcases h with h | h
    · exact Or.inl h
    · exact Or.inr ((List.filter_sublist.map I.name).subset h)
  · intro h
    by_cases hold : k ∈ xs.filterMap I.key
    · exact Or.inl hold
    · -- a new key is that of a candidate that went in
      obtain ⟨b, hb, rfl⟩ := List.mem_map.mp (h.resolve_left hold)
      exact Or.inr (List.mem_map_of_mem (List.mem_filter.mpr ⟨hb, decide_eq_true hold⟩))

/-- **Candidates that went in are not new again.** -/
theorem fresh_insert_of_subset (h : cands' ⊆ cands) :
    I.fresh (I.insert cands xs) cands' = [] := by
  unfold fresh
  rw [List.filter_eq_nil_iff]
  intro b hb hnew
  have hin : I.name b ∈ (I.insert cands xs).filterMap I.key :=
    I.mem_keys_insert.mpr (Or.inr (List.mem_map_of_mem (h hb)))
  exact of_decide_eq_true hnew hin

/-- **A second insertion changes nothing.** -/
theorem insert_insert (h : cands' ⊆ cands) :
    I.insert cands' (I.insert cands xs) = I.insert cands xs := by
  rw [insert, I.fresh_insert_of_subset h]
  exact insertBefore_nil _ _

end Insertion

end Feedcast.Lib
