/-
  Feedcast.Lib.Dict — dictionaries that keep the order of insertion.

  A dictionary is the list of its items.  Setting a key that is there writes
  over its value in place; a new key goes to the end.  `ofPairs` is what a
  comprehension builds.

    • `keys_nodup` — a comprehension has every key once,
    • `get_ofPairs` — the last pair of a key wins,
    • `get_ofPairs_of_nodup` — of distinct keys, every pair is found.
-/
import Feedcast.Lib.Table

namespace Feedcast.Lib.Dict

variable {κ ν : Type*} [DecidableEq κ]

/-- `d[k]`. -/
def get (d : List (κ × ν)) (k : κ) : Option ν := (getRow Prod.fst d k).map (·.2)

/-- `d[k] = v`. -/
def set : List (κ × ν) → κ → ν → List (κ × ν)
  | [], k, v => [(k, v)]
  | e :: d, k, v => if e.1 = k then (k, v) :: d else e :: set d k v

/-- `{k: v for k, v in pairs}`. -/
def ofPairs (pairs : List (κ × ν)) : List (κ × ν) :=
  pairs.foldl (fun d pair => set d pair.1 pair.2) []

/-! ## §1. Setting a key. -/

theorem mem_keys_set (d : List (κ × ν)) (k : κ) (v : ν) (x : κ) :
    x ∈ (set d k v).map (·.1) ↔ x = k ∨ x ∈ d.map (·.1) := by
  induction d with
  | nil => simp [set]
  | cons e d ih =>
      unfold set
      by_cases he : e.1 = k
      · simp [he]
      · rw [if_neg he, List.map_cons, List.mem_cons, ih, List.map_cons, List.mem_cons]
        exact or_left_comm

theorem set_keys_nodup {d : List (κ × ν)} (h : (d.map (·.1)).Nodup) (k : κ) (v : ν) :
    ((set d k v).map (·.1)).Nodup := by
  induction d with
  | nil => simp [set]
  | cons e d ih =>
      rw [List.map_cons, List.nodup_cons] at h
      unfold set
      by_cases he : e.1 = k
      · rw [if_pos he, List.map_cons, List.nodup_cons, ← he]
        exact h
      · rw [if_neg he, List.map_cons, List.nodup_cons, mem_keys_set]
        exact ⟨fun hmem => hmem.elim he h.1, ih h.2⟩

theorem get_set (d : List (κ × ν)) (k : κ) (v : ν) (x : κ) :
    get (set d k v) x = if x = k then some v else get d x := by
  induction d with
  | nil => by_cases hx : k = x <;> simp [set, get, getRow, hx, eq_comm]
  | cons e d ih =>
      unfold get getRow at ih ⊢
      unfold set
      -- the first entry of the key is the one written, and the one read
      by_cases he : e.1 = k
      · by_cases hx : x = k
        · simp [he, hx]
        · have hkx : ¬ k = x := fun h => hx h.symm
          simp [he, hx, hkx]
      · rw [if_neg he]
        by_cases hex : e.1 = x
        · have hx : ¬ x = k := fun h => he (hex.trans h)
          simp [hex, hx]
        · simp [hex, ih]

/-! ## §2. Comprehensions. -/

/-- **A comprehension has every key once.** -/
theorem keys_nodup (pairs : List (κ × ν)) : ((ofPairs pairs).map (·.1)).Nodup := by
  unfold ofPairs
  have hkept : ∀ d : List (κ × ν), (d.map (·.1)).Nodup →
      ((pairs.foldl (fun d pair => set d pair.1 pair.2) d).map (·.1)).Nodup := by
    induction pairs with
    | nil => exact fun d h => h
    | cons pair pairs ih => exact fun d h => ih _ (set_keys_nodup h pair.1 pair.2)
  exact hkept [] List.nodup_nil

/-- **The last pair of a key wins.** -/
theorem get_ofPairs (pairs : List (κ × ν)) (k : κ) :
    get (ofPairs pairs) k = get pairs.reverse k := by
  unfold ofPairs
  have hlast : ∀ d : List (κ × ν),
      get (pairs.foldl (fun d pair => set d pair.1 pair.2) d) k
        = get (pairs.reverse ++ d) k := by
    induction pairs with
    | nil => exact fun d => rfl
    | cons pair pairs ih =>
        intro d
        have hset := get_set d pair.1 pair.2 k
        rw [List.foldl_cons, ih, List.reverse_cons, List.append_assoc]
        unfold get getRow at hset ⊢
        rw [List.find?_append, List.find?_append]
        cases List.find? (fun pair => decide (pair.1 = k)) pairs.reverse with
        | some found => rfl
        | none =>
            -- the pair is read where it has been set
            by_cases hk : pair.1 = k
            · simpa [hk] using hset
            · have hk' : ¬ k = pair.1 := fun h => hk h.symm
              simpa [hk, hk'] using hset
  rw [hlast, List.append_nil]

/-- Of distinct keys, an item is what its key is looked up as. -/
theorem get_eq_some_iff {d : List (κ × ν)} (h : (d.map (·.1)).Nodup) {k : κ} {v : ν} :
    get d k = some v ↔ (k, v) ∈ d := by
  unfold get
  constructor
  · intro hget
    obtain ⟨e, he, rfl⟩ := Option.map_eq_some_iff.mp hget
    obtain ⟨hmem, rfl⟩ := getRow_some Prod.fst he
    exact hmem
  · intro hmem
    rw [getRow_of_mem Prod.fst h hmem]
    rfl

/-- **Of distinct keys, every pair is found.** -/
theorem get_ofPairs_of_nodup {pairs : List (κ × ν)} (h : (pairs.map (·.1)).Nodup) {k : κ} {v : ν} :
    get (ofPairs pairs) k = some v ↔ (k, v) ∈ pairs := by
  have hreverse : (pairs.reverse.map (·.1)).Nodup := by
    rw [List.map_reverse]
    exact List.nodup_reverse.mpr h
  rw [get_ofPairs]
  exact (get_eq_some_iff hreverse).trans List.mem_reverse

end Feedcast.Lib.Dict
