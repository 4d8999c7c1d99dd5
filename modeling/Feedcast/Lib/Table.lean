/-
  Feedcast.Lib.Table — keyed tables: lookup, update by key, and
  `INSERT … ON CONFLICT DO NOTHING`.

  A table is the list of its rows and a key.  `setRow` writes one row back over
  the rows of its key.  An insert skips every row whose key is already there,
  one of the same statement included; `inserted` is what `RETURNING` reports.
  The facts used downstream:

    • `mem_setRow` — an update leaves the rows of the other keys alone,
    • `keys_nodup_append` — rows of new keys leave the key unique,
    • `mem_keys_upsert` — after an insert exactly the old and the offered keys
      are present.
-/
import Mathlib.Data.List.Nodup

namespace Feedcast.Lib

variable {κ ρ : Type*} [DecidableEq κ] (key : ρ → κ)

/-! ## §1. Lookup and update. -/

/-- The first row of a key. -/
def getRow (table : List ρ) (k : κ) : Option ρ := table.find? fun r => key r = k

/-- The row written back over the rows of its key. -/
def setRow (row : ρ) (table : List ρ) : List ρ :=
  table.map fun r => if key r = key row then row else r

theorem getRow_some {table : List ρ} {k : κ} {r : ρ} (h : getRow key table k = some r) :
    r ∈ table ∧ key r = k :=
  ⟨List.mem_of_find?_eq_some h, by simpa using List.find?_some h⟩

theorem getRow_none {table : List ρ} {k : κ} :
    getRow key table k = none ↔ ∀ r ∈ table, key r ≠ k := by
  simp [getRow, List.find?_eq_none]

/-- Of a unique key, lookup finds the row. -/
theorem getRow_of_mem {table : List ρ} (hnd : (table.map key).Nodup) {r : ρ} (hr : r ∈ table) :
    getRow key table (key r) = some r := by
  cases h : getRow key table (key r) with
  | none => exact absurd rfl ((getRow_none key).mp h r hr)
  | some r' =>
      obtain ⟨hmem, hkey⟩ := getRow_some key h
      rw [List.inj_on_of_nodup_map hnd hmem hr hkey]

@[simp] theorem setRow_keys (row : ρ) (table : List ρ) :
    (setRow key row table).map key = table.map key := by
  unfold setRow
  rw [List.map_map]
  refine List.map_congr_left ?_
  intro r _
  by_cases h : key r = key row
  · simp [h]
  · simp [h]

/-- **An update touches the rows of its key only.** -/
theorem mem_setRow {row : ρ} {table : List ρ} {r : ρ} :
    r ∈ setRow key row table ↔
      (r = row ∧ key row ∈ table.map key) ∨ (r ∈ table ∧ key r ≠ key row) := by
  simp only [setRow, List.mem_map]
  constructor
  · intro h
    obtain ⟨x, hx, rfl⟩ := h
    split
    · next h => exact Or.inl ⟨rfl, x, hx, h⟩
    · next h => exact Or.inr ⟨hx, h⟩
  · intro h
    rcases h with ⟨rfl, x, hx, h⟩ | ⟨hr, h⟩
    · exact ⟨x, hx, by simp [h]⟩
    · exact ⟨r, hr, by simp [h]⟩

/-- Lookups of the other keys do not see an update. -/
theorem getRow_setRow_of_ne {row : ρ} {table : List ρ} {k : κ} (h : key row ≠ k) :
    getRow key (setRow key row table) k = getRow key table k := by
  unfold getRow setRow
  induction table with
  | nil => rfl
  | cons r table ih =>
      rw [List.map_cons, List.find?_cons, List.find?_cons, ih]
      by_cases hr : key r = key row
      · have hrk : key r ≠ k := hr ▸ h
        simp [hr, h]
      · simp [hr]

/-- A lookup of the key sees the update. -/
theorem getRow_setRow_self {row stored : ρ} {table : List ρ}
    (h : getRow key table (key row) = some stored) :
    getRow key (setRow key row table) (key row) = some row := by
  have hmem := (mem_setRow key).mpr
    (Or.inl ⟨rfl, List.mem_map.mpr ⟨stored, (getRow_some key h).1, (getRow_some key h).2⟩⟩)
  cases hget : getRow key (setRow key row table) (key row) with
  | none => exact absurd rfl ((getRow_none key).mp hget row hmem)
  | some found =>
      obtain ⟨hfound, hkey⟩ := getRow_some key hget
      rcases (mem_setRow key).mp hfound with ⟨rfl, -⟩ | ⟨-, hne⟩
      · rfl
      · exact absurd hkey hne

/-- What a written row shares with the stored one, no row of the table changes. -/
theorem setRow_map {σ : Type*} {f : ρ → σ} {row stored : ρ} {table : List ρ}
    (hnd : (table.map key).Nodup) (hget : getRow key table (key row) = some stored)
    (hf : f row = f stored) : (setRow key row table).map f = table.map f := by
  unfold setRow
  rw [List.map_map]
  refine List.map_congr_left ?_
  intro r hr
  by_cases h : key r = key row
  · -- the one row that is written
    obtain ⟨hstored, hkey⟩ := getRow_some key hget
    have heq : r = stored := List.inj_on_of_nodup_map hnd hr hstored (h.trans hkey.symm)
    simp [heq, hkey, hf]
  · simp [h]

omit [DecidableEq κ] in
/-- Rows of new keys leave the key unique. -/
theorem keys_nodup_append {table rows : List ρ} (ht : (table.map key).Nodup)
    (hr : (rows.map key).Nodup) (hne : ∀ r ∈ table, ∀ r' ∈ rows, key r ≠ key r') :
    ((table ++ rows).map key).Nodup := by
  rw [List.map_append, List.nodup_append]
  refine ⟨ht, hr, ?_⟩
  intro a ha b hb
  obtain ⟨r, hmem, rfl⟩ := List.mem_map.mp ha
  obtain ⟨r', hmem', rfl⟩ := List.mem_map.mp hb
  exact hne r hmem r' hmem'

omit [DecidableEq κ] in
/-- One row of a new key does. -/
theorem keys_nodup_insert {table : List ρ} {row : ρ} (ht : (table.map key).Nodup)
    (hne : ∀ r ∈ table, key r ≠ key row) : ((table ++ [row]).map key).Nodup := by
  refine keys_nodup_append key ht (List.nodup_singleton _) ?_
  intro r hr r' hr'
  rw [List.mem_singleton.mp hr']
  exact hne r hr

/-- The next number of a sequence is spent on the row that is inserted. -/
theorem keys_lt_insert {ρ : Type*} {key : ρ → Nat} {table : List ρ} {row : ρ}
    (h : ∀ r ∈ table, key r < key row) : ∀ r ∈ table ++ [row], key r < key row + 1 := by
  intro r hr
  rcases List.mem_append.mp hr with hold | hnew
  · exact Nat.lt_succ_of_lt (h r hold)
  · rw [List.mem_singleton.mp hnew]
    exact Nat.lt_succ_self _

/-! ## §2. Insert on conflict do nothing. -/

/-- The rows an insert adds to `table`, in order. -/
def inserted (table : List ρ) : List ρ → List ρ
  | [] => []
  | r :: rows =>
      if key r ∈ table.map key then inserted table rows
      else r :: inserted (table ++ [r]) rows

/-- The table after the insert. -/
def upsert (table rows : List ρ) : List ρ := table ++ inserted key table rows

/-- **After an insert the keys are the old ones and the offered ones.** -/
theorem mem_keys_upsert (table rows : List ρ) (k : κ) :
    k ∈ (upsert key table rows).map key ↔ k ∈ table.map key ∨ k ∈ rows.map key := by
  unfold upsert
  -- a skipped row changes nothing; an inserted one is in the table for the rest
  induction rows generalizing table with
  | nil => simp [inserted]
  | cons r rows ih =>
      rw [inserted]
      split
      · next hr =>
          rw [ih table, List.map_cons, List.mem_cons]
          constructor
          · intro h
            rcases h with h | h
            · exact Or.inl h
            · exact Or.inr (Or.inr h)
          · intro h
            rcases h with h | rfl | h
            · exact Or.inl h
            · exact Or.inl hr
            · exact Or.inr h
      · have hassoc : table ++ r :: inserted key (table ++ [r]) rows
            = (table ++ [r]) ++ inserted key (table ++ [r]) rows := by simp
        rw [hassoc, ih (table ++ [r]), List.map_append, List.mem_append, List.map_cons,
            List.map_nil, List.mem_singleton, List.map_cons, List.mem_cons, or_assoc]

/-- An insert adds rows it was given, of keys that were not there. -/
theorem mem_inserted {table rows : List ρ} {r : ρ} (h : r ∈ inserted key table rows) :
    r ∈ rows ∧ key r ∉ table.map key := by
  induction rows generalizing table with
  | nil => cases h
  | cons first rows ih =>
      rw [inserted] at h
      split at h
      · obtain ⟨hmem, hnew⟩ := ih h
        exact ⟨List.mem_cons_of_mem _ hmem, hnew⟩
      -- the first row goes in, and the rest is inserted into a table that has it
      · next hfirst =>
          rcases List.mem_cons.mp h with rfl | h
          · exact ⟨List.mem_cons_self, hfirst⟩
          · obtain ⟨hmem, hnew⟩ := ih h
            refine ⟨List.mem_cons_of_mem _ hmem, ?_⟩
            -- a key of the old table is one of the larger table too
            intro hold
            rw [List.map_append] at hnew
            exact hnew (List.mem_append_left _ hold)

/-- **An insert leaves the key unique.** -/
theorem upsert_nodup {table : List ρ} (h : (table.map key).Nodup) (rows : List ρ) :
    ((upsert key table rows).map key).Nodup := by
  unfold upsert
  induction rows generalizing table with
  | nil =>
      rw [inserted, List.append_nil]
      exact h
  | cons first rows ih =>
      rw [inserted]
      split
      · exact ih h
      · next hfirst =>
          -- the key is new, so the table with this row still has each key once
          have hone : ((table ++ [first]).map key).Nodup := by
            refine keys_nodup_insert key h ?_
            intro r hr hkey
            exact hfirst (List.mem_map.mpr ⟨r, hr, hkey⟩)
          have hrest := ih hone
          rw [List.append_assoc] at hrest
          exact hrest

end Feedcast.Lib
