/-
  Feedcast.Lib.Replace — a collection that is replaced whole.

  A session loads the keys of the collection and later replaces it: the rows
  whose keys it loaded are deleted (a row already gone is no error) and a batch
  of new rows is inserted under fresh keys.  Sessions overlap.  A session is
  open until it has replaced the collection.

  What a state holds is fixed by the last load:

    • `Since.step` — from a load on, the collection is what is left of the rows
      loaded then, and below it the batches committed since,
    • `Since.rows_of_closed` — once the session of that load is closed, only the
      batches are left, all of them,
    • `atMostOne_of_perm`, `perm_of_atMostOne` — batches that each number their
      rows from 0 make up one such batch exactly if at most one of them has rows.
-/
import Mathlib.Data.List.Sort
import Mathlib.Tactic.Common

namespace Feedcast.Lib

variable {ρ : Type*}

/-! ## §1. The collection. -/

/-- Keyed rows, the next key, and for each session the keys it has loaded, or
`none` once it is closed. -/
structure Replace (ρ : Type*) where
  rows : List (Nat × ρ)
  next : Nat
  views : List (Option (List Nat))

/-- A batch under the keys from `next` on. -/
def number (next : Nat) (batch : List ρ) : List (Nat × ρ) :=
  batch.mapIdx fun i row => (next + i, row)

@[simp] theorem number_snd (next : Nat) (batch : List ρ) :
    (number next batch).map Prod.snd = batch := by
  refine List.ext_getElem (by simp [number]) ?_
  intro i _ _
  simp [number]

theorem le_of_mem_number {next : Nat} {batch : List ρ} {row : Nat × ρ}
    (h : row ∈ number next batch) : next ≤ row.1 ∧ row.1 < next + batch.length := by
  obtain ⟨i, hi, rfl⟩ := List.mem_mapIdx.mp h
  exact ⟨Nat.le_add_right _ _, Nat.add_lt_add_left hi _⟩

/-- A session loads the collection. -/
def Replace.load (s : Replace ρ) : Replace ρ :=
  { s with views := s.views ++ [some (s.rows.map Prod.fst)] }

/-- Session `i`, which has loaded `keys`, replaces the collection. -/
def Replace.commit (s : Replace ρ) (i : Nat) (keys : List Nat) (batch : List ρ) : Replace ρ where
  rows := (s.rows.filter fun row => row.1 ∉ keys) ++ number s.next batch
  next := s.next + batch.length
  views := s.views.set i none

/-- The sequence is ahead of every key. -/
structure Replace.Bounded (s : Replace ρ) : Prop where
  rows : ∀ row ∈ s.rows, row.1 < s.next
  views : ∀ keys, some keys ∈ s.views → ∀ key ∈ keys, key < s.next

theorem Replace.Bounded.load {s : Replace ρ} (h : s.Bounded) : s.load.Bounded where
  rows := h.rows
  views keys hkeys key hkey := by
    rcases List.mem_append.mp hkeys with hold | hnew
    · exact h.views keys hold key hkey
    · cases List.mem_singleton.mp hnew
      obtain ⟨row, hrow, rfl⟩ := List.mem_map.mp hkey
      exact h.rows row hrow

/-- Closing a session opens none. -/
theorem mem_views_of_commit {s : Replace ρ} {i : Nat} {keys keys' : List Nat} {batch : List ρ}
    (h : some keys' ∈ (s.commit i keys batch).views) : some keys' ∈ s.views := by
  rcases List.mem_or_eq_of_mem_set h with h | h
  · exact h
  · cases h

theorem Replace.Bounded.commit {s : Replace ρ} (h : s.Bounded) (i : Nat) (keys : List Nat)
    (batch : List ρ) : (s.commit i keys batch).Bounded where
  rows row hrow := by
    show row.1 < s.next + batch.length
    rcases List.mem_append.mp hrow with hold | hnew
    · exact Nat.lt_add_right _ (h.rows row (List.mem_of_mem_filter hold))
    · exact (le_of_mem_number hnew).2
  views keys' hkeys key hkey :=
    Nat.lt_add_right _ (h.views keys' (mem_views_of_commit hkeys) key hkey)

/-! ## §2. Since a load. -/

/-- The state since session `k` loaded `keys`, when the next key was `n`; `done`
is what has been inserted since. -/
structure Since (n k : Nat) (keys : List Nat) (done : List ρ) (s : Replace ρ) : Prop where
  next_le : n ≤ s.next
  /-- Every open session loaded before any of the new rows was there. -/
  views_lt : ∀ keys', some keys' ∈ s.views → ∀ key ∈ keys', key < n
  /-- The old rows are among those session `k` is going to delete. -/
  rows_split : ∃ old new, s.rows = old ++ new ∧ (∀ row ∈ old, row.1 ∈ keys)
    ∧ (∀ row ∈ new, n ≤ row.1) ∧ new.map Prod.snd = done
    ∧ (s.views[k]? = some (some keys) ∨ old = [])

theorem Since.load {s : Replace ρ} (h : s.Bounded) :
    Since s.next s.views.length (s.rows.map Prod.fst) [] s.load where
  next_le := Nat.le_refl _
  views_lt := h.load.views
  rows_split := by
    refine ⟨s.rows, [], (List.append_nil _).symm, ?_, ?_, rfl, Or.inl ?_⟩
    · intro row hrow
      exact List.mem_map_of_mem hrow
    · intro row hrow
      cases hrow
    · simp [Replace.load]

/-- **A commit deletes old rows only**, and its batch is kept. -/
theorem Since.commit {n k i : Nat} {keys keys' : List Nat} {done : List ρ} {s : Replace ρ}
    (h : Since n k keys done s) (hi : s.views[i]? = some (some keys')) (batch : List ρ) :
    Since n k keys (done ++ batch) (s.commit i keys' batch) where
  next_le := Nat.le_add_right_of_le h.next_le
  views_lt keys'' hkeys := h.views_lt keys'' (mem_views_of_commit hkeys)
  rows_split := by
    obtain ⟨old, new, hrows, hold, hnew, hdone, hk⟩ := h.rows_split
    -- no session has one of the new rows in hand
    have hkept : (new.filter fun row => row.1 ∉ keys') = new := by
      refine List.filter_eq_self.mpr ?_
      intro row hrow
      have hlt := h.views_lt keys' (List.mem_of_getElem? hi)
      rw [decide_eq_true_iff]
      exact fun hmem => Nat.not_lt.mpr (hnew row hrow) (hlt row.1 hmem)
    refine ⟨old.filter fun row => row.1 ∉ keys', new ++ number s.next batch, ?_, ?_, ?_, ?_, ?_⟩
    · show (s.rows.filter _) ++ _ = _
      rw [hrows, List.filter_append, hkept, List.append_assoc]
    · intro row hrow
      exact hold row (List.mem_of_mem_filter hrow)
    · intro row hrow
      rcases List.mem_append.mp hrow with hrow | hrow
      · exact hnew row hrow
      · exact Nat.le_trans h.next_le (le_of_mem_number hrow).1
    · rw [List.map_append, hdone, number_snd]
    · rcases hk with hk | rfl
      · by_cases hik : i = k
        · -- the session of the load itself: all its old rows go
          subst hik
          rw [hk] at hi
          cases hi
          refine Or.inr (List.filter_eq_nil_iff.mpr ?_)
          intro row hrow
          rw [decide_eq_true_iff, not_not]
          exact hold row hrow
        · exact Or.inl (by rw [← hk]; exact List.getElem?_set_ne hik)
      · exact Or.inr rfl

/-- **Once every session is closed, the batches since the last load are left.** -/
theorem Since.rows_of_closed {n k : Nat} {keys : List Nat} {done : List ρ} {s : Replace ρ}
    (h : Since n k keys done s) (hclosed : ∀ view ∈ s.views, view = none) :
    s.rows.map Prod.snd = done := by
  obtain ⟨old, new, hrows, -, -, hdone, hk | rfl⟩ := h.rows_split
  · cases hclosed _ (List.mem_of_getElem? hk)
  · rw [hrows, List.nil_append, hdone]

/-! ## §3. Batches that carry positions. -/

section Positioned

variable {α : Type*}

/-- The members of a list, each with its position. -/
def positioned (xs : List α) : List (Nat × α) := xs.mapIdx fun i x => (i, x)

theorem mem_positioned {xs : List α} {i : Nat} {x : α} :
    (i, x) ∈ positioned xs ↔ xs[i]? = some x := by
  unfold positioned
  rw [List.mem_mapIdx]
  constructor
  · intro h
    obtain ⟨j, hj, h⟩ := h
    cases h
    exact List.getElem?_eq_getElem hj
  · intro h
    obtain ⟨hi, hx⟩ := List.getElem?_eq_some_iff.mp h
    exact ⟨i, hi, by rw [hx]⟩

/-- Positions determine the list. -/
theorem positioned_perm {xs ys : List α} (h : (positioned xs).Perm (positioned ys)) : xs = ys := by
  refine List.ext_getElem? ?_
  intro i
  refine Option.ext ?_
  intro x
  rw [← mem_positioned, ← mem_positioned]
  exact h.mem_iff

theorem flatMap_positioned_map {β : Type*} (f : α → β) (batches : List (List α)) :
    (batches.flatMap positioned).map (fun row => (row.1, f row.2))
      = (batches.map fun xs => xs.map f).flatMap positioned := by
  rw [List.map_flatMap, List.flatMap_map]
  congr 1
  funext xs
  refine List.ext_getElem (by simp [positioned]) ?_
  intro i _ _
  simp [positioned]

/-- How many rows a batch has at position 0. -/
theorem countP_positioned_zero (xs : List α) :
    (positioned xs).countP (fun row => row.1 = 0) = if xs.isEmpty then 0 else 1 := by
  cases xs with
  | nil => rfl
  | cons x xs =>
      unfold positioned
      rw [List.mapIdx_cons, List.countP_cons]
      have hrest : (xs.mapIdx fun i x => (i + 1, x)).countP (fun row => row.1 = 0) = 0 := by
        refine List.countP_eq_zero.mpr ?_
        intro row hrow
        obtain ⟨i, hi, rfl⟩ := List.mem_mapIdx.mp hrow
        simp
      simp [hrest]

theorem countP_flatMap_positioned_zero (batches : List (List α)) :
    (batches.flatMap positioned).countP (fun row => row.1 = 0)
      = (batches.filter fun xs => !xs.isEmpty).length := by
  induction batches with
  | nil => rfl
  | cons xs batches ih =>
      rw [List.flatMap_cons, List.countP_append, ih, countP_positioned_zero, List.filter_cons]
      cases xs.isEmpty with
      | true => simp
      | false => simp [Nat.add_comm]

/-- **Two batches that both have rows collide at position 0.** -/
theorem atMostOne_of_perm {batches : List (List α)} {xs : List α}
    (h : (batches.flatMap positioned).Perm (positioned xs)) :
    (batches.filter fun xs => !xs.isEmpty).length ≤ 1 := by
  rw [← countP_flatMap_positioned_zero, h.countP_eq, countP_positioned_zero]
  split <;> omega

/-- The empty batches add nothing. -/
theorem flatMap_positioned_filter (batches : List (List α)) :
    batches.flatMap positioned = (batches.filter fun xs => !xs.isEmpty).flatMap positioned := by
  induction batches with
  | nil => rfl
  | cons xs batches ih =>
      rw [List.flatMap_cons, ih, List.filter_cons]
      cases xs with
      | nil => rfl
      | cons x xs => rfl

/-- One batch with rows is all there is of them. -/
theorem perm_of_atMostOne {batches : List (List α)} (hne : batches ≠ [])
    (h : (batches.filter fun xs => !xs.isEmpty).length ≤ 1) :
    ∃ xs ∈ batches, (batches.flatMap positioned).Perm (positioned xs) := by
  cases hfilter : batches.filter fun xs => !xs.isEmpty with
  | nil =>
      -- no batch has rows: any of them will do
      obtain ⟨xs, rest, rfl⟩ := List.exists_cons_of_ne_nil hne
      have hxs : xs = [] := by
        have := List.filter_eq_nil_iff.mp hfilter xs List.mem_cons_self
        simpa using this
      refine ⟨xs, List.mem_cons_self, ?_⟩
      rw [flatMap_positioned_filter, hfilter, hxs]
      exact List.Perm.refl _
  | cons xs rest =>
      have hrest : rest = [] := by
        rw [hfilter, List.length_cons] at h
        exact List.length_eq_zero_iff.mp (by omega)
      refine ⟨xs, ?_, ?_⟩
      · exact List.mem_of_mem_filter (hfilter ▸ List.mem_cons_self)
      · rw [flatMap_positioned_filter, hfilter, hrest, List.flatMap_cons, List.flatMap_nil,
          List.append_nil]

/-- **The batches make up one list exactly if those with rows are that list.** -/
theorem flatMap_positioned_perm_iff {batches : List (List α)} {xs : List α} :
    (batches.flatMap positioned).Perm (positioned xs)
      ↔ batches.filter (fun ys => !ys.isEmpty) = [xs].filter fun ys => !ys.isEmpty := by
  have hxs : ([xs].filter fun ys => !ys.isEmpty).flatMap positioned = positioned xs := by
    cases xs <;> simp [positioned]
  constructor
  · intro h
    -- position 0 occurs once, so at most one batch is not empty
    have hone := atMostOne_of_perm h
    rw [flatMap_positioned_filter] at h
    cases hfilter : batches.filter fun ys => !ys.isEmpty with
    | nil =>
        rw [hfilter] at h
        have hempty : (positioned ([] : List α)).Perm (positioned xs) := h
        have hnil : xs = [] := (positioned_perm hempty).symm
        simp [hnil]
    | cons ys rest =>
        rw [hfilter, List.length_cons] at hone
        have hrest : rest = [] := List.length_eq_zero_iff.mp (by omega)
        rw [hfilter, hrest, List.flatMap_cons, List.flatMap_nil, List.append_nil] at h
        -- the one batch left has the same items at the same positions
        have hys : ys = xs := positioned_perm h
        have hmem : ys ∈ batches.filter fun ys => !ys.isEmpty := by
          rw [hfilter]
          exact List.mem_cons_self
        have hne := (List.mem_filter.mp hmem).2
        rw [hrest, ← hys, List.filter_cons, if_pos hne, List.filter_nil]
  · intro h
    rw [flatMap_positioned_filter, h, hxs]

/-! ## §4. Sorting by position. -/

section Sorted

variable {β : Type*} {pos : α → Nat} {rows : List α}

/-- Rows whose positions are 0 to n-1 are sorted into them. -/
theorem positions_of_sorted (h : (rows.map pos).Perm (List.range rows.length)) :
    (rows.insertionSort fun a b => pos a ≤ pos b).map pos = List.range rows.length := by
  rw [List.map_insertionSort (fun a b => pos a ≤ pos b) (· ≤ ·) pos rows
    fun _ _ _ _ => Iff.rfl]
  have hsorted : ((rows.map pos).insertionSort (· ≤ ·)).Pairwise (· ≤ ·) :=
    List.pairwise_insertionSort _ _
  have hrange : (List.range rows.length).Pairwise (· ≤ ·) :=
    List.pairwise_lt_range.imp Nat.le_of_lt
  refine List.Perm.eq_of_pairwise ?_ hsorted hrange ((List.perm_insertionSort _ _).trans h)
  intro a b _ _ hab hba
  exact Nat.le_antisymm hab hba

/-- Rows in position order are their own positions. -/
theorem map_eq_positioned {f : α → β} (h : rows.map pos = List.range rows.length) :
    rows.map (fun row => (pos row, f row)) = positioned (rows.map f) := by
  refine List.ext_getElem (by simp [positioned]) ?_
  intro i hi _
  rw [List.length_map] at hi
  have hpos : pos rows[i] = i := by
    have := congrArg (·[i]?) h
    simpa [hi] using this
  simp [positioned, hpos]

/-- **Dense rows, sorted, are a list with its positions.** -/
theorem perm_positioned_sorted (f : α → β) (h : (rows.map pos).Perm (List.range rows.length)) :
    (rows.map fun row => (pos row, f row)).Perm
      (positioned ((rows.insertionSort fun a b => pos a ≤ pos b).map f)) := by
  have hpos := positions_of_sorted h
  have hlen : (rows.insertionSort fun a b => pos a ≤ pos b).length = rows.length :=
    List.length_insertionSort _ _
  rw [← hlen] at hpos
  rw [← map_eq_positioned hpos]
  exact (List.perm_insertionSort _ _).symm.map _

/-- Rows that are a list with its positions are dense, and sorted they are the list. -/
theorem sorted_of_perm_positioned {f : α → β} {xs : List β}
    (h : (rows.map fun row => (pos row, f row)).Perm (positioned xs)) :
    (rows.map pos).Perm (List.range rows.length)
      ∧ (rows.insertionSort fun a b => pos a ≤ pos b).map f = xs := by
  have hlen : xs.length = rows.length := by
    simpa [positioned] using h.length_eq.symm
  -- the positions stored are those of the list, each once
  have hdense : (rows.map pos).Perm (List.range rows.length) := by
    have hfst := h.map Prod.fst
    rw [List.map_map] at hfst
    have hrange : (positioned xs).map Prod.fst = List.range rows.length := by
      rw [← hlen]
      refine List.ext_getElem (by simp [positioned]) ?_
      intro i _ _
      simp [positioned]
    rw [hrange] at hfst
    exact hfst
  exact ⟨hdense, positioned_perm ((perm_positioned_sorted f hdense).symm.trans h)⟩

end Sorted

end Positioned

end Feedcast.Lib
