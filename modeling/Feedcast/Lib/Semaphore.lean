/-
  Feedcast.Lib.Semaphore — a batch of tasks under one counting semaphore.

  Each task acquires the semaphore, runs its body and releases it.  A permit that
  is freed goes to the oldest waiter, which is woken and goes on later; whoever
  finds a waiter there queues behind it, even while permits are free.

    • `Batch.step` — a task asks for a permit, goes on with one, or ends,
    • `Batch.Sound` — permits are neither lost nor made, and no waiter sleeps
      while one is free and nobody is about to pass it on,
    • `Sound.step`, `sound_run` — one step keeps this, and so does every run,
    • `Batch.rank_step` — every step brings the batch closer to its end,
    • `Batch.finished_of_stuck` — with a permit to share, only a finished batch
      is stuck.
-/
import Feedcast.Lib.Runs
import Feedcast.Lib.Traverse
import Mathlib.Tactic.Common
import Mathlib.Algebra.BigOperators.Group.List.Basic
import Mathlib.Algebra.Order.Ring.Int

namespace Feedcast.Lib

/-! ## §1. Tasks and permits. -/

/-- Where a task stands.  `γ` is what its body notes when it starts, `β` what it
comes to. -/
inductive Slot (β γ : Type)
  | created
  | queued
  /-- It has been given a permit, and has not gone on yet. -/
  | woken
  | running (note : γ)
  | finished (note : γ) (result : β)
  deriving Repr, DecidableEq

namespace Slot

variable {β γ : Type}

def isQueued : Slot β γ → Bool
  | queued => true
  | _ => false

def isWoken : Slot β γ → Bool
  | woken => true
  | _ => false

def isRunning : Slot β γ → Bool
  | running _ => true
  | _ => false

/-- It holds a permit. -/
def holds (slot : Slot β γ) : Bool := slot.isWoken || slot.isRunning

/-- Its body was entered. -/
def entered : Slot β γ → Bool
  | running _ => true
  | finished _ _ => true
  | _ => false

/-- What it has come to. -/
def result : Slot β γ → Option β
  | finished _ result => some result
  | _ => none

/-- How far it is from its end. -/
def rank : Slot β γ → Nat
  | created => 4
  | queued => 3
  | woken => 2
  | running _ => 1
  | finished _ _ => 0

end Slot

structure Batch (β γ : Type) where
  /-- The permits that are free. -/
  value : Nat
  slots : List (Slot β γ)
  /-- The tasks that wait, the oldest first. -/
  queue : List Nat := []
  /-- The tasks whose bodies were entered, in that order. -/
  entries : List Nat := []
  deriving Repr, DecidableEq

inductive BatchAction (β γ : Type)
  /-- The task runs up to the semaphore. -/
  | start (i : Nat) (note : γ)
  /-- It goes on with the permit it was given. -/
  | resume (i : Nat) (note : γ)
  | finish (i : Nat) (result : β)
  deriving Repr, DecidableEq

namespace Batch

variable {β γ : Type}

def opened (permits tasks : Nat) : Batch β γ where
  value := permits
  slots := List.replicate tasks .created

/-- The oldest waiter that was not given a permit yet. -/
def sleeper (batch : Batch β γ) : Option Nat :=
  batch.queue.find? fun i => (batch.slots[i]?).any Slot.isQueued

/-- A free permit goes to it. -/
def wakeNext (batch : Batch β γ) : Batch β γ :=
  match batch.sleeper with
  | none => batch
  | some i => { batch with value := batch.value - 1, slots := batch.slots.set i .woken }

/-- As many of them as are free. -/
def wakeAll : Nat → Batch β γ → Batch β γ
  | 0, batch => batch
  | free + 1, batch =>
      match batch.sleeper with
      | none => batch
      | some _ => wakeAll free batch.wakeNext

def step (batch : Batch β γ) : BatchAction β γ → Option (Batch β γ)
  | .start i note =>
      match batch.slots[i]? with
      | some .created =>
          if 0 < batch.value ∧ batch.queue = [] then
            some { batch with
              value := batch.value - 1
              slots := batch.slots.set i (.running note)
              entries := batch.entries ++ [i] }
          else some { batch with slots := batch.slots.set i .queued, queue := batch.queue ++ [i] }
      | _ => none
  | .resume i note =>
      match batch.slots[i]? with
      | some .woken =>
          some (wakeAll batch.value { batch with
            slots := batch.slots.set i (.running note)
            queue := batch.queue.erase i
            entries := batch.entries ++ [i] })
      | _ => none
  | .finish i result =>
      match batch.slots[i]? with
      | some (.running note) =>
          some (wakeNext { batch with
            value := batch.value + 1
            slots := batch.slots.set i (.finished note result) })
      | _ => none

/-- What `gather` returns: the results in the order of the tasks. -/
def gathered (batch : Batch β γ) : Option (List β) := batch.slots.mapM Slot.result

/-! ## §2. One slot changes. -/

/-- The slot of the task is of this kind. -/
def is (batch : Batch β γ) (p : Slot β γ → Bool) (i : Nat) : Bool := (batch.slots[i]?).any p

variable {batch batch' : Batch β γ} {permits i j : Nat} {slot slot' : Slot β γ}
  {action : BatchAction β γ} {p : Slot β γ → Bool}

theorem is_of_get (h : batch.slots[i]? = some slot) : batch.is p i = p slot := by
  unfold is
  rw [h]
  rfl

theorem is_set (h : batch.slots[i]? = some slot) (value : Nat) (queue entries : List Nat)
    (j : Nat) :
    ({ value := value, slots := batch.slots.set i slot', queue := queue
       entries := entries } : Batch β γ).is p j = if j = i then p slot' else batch.is p j := by
  obtain ⟨hlt, -⟩ := List.getElem?_eq_some_iff.mp h
  unfold is
  by_cases hj : j = i
  · subst hj
    rw [if_pos rfl, List.getElem?_set_self hlt]
    rfl
  · rw [if_neg hj, List.getElem?_set_ne (Ne.symm hj)]

theorem get_of_is (h : batch.is p i = true) :
    ∃ slot, batch.slots[i]? = some slot ∧ p slot = true := by
  unfold is at h
  cases hget : batch.slots[i]? with
  | none => simp [hget] at h
  | some slot => exact ⟨slot, rfl, by simpa [hget] using h⟩

/-- A sum over the slots, when one of them changes. -/
theorem sum_set {slots : List (Slot β γ)} (slot' : Slot β γ) (f : Slot β γ → Nat)
    (h : slots[i]? = some slot) :
    ((slots.set i slot').map f).sum + f slot = (slots.map f).sum + f slot' := by
  induction slots generalizing i with
  | nil => cases h
  | cons s slots ih =>
      cases i with
      | zero =>
          obtain rfl := Option.some.inj h
          simp only [List.set_cons_zero, List.map_cons, List.sum_cons]
          omega
      | succ i =>
          have hrest := ih h
          simp only [List.set_cons_succ, List.map_cons, List.sum_cons]
          omega

/-- A slot that changes and comes to nothing new leaves the results as they are. -/
theorem results_set {slots : List (Slot β γ)} (h : slots[i]? = some slot)
    (hresult : slot'.result = slot.result) :
    (slots.set i slot').map Slot.result = slots.map Slot.result := by
  obtain ⟨hlt, rfl⟩ := List.getElem?_eq_some_iff.mp h
  rw [List.map_set, hresult, ← List.map_set, List.set_getElem_self]

/-- The permits that are held. -/
def held (slots : List (Slot β γ)) : Nat := (slots.map fun s => s.holds.toNat).sum

def rank (batch : Batch β γ) : Nat := (batch.slots.map Slot.rank).sum

/-! ## §3. Permits. -/

/-- **No permit is lost and none is made**, and while one is free, whoever sleeps
will be passed it. -/
structure Sound (permits : Nat) (batch : Batch β γ) : Prop where
  permits : batch.value + held batch.slots = permits
  queue : ∀ i, i ∈ batch.queue ↔ batch.is (fun s => s.isQueued || s.isWoken) i = true
  nodup : batch.queue.Nodup
  awake : 0 < batch.value → ∀ i, batch.is Slot.isQueued i = true →
    ∃ j, batch.is Slot.isWoken j = true
  entries : ∀ i, i ∈ batch.entries ↔ batch.is Slot.entered i = true
  once : batch.entries.Nodup

theorem opened_is (permits tasks i : Nat) (h : p .created = false) :
    (opened permits tasks : Batch β γ).is p i = false := by
  unfold is opened
  rw [List.getElem?_replicate]
  split
  · exact h
  · rfl

theorem sound_opened (permits tasks : Nat) :
    Sound permits (opened permits tasks : Batch β γ) where
  -- every task is created, and holds nothing
  permits := by simp [opened, held, Slot.holds, Slot.isWoken, Slot.isRunning]
  queue := by
    intro i
    rw [opened_is permits tasks i rfl]
    exact iff_of_false List.not_mem_nil Bool.false_ne_true
  nodup := List.nodup_nil
  awake := by
    intro _ i hqueued
    rw [opened_is permits tasks i rfl] at hqueued
    cases hqueued
  entries := by
    intro i
    rw [opened_is permits tasks i rfl]
    exact iff_of_false List.not_mem_nil Bool.false_ne_true
  once := List.nodup_nil

theorem sleeper_some (h : batch.sleeper = some i) : batch.slots[i]? = some .queued := by
  obtain ⟨slot, hget, hqueued⟩ := get_of_is (List.find?_some h)
  cases slot with
  | queued => exact hget
  | created => cases hqueued
  | woken => cases hqueued
  | running note => cases hqueued
  | finished note result => cases hqueued

theorem sleeper_none (hqueue : ∀ i, batch.is Slot.isQueued i = true → i ∈ batch.queue)
    (h : batch.sleeper = none) (i : Nat) : batch.is Slot.isQueued i = false := by
  have hnone := List.find?_eq_none.mp h
  by_contra hqueued
  rw [Bool.not_eq_false] at hqueued
  exact hnone i (hqueue i hqueued) hqueued

/-- What holds of the queue and of the log whatever becomes of the permits. -/
structure Listed (batch : Batch β γ) : Prop where
  queue : ∀ i, i ∈ batch.queue ↔ batch.is (fun s => s.isQueued || s.isWoken) i = true
  nodup : batch.queue.Nodup
  entries : ∀ i, i ∈ batch.entries ↔ batch.is Slot.entered i = true
  once : batch.entries.Nodup

theorem Sound.listed (h : Sound permits batch) : Listed batch where
  queue := h.queue
  nodup := h.nodup
  entries := h.entries
  once := h.once

/-- A permit that is free goes to the oldest sleeper, if there is one. -/
theorem Listed.wakeNext (h : Listed batch) (hpermits : batch.value + held batch.slots = permits)
    (hfree : 0 < batch.value) : Sound permits batch.wakeNext := by
  unfold Batch.wakeNext
  cases hsleeper : batch.sleeper with
  | none =>
      refine ⟨hpermits, h.queue, h.nodup, ?_, h.entries, h.once⟩
      intro _ i hqueued
      -- `sleeper` looks through the queue, and all who sleep are in it
      have hmem : ∀ i, batch.is Slot.isQueued i = true → i ∈ batch.queue := by
        intro i hi
        refine (h.queue i).mpr ?_
        obtain ⟨slot, hget, hslot⟩ := get_of_is hi
        rw [is_of_get hget, hslot]
        rfl
      rw [sleeper_none hmem hsleeper i] at hqueued
      cases hqueued
  | some k =>
      have hget := sleeper_some hsleeper
      refine ⟨?_, ?_, h.nodup, ?_, ?_, h.once⟩
      -- the permit passes from the counter to the one who is woken
      · have hsum := sum_set .woken (fun s => s.holds.toNat) hget
        change held (batch.slots.set k .woken) + 0 = held batch.slots + 1 at hsum
        show batch.value - 1 + held (batch.slots.set k .woken) = permits
        omega
      · intro i
        rw [is_set hget, h.queue i]
        by_cases hi : i = k
        · subst hi
          rw [if_pos rfl, is_of_get hget]
          exact Iff.rfl
        · rw [if_neg hi]
      · intro _ _ _
        refine ⟨k, ?_⟩
        rw [is_set hget, if_pos rfl]
        rfl
      · intro i
        rw [is_set hget, h.entries i]
        by_cases hi : i = k
        · subst hi
          rw [if_pos rfl, is_of_get hget]
          exact Iff.rfl
        · rw [if_neg hi]

theorem Listed.wakeAll (h : Listed batch) (hpermits : batch.value + held batch.slots = permits) :
    Sound permits (Batch.wakeAll batch.value batch) := by
  generalize hfree : batch.value = free
  -- on the permits there are; it stops early once nobody sleeps
  induction free generalizing batch with
  | zero =>
      refine ⟨hpermits, h.queue, h.nodup, ?_, h.entries, h.once⟩
      intro hpos
      exact absurd hfree (Nat.ne_of_gt hpos)
  | succ free ih =>
      have hsound := h.wakeNext hpermits (by omega)
      unfold Batch.wakeAll
      cases hsleeper : batch.sleeper with
      | none =>
          unfold Batch.wakeNext at hsound
          rw [hsleeper] at hsound
          exact hsound
      | some k =>
          refine ih hsound.listed hsound.permits ?_
          unfold Batch.wakeNext
          rw [hsleeper]
          show batch.value - 1 = free
          omega

/-! ## §4. One step. -/

/-- What a step does, before a permit it frees is passed on. -/
theorem step_cases (h : batch.step action = some batch') :
    (∃ i note, action = .start i note ∧ batch.slots[i]? = some .created ∧
      ((0 < batch.value ∧ batch.queue = [] ∧ batch' =
          { batch with
            value := batch.value - 1
            slots := batch.slots.set i (.running note)
            entries := batch.entries ++ [i] }) ∨
        (¬ (0 < batch.value ∧ batch.queue = []) ∧ batch' =
          { batch with slots := batch.slots.set i .queued, queue := batch.queue ++ [i] }))) ∨
    (∃ i note, action = .resume i note ∧ batch.slots[i]? = some .woken ∧
      batch' = Batch.wakeAll batch.value { batch with
        slots := batch.slots.set i (.running note)
        queue := batch.queue.erase i
        entries := batch.entries ++ [i] }) ∨
    (∃ i note result, action = .finish i result ∧ batch.slots[i]? = some (.running note) ∧
      batch' = Batch.wakeNext { batch with
        value := batch.value + 1
        slots := batch.slots.set i (.finished note result) }) := by
  cases action with
  | start i note =>
      simp only [step] at h
      split at h
      · next hget =>
          -- a task that starts either passes at once or joins the queue
          refine Or.inl ⟨i, note, rfl, hget, ?_⟩
          split at h
          · next hfree =>
              cases h
              exact Or.inl ⟨hfree.1, hfree.2, rfl⟩
          · next hlocked =>
              cases h
              exact Or.inr ⟨hlocked, rfl⟩
      · cases h
  | resume i note =>
      simp only [step] at h
      split at h
      · next hget =>
          cases h
          -- only a woken task resumes, and it wakes others while the value lasts
          exact Or.inr (Or.inl ⟨i, note, rfl, hget, rfl⟩)
      · cases h
  | finish i result =>
      simp only [step] at h
      split at h
      · next note hget =>
          cases h
          -- a task that ends hands its unit back and wakes the next one
          exact Or.inr (Or.inr ⟨i, note, result, rfl, hget, rfl⟩)
      · cases h

/-- A task enters its body: it is neither waiting any more nor was it there before. -/
theorem Listed.enter (h : Listed batch) (note : γ) (hget : batch.slots[i]? = some slot)
    (hentered : slot.entered = false) (value : Nat) :
    Listed { value := value, slots := batch.slots.set i (.running note)
             queue := batch.queue.erase i, entries := batch.entries ++ [i] } := by
  -- an entry is noted once: this task had none
  have hnot : i ∉ batch.entries := by
    rw [h.entries i, is_of_get hget, hentered]
    exact Bool.false_ne_true
  refine ⟨?_, h.nodup.erase i, ?_, ?_⟩
  · intro j
    rw [is_set hget, h.nodup.mem_erase_iff, h.queue j]
    by_cases hj : j = i
    · subst hj
      simp [Slot.isQueued, Slot.isWoken]
    · simp [hj]
  · intro j
    rw [is_set hget, List.mem_append, List.mem_singleton, h.entries j]
    by_cases hj : j = i
    · subst hj
      simp [Slot.entered]
    · simp [hj]
  · refine List.nodup_append.mpr ⟨h.once, by simp, ?_⟩
    intro a ha b hb hab
    rw [List.mem_singleton] at hb
    exact hnot (hb ▸ hab ▸ ha)

/-- The slot changes, and neither the queue nor the log has to. -/
theorem Listed.keep (h : Listed batch) (slot' : Slot β γ) (hget : batch.slots[i]? = some slot)
    (hwaits : (slot'.isQueued || slot'.isWoken) = (slot.isQueued || slot.isWoken))
    (hentered : slot'.entered = slot.entered) (value : Nat) :
    Listed { value := value, slots := batch.slots.set i slot', queue := batch.queue
             entries := batch.entries } := by
  -- the two lists are as they were, so only membership is looked at again
  refine ⟨?_, h.nodup, ?_, h.once⟩
  · intro j
    rw [is_set hget, h.queue j]
    by_cases hj : j = i
    · subst hj
      rw [if_pos rfl, is_of_get hget, hwaits]
    · rw [if_neg hj]
  · intro j
    rw [is_set hget, h.entries j]
    by_cases hj : j = i
    · subst hj
      rw [if_pos rfl, is_of_get hget, hentered]
    · rw [if_neg hj]

/-- A task queues behind those who wait. -/
theorem Listed.enqueue (h : Listed batch) (hget : batch.slots[i]? = some .created) :
    Listed { batch with slots := batch.slots.set i .queued, queue := batch.queue ++ [i] } := by
  -- a task that was only created is in no queue
  have hnot : i ∉ batch.queue := by
    rw [h.queue i, is_of_get hget]
    exact Bool.false_ne_true
  refine ⟨?_, ?_, ?_, h.once⟩
  · intro j
    rw [is_set hget, List.mem_append, List.mem_singleton, h.queue j]
    by_cases hj : j = i
    · subst hj
      simp [Slot.isQueued]
    · simp [hj]
  · refine List.nodup_append.mpr ⟨h.nodup, by simp, ?_⟩
    intro a ha b hb hab
    rw [List.mem_singleton] at hb
    exact hnot (hb ▸ hab ▸ ha)
  · intro j
    rw [is_set hget, h.entries j]
    by_cases hj : j = i
    · subst hj
      rw [if_pos rfl, is_of_get hget]
      exact Iff.rfl
    · rw [if_neg hj]

/-- Where permits are free and a task has to wait, somebody is about to go on. -/
theorem Sound.someone_woken (h : Sound permits batch) (hfree : 0 < batch.value)
    (hwaits : batch.queue ≠ []) : ∃ j, batch.is Slot.isWoken j = true := by
  obtain ⟨k, hk⟩ := List.exists_mem_of_ne_nil batch.queue hwaits
  obtain ⟨slot, hget, hslot⟩ := get_of_is ((h.queue k).mp hk)
  rcases (Bool.or_eq_true _ _).mp hslot with hqueued | hwoken
  · exact h.awake hfree k (by rw [is_of_get hget, hqueued])
  · exact ⟨k, by rw [is_of_get hget, hwoken]⟩

/-- **One step keeps the permits.** -/
theorem Sound.step (h : Sound permits batch) (hstep : batch.step action = some batch') :
    Sound permits batch' := by
  have hpermits := h.permits
  rcases step_cases hstep with ⟨i, note, -, hget, hcases⟩ | ⟨i, note, -, hget, rfl⟩ |
    ⟨i, note, result, -, hget, rfl⟩
  · rcases hcases with ⟨hfree, hempty, rfl⟩ | ⟨hlocked, rfl⟩
    · -- there is a permit, and nobody waits for it
      have hlisted := h.listed.enter note hget rfl (batch.value - 1)
      have hqueue : batch.queue.erase i = batch.queue := by
        rw [hempty]
        rfl
      rw [hqueue] at hlisted
      have hsum := sum_set (.running note) (fun s => s.holds.toNat) hget
      change held (batch.slots.set i (.running note)) + 0 = held batch.slots + 1 at hsum
      refine ⟨?_, hlisted.queue, hlisted.nodup, ?_, hlisted.entries, hlisted.once⟩
      · show batch.value - 1 + held (batch.slots.set i (.running note)) = permits
        omega
      · intro _ j hqueued
        have hmem : j ∈ batch.queue := by
          refine (hlisted.queue j).mpr ?_
          obtain ⟨slot, hj, hslot⟩ := get_of_is hqueued
          unfold is
          rw [hj]
          simp [hslot]
        rw [hempty] at hmem
        cases hmem
    -- no permit, or somebody before it: the task queues
    · have hlisted := h.listed.enqueue hget
      have hsum := sum_set .queued (fun s => s.holds.toNat) hget
      change held (batch.slots.set i .queued) + 0 = held batch.slots + 0 at hsum
      refine ⟨?_, hlisted.queue, hlisted.nodup, ?_, hlisted.entries, hlisted.once⟩
      · show batch.value + held (batch.slots.set i .queued) = permits
        omega
      · intro hfree _ _
        -- a permit that is free is meant for one who was woken
        obtain ⟨j, hwoken⟩ := h.someone_woken hfree fun hempty => hlocked ⟨hfree, hempty⟩
        refine ⟨j, ?_⟩
        rw [is_set hget]
        by_cases hj : j = i
        · subst hj
          rw [is_of_get hget] at hwoken
          cases hwoken
        · rw [if_neg hj]
          exact hwoken
  -- a woken task goes on with the permit it was given
  · have hlisted := h.listed.enter note hget rfl batch.value
    have hsum := sum_set (.running note) (fun s => s.holds.toNat) hget
    change held (batch.slots.set i (.running note)) + 1 = held batch.slots + 1 at hsum
    refine hlisted.wakeAll ?_
    show batch.value + held (batch.slots.set i (.running note)) = permits
    omega
  -- a task ends and gives its permit back
  · have hlisted := h.listed.keep (.finished note result) hget rfl rfl (batch.value + 1)
    have hsum := sum_set (.finished note result) (fun s => s.holds.toNat) hget
    change held (batch.slots.set i (.finished note result)) + 1 = held batch.slots + 0 at hsum
    refine hlisted.wakeNext ?_ (Nat.succ_pos _)
    show batch.value + 1 + held (batch.slots.set i (.finished note result)) = permits
    omega

theorem sound_run {actions : List (BatchAction β γ)} {tasks : Nat}
    (h : Run Batch.step (opened permits tasks) actions batch) : Sound permits batch :=
  h.invariant (fun _ _ _ => Sound.step) (sound_opened permits tasks)

/-- **At most as many bodies run as there are permits.** -/
theorem Sound.running_le (h : Sound permits batch) :
    (batch.slots.countP Slot.isRunning) ≤ permits := by
  have hle : batch.slots.countP Slot.isRunning ≤ held batch.slots := by
    unfold held
    generalize batch.slots = slots
    induction slots with
    | nil => exact Nat.le_refl _
    | cons s slots ih =>
        rw [List.countP_cons, List.map_cons, List.sum_cons]
        cases s <;> simp [Slot.isRunning, Slot.holds, Slot.isWoken] at ih ⊢ <;> omega
  have hpermits := h.permits
  omega

/-! ## §5. What becomes of one slot. -/

theorem wakeNext_get (h : batch.wakeNext.slots[j]? = some slot) :
    batch.slots[j]? = some slot ∨ (batch.slots[j]? = some .queued ∧ slot = .woken) := by
  unfold wakeNext at h
  cases hsleeper : batch.sleeper with
  | none =>
      rw [hsleeper] at h
      exact Or.inl h
  | some k =>
      rw [hsleeper] at h
      have hget := sleeper_some hsleeper
      obtain ⟨hlt, -⟩ := List.getElem?_eq_some_iff.mp hget
      -- only the sleeper's own slot is written
      by_cases hj : j = k
      · subst hj
        rw [List.getElem?_set_self hlt] at h
        exact Or.inr ⟨hget, (Option.some.inj h).symm⟩
      · rw [List.getElem?_set_ne (Ne.symm hj)] at h
        exact Or.inl h

theorem wakeAll_get {free : Nat} (h : (wakeAll free batch).slots[j]? = some slot) :
    batch.slots[j]? = some slot ∨ (batch.slots[j]? = some .queued ∧ slot = .woken) := by
  -- whoever is woken on the way is not woken twice
  induction free generalizing batch with
  | zero => exact Or.inl h
  | succ free ih =>
      unfold wakeAll at h
      cases hsleeper : batch.sleeper with
      | none =>
          rw [hsleeper] at h
          exact Or.inl h
      | some k =>
          rw [hsleeper] at h
          rcases ih h with hnext | ⟨hqueued, hwoken⟩
          · exact wakeNext_get hnext
          · rcases wakeNext_get hqueued with hget | ⟨-, hnot⟩
            · exact Or.inr ⟨hget, hwoken⟩
            · cases hnot

/-- **Where a slot can come from**: it stayed, its task waits or was woken, or the
step was its own. -/
theorem step_get (h : batch.step action = some batch') (hj : batch'.slots[j]? = some slot) :
    batch.slots[j]? = some slot ∨ slot = .queued ∨ slot = .woken ∨
    (∃ note, slot = .running note ∧ (action = .start j note ∨ action = .resume j note)) ∨
    (∃ note result, slot = .finished note result ∧ action = .finish j result ∧
      batch.slots[j]? = some (.running note)) := by
  have hset {i : Nat} {new : Slot β γ} (h : (batch.slots.set i new)[j]? = some slot) :
      batch.slots[j]? = some slot ∨ (j = i ∧ slot = new) := by
    by_cases hji : j = i
    · subst hji
      rw [List.getElem?_set] at h
      split at h
      · split at h
        · exact Or.inr ⟨rfl, (Option.some.inj h).symm⟩
        · cases h
      · exact absurd rfl ‹_›
    · rw [List.getElem?_set_ne (Ne.symm hji)] at h
      exact Or.inl h
  -- beside the task that acts, only sleepers change, and only to woken
  rcases step_cases h with ⟨i, note, rfl, hget, hcases⟩ | ⟨i, note, rfl, hget, rfl⟩ |
    ⟨i, note, result, rfl, hget, rfl⟩
  · rcases hcases with ⟨-, -, rfl⟩ | ⟨-, rfl⟩
    · rcases hset hj with hsame | ⟨rfl, rfl⟩
      · exact Or.inl hsame
      · exact Or.inr (Or.inr (Or.inr (Or.inl ⟨note, rfl, Or.inl rfl⟩)))
    · rcases hset hj with hsame | ⟨rfl, rfl⟩
      · exact Or.inl hsame
      · exact Or.inr (Or.inl rfl)
  · rcases wakeAll_get hj with hmid | ⟨-, rfl⟩
    · rcases hset hmid with hsame | ⟨rfl, rfl⟩
      · exact Or.inl hsame
      · exact Or.inr (Or.inr (Or.inr (Or.inl ⟨note, rfl, Or.inr rfl⟩)))
    · exact Or.inr (Or.inr (Or.inl rfl))
  · rcases wakeNext_get hj with hmid | ⟨-, rfl⟩
    · rcases hset hmid with hsame | ⟨rfl, rfl⟩
      · exact Or.inl hsame
      · exact Or.inr (Or.inr (Or.inr (Or.inr ⟨note, result, rfl, rfl, hget⟩)))
    · exact Or.inr (Or.inr (Or.inl rfl))

theorem results_wakeNext (batch : Batch β γ) :
    batch.wakeNext.slots.map Slot.result = batch.slots.map Slot.result := by
  unfold wakeNext
  cases hsleeper : batch.sleeper with
  | none => rfl
  | some k => exact results_set (sleeper_some hsleeper) rfl

theorem results_wakeAll (free : Nat) (batch : Batch β γ) :
    (wakeAll free batch).slots.map Slot.result = batch.slots.map Slot.result := by
  induction free generalizing batch with
  | zero => rfl
  | succ free ih =>
      unfold wakeAll
      cases batch.sleeper with
      | none => rfl
      | some k => rw [ih, results_wakeNext]

/-- **A result is there from the end of its task on**, and no other step shows in
the results. -/
theorem results_step (h : batch.step action = some batch') :
    (∃ i note result, action = .finish i result ∧ batch.slots[i]? = some (.running note) ∧
      batch'.slots.map Slot.result = (batch.slots.map Slot.result).set i (some result)) ∨
    ((∀ i result, action ≠ .finish i result) ∧
      batch'.slots.map Slot.result = batch.slots.map Slot.result) := by
  -- a result appears where a task finishes, and nowhere else
  rcases step_cases h with ⟨i, note, rfl, hget, hcases⟩ | ⟨i, note, rfl, hget, rfl⟩ |
    ⟨i, note, result, rfl, hget, rfl⟩
  · refine Or.inr ⟨?_, ?_⟩
    · intro _ _ hnot
      cases hnot
    · rcases hcases with ⟨-, -, rfl⟩ | ⟨-, rfl⟩
      · exact results_set hget rfl
      · exact results_set hget rfl
  · refine Or.inr ⟨?_, ?_⟩
    · intro _ _ hnot
      cases hnot
    · rw [results_wakeAll]
      exact results_set hget rfl
  · refine Or.inl ⟨i, note, result, rfl, hget, ?_⟩
    rw [results_wakeNext]
    exact List.map_set

/-! ## §6. To the end. -/

theorem rank_wakeNext (batch : Batch β γ) : batch.wakeNext.rank ≤ batch.rank := by
  unfold wakeNext
  cases hsleeper : batch.sleeper with
  | none => exact Nat.le_refl _
  | some k =>
      have hsum := sum_set .woken Slot.rank (sleeper_some hsleeper)
      simp only [Slot.rank] at hsum
      show ((batch.slots.set k .woken).map Slot.rank).sum ≤ (batch.slots.map Slot.rank).sum
      omega

theorem rank_wakeAll (free : Nat) (batch : Batch β γ) : (wakeAll free batch).rank ≤ batch.rank := by
  induction free generalizing batch with
  | zero => exact Nat.le_refl _
  | succ free ih =>
      unfold wakeAll
      cases batch.sleeper with
      | none => exact Nat.le_refl _
      | some k => exact Nat.le_trans (ih _) (rank_wakeNext batch)

/-- **Every step brings the batch closer to its end.** -/
theorem rank_step (h : batch.step action = some batch') : batch'.rank < batch.rank := by
  -- each of the three moves its task forward; waking others lowers the rank further
  rcases step_cases h with ⟨i, note, -, hget, hcases⟩ | ⟨i, note, -, hget, rfl⟩ |
    ⟨i, note, result, -, hget, rfl⟩
  · rcases hcases with ⟨-, -, rfl⟩ | ⟨-, rfl⟩
    · have hsum := sum_set (.running note) Slot.rank hget
      simp only [Slot.rank] at hsum
      show ((batch.slots.set i (.running note)).map Slot.rank).sum < (batch.slots.map Slot.rank).sum
      omega
    · have hsum := sum_set .queued Slot.rank hget
      simp only [Slot.rank] at hsum
      show ((batch.slots.set i .queued).map Slot.rank).sum < (batch.slots.map Slot.rank).sum
      omega
  · have hsum := sum_set (.running note) Slot.rank hget
    simp only [Slot.rank] at hsum
    refine Nat.lt_of_le_of_lt (rank_wakeAll _ _) ?_
    show ((batch.slots.set i (.running note)).map Slot.rank).sum < (batch.slots.map Slot.rank).sum
    omega
  · have hsum := sum_set (.finished note result) Slot.rank hget
    simp only [Slot.rank] at hsum
    refine Nat.lt_of_le_of_lt (rank_wakeNext _) ?_
    show ((batch.slots.set i (.finished note result)).map Slot.rank).sum
      < (batch.slots.map Slot.rank).sum
    omega

/-- A run takes no more steps than its batch has ranks. -/
theorem length_le_rank {actions : List (BatchAction β γ)}
    (h : Run Batch.step batch actions batch') : actions.length + batch'.rank ≤ batch.rank := by
  induction h with
  | nil batch => exact Nat.le_of_eq (Nat.zero_add _)
  | cons hstep _ ih =>
      have hlt := rank_step hstep
      rw [List.length_cons]
      omega

/-- **With a permit to share, only a finished batch is stuck.** -/
theorem finished_of_stuck (h : Sound permits batch) (hpermits : 0 < permits) (note : γ)
    (hstart : ∀ i, batch.step (.start i note) = none)
    (hresume : ∀ i, batch.step (.resume i note) = none)
    (hrunning : ∀ i, batch.is Slot.isRunning i = false) (hlt : i < batch.slots.length) :
    ∃ note result, batch.slots[i]? = some (.finished note result) := by
  have hwoken : ∀ j, batch.is Slot.isWoken j = false := by
    intro j
    by_contra hj
    rw [Bool.not_eq_false] at hj
    obtain ⟨slot, hget, hslot⟩ := get_of_is hj
    have hnone := hresume j
    cases slot with
    | woken => simp [Batch.step, hget] at hnone
    | created => cases hslot
    | queued => cases hslot
    | running note => cases hslot
    | finished note result => cases hslot
  -- nobody holds a permit, so one is free, and nobody sleeps
  have hheld : held batch.slots = 0 := by
    unfold held
    refine List.sum_eq_zero ?_
    intro n hn
    obtain ⟨slot, hslot, rfl⟩ := List.mem_map.mp hn
    obtain ⟨j, hget⟩ := List.mem_iff_getElem?.mp hslot
    have hw := hwoken j
    have hr := hrunning j
    rw [is_of_get hget] at hw hr
    simp [Slot.holds, hw, hr]
  have hfree : 0 < batch.value := by
    have hsum := h.permits
    omega
  obtain ⟨slot, hget⟩ : ∃ slot, batch.slots[i]? = some slot :=
    ⟨_, List.getElem?_eq_getElem hlt⟩
  cases slot with
  | finished note result => exact ⟨note, result, hget⟩
  | created =>
      have hnone := hstart i
      simp only [Batch.step, hget] at hnone
      split at hnone <;> cases hnone
  | queued =>
      obtain ⟨j, hj⟩ := h.awake hfree i (is_of_get hget)
      rw [hwoken j] at hj
      cases hj
  | woken =>
      have hi := hwoken i
      rw [is_of_get hget] at hi
      cases hi
  | running note =>
      have hi := hrunning i
      rw [is_of_get hget] at hi
      cases hi

/-- **`gather` returns where every task has finished**, with one result for each. -/
theorem gathered_of_finished (h : ∀ i, i < batch.slots.length →
    ∃ note result, batch.slots[i]? = some (.finished note result)) :
    ∃ results, batch.gathered = some results ∧ batch.slots.map Slot.result = results.map some := by
  have hsome : (batch.slots.mapM Slot.result).isSome := by
    refine isSome_mapM.mpr ?_
    intro slot hslot
    obtain ⟨i, hget⟩ := List.mem_iff_getElem?.mp hslot
    obtain ⟨hlt, -⟩ := List.getElem?_eq_some_iff.mp hget
    obtain ⟨note, result, hfinished⟩ := h i hlt
    obtain rfl := Option.some.inj (hget.symm.trans hfinished)
    rfl
  obtain ⟨results, hresults⟩ := Option.isSome_iff_exists.mp hsome
  refine ⟨results, hresults, ?_⟩
  exact (map_of_mapM (fun _ _ hresult => hresult.symm) hresults).symm

/-- Without a permit nobody gets past the semaphore. -/
theorem Sound.starved (h : Sound 0 batch) (hentries : batch.entries = [])
    (hstep : batch.step action = some batch') : batch'.entries = [] := by
  have hpermits := h.permits
  -- without permits nobody ever holds one
  have hnone (i : Nat) (slot : Slot β γ) (hget : batch.slots[i]? = some slot)
      (hholds : slot.holds = true) : False := by
    have hsum := sum_set .queued (fun s => s.holds.toNat) hget
    rw [hholds] at hsum
    change held _ + 1 = held batch.slots + 0 at hsum
    omega
  rcases step_cases hstep with ⟨i, note, -, hget, hcases⟩ | ⟨i, note, -, hget, -⟩ |
    ⟨i, note, result, -, hget, -⟩
  · rcases hcases with ⟨hfree, -, -⟩ | ⟨-, rfl⟩
    · omega
    · exact hentries
  · exact (hnone i _ hget rfl).elim
  · exact (hnone i _ hget rfl).elim

end Batch

end Feedcast.Lib
