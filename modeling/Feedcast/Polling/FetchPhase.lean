/-
  Feedcast.Polling.FetchPhase — the concurrent fetches of one pass
  (`fetch_targets`).

  Every target is a task under one semaphore.  A task that holds a permit notes
  the time, fetches, and turns whatever leaves the fetch into an attempt; `gather`
  returns once all of them have.  A step is one stretch of one task between two
  awaits, in any order.

    • `fetchOne` — the attempt that a fetch comes to,
    • `fetchStep` — one stretch of one task,
    • `respond_of_step` — what it is to the pass over the database.
-/
import Feedcast.Lib.Semaphore
import Feedcast.Polling.World

namespace Feedcast

open Feedcast.Lib

/-- The settings of the fetch phase, over the others. -/
structure FetchSettings extends Settings where
  schedulerMaxConcurrentFetches : Int := 5

/-! ## §1. One fetch. -/

/-- `str(exc)`. -/
def Exc.text : Exc → Str
  | .valueError text => text
  | .unicodeError text => text
  | .gaierror text => text
  | .httpError text => text
  | .invalidUrl text => text
  | .other text => text

/-- The error text of an attempt. -/
def FetchRaise.attemptError : FetchRaise → Str
  | .fetchError e => e.text
  | .uncaught exc => "unexpected fetch failure: ".toList ++ exc.text

/-- `fetch_one`, from the time it notes. -/
def fetchOne (P : Platform) (net : Internet) (settings : Settings) (target : FetchTarget)
    (attemptedAt : Time) : FetchAttempt where
  sourceId := target.sourceId
  attemptedAt := attemptedAt
  fetched :=
    match (fetchUrlAsync P net settings target.feedUrl target.conditionalHeaders).2 with
    | .ok result => .ok result
    | .error raised => .error raised.attemptError

/-! ## §2. All of them. -/

/-- The tasks of a pass: what each noted, and the attempt it came to. -/
abbrev Fetches := Batch FetchAttempt Time

inductive FetchAction
  /-- The task runs up to the semaphore, and on if it may. -/
  | start (i : Nat) (now : Time)
  | resume (i : Nat) (now : Time)
  /-- Its fetch ends, in the Internet it met. -/
  | finish (i : Nat) (net : Internet)

/-- What it is to the semaphore. -/
def FetchAction.task (P : Platform) (settings : Settings) (targets : List FetchTarget)
    (fetches : Fetches) : FetchAction → Option (BatchAction FetchAttempt Time)
  | .start i now => some (.start i now)
  | .resume i now => some (.resume i now)
  | .finish i net =>
      match targets[i]?, fetches.slots[i]? with
      | some target, some (.running attemptedAt) =>
          some (.finish i (fetchOne P net settings target attemptedAt))
      | _, _ => none

def fetchStep (P : Platform) (settings : Settings) (targets : List FetchTarget)
    (fetches : Fetches) (action : FetchAction) : Option Fetches :=
  (action.task P settings targets fetches).bind fetches.step

/-- `fetch_targets`, up to its tasks. -/
def fetchesOf (settings : FetchSettings) (targets : List FetchTarget) : Except Str Fetches :=
  -- without targets it returns before it builds the semaphore
  if targets = [] then .ok (Batch.opened settings.schedulerMaxConcurrentFetches.toNat 0)
  else if settings.schedulerMaxConcurrentFetches < 0 then
    .error "Semaphore initial value must be >= 0".toList
  else .ok (Batch.opened settings.schedulerMaxConcurrentFetches.toNat targets.length)

/-- The slots of the pass that these fetches belong to. -/
def passSlots (targets : List FetchTarget) (fetches : Fetches) :
    List (FetchTarget × Option FetchAttempt) :=
  targets.zip (fetches.slots.map Slot.result)

section Step

variable {P : Platform} {settings : Settings} {targets : List FetchTarget}
  {fetches fetches' : Fetches} {action : FetchAction} {actions before : List FetchAction}

/-- What a step is to the semaphore, and whose attempt it ends with. -/
theorem fetchStep_cases (h : fetchStep P settings targets fetches action = some fetches') :
    (∃ i now, (action = .start i now ∧ fetches.step (.start i now) = some fetches')) ∨
    (∃ i now, (action = .resume i now ∧ fetches.step (.resume i now) = some fetches')) ∨
    (∃ i net target attemptedAt, action = .finish i net ∧ targets[i]? = some target ∧
      fetches.slots[i]? = some (.running attemptedAt) ∧
      fetches.step (.finish i (fetchOne P net settings target attemptedAt)) = some fetches') := by
  obtain ⟨task, htask, hstep⟩ := Option.bind_eq_some_iff.mp h
  -- the fetch of a task is known when it ends, and so is its attempt
  cases action with
  | start i now =>
      cases htask
      exact Or.inl ⟨i, now, rfl, hstep⟩
  | resume i now =>
      cases htask
      exact Or.inr (Or.inl ⟨i, now, rfl, hstep⟩)
  | finish i net =>
      simp only [FetchAction.task] at htask
      split at htask
      · next target attemptedAt htarget hget =>
          cases htask
          exact Or.inr (Or.inr ⟨i, net, target, attemptedAt, rfl, htarget, hget, hstep⟩)
      · cases htask

/-- A step of the fetch phase is one of the semaphore. -/
theorem batch_of_step (h : fetchStep P settings targets fetches action = some fetches') :
    ∃ task, fetches.step task = some fetches' := by
  obtain ⟨task, -, hstep⟩ := Option.bind_eq_some_iff.mp h
  exact ⟨task, hstep⟩

theorem batch_of_run (h : Run (fetchStep P settings targets) fetches actions fetches') :
    ∃ tasks, Run Batch.step fetches tasks fetches' ∧ tasks.length = actions.length := by
  induction h with
  | nil fetches => exact ⟨[], Run.nil fetches, rfl⟩
  | cons hstep _ ih =>
      obtain ⟨task, htask⟩ := batch_of_step hstep
      obtain ⟨tasks, hrun, hlength⟩ := ih
      refine ⟨task :: tasks, Run.cons htask hrun, ?_⟩
      rw [List.length_cons, hlength, List.length_cons]

/-! ## §3. Whose attempt a slot holds. -/

/-- A body that runs noted its time when it was entered, and a finished one ends
with the attempt of its own target at that time. -/
def Came (P : Platform) (settings : Settings) (targets : List FetchTarget)
    (actions : List FetchAction) (i : Nat) : Slot FetchAttempt Time → Prop
  | .running now => .start i now ∈ actions ∨ .resume i now ∈ actions
  | .finished now attempt =>
      (.start i now ∈ actions ∨ .resume i now ∈ actions) ∧
      ∃ net target, .finish i net ∈ actions ∧ targets[i]? = some target ∧
        attempt = fetchOne P net settings target now
  | _ => True

theorem Came.mono {i : Nat} {slot : Slot FetchAttempt Time}
    (h : Came P settings targets before i slot) (action : FetchAction) :
    Came P settings targets (before ++ [action]) i slot := by
  -- what came to pass before has still come to pass
  cases slot with
  | created => trivial
  | queued => trivial
  | woken => trivial
  | running now => exact h.imp (List.mem_append_left _) (List.mem_append_left _)
  | finished now attempt =>
      obtain ⟨hnoted, net, target, hfinish, htarget, hattempt⟩ := h
      refine ⟨hnoted.imp (List.mem_append_left _) (List.mem_append_left _), net, target, ?_⟩
      exact ⟨List.mem_append_left _ hfinish, htarget, hattempt⟩

theorem came_step (hcame : ∀ (i : Nat) slot, fetches.slots[i]? = some slot →
      Came P settings targets before i slot)
    (h : fetchStep P settings targets fetches action = some fetches') :
    ∀ (i : Nat) slot, fetches'.slots[i]? = some slot →
      Came P settings targets (before ++ [action]) i slot := by
  intro i slot hget
  have hlast (a : FetchAction) (ha : action = a) : a ∈ before ++ [action] := by
    rw [ha]
    exact List.mem_append_right _ (List.mem_singleton.mpr rfl)
  -- the slot that changed is the one of the task that acted, or was woken
  rcases fetchStep_cases h with ⟨j, now, ha, hstep⟩ | ⟨j, now, ha, hstep⟩ |
    ⟨j, net, target, attemptedAt, ha, htarget, hrunning, hstep⟩
  · rcases Batch.step_get hstep hget with hsame | rfl | rfl | ⟨note, rfl, hown⟩ |
      ⟨note, result, -, hnot, -⟩
    · exact (hcame i slot hsame).mono action
    · trivial
    · trivial
    · rcases hown with hown | hown
      · cases hown
        exact Or.inl (hlast _ ha)
      · cases hown
    · cases hnot
  · rcases Batch.step_get hstep hget with hsame | rfl | rfl | ⟨note, rfl, hown⟩ |
      ⟨note, result, -, hnot, -⟩
    · exact (hcame i slot hsame).mono action
    · trivial
    · trivial
    · rcases hown with hown | hown
      · cases hown
      · cases hown
        exact Or.inr (hlast _ ha)
    · cases hnot
  · rcases Batch.step_get hstep hget with hsame | rfl | rfl | ⟨note, rfl, hown⟩ |
      ⟨note, result, rfl, hown, hnoted⟩
    · exact (hcame i slot hsame).mono action
    · trivial
    · trivial
    · rcases hown with hown | hown <;> cases hown
    · cases hown
      obtain rfl := Slot.running.inj (Option.some.inj (hrunning.symm.trans hnoted))
      exact ⟨(hcame i _ hrunning).mono action, net, target, hlast _ ha, htarget, rfl⟩

theorem came_run (before : List FetchAction)
    (h : Run (fetchStep P settings targets) fetches actions fetches')
    (hcame : ∀ (i : Nat) slot, fetches.slots[i]? = some slot →
      Came P settings targets before i slot) :
    ∀ (i : Nat) slot, fetches'.slots[i]? = some slot →
      Came P settings targets (before ++ actions) i slot := by
  induction h generalizing before with
  | nil fetches => rwa [List.append_nil]
  | cons hstep _ ih =>
      have hrest := ih _ (came_step hcame hstep)
      rwa [List.append_assoc] at hrest

/-! ## §4. To the pass over the database. -/

theorem zip_set {results : List (Option FetchAttempt)} {i : Nat} {target : FetchTarget}
    (h : targets[i]? = some target) (result : Option FetchAttempt) :
    targets.zip (results.set i result) = (targets.zip results).set i (target, result) := by
  -- as the result is set in both lists at one place
  induction targets generalizing i results with
  | nil => cases h
  | cons head targets ih =>
      cases results with
      | nil => rfl
      | cons first results =>
          cases i with
          | zero =>
              obtain rfl := Option.some.inj h
              rfl
          | succ i =>
              rw [List.set_cons_succ, List.zip_cons_cons, ih h, List.zip_cons_cons,
                List.set_cons_succ]

/-- **What a step is to the pass**: nothing, or the response to one of its targets. -/
theorem respond_of_step (h : fetchStep P settings targets fetches action = some fetches')
    (city : Option Nat) (db : Db) (taken : List Str) :
    passSlots targets fetches' = passSlots targets fetches ∨
    ∃ slot attemptedAt fetched,
      Pass.step P db taken ⟨city, .fetching (passSlots targets fetches)⟩
          (.respond slot attemptedAt fetched)
        = some (db, ⟨city, .fetching (passSlots targets fetches')⟩) := by
  -- taking a permit is nothing that the pass can see
  have hquiet (task : BatchAction FetchAttempt Time) (htask : fetches.step task = some fetches')
      (hnot : ∀ i result, task ≠ .finish i result) :
      passSlots targets fetches' = passSlots targets fetches := by
    rcases Batch.results_step htask with ⟨i, _, result, htask, -, -⟩ | ⟨-, hresults⟩
    · exact absurd htask (hnot i result)
    · unfold passSlots
      rw [hresults]
  rcases fetchStep_cases h with ⟨i, now, -, hstep⟩ | ⟨i, now, -, hstep⟩ |
    ⟨i, net, target, attemptedAt, -, htarget, hrunning, hstep⟩
  · refine Or.inl (hquiet _ hstep ?_)
    intro _ _ hnot
    cases hnot
  · refine Or.inl (hquiet _ hstep ?_)
    intro _ _ hnot
    cases hnot
  · refine Or.inr ⟨i, attemptedAt, (fetchOne P net settings target attemptedAt).fetched, ?_⟩
    have hslot : (passSlots targets fetches)[i]? = some (target, none) := by
      unfold passSlots
      rw [List.getElem?_zip_eq_some]
      refine ⟨htarget, ?_⟩
      rw [List.getElem?_map, hrunning]
      rfl
    have hset : passSlots targets fetches' = (passSlots targets fetches).set i
        (target, some (fetchOne P net settings target attemptedAt)) := by
      rcases Batch.results_step hstep with ⟨j, _, result, htask, -, hresults⟩ | ⟨hnot, -⟩
      · cases htask
        unfold passSlots
        rw [hresults, zip_set htarget]
      · exact absurd rfl (hnot _ _)
    simp only [Pass.step, hslot, hset]
    rfl

end Step

/-! ## §5. Every interleaving. -/

/-- The pass that these fetches belong to. -/
def fetchingPass (city : Option Nat) (targets : List FetchTarget) (fetches : Fetches) : Pass where
  city := city
  phase := .fetching (passSlots targets fetches)

/-- What holds of the fetch phase, however its tasks took turns. -/
structure FetchPhaseHolds (P : Platform) (settings : FetchSettings) (targets : List FetchTarget)
    (actions : List FetchAction) (fetches : Fetches) : Prop where
  /-- No more requests are in flight than the setting allows. -/
  bounded : fetches.slots.countP Slot.isRunning ≤ settings.schedulerMaxConcurrentFetches.toNat
  /-- No target is fetched twice. -/
  once : fetches.entries.Nodup
  /-- An attempt is that of its own target, at the time its task noted, whatever
  became of the others. -/
  own : ∀ (i : Nat) now attempt, fetches.slots[i]? = some (.finished now attempt) →
    (.start i now ∈ actions ∨ .resume i now ∈ actions) ∧
    ∃ net target, .finish i net ∈ actions ∧ targets[i]? = some target ∧
      attempt = fetchOne P net settings.toSettings target now
  /-- It comes to its end. -/
  short : actions.length ≤ 4 * targets.length
  /-- Where no task can go on, `gather` has returned, with one attempt for each
  target, in their order. -/
  returns : 0 < settings.schedulerMaxConcurrentFetches →
    (∀ action, fetchStep P settings.toSettings targets fetches action = none) →
    ∃ attempts, fetches.gathered = some attempts ∧
      attempts.map (·.sourceId) = targets.map (·.sourceId)
  /-- With a limit of zero no request is ever sent, and `gather` never returns. -/
  starved : settings.schedulerMaxConcurrentFetches = 0 →
    fetches.entries = [] ∧ (targets ≠ [] → fetches.gathered = none)
  /-- The pass over the database gets there by responses alone. -/
  responds : ∀ city db taken, ∃ responses,
    Run (fun pass action => (Pass.step P db taken pass action).map (·.2))
      ⟨city, .fetching (targets.map fun target => (target, none))⟩ responses
      (fetchingPass city targets fetches)
  /-- It goes on to persist when `gather` returns, and not before. -/
  persists : ∀ city db taken,
    ((Pass.step P db taken (fetchingPass city targets fetches) .startPersist).isSome
      ↔ fetches.gathered.isSome)

section Phase

variable {P : Platform} {settings : FetchSettings} {targets : List FetchTarget}
  {opened fetches fetches' : Fetches} {action : FetchAction} {actions : List FetchAction}

theorem results_length {settings : Settings}
    (h : fetchStep P settings targets fetches action = some fetches') :
    fetches'.slots.length = fetches.slots.length := by
  obtain ⟨task, htask⟩ := batch_of_step h
  have hlength : (fetches'.slots.map Slot.result).length
      = (fetches.slots.map Slot.result).length := by
    rcases Batch.results_step htask with ⟨i, _, result, -, -, hresults⟩ | ⟨-, hresults⟩
    · rw [hresults, List.length_set]
    · rw [hresults]
  simpa only [List.length_map] using hlength

theorem passSlots_opened (permits : Nat) :
    passSlots targets (Batch.opened permits targets.length)
      = targets.map fun target => (target, none) := by
  show targets.zip ((List.replicate targets.length Slot.created).map Slot.result) = _
  rw [List.map_replicate]
  induction targets with
  | nil => rfl
  | cons target targets ih =>
      rw [List.length_cons, List.replicate_succ, List.zip_cons_cons, ih, List.map_cons]
      rfl

/-- **The fetch phase refines the fetching phase of a pass.** -/
theorem responds_of_run {settings : Settings} {fetches fetches' : Fetches}
    (h : Run (fetchStep P settings targets) fetches actions fetches') (city : Option Nat) (db : Db)
    (taken : List Str) : ∃ responses,
      Run (fun pass action => (Pass.step P db taken pass action).map (·.2))
        (fetchingPass city targets fetches) responses (fetchingPass city targets fetches') := by
  -- a step is one response to the pass, or none
  induction h with
  | nil fetches => exact ⟨[], Run.nil _⟩
  | cons hstep _ ih =>
      obtain ⟨responses, hrun⟩ := ih
      rcases respond_of_step hstep city db taken with hsame | ⟨slot, attemptedAt, fetched, hrespond⟩
      · unfold fetchingPass at hrun ⊢
        rw [hsame] at hrun
        exact ⟨responses, hrun⟩
      · refine ⟨.respond slot attemptedAt fetched :: responses, Run.cons ?_ hrun⟩
        show (Pass.step P db taken (fetchingPass city targets _) _).map (·.2) = _
        unfold fetchingPass
        rw [hrespond]
        rfl

/-- A request in flight can end. -/
theorem not_running_of_stuck {settings : Settings}
    (hlength : fetches.slots.length = targets.length)
    (hstuck : ∀ action, fetchStep P settings targets fetches action = none) (i : Nat) :
    fetches.is Slot.isRunning i = false := by
  by_contra hrunning
  rw [Bool.not_eq_false] at hrunning
  obtain ⟨slot, hget, hslot⟩ := Batch.get_of_is hrunning
  obtain ⟨hlt, -⟩ := List.getElem?_eq_some_iff.mp hget
  have htarget := List.getElem?_eq_getElem (hlength ▸ hlt)
  -- a running task can end, whatever its fetch comes to
  have hnone := hstuck (.finish i ⟨fun _ _ => .ok [], fun _ _ _ => .error (.other []),
    fun _ location => .ok location⟩)
  cases slot with
  | running now => simp [fetchStep, FetchAction.task, Batch.step, htarget, hget] at hnone
  | created => cases hslot
  | queued => cases hslot
  | woken => cases hslot
  | finished now attempt => cases hslot

/-- The attempts are in the order of the targets. -/
theorem sourceIds_of_own {settings : Settings} {attempts : List FetchAttempt}
    (hlength : fetches.slots.length = targets.length)
    (hresults : fetches.slots.map Slot.result = attempts.map some)
    (hcame : ∀ (i : Nat) slot, fetches.slots[i]? = some slot →
      Came P settings targets actions i slot) :
    attempts.map (·.sourceId) = targets.map (·.sourceId) := by
  -- `gather` keeps the order of its arguments: slot by slot
  refine List.ext_getElem? ?_
  intro i
  rw [List.getElem?_map, List.getElem?_map]
  have hget : (fetches.slots.map Slot.result)[i]? = (attempts.map some)[i]? := by rw [hresults]
  rw [List.getElem?_map, List.getElem?_map] at hget
  cases hslot : fetches.slots[i]? with
  | none =>
      rw [hslot] at hget
      have hlt := List.getElem?_eq_none_iff.mp hslot
      rw [List.getElem?_eq_none (l := targets) (by omega)]
      cases hattempt : attempts[i]? with
      | none => rfl
      | some attempt =>
          rw [hattempt] at hget
          cases hget
  | some slot =>
      rw [hslot] at hget
      cases hattempt : attempts[i]? with
      | none =>
          rw [hattempt] at hget
          cases hget
      | some attempt =>
          rw [hattempt] at hget
          cases slot with
          | finished now result =>
              obtain rfl : result = attempt := Option.some.inj (Option.some.inj hget)
              obtain ⟨-, net, target, -, htarget, rfl⟩ := hcame i _ hslot
              rw [htarget]
              rfl
          | created => cases hget
          | queued => cases hget
          | woken => cases hget
          | running now => cases hget

/-- The pass sees every target answered exactly when `gather` returns. -/
theorem persists_iff (hlength : fetches.slots.length = targets.length) (city : Option Nat)
    (db : Db) (taken : List Str) :
    (Pass.step P db taken (fetchingPass city targets fetches) .startPersist).isSome
      ↔ fetches.gathered.isSome := by
  -- a target counts as answered when its task has a result
  have hall : (passSlots targets fetches).all (·.2.isSome) = true
      ↔ ∀ slot ∈ fetches.slots, slot.result.isSome := by
    unfold passSlots
    rw [List.all_eq_true]
    constructor
    · intro h slot hslot
      obtain ⟨i, hget⟩ := List.mem_iff_getElem?.mp hslot
      obtain ⟨hlt, -⟩ := List.getElem?_eq_some_iff.mp hget
      have htarget := List.getElem?_eq_getElem (hlength ▸ hlt)
      refine h (targets.get ⟨i, hlength ▸ hlt⟩, slot.result) ?_
      refine List.mem_iff_getElem?.mpr ⟨i, ?_⟩
      rw [List.getElem?_zip_eq_some]
      exact ⟨htarget, by rw [List.getElem?_map, hget]; rfl⟩
    · intro h pair hpair
      obtain ⟨slot, hslot, hresult⟩ := List.mem_map.mp (List.of_mem_zip hpair).2
      rw [← hresult]
      exact h slot hslot
  unfold Batch.gathered fetchingPass
  rw [isSome_mapM, ← hall]
  by_cases h : (passSlots targets fetches).all (·.2.isSome) = true
  · simp [Pass.step, h]
  · simp only [Pass.step, if_neg h]
    exact iff_of_false (by decide) h

end Phase

/-- **FETCHES OF ONE PASS, IN ANY INTERLEAVING**: never more in flight than the
setting allows, none made twice, one attempt for each target whatever the others
come to, and an end — unless the setting is zero, and nothing ever begins.  To
the pass over the database they are responses. -/
theorem fetch_phase_holds (P : Platform) (settings : FetchSettings) (targets : List FetchTarget)
    {opened fetches : Fetches} {actions : List FetchAction}
    (hopened : fetchesOf settings targets = .ok opened)
    (hrun : Run (fetchStep P settings.toSettings targets) opened actions fetches) :
    FetchPhaseHolds P settings targets actions fetches := by
  obtain rfl : Batch.opened settings.schedulerMaxConcurrentFetches.toNat targets.length
      = opened := by
    unfold fetchesOf at hopened
    split at hopened
    · next hnone =>
        rw [hnone]
        exact Except.ok.inj hopened
    · split at hopened
      · cases hopened
      · exact Except.ok.inj hopened
  obtain ⟨tasks, htasks, hlength⟩ := batch_of_run hrun
  have hsound := Batch.sound_run htasks
  have hslots : fetches.slots.length = targets.length := by
    refine hrun.invariant (I := fun fetches => fetches.slots.length = targets.length) ?_ ?_
    · intro fetches action fetches' hlen hstep
      rw [results_length hstep, hlen]
    · exact List.length_replicate
  have hcame := came_run [] hrun (by
    intro i slot hget
    obtain rfl := List.eq_of_mem_replicate (List.mem_of_getElem? hget)
    trivial)
  refine ⟨hsound.running_le, hsound.once, ?_, ?_, ?_, ?_, ?_, ?_⟩
  · intro i now attempt hget
    exact hcame i _ hget
  · have hrank := Batch.length_le_rank htasks
    have hopened : (Batch.opened settings.schedulerMaxConcurrentFetches.toNat targets.length
        : Fetches).rank = 4 * targets.length := by
      show ((List.replicate targets.length Slot.created).map Slot.rank).sum = _
      rw [List.map_replicate, List.sum_replicate_nat]
      exact Nat.mul_comm _ _
    omega
  · intro hpos hstuck
    have hpermits : 0 < settings.schedulerMaxConcurrentFetches.toNat := by omega
    have hfinished : ∀ i, i < fetches.slots.length →
        ∃ now attempt, fetches.slots[i]? = some (.finished now attempt) := by
      intro i hlt
      exact Batch.finished_of_stuck hsound hpermits 0 (fun i => hstuck (.start i 0))
        (fun i => hstuck (.resume i 0)) (not_running_of_stuck hslots hstuck) hlt
    obtain ⟨attempts, hgathered, hresults⟩ := Batch.gathered_of_finished hfinished
    exact ⟨attempts, hgathered, sourceIds_of_own hslots hresults hcame⟩
  · intro hzero
    have hentries : fetches.entries = [] := by
      rw [hzero] at htasks
      refine (htasks.invariant (I := fun batch => Batch.Sound 0 batch ∧ batch.entries = [])
        ?_ ⟨Batch.sound_opened 0 _, rfl⟩).2
      intro batch task batch' h hstep
      exact ⟨h.1.step hstep, h.1.starved h.2 hstep⟩
    refine ⟨hentries, ?_⟩
    intro htargets
    cases hgathered : fetches.gathered with
    | none => rfl
    | some attempts =>
        -- the first task would have been entered
        have hpos : 0 < fetches.slots.length := by
          rw [hslots]
          exact List.length_pos_iff.mpr htargets
        have hall := isSome_mapM.mp (Option.isSome_iff_exists.mpr ⟨attempts, hgathered⟩)
        have hget := List.getElem?_eq_getElem hpos
        have hresult := hall _ (List.mem_of_getElem? hget)
        have hentered : fetches.is Slot.entered 0 = true := by
          rw [Batch.is_of_get hget]
          cases hslot : fetches.slots[0] with
          | finished now attempt => rfl
          | running now => rfl
          | created => simp [hslot, Slot.result] at hresult
          | queued => simp [hslot, Slot.result] at hresult
          | woken => simp [hslot, Slot.result] at hresult
        have hmem := (hsound.entries 0).mpr hentered
        rw [hentries] at hmem
        cases hmem
  · intro city db taken
    obtain ⟨responses, hresponses⟩ := responds_of_run hrun city db taken
    unfold fetchingPass at hresponses
    rw [passSlots_opened] at hresponses
    exact ⟨responses, hresponses⟩
  · intro city db taken
    exact persists_iff hslots city db taken

/-- A network that is down. -/
def offline : Internet where
  resolve _ _ := .error (.gaierror "no network".toList)
  send _ _ _ := .error (.other [])
  join _ location := .ok location

def threeTargets : List FetchTarget :=
  [1, 2, 3].map fun id => ⟨id, "http://[".toList, noConditions⟩

def twoAtOnce : FetchSettings :=
  { toSettings := defaultSettings, schedulerMaxConcurrentFetches := 2 }

/-- The third waits for the second, which ends before the first does. -/
def threeTurns : List FetchAction :=
  [.start 0 10, .start 1 11, .start 2 12, .finish 1 offline, .resume 2 13, .finish 0 offline,
    .finish 2 offline]

theorem fetch_phase_holds_threeTargets : ∃ fetches,
    Run (fetchStep plainPages twoAtOnce.toSettings threeTargets) (Batch.opened 2 3) threeTurns
        fetches
      ∧ fetches.entries = [0, 1, 2]
      ∧ FetchPhaseHolds plainPages twoAtOnce threeTargets threeTurns fetches := by
  have hrun := run_iff_exec.mpr (rfl : exec
    (fetchStep plainPages twoAtOnce.toSettings threeTargets) (Batch.opened 2 3) threeTurns = some _)
  exact ⟨_, hrun, rfl, fetch_phase_holds plainPages twoAtOnce threeTargets rfl hrun⟩

end Feedcast
