/-
  Feedcast.Discover.Listeners — what `renderFeed` leaves subscribed to the city
  store.

  `renderFeed` drops the listener it remembers, waits for `city.load()`, and only
  then subscribes one of its own; so of renders that overlap each subscribes,
  and one is remembered.  What follows are the calls of `renderFeed`, their
  returns from the await, and whatever makes the store announce.

    • `OneListener` — the property, at any time,
    • `FeedTab.Remembered` — what it comes from: the one listener there is is the
      one that is remembered,
    • `oneListener_iff` — a run has the property exactly if no two renders come
      back between one start of `renderFeed` and the next,
    • `twoRenders_leak` — two renders at once.
-/
import Feedcast.Lib.Runs
import Feedcast.Static.City

namespace Feedcast

open Feedcast.Lib

/-! ## §1. The tab. -/

/-- A render is named by its number, and so is the listener it subscribes. -/
structure FeedTab where
  store : CityStore Nat
  /-- How many requests for the city list were issued. -/
  requests : Nat := 0
  /-- `unsubscribeCity`, by the listener it drops. -/
  unsubscribeCity : Option Nat := none
  /-- How many times `renderFeed` was called. -/
  renders : Nat := 0
  /-- The renders that wait for `city.load()`. -/
  waiting : List Nat := []
  /-- Kept for the record: a render has come back since the last one began. -/
  cameBack : Bool := false
  deriving DecidableEq

inductive FeedTabEvent
  /-- `renderFeed` is called: the view opens, a filter, the sort, a refresh. -/
  | render
  /-- `city.load()` has resolved or failed for a render, which subscribes. -/
  | comeBack (render : Nat) (failed : Bool)
  /-- `city.set(id)`; `discover` is whether the hash still says so. -/
  | switch (id : Nat) (discover : Bool)
  /-- `GET /cities` is answered. -/
  | answered (outcome : Except Str (List City)) (discover : Bool)

def FeedTab.opened (stored : Option Nat) : FeedTab where
  store := CityStore.opened Nat stored

namespace FeedTab

/-- `renderFeed` up to its first await. -/
def renderFeed (tab : FeedTab) : FeedTab :=
  let store := match tab.unsubscribeCity with
    | some listener => tab.store.unsubscribe listener
    | none => tab.store
  let (store, loading) := store.load false tab.requests
  { tab with
    store := store
    requests := if loading = .request tab.requests then tab.requests + 1 else tab.requests
    renders := tab.renders + 1
    waiting := tab.waiting ++ [tab.renders]
    cameBack := false }

/-- `renderFeed` from that await on: it subscribes, whether the list came or not. -/
def subscribeCity (tab : FeedTab) (render : Nat) : FeedTab :=
  { tab with
    store := tab.store.subscribe render
    unsubscribeCity := some render
    waiting := tab.waiting.erase render
    cameBack := true }

/-- `announce`, over a copy of the listeners: each of them renders again, if the
feed is in view. -/
def announce (tab : FeedTab) (discover : Bool) : FeedTab :=
  if discover then tab.store.listeners.foldl (fun tab _ => tab.renderFeed) tab else tab

def step (tab : FeedTab) : FeedTabEvent → Option FeedTab
  | .render => some tab.renderFeed
  | .comeBack render _ => if render ∈ tab.waiting then some (tab.subscribeCity render) else none
  | .switch id discover =>
      let tab' := { tab with store := tab.store.set id }
      some (if tab.store.selectedId = some id then tab' else tab'.announce discover)
  | .answered (.ok cities) discover =>
      some ({ tab with store := tab.store.fulfilled cities }.announce discover)
  | .answered (.error _) _ => some { tab with store := tab.store.rejected }

end FeedTab

/-! ## §2. The property. -/

/-- **At most one listener**, so a city switch renders the feed at most once. -/
structure OneListener (tab : FeedTab) : Prop where
  listeners : tab.store.listeners.length ≤ 1
  rerenders : ∀ id discover tab', tab.step (.switch id discover) = some tab' →
    tab'.renders ≤ tab.renders + 1

/-- Of the renders that wait, none comes back after another has since the last
start of `renderFeed`. -/
def FirstBack (tab : FeedTab) : FeedTabEvent → Prop
  | .comeBack render _ => render ∈ tab.waiting → tab.cameBack = false
  | _ => True

/-- Since the last start, either no render has come back and nobody listens, or
one has, and it is the one listener and the one remembered. -/
def FeedTab.Remembered (tab : FeedTab) : Prop :=
  if tab.cameBack then ∃ listener, tab.unsubscribeCity = some listener ∧
    tab.store.listeners = [listener]
  else tab.store.listeners = []

/-- The names of renders are used once. -/
structure FeedTab.Named (tab : FeedTab) : Prop where
  waiting : ∀ render ∈ tab.waiting, render < tab.renders
  distinct : tab.waiting.Nodup
  listeners : ∀ render ∈ tab.waiting, render ∉ tab.store.listeners
  past : ∀ listener ∈ tab.store.listeners, listener < tab.renders

/-! ## §3. One step. -/

section Step

variable {tab tab' : FeedTab} {event : FeedTabEvent}

theorem load_listeners {L : Type} (store : CityStore L) (force : Bool) (next : Nat) :
    (store.load force next).1.listeners = store.listeners := by
  rcases store.load_cases force next with hcached | hshared | hissued
  · rw [hcached.2]
  · obtain ⟨n, -, hload⟩ := hshared
    rw [hload]
  · rw [hissued]

/-- What a start of `renderFeed` leaves subscribed. -/
theorem renderFeed_listeners (tab : FeedTab) : tab.renderFeed.store.listeners
    = match tab.unsubscribeCity with
      | some listener => tab.store.listeners.filter (· ≠ listener)
      | none => tab.store.listeners := by
  unfold FeedTab.renderFeed
  cases tab.unsubscribeCity with
  | none => exact load_listeners tab.store false tab.requests
  | some listener => exact load_listeners (tab.store.unsubscribe listener) false tab.requests

theorem renderFeed_sublist (tab : FeedTab) :
    tab.renderFeed.store.listeners.Sublist tab.store.listeners := by
  rw [renderFeed_listeners]
  cases tab.unsubscribeCity with
  | none => exact List.Sublist.refl _
  | some listener => exact List.filter_sublist

theorem remembered_renderFeed (h : tab.Remembered) : tab.renderFeed.Remembered := by
  show tab.renderFeed.store.listeners = []
  rw [renderFeed_listeners]
  unfold FeedTab.Remembered at h
  -- the handle is dropped at the top, if there is one
  cases hback : tab.cameBack with
  | true =>
      rw [hback, if_pos rfl] at h
      obtain ⟨listener, hhandle, hlisteners⟩ := h
      rw [hhandle, hlisteners]
      simp
  | false =>
      rw [hback, if_neg Bool.false_ne_true] at h
      rw [h]
      cases tab.unsubscribeCity with
      | none => rfl
      | some listener => rfl

theorem named_renderFeed (h : tab.Named) : tab.renderFeed.Named := by
  -- a render can take a listener away, and adds none before it came back
  have hsub := renderFeed_sublist tab
  refine { waiting := ?_, distinct := ?_, listeners := ?_, past := ?_ }
  · intro render hrender
    rcases List.mem_append.mp hrender with hold | hnew
    · exact Nat.lt_succ_of_lt (h.waiting render hold)
    · rw [List.mem_singleton.mp hnew]
      exact Nat.lt_succ_self _
  · refine h.distinct.append (List.nodup_singleton _) ?_
    intro render hold hnew
    rw [List.mem_singleton.mp hnew] at hold
    exact absurd (h.waiting _ hold) (lt_irrefl _)
  · intro render hrender hlistens
    rcases List.mem_append.mp hrender with hold | hnew
    · exact h.listeners render hold (hsub.subset hlistens)
    · rw [List.mem_singleton.mp hnew] at hlistens
      exact absurd (h.past _ (hsub.subset hlistens)) (lt_irrefl _)
  · intro listener hlistener
    exact Nat.lt_succ_of_lt (h.past listener (hsub.subset hlistener))

/-- A render that comes back adds its listener to those there are. -/
theorem subscribeCity_listeners {render : Nat} (h : tab.Named) (hwaits : render ∈ tab.waiting) :
    (tab.subscribeCity render).store.listeners = tab.store.listeners ++ [render] :=
  if_neg (h.listeners render hwaits)

theorem named_subscribeCity {render : Nat} (h : tab.Named) (hwaits : render ∈ tab.waiting) :
    (tab.subscribeCity render).Named := by
  -- the render's listener is the last one, and it has left those who wait
  have hlisteners := subscribeCity_listeners h hwaits
  refine { waiting := ?_, distinct := h.distinct.erase _, listeners := ?_, past := ?_ }
  · intro other hother
    exact h.waiting other (List.mem_of_mem_erase hother)
  · intro other hother hlistens
    rw [hlisteners] at hlistens
    rcases List.mem_append.mp hlistens with hold | hlast
    · exact h.listeners other (List.mem_of_mem_erase hother) hold
    · -- it waits no more
      rw [List.mem_singleton.mp hlast] at hother
      exact h.distinct.not_mem_erase hother
  · intro listener hlistener
    rw [hlisteners] at hlistener
    rcases List.mem_append.mp hlistener with hold | hlast
    · exact h.past listener hold
    · rw [List.mem_singleton.mp hlast]
      exact h.waiting render hwaits

/-- What every render keeps, an announcement keeps. -/
theorem announce_keeps {I : FeedTab → Prop} (hI : ∀ tab, I tab → I tab.renderFeed) (h : I tab)
    (discover : Bool) : I (tab.announce discover) := by
  unfold FeedTab.announce
  cases discover with
  | false => exact h
  | true =>
      rw [if_pos rfl]
      generalize tab.store.listeners = listeners
      induction listeners generalizing tab with
      | nil => exact h
      | cons listener listeners ih => exact ih (hI tab h)

/-- An announcement renders once for every listener there was. -/
theorem announce_renders (tab : FeedTab) (discover : Bool) :
    (tab.announce discover).renders ≤ tab.renders + tab.store.listeners.length := by
  unfold FeedTab.announce
  cases discover with
  | false => exact Nat.le_add_right _ _
  | true =>
      rw [if_pos rfl]
      generalize tab.store.listeners = listeners
      induction listeners generalizing tab with
      | nil => exact le_refl _
      | cons listener listeners ih =>
          refine (ih tab.renderFeed).trans ?_
          show tab.renders + 1 + listeners.length ≤ tab.renders + (listeners.length + 1)
          omega

theorem named_step (h : tab.Named) (hstep : tab.step event = some tab') : tab'.Named := by
  cases event with
  | render =>
      cases hstep
      exact named_renderFeed h
  | comeBack render failed =>
      simp only [FeedTab.step] at hstep
      split at hstep
      · rename_i hwaits
        cases hstep
        exact named_subscribeCity h hwaits
      · cases hstep
  | switch id discover =>
      cases hstep
      -- choosing a city wakes the listeners, each of which renders
      have hset : FeedTab.Named { tab with store := tab.store.set id } :=
        { waiting := h.waiting, distinct := h.distinct, listeners := h.listeners, past := h.past }
      split
      · exact hset
      · exact announce_keeps (I := FeedTab.Named) (fun _ => named_renderFeed) hset discover
  | answered outcome discover =>
      cases outcome with
      | error e =>
          cases hstep
          exact { waiting := h.waiting, distinct := h.distinct, listeners := h.listeners,
                  past := h.past }
      | ok cities =>
          cases hstep
          refine announce_keeps (I := FeedTab.Named) (fun _ => named_renderFeed) ?_ discover
          exact { waiting := h.waiting, distinct := h.distinct, listeners := h.listeners,
                  past := h.past }

theorem FeedTab.Remembered.oneListener (h : tab.Remembered) : OneListener tab := by
  have hlength : tab.store.listeners.length ≤ 1 := by
    unfold FeedTab.Remembered at h
    split at h
    · obtain ⟨listener, -, hlisteners⟩ := h
      rw [hlisteners]
      exact le_refl _
    · rw [h]
      exact Nat.zero_le _
  refine { listeners := hlength, rerenders := ?_ }
  intro id discover tab' hstep
  cases hstep
  -- a switch to another view, or the one listener rendering once
  split
  · exact Nat.le_succ _
  · exact (announce_renders { tab with store := tab.store.set id } discover).trans
      (Nat.add_le_add_left hlength _)

/-- Bringing back a render leaves its listener the one remembered exactly if no
other has come back. -/
theorem remembered_subscribeCity_iff {render : Nat} (hN : tab.Named) (h : tab.Remembered)
    (hwaits : render ∈ tab.waiting) :
    (tab.subscribeCity render).Remembered ↔ tab.cameBack = false := by
  show (∃ listener, some render = some listener ∧ _ = [listener]) ↔ _
  rw [subscribeCity_listeners hN hwaits]
  unfold FeedTab.Remembered at h
  cases hback : tab.cameBack with
  | true =>
      -- somebody listens already
      rw [hback, if_pos rfl] at h
      obtain ⟨listener, -, hold⟩ := h
      rw [hold]
      simp
  | false =>
      rw [hback, if_neg Bool.false_ne_true] at h
      rw [h]
      simp

/-- **A step keeps the one listener remembered exactly if it brings back the first
render since the last start, or none.** -/
theorem remembered_step_iff (hN : tab.Named) (h : tab.Remembered)
    (hstep : tab.step event = some tab') : tab'.Remembered ↔ FirstBack tab event := by
  cases event with
  | render =>
      cases hstep
      exact iff_of_true (remembered_renderFeed h) trivial
  -- the first one back subscribes and keeps the handle; a second one overwrites it
  | comeBack render failed =>
      simp only [FeedTab.step] at hstep
      split at hstep
      · rename_i hwaits
        cases hstep
        rw [remembered_subscribeCity_iff hN h hwaits]
        show tab.cameBack = false ↔ (render ∈ tab.waiting → tab.cameBack = false)
        rw [forall_prop_of_true hwaits]
      · cases hstep
  | switch id discover =>
      cases hstep
      refine iff_of_true ?_ trivial
      have hset : FeedTab.Remembered { tab with store := tab.store.set id } := h
      split
      · exact hset
      · exact announce_keeps (I := FeedTab.Remembered) (fun _ => remembered_renderFeed) hset
          discover
  | answered outcome discover =>
      refine iff_of_true ?_ trivial
      cases outcome with
      | error e =>
          cases hstep
          exact h
      | ok cities =>
          cases hstep
          have hcities : FeedTab.Remembered { tab with store := tab.store.fulfilled cities } := h
          exact announce_keeps (I := FeedTab.Remembered) (fun _ => remembered_renderFeed) hcities
            discover

/-- A second listener is one that is not remembered. -/
theorem remembered_of_oneListener (hN : tab.Named) (h : tab.Remembered)
    (hone : OneListener tab') (hstep : tab.step event = some tab') : tab'.Remembered := by
  rw [remembered_step_iff hN h hstep]
  cases event with
  | comeBack render failed =>
      simp only [FeedTab.step] at hstep
      split at hstep
      · rename_i hwaits
        cases hstep
        have hlength := hone.listeners
        rw [subscribeCity_listeners hN hwaits, List.length_append, List.length_singleton] at hlength
        -- with its own listener there is room for no other
        have hnobody : tab.store.listeners = [] := List.eq_nil_of_length_eq_zero (by omega)
        intro _
        by_contra hback
        unfold FeedTab.Remembered at h
        rw [if_pos (eq_true_of_ne_false hback), hnobody] at h
        obtain ⟨listener, -, hsome⟩ := h
        cases hsome
      · cases hstep
  | render => exact trivial
  | switch id discover => exact trivial
  | answered outcome discover => exact trivial

end Step

/-! ## §4. Runs. -/

/-- **WHEN THE FEED LEAVES ONE LISTENER BEHIND.**  In every run, at most one
listener is subscribed at any time, and a switch renders the feed at most once,
if and only if no render comes back from `city.load()` after another has since
the last start of `renderFeed`. -/
theorem oneListener_iff (stored : Option Nat) (events : List FeedTabEvent) :
    Throughout FeedTab.step OneListener (FeedTab.opened stored) events ↔
      Along FeedTab.step FirstBack (FeedTab.opened stored) events := by
  have hnamed : (FeedTab.opened stored).Named := by
    refine { waiting := ?_, distinct := List.nodup_nil, listeners := ?_, past := ?_ }
    · intro render hrender
      exact absurd hrender List.not_mem_nil
    · intro render hrender
      exact absurd hrender List.not_mem_nil
    · intro listener hlistener
      exact absurd hlistener List.not_mem_nil
  have hstart : (FeedTab.opened stored).Remembered := rfl
  have hkeep : Throughout FeedTab.step FeedTab.Remembered (FeedTab.opened stored) events ↔
      Along FeedTab.step FirstBack (FeedTab.opened stored) events := by
    refine throughout_iff_along (J := FeedTab.Named) (fun _ _ _ => named_step)
      (fun _ _ _ => remembered_step_iff) ?_ hnamed hstart
    -- a render that does not wait does not come back
    intro tab event hstuck
    cases event with
    | comeBack render failed =>
        intro hwaits
        simp [FeedTab.step, hwaits] at hstuck
    | render => exact trivial
    | switch id discover => exact trivial
    | answered outcome discover => exact trivial
  rw [← hkeep]
  constructor
  · intro h
    exact throughout_strengthen (K := FeedTab.Named) (fun _ _ _ => named_step)
      (fun _ _ _ hN hR hone hstep => remembered_of_oneListener hN hR hone hstep) hnamed hstart h
  · intro h pre hpre tab hrun
    exact (h pre hpre tab hrun).oneListener

/-- The feed is rendered again before its first city list has come, and then both
renders come back. -/
def twoRenders : List FeedTabEvent :=
  [.render, .render, .comeBack 0 false, .comeBack 1 false]

theorem twoRenders_leak :
    ∃ tab, Run FeedTab.step (FeedTab.opened none) twoRenders tab ∧
      tab.store.listeners = [0, 1] ∧ ¬ OneListener tab := by
  refine ⟨_, run_iff_exec.mpr rfl, rfl, ?_⟩
  intro h
  exact absurd h.listeners (by decide)

end Feedcast
