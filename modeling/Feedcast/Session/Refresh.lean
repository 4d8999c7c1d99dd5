/-
  Feedcast.Session.Refresh — requests that find the session expired share one
  refresh.

  Calls of `apiFetch` start at any time, and requests, refreshes and
  continuations are answered and resumed in any order.

    • `RefreshShared` — one refresh at a time, a retry only after one that went
      well, and the event of a dead session once for each call that found it so,
    • `CallRight` — what the requests sent and the events dispatched show of one
      call, stage by stage,
    • `refresh_shared` — over every run of a page,
    • `loggedOut_iff_throws` — and what the caller of `apiFetch` gets.
-/
import Feedcast.Lib.Runs
import Feedcast.Static.Api

namespace Feedcast

open Feedcast.Lib

variable {ρ : Type}

/-! ## §1. What sharing promises. -/

/-- The refresh a call awaits, or awaited. -/
def ApiStage.awaited : ApiStage ρ → Option Nat
  | .first _ => none
  | .awaiting n => some n
  | .second n _ => some n
  | .ended refresh _ => refresh

def ApiSent.refresh? : ApiSent → Option Nat
  | .request _ => none
  | .refresh n => some n

namespace ApiPage

/-- How often the call has sent its request. -/
def tries (page : ApiPage ρ) (i : Nat) : Nat := page.sent.count (.request i)

/-- The refresh of this number is on its way. -/
def Refreshing (page : ApiPage ρ) (n : Nat) : Prop :=
  n < page.refreshing.legs.length ∧ page.refreshing.outcome n = none

end ApiPage

/-- **One refresh for all**, in any state of the page. -/
structure RefreshShared (page : ApiPage ρ) : Prop where
  /-- At most one refresh is on its way. -/
  single : ∀ m n, page.Refreshing m → page.Refreshing n → m = n
  /-- Each is sent once, the next only after the last one landed. -/
  sent : page.sent.filterMap ApiSent.refresh? = List.range page.refreshing.legs.length
  /-- Each was asked for by a call that found the session expired. -/
  needed : ∀ n < page.refreshing.legs.length,
    ∃ (i : Nat) (call : ApiCall ρ), page.calls[i]? = some call ∧ call.stage.awaited = some n
  /-- No refresh for `/auth/`, not even of the refresh itself. -/
  auth : ∀ (i : Nat) call, page.calls[i]? = some call → underAuth call.path = true →
    call.stage.awaited = none
  /-- A call sends its request once, and once more after a refresh that went well. -/
  twice : ∀ (i : Nat) call, page.calls[i]? = some call → page.tries i ≤ 2 ∧
    (page.tries i = 2 → ∃ n, call.stage.awaited = some n ∧
      page.refreshing.outcome n = some true)
  /-- The event is dispatched for the calls that end with a 401, `/auth/` apart,
  and once for each. -/
  told : ∀ i : Nat, i ∈ page.loggedOut ↔ ∃ call refresh, page.calls[i]? = some call ∧
    call.stage = .ended refresh (.status 401) ∧ underAuth call.path = false
  once : page.loggedOut.Nodup

/-! ## §2. One call. -/

/-- **What is sent and dispatched for one call**, stage by stage. -/
def ApiPage.CallRight (page : ApiPage ρ) (i : Nat) (call : ApiCall ρ) : Prop :=
  match call.stage with
  | .first _ => page.tries i = 1 ∧ i ∉ page.loggedOut
  | .awaiting n =>
      page.tries i = 1 ∧ i ∉ page.loggedOut ∧ underAuth call.path = false ∧
        n < page.refreshing.legs.length
  | .second n _ =>
      page.tries i = 2 ∧ i ∉ page.loggedOut ∧ underAuth call.path = false ∧
        page.refreshing.outcome n = some true
  | .ended none reply =>
      page.tries i = 1 ∧ i ∉ page.loggedOut ∧
        (reply = .status 401 → underAuth call.path = true)
  | .ended (some n) reply =>
      underAuth call.path = false ∧ (i ∈ page.loggedOut ↔ reply = .status 401) ∧
        ((page.tries i = 2 ∧ page.refreshing.outcome n = some true) ∨
          (page.tries i = 1 ∧ page.refreshing.outcome n = some false))

/-- What a step leaves of the calls it does not concern: nothing is sent or
dispatched for them, and no result is taken back. -/
structure ApiPage.Leaves (page page' : ApiPage ρ) (i : Nat) : Prop where
  tries : page'.tries i = page.tries i
  told : i ∈ page'.loggedOut ↔ i ∈ page.loggedOut
  legs : page.refreshing.legs.length ≤ page'.refreshing.legs.length
  outcome : ∀ n result, page.refreshing.outcome n = some result →
    page'.refreshing.outcome n = some result

section Call

variable {page page' : ApiPage ρ} {i j n : Nat} {call : ApiCall ρ} {stage : ApiStage ρ}

theorem CallRight.leave (h : page.CallRight i call) (hleaves : page.Leaves page' i) :
    page'.CallRight i call := by
  obtain ⟨htries, htold, hlegs, houtcome⟩ := hleaves
  unfold ApiPage.CallRight at h ⊢
  rw [htries, htold]
  -- what the invariant asks depends on how far the call has come
  cases hstage : call.stage with
  | first request =>
      rw [hstage] at h
      exact h
  | awaiting n =>
      rw [hstage] at h
      obtain ⟨h₁, h₂, h₃, h₄⟩ := h
      exact ⟨h₁, h₂, h₃, Nat.lt_of_lt_of_le h₄ hlegs⟩
  | second n request =>
      rw [hstage] at h
      obtain ⟨h₁, h₂, h₃, h₄⟩ := h
      exact ⟨h₁, h₂, h₃, houtcome n true h₄⟩
  | ended refresh reply =>
      rw [hstage] at h
      cases refresh with
      | none => exact h
      | some n =>
          obtain ⟨h₁, h₂, h₃⟩ := h
          refine ⟨h₁, h₂, ?_⟩
          rcases h₃ with hwell | hbad
          · exact Or.inl ⟨hwell.1, houtcome n true hwell.2⟩
          · exact Or.inr ⟨hbad.1, houtcome n false hbad.2⟩

/-- A call that goes on, and the others as they were. -/
theorem calls_goOn (stage : ApiStage ρ) (hget : page.calls[i]? = some call)
    (hcalls : page'.calls = page.calls.set i { call with stage := stage })
    (hself : page'.CallRight i { call with stage := stage })
    (hothers : ∀ j, j ≠ i → page.Leaves page' j)
    (h : ∀ (j : Nat) c, page.calls[j]? = some c → page.CallRight j c) :
    ∀ (j : Nat) c, page'.calls[j]? = some c → page'.CallRight j c := by
  intro j c hc
  obtain ⟨hlt, -⟩ := List.getElem?_eq_some_iff.mp hget
  rw [hcalls] at hc
  -- only call `i` has moved
  by_cases hj : j = i
  · subst hj
    rw [List.getElem?_set_self hlt] at hc
    obtain rfl := Option.some.inj hc
    exact hself
  · rw [List.getElem?_set_ne (Ne.symm hj)] at hc
    exact CallRight.leave (h j c hc) (hothers j hj)

/-- The refresh another call awaits is still awaited by it, and by this one if it
was. -/
theorem awaited_goOn (hget : page.calls[i]? = some call)
    (hcalls : page'.calls = page.calls.set i { call with stage := stage })
    (hkeep : ∀ n, call.stage.awaited = some n → stage.awaited = some n)
    (h : ∃ (j : Nat) (c : ApiCall ρ), page.calls[j]? = some c ∧ c.stage.awaited = some n) :
    ∃ (j : Nat) (c : ApiCall ρ), page'.calls[j]? = some c ∧ c.stage.awaited = some n := by
  obtain ⟨j, c, hc, hn⟩ := h
  obtain ⟨hlt, -⟩ := List.getElem?_eq_some_iff.mp hget
  rw [hcalls]
  -- it is the call that moves, or one that stays as it is
  by_cases hj : j = i
  · subst hj
    rw [hget] at hc
    obtain rfl := Option.some.inj hc
    exact ⟨j, _, List.getElem?_set_self hlt, hkeep n hn⟩
  · exact ⟨j, c, by rw [List.getElem?_set_ne (Ne.symm hj)]; exact hc, hn⟩

end Call

/-! ## §3. One step. -/

/-- The invariant of a page. -/
structure ApiPage.Inv (page : ApiPage ρ) : Prop where
  sound : page.refreshing.Sound
  calls : ∀ (i : Nat) call, page.calls[i]? = some call → page.CallRight i call
  /-- Nothing is sent or dispatched for calls that are yet to come. -/
  fresh : ∀ i, page.calls.length ≤ i → page.tries i = 0 ∧ i ∉ page.loggedOut
  sent : page.sent.filterMap ApiSent.refresh? = List.range page.refreshing.legs.length
  needed : ∀ n < page.refreshing.legs.length,
    ∃ (i : Nat) (call : ApiCall ρ), page.calls[i]? = some call ∧ call.stage.awaited = some n
  once : page.loggedOut.Nodup

section Step

variable {page page' : ApiPage ρ} {i n : Nat} {call : ApiCall ρ} {path : Str} {request : ρ}
  {reply : FetchReply} {flight : Flight Bool}

theorem tries_request (page : ApiPage ρ) (i j : Nat) :
    (page.sent ++ [ApiSent.request i]).count (.request j)
      = page.tries j + if i = j then 1 else 0 := by
  unfold ApiPage.tries
  rw [List.count_append, List.count_singleton]
  by_cases hij : i = j
  · subst hij
    simp
  · simp [hij]

theorem inv_opened : ({} : ApiPage ρ).Inv where
  sound := Flight.sound_idle
  calls := by
    intro i call h
    cases h
  fresh := by
    intro i _
    exact ⟨rfl, List.not_mem_nil⟩
  sent := rfl
  needed := by
    intro n hn
    exact absurd hn (Nat.not_lt_zero n)
  once := List.nodup_nil

theorem inv_call (hinv : page.Inv) : (page.call path request).Inv := by
  -- nothing was sent for the number the new call gets
  have hfresh := hinv.fresh page.calls.length (Nat.le_refl _)
  have hleaves : ∀ j, j ≠ page.calls.length → page.Leaves (page.call path request) j := by
    intro j hj
    refine ⟨?_, Iff.rfl, Nat.le_refl _, fun _ _ h => h⟩
    show (page.sent ++ [ApiSent.request page.calls.length]).count (.request j) = page.tries j
    rw [tries_request, if_neg (Ne.symm hj), Nat.add_zero]
  refine ⟨hinv.sound, ?_, ?_, ?_, ?_, hinv.once⟩
  · intro j c hc
    rcases Nat.lt_trichotomy j page.calls.length with hlt | heq | hgt
    · unfold ApiPage.call at hc
      rw [List.getElem?_append_left hlt] at hc
      exact CallRight.leave (hinv.calls j c hc) (hleaves j (Nat.ne_of_lt hlt))
    · subst heq
      unfold ApiPage.call at hc
      rw [List.getElem?_concat_length] at hc
      obtain rfl := Option.some.inj hc
      refine ⟨?_, hfresh.2⟩
      show (page.sent ++ [ApiSent.request page.calls.length]).count _ = 1
      rw [tries_request, if_pos rfl, hfresh.1]
    · unfold ApiPage.call at hc
      rw [List.getElem?_eq_none (by simpa using Nat.succ_le_of_lt hgt)] at hc
      cases hc
  · intro j hj
    have hj' : page.calls.length < j := by
      have hlength : page.calls.length + 1 ≤ j := by simpa [ApiPage.call] using hj
      omega
    obtain ⟨htries, htold⟩ := hinv.fresh j (Nat.le_of_lt hj')
    refine ⟨?_, htold⟩
    rw [(hleaves j (Nat.ne_of_gt hj')).tries]
    exact htries
  · show (page.sent ++ [ApiSent.request _]).filterMap ApiSent.refresh? = _
    rw [List.filterMap_append]
    show _ ++ [] = _
    rw [List.append_nil]
    exact hinv.sent
  · intro n hn
    obtain ⟨j, c, hc, hawaited⟩ := hinv.needed n hn
    refine ⟨j, c, ?_, hawaited⟩
    show (page.calls ++ [_])[j]? = some c
    rw [List.getElem?_append_left (List.getElem?_eq_some_iff.mp hc).1]
    exact hc

/-- A call goes on while nothing is sent, dispatched or refreshed. -/
theorem inv_goOn (hinv : page.Inv) {stage : ApiStage ρ} (hget : page.calls[i]? = some call)
    (hself : page.CallRight i { call with stage := stage })
    (hkeep : ∀ n, call.stage.awaited = some n → stage.awaited = some n) :
    (page.goOn i call stage).Inv := by
  refine ⟨hinv.sound, ?_, ?_, hinv.sent, ?_, hinv.once⟩
  · exact calls_goOn _ hget rfl hself (fun _ _ => ⟨rfl, Iff.rfl, Nat.le_refl _, fun _ _ h => h⟩)
      hinv.calls
  · intro j hj
    exact hinv.fresh j (by simpa [ApiPage.goOn] using hj)
  · intro n hn
    exact awaited_goOn hget rfl hkeep (hinv.needed n hn)

theorem inv_awaitRefresh (hinv : page.Inv) (hget : page.calls[i]? = some call)
    (hstage : call.stage = .first request) (hauth : underAuth call.path = false) :
    (page.awaitRefresh i call).Inv := by
  have hright := hinv.calls i call hget
  unfold ApiPage.CallRight at hright
  rw [hstage] at hright
  -- what is sent is at most a refresh
  have htries : ∀ j, (page.awaitRefresh i call).tries j = page.tries j := by
    intro j
    unfold ApiPage.tries ApiPage.awaitRefresh
    by_cases hidle : page.refreshing.current = none
    · simp [hidle, List.count_append]
    · simp [hidle]
  have hlegs : page.refreshing.legs.length ≤ page.refreshing.join.1.legs.length ∧
      page.refreshing.join.2 < page.refreshing.join.1.legs.length := by
    cases hcurrent : page.refreshing.current with
    | none =>
        rw [Flight.join_idle hcurrent]
        simp
    | some n =>
        rw [Flight.join_current hcurrent]
        exact ⟨Nat.le_refl _, ((hinv.sound.waiting n).mp hcurrent).1⟩
  have hleaves : ∀ j, page.Leaves (page.awaitRefresh i call) j := by
    intro j
    exact ⟨htries j, Iff.rfl, hlegs.1, fun _ _ h => Flight.outcome_join h⟩
  refine ⟨hinv.sound.join, ?_, ?_, ?_, ?_, hinv.once⟩
  · refine calls_goOn (.awaiting page.refreshing.join.2) hget rfl ?_
      (fun j _ => hleaves j) hinv.calls
    exact ⟨(htries i).trans hright.1, hright.2, hauth, hlegs.2⟩
  · intro j hj
    obtain ⟨hzero, htold⟩ := hinv.fresh j (by simpa [ApiPage.awaitRefresh, ApiPage.goOn] using hj)
    exact ⟨(htries j).trans hzero, htold⟩
  · show List.filterMap _ (if page.refreshing.current = none then _ else _) = _
    cases hcurrent : page.refreshing.current with
    | none =>
        rw [if_pos rfl, List.filterMap_append, hinv.sent]
        simp [ApiPage.awaitRefresh, ApiSent.refresh?, Flight.join_idle hcurrent,
          List.range_succ]
    | some n =>
        rw [if_neg (Option.some_ne_none n), hinv.sent]
        simp [ApiPage.awaitRefresh, Flight.join_current hcurrent]
  · intro n hn
    by_cases hold : n < page.refreshing.legs.length
    · exact awaited_goOn hget rfl (by simp [hstage, ApiStage.awaited]) (hinv.needed n hold)
    · -- the refresh that has just started is awaited by this call
      obtain ⟨hlt, -⟩ := List.getElem?_eq_some_iff.mp hget
      refine ⟨i, _, List.getElem?_set_self hlt, ?_⟩
      show some page.refreshing.join.2 = some n
      cases hcurrent : page.refreshing.current with
      | none =>
          simp only [ApiPage.awaitRefresh, Flight.join_idle hcurrent, List.length_append,
            List.length_singleton] at hn ⊢
          congr 1
          omega
      | some m =>
          simp only [ApiPage.awaitRefresh, Flight.join_current hcurrent] at hn
          exact absurd hn hold

/-- Nothing is sent or dispatched by what happens to the refresh itself. -/
theorem inv_flight (hinv : page.Inv) (hsound : flight.Sound)
    (hlegs : flight.legs.length = page.refreshing.legs.length)
    (houtcome : ∀ n result, page.refreshing.outcome n = some result →
      flight.outcome n = some result) :
    { page with refreshing := flight }.Inv := by
  -- no call moves: only what the flight has to keep is checked again
  refine ⟨hsound, ?_, hinv.fresh, ?_, ?_, hinv.once⟩
  · intro j c hc
    exact CallRight.leave (hinv.calls j c hc)
      ⟨rfl, Iff.rfl, Nat.le_of_eq hlegs.symm, houtcome⟩
  · exact hinv.sent.trans (congrArg List.range hlegs.symm)
  · intro n hn
    exact hinv.needed n (by rwa [← hlegs])

theorem inv_finish (hinv : page.Inv) (hget : page.calls[i]? = some call)
    (hawaited : call.stage.awaited = some n) (hauth : underAuth call.path = false)
    (htold : i ∉ page.loggedOut)
    (htries : (page.tries i = 2 ∧ page.refreshing.outcome n = some true) ∨
      (page.tries i = 1 ∧ page.refreshing.outcome n = some false)) :
    (page.finish i call n reply).Inv := by
  -- a 401 is told, and every other answer is not
  have hmem : ∀ j : Nat, j ∈ (page.finish i call n reply).loggedOut ↔
      j ∈ page.loggedOut ∨ (j = i ∧ reply = .status 401) := by
    intro j
    unfold ApiPage.finish
    by_cases hreply : reply = .status 401
    · simp [hreply]
    · simp [hreply]
  have hleaves : ∀ j, j ≠ i → page.Leaves (page.finish i call n reply) j := by
    intro j hj
    refine ⟨rfl, ?_, Nat.le_refl _, fun _ _ h => h⟩
    rw [hmem j]
    simp [hj]
  refine ⟨hinv.sound, ?_, ?_, hinv.sent, ?_, ?_⟩
  · refine calls_goOn (.ended (some n) reply) hget rfl ?_ hleaves hinv.calls
    refine ⟨hauth, ?_, htries⟩
    rw [hmem i]
    simp [htold]
  · intro j hj
    have hlength : page.calls.length ≤ j := by simpa [ApiPage.finish, ApiPage.goOn] using hj
    have hne : j ≠ i := by
      obtain ⟨hlt, -⟩ := List.getElem?_eq_some_iff.mp hget
      omega
    obtain ⟨hzero, hout⟩ := hinv.fresh j hlength
    exact ⟨hzero, fun h => hout ((hleaves j hne).told.mp h)⟩
  · intro m hm
    refine awaited_goOn hget rfl ?_ (hinv.needed m hm)
    intro m' hm'
    exact hawaited.symm.trans hm'
  · show (if reply = .status 401 then page.loggedOut ++ [i] else page.loggedOut).Nodup
    split
    · refine List.nodup_append.mpr ⟨hinv.once, by simp, ?_⟩
      intro a ha b hb hab
      rw [List.mem_singleton] at hb
      exact htold (hb ▸ hab ▸ ha)
    · exact hinv.once

/-- The retry, after a refresh that went well. -/
theorem inv_retry (hinv : page.Inv) (hget : page.calls[i]? = some call)
    (hstage : call.stage = .awaiting n) (hwell : page.refreshing.outcome n = some true) :
    { page.goOn i call (.second n request) with sent := page.sent ++ [ApiSent.request i] }.Inv := by
  have hright := hinv.calls i call hget
  unfold ApiPage.CallRight at hright
  rw [hstage] at hright
  obtain ⟨htries, htold, hauth, -⟩ := hright
  obtain ⟨hlt, -⟩ := List.getElem?_eq_some_iff.mp hget
  -- the request that goes out is counted for call `i` alone
  have hleaves : ∀ j, j ≠ i → page.Leaves
      { page.goOn i call (.second n request) with sent := page.sent ++ [ApiSent.request i] } j := by
    intro j hj
    refine ⟨?_, Iff.rfl, Nat.le_refl _, fun _ _ h => h⟩
    show (page.sent ++ [ApiSent.request i]).count (.request j) = page.tries j
    rw [tries_request, if_neg (Ne.symm hj), Nat.add_zero]
  refine ⟨hinv.sound, ?_, ?_, ?_, ?_, hinv.once⟩
  · refine calls_goOn (.second n request) hget rfl ?_ hleaves hinv.calls
    refine ⟨?_, htold, hauth, hwell⟩
    show (page.sent ++ [ApiSent.request i]).count (.request i) = 2
    rw [tries_request, if_pos rfl, htries]
  · intro j hj
    have hlength : page.calls.length ≤ j := by simpa [ApiPage.goOn] using hj
    obtain ⟨hzero, hout⟩ := hinv.fresh j hlength
    exact ⟨(hleaves j (by omega)).tries.trans hzero, hout⟩
  · show (page.sent ++ [ApiSent.request i]).filterMap ApiSent.refresh? = _
    rw [List.filterMap_append]
    show _ ++ [] = _
    rw [List.append_nil]
    exact hinv.sent
  · intro m hm
    refine awaited_goOn hget rfl ?_ (hinv.needed m hm)
    intro m' hm'
    rw [hstage] at hm'
    exact hm'

theorem inv_respond (hinv : page.Inv) (h : page.respond i reply = some page') : page'.Inv := by
  obtain ⟨call, hget, hcases⟩ := respond_cases h
  have hright := hinv.calls i call hget
  unfold ApiPage.CallRight at hright
  -- a 401 that asks for a refresh, another answer, or the answer after one
  rcases hcases with ⟨sent, hstage, -, hauth, rfl⟩ | ⟨sent, hstage, hreply, rfl⟩ |
    ⟨n, sent, hstage, rfl⟩
  · exact inv_awaitRefresh hinv hget hstage hauth
  · rw [hstage] at hright
    exact inv_goOn hinv hget ⟨hright.1, hright.2, hreply⟩ (by simp [hstage, ApiStage.awaited])
  · rw [hstage] at hright
    exact inv_finish hinv hget (by rw [hstage]; rfl) hright.2.2.1 hright.2.1
      (Or.inl ⟨hright.1, hright.2.2.2⟩)

theorem inv_resume (hinv : page.Inv) (h : page.resume i request = some page') : page'.Inv := by
  obtain ⟨call, n, hget, hstage, hcases⟩ := resume_cases h
  have hright := hinv.calls i call hget
  unfold ApiPage.CallRight at hright
  rw [hstage] at hright
  rcases hcases with ⟨hwell, rfl⟩ | ⟨hbad, rfl⟩
  · exact inv_retry hinv hget hstage hwell
  · exact inv_finish hinv hget (by rw [hstage]; rfl) hright.2.2.1 hright.2.1
      (Or.inr ⟨hright.1, hbad⟩)

theorem inv_progress {f : ρ → ρ} (hinv : page.Inv) (h : page.progress i f = some page') :
    page'.Inv := by
  obtain ⟨call, hget, hcases⟩ := progress_cases h
  have hright := hinv.calls i call hget
  unfold ApiPage.CallRight at hright
  rcases hcases with ⟨sent, hstage, rfl⟩ | ⟨n, sent, hstage, rfl⟩
  · rw [hstage] at hright
    exact inv_goOn hinv hget hright (by simp [hstage, ApiStage.awaited])
  · rw [hstage] at hright
    exact inv_goOn hinv hget hright (by simp [hstage, ApiStage.awaited])

theorem inv_step {event : ApiEvent ρ} (hinv : page.Inv) (h : page.step event = some page') :
    page'.Inv := by
  cases event with
  | call path request =>
      cases h
      exact inv_call hinv
  | progress i f => exact inv_progress hinv h
  | respond i reply => exact inv_respond hinv h
  | refreshed n ok =>
      obtain ⟨flight, hanswer, rfl⟩ := Option.map_eq_some_iff.mp h
      refine inv_flight hinv (hinv.sound.answer hanswer) ?_ ?_
      · rw [(Flight.answer_some hanswer).2]
        exact List.length_set
      · intro m result hm
        -- a refresh that was answered keeps its answer
        rw [Flight.outcome_answer hanswer]
        exact hm
  | landed n =>
      obtain ⟨flight, hland, rfl⟩ := Option.map_eq_some_iff.mp h
      refine inv_flight hinv (hinv.sound.land hland) ?_ ?_
      · obtain ⟨result, -, rfl⟩ := Flight.land_some hland
        exact List.length_set
      · intro m result hm
        exact Flight.outcome_land hland hm
  | resume i request => exact inv_resume hinv h

end Step

/-! ## §4. Every run. -/

/-- What the invariant says of a page. -/
theorem shared_of_inv {page : ApiPage ρ} (hinv : page.Inv) : RefreshShared page where
  single := by
    intro m n hm hn
    exact hinv.sound.unique hm.1 hn.1 hm.2 hn.2
  sent := hinv.sent
  needed := hinv.needed
  auth := by
    intro i call hget hauth
    have hright := hinv.calls i call hget
    unfold ApiPage.CallRight at hright
    cases hstage : call.stage with
    | first request => rfl
    | awaiting n => simp [hstage, hauth] at hright
    -- a call under `/auth/` is never put to wait for a refresh
    | second n request => simp [hstage, hauth] at hright
    | ended refresh reply =>
        cases refresh with
        | none => rfl
        | some n => simp [hstage, hauth] at hright
  twice := by
    intro i call hget
    have hright := hinv.calls i call hget
    unfold ApiPage.CallRight at hright
    cases hstage : call.stage with
    | first request =>
        rw [hstage] at hright
        omega
    | awaiting n =>
        rw [hstage] at hright
        omega
    | second n request =>
        rw [hstage] at hright
        exact ⟨Nat.le_of_eq hright.1, fun _ => ⟨n, rfl, hright.2.2.2⟩⟩
    | ended refresh reply =>
        rw [hstage] at hright
        cases refresh with
        | none => omega
        | some n =>
            rcases hright.2.2 with hwell | hbad
            · exact ⟨Nat.le_of_eq hwell.1, fun _ => ⟨n, rfl, hwell.2⟩⟩
            · omega
  told := by
    intro i
    constructor
    · intro htold
      -- the event names a call that was made
      have hlt : i < page.calls.length := by
        by_contra hge
        exact (hinv.fresh i (by omega)).2 htold
      have hget := List.getElem?_eq_getElem hlt
      have hright := hinv.calls i _ hget
      unfold ApiPage.CallRight at hright
      refine ⟨page.calls[i], ?_⟩
      cases hstage : page.calls[i].stage with
      | first request => simp [hstage, htold] at hright
      | awaiting n => simp [hstage, htold] at hright
      | second n request => simp [hstage, htold] at hright
      | ended refresh reply =>
          rw [hstage] at hright
          cases refresh with
          | none => exact absurd htold hright.2.1
          | some n =>
              obtain ⟨hauth, hmem, -⟩ := hright
              exact ⟨some n, hget, by rw [hmem.mp htold], hauth⟩
    · intro h
      obtain ⟨call, refresh, hget, hstage, hauth⟩ := h
      have hright := hinv.calls i call hget
      unfold ApiPage.CallRight at hright
      rw [hstage] at hright
      cases refresh with
      | none => simp [hauth] at hright
      | some n => exact hright.2.1.mpr rfl
  once := hinv.once

/-- **Expired requests share one refresh**, over every run of a page. -/
theorem refresh_shared {events : List (ApiEvent ρ)} {page : ApiPage ρ}
    (h : Run ApiPage.step {} events page) : RefreshShared page :=
  shared_of_inv (h.invariant (fun _ _ _ => inv_step) inv_opened)

/-- **What a dead session is to the caller**: the event is dispatched for the calls
outside `/auth/` that end by throwing a 401, whatever their response says besides. -/
theorem loggedOut_iff_throws {J : Type} (reader : JsonReader J) {events : List (ApiEvent ρ)}
    {page : ApiPage ρ} (h : Run ApiPage.step {} events page) (i : Nat) :
    i ∈ page.loggedOut ↔ ∃ call refresh code, page.calls[i]? = some call ∧
      call.stage = .ended refresh (.status code) ∧ underAuth call.path = false ∧
      ∀ blob text, ∃ message,
        readResponse reader blob ⟨code, text⟩ = .error { status := 401, message := message } := by
  have hshared : RefreshShared page :=
    shared_of_inv (h.invariant (fun _ _ _ => inv_step) inv_opened)
  rw [hshared.told i]
  constructor
  · intro ⟨call, refresh, hget, hstage, hauth⟩
    exact ⟨call, refresh, 401, hget, hstage, hauth,
      fun blob text => readResponse_of_not_ok reader blob rfl⟩
  · intro ⟨call, refresh, code, hget, hstage, hauth, hthrows⟩
    -- the status of the error is that of the response
    obtain ⟨message, hthrown⟩ := hthrows false []
    obtain rfl : 401 = code := readResponse_error_status hthrown
    exact ⟨call, refresh, hget, hstage, hauth⟩

/-- Two views find the session expired; the second refresh is not sent. -/
def expiredPair : List (ApiEvent Unit) :=
  [.call "/stories".toList (), .call "/cities".toList (), .respond 0 (.status 401),
    .respond 1 (.status 401), .refreshed 0 true, .landed 0, .resume 1 (), .resume 0 (),
    .respond 0 (.status 200), .respond 1 (.status 401)]

/-- What is left of them: one call was answered, the other found the session dead. -/
def pairAnswered : ApiPage Unit where
  refreshing := { current := none, legs := [.landed true] }
  calls :=
    [{ path := "/stories".toList, stage := .ended (some 0) (.status 200) },
      { path := "/cities".toList, stage := .ended (some 0) (.status 401) }]
  sent := [.request 0, .request 1, .refresh 0, .request 1, .request 0]
  loggedOut := [1]

theorem refresh_shared_expiredPair : RefreshShared pairAnswered :=
  refresh_shared (run_iff_exec.mpr (by decide : exec ApiPage.step {} expiredPair = some _))

end Feedcast
