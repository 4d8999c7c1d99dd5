/-
  Feedcast.Lib.Coroutine — coroutines on one event loop, and a guard they share.

  A coroutine runs on its own up to its next await, which sends a request and is
  resumed with the reply to it or with an exception; a cancellation is one of
  these.  The loop runs one coroutine at a time, so between two awaits nobody
  else touches the shared state.

    • `advance_tryFinally` — a body that leaves the shared state alone, under a
      finalizer that does not await, suspends or finalizes,
    • `guarded` — a critical section: a set of keys, checked and extended before
      the first await and given back by the finalizer,
    • `Guards.step` — one step of the loop keeps the guard,
    • `guards_of_run` — so does every run, whatever the awaits come back with.
-/
import Feedcast.Lib.Runs
import Mathlib.Data.Finset.Basic

namespace Feedcast.Lib

/-- A coroutine over the shared state `σ`.  It awaits the replies `A q` to
requests `q`, and raises exceptions `ε`. -/
inductive Coroutine (σ Q : Type) (A : Q → Type) (ε α : Type) : Type
  | ret (value : α)
  | raise (exc : ε)
  | read (k : σ → Coroutine σ Q A ε α)
  | write (s : σ) (k : Coroutine σ Q A ε α)
  | await (request : Q) (k : Except ε (A request) → Coroutine σ Q A ε α)

namespace Coroutine

variable {σ Q : Type} {A : Q → Type} {ε α β : Type}

/-! ## §1. Writing coroutines. -/

def bind : Coroutine σ Q A ε α → (α → Coroutine σ Q A ε β) → Coroutine σ Q A ε β
  | ret a, f => f a
  | raise e, _ => raise e
  | read k, f => read fun s => (k s).bind f
  | write s k, f => write s (k.bind f)
  | await q k, f => await q fun r => (k r).bind f

instance : Monad (Coroutine σ Q A ε) where
  pure := ret
  bind := bind

/-- The shared state, as it is now. -/
def get : Coroutine σ Q A ε σ := read ret

def modify (f : σ → σ) : Coroutine σ Q A ε Unit := read fun s => write (f s) (ret ())

/-- `await request`. -/
def call (request : Q) : Coroutine σ Q A ε (A request) :=
  await request fun reply =>
    match reply with
    | .ok a => ret a
    | .error e => raise e

/-- `try: body finally: final`.  An exception of the finalizer replaces what the
body came to. -/
def tryFinally (final : Coroutine σ Q A ε Unit) : Coroutine σ Q A ε α → Coroutine σ Q A ε α
  | ret a => final.bind fun _ => ret a
  | raise e => final.bind fun _ => raise e
  | read k => read fun s => tryFinally final (k s)
  | write s k => write s (tryFinally final k)
  | await q k => await q fun r => tryFinally final (k r)

/-! ## §2. Running them. -/

/-- Run up to the next await, or to the end. -/
def advance : Coroutine σ Q A ε α → σ → σ × Coroutine σ Q A ε α
  | read k, s => advance (k s) s
  | write s k, _ => advance k s
  | ret a, s => (s, ret a)
  | raise e, s => (s, raise e)
  | await q k, s => (s, await q k)

/-- It stands at an await. -/
def Suspended : Coroutine σ Q A ε α → Prop
  | await _ _ => True
  | _ => False

instance : DecidablePred (Suspended (σ := σ) (A := A) (ε := ε) (α := α)) := fun c =>
  match c with
  | await _ _ => isTrue trivial
  | ret _ => isFalse id
  | raise _ => isFalse id
  | read _ => isFalse id
  | write _ _ => isFalse id

/-- Run to the end against someone who answers at once. -/
def answered (answer : (q : Q) → Except ε (A q)) : Coroutine σ Q A ε α → σ → σ × Except ε α
  | ret a, s => (s, .ok a)
  | raise e, s => (s, .error e)
  | read k, s => answered answer (k s) s
  | write s k, _ => answered answer k s
  | await q k, s => answered answer (k (answer q)) s

section Answered

variable (answer : (q : Q) → Except ε (A q))

theorem answered_bind (c : Coroutine σ Q A ε α) (f : α → Coroutine σ Q A ε β) (s : σ) :
    (c.bind f).answered answer s
      = match c.answered answer s with
        | (s', .ok a) => (f a).answered answer s'
        | (s', .error e) => (s', .error e) := by
  induction c generalizing s with
  | ret a => rfl
  | raise e => rfl
  | read k ih => exact ih s s
  | write s' k ih => exact ih s'
  | await q k ih => exact ih (answer q) s

theorem answered_tryFinally {final : Coroutine σ Q A ε Unit} {c : Coroutine σ Q A ε α}
    {s s' s'' : σ} {result : Except ε α} (hc : c.answered answer s = (s', result))
    (hfinal : final.answered answer s' = (s'', .ok ())) :
    (tryFinally final c).answered answer s = (s'', result) := by
  -- `final` runs where the body ends, whether it returned or raised
  induction c generalizing s with
  | ret a =>
      cases hc
      rw [tryFinally, answered_bind, hfinal]
      rfl
  | raise e =>
      cases hc
      rw [tryFinally, answered_bind, hfinal]
      rfl
  | read k ih => exact ih s hc
  | write s₀ k ih => exact ih hc
  | await q k ih => exact ih (answer q) hc

theorem answered_call (q : Q) (s : σ) :
    (call q : Coroutine σ Q A ε (A q)).answered answer s = (s, answer q) := by
  show Coroutine.answered answer (match answer q with | .ok a => ret a | .error e => raise e) s = _
  cases answer q with
  | ok a => rfl
  | error e => rfl

end Answered

/-- It never writes the shared state. -/
def Quiet : Coroutine σ Q A ε α → Prop
  | ret _ => True
  | raise _ => True
  | read k => ∀ s, Quiet (k s)
  | write _ _ => False
  | await _ k => ∀ r, Quiet (k r)

theorem Quiet.bind {c : Coroutine σ Q A ε α} {f : α → Coroutine σ Q A ε β} (hc : c.Quiet)
    (hf : ∀ a, (f a).Quiet) : (c.bind f).Quiet := by
  induction c with
  | ret a => exact hf a
  | raise e => exact trivial
  | read k ih =>
      intro s
      exact ih s (hc s)
  -- a coroutine that writes is not quiet
  | write s k ih => exact hc.elim
  | await q k ih =>
      intro r
      exact ih r (hc r)

theorem Quiet.tryFinally {c : Coroutine σ Q A ε α} {final : Coroutine σ Q A ε Unit}
    (hc : c.Quiet) (hfinal : final.Quiet) : (tryFinally final c).Quiet := by
  induction c with
  | ret a => exact hfinal.bind fun _ => trivial
  | raise e => exact hfinal.bind fun _ => trivial
  | read k ih =>
      intro s
      exact ih s (hc s)
  | write s k ih => exact hc.elim
  | await q k ih =>
      intro r
      exact ih r (hc r)

theorem quiet_call (q : Q) : (call q : Coroutine σ Q A ε (A q)).Quiet := by
  intro r
  cases r with
  | ok a => exact trivial
  | error e => exact trivial

/-- **A body that leaves the shared state alone**, under a finalizer that
changes it without awaiting: the whole suspends where the body does, and when
the body ends, however it ends, the finalizer has run. -/
theorem advance_tryFinally {c : Coroutine σ Q A ε α} (hc : c.Quiet) (f : σ → σ) (s : σ) :
    (∃ c' : Coroutine σ Q A ε α, c'.Quiet ∧ c'.Suspended ∧
      advance (tryFinally (modify f) c) s = (s, tryFinally (modify f) c')) ∨
    (∃ c' : Coroutine σ Q A ε α, ¬ c'.Suspended ∧
      advance (tryFinally (modify f) c) s = (f s, c')) := by
  induction c with
  | ret a => exact Or.inr ⟨ret a, id, rfl⟩
  | raise e => exact Or.inr ⟨raise e, id, rfl⟩
  | read k ih => exact ih s (hc s)
  | write s k ih => exact hc.elim
  | await q k ih => exact Or.inl ⟨await q k, hc, trivial, rfl⟩

theorem suspended_tryFinally {c : Coroutine σ Q A ε α} (f : σ → σ) (hc : c.Suspended) :
    (tryFinally (modify f) c).Suspended := by
  cases c with
  | await q k => exact trivial
  | ret a => exact hc.elim
  | raise e => exact hc.elim
  | read k => exact hc.elim
  | write s k => exact hc.elim

end Coroutine

/-! ## §3. The event loop. -/

/-- The shared state, and every call so far: its argument and how far it has
come. -/
structure EventLoop (ι σ Q : Type) (A : Q → Type) (ε α : Type) where
  shared : σ
  calls : List (ι × Coroutine σ Q A ε α) := []

/-- A call is made, or the await of the `i`-th call comes back. -/
inductive LoopAction (ι Q : Type) (A : Q → Type) (ε : Type)
  | call (arg : ι)
  | resume (i : Nat) (reply : (q : Q) → Except ε (A q))

/-- The arguments of the calls that are under way, in the order they were made. -/
def underway {ι σ Q : Type} {A : Q → Type} {ε α : Type}
    (calls : List (ι × Coroutine σ Q A ε α)) : List ι :=
  (calls.filter fun c => c.2.Suspended).map (·.1)

section Underway

variable {ι σ Q : Type} {A : Q → Type} {ε α : Type} {arg : ι} {c : Coroutine σ Q A ε α}
  {calls pre post : List (ι × Coroutine σ Q A ε α)}

theorem underway_append : underway (pre ++ post) = underway pre ++ underway post := by
  unfold underway
  rw [List.filter_append, List.map_append]

theorem underway_suspended (h : c.Suspended) :
    underway ((arg, c) :: post) = arg :: underway post := by
  simp [underway, h]

theorem underway_ended (h : ¬ c.Suspended) : underway ((arg, c) :: post) = underway post := by
  simp [underway, h]

theorem mem_underway : arg ∈ underway calls ↔ ∃ c, (arg, c) ∈ calls ∧ c.Suspended := by
  simp [underway]

/-- Where the arguments are distinct, an argument names its call. -/
theorem index_of_underway (h : (underway calls).Nodup) {i j : Nat} {d : Coroutine σ Q A ε α}
    (hi : calls[i]? = some (arg, c)) (hc : c.Suspended)
    (hj : calls[j]? = some (arg, d)) (hd : d.Suspended) : i = j := by
  unfold underway List.Nodup at h
  rw [List.pairwise_map, List.pairwise_filter, List.pairwise_iff_getElem] at h
  obtain ⟨hilt, hi⟩ := List.getElem?_eq_some_iff.mp hi
  obtain ⟨hjlt, hj⟩ := List.getElem?_eq_some_iff.mp hj
  have hci : decide calls[i].2.Suspended = true := by simp [hi, hc]
  have hdj : decide calls[j].2.Suspended = true := by simp [hj, hd]
  -- two calls under way for one key stand at one place
  have hsame : calls[i].1 = calls[j].1 := by rw [hi, hj]
  rcases lt_trichotomy i j with hlt | heq | hgt
  · exact absurd hsame (h i j hilt hjlt hlt hci hdj)
  · exact heq
  · exact absurd hsame.symm (h j i hjlt hilt hgt hdj hci)

end Underway

namespace EventLoop

variable {ι σ Q : Type} {A : Q → Type} {ε α : Type}

/-- One turn of the loop, for calls of the function `program`. -/
def step (program : ι → Coroutine σ Q A ε α) (loop : EventLoop ι σ Q A ε α) :
    LoopAction ι Q A ε → Option (EventLoop ι σ Q A ε α)
  | .call arg =>
      let (shared, c) := (program arg).advance loop.shared
      some { shared := shared, calls := loop.calls ++ [(arg, c)] }
  | .resume i reply =>
      match loop.calls[i]? with
      | some (arg, .await q k) =>
          let (shared, c) := (k (reply q)).advance loop.shared
          some { shared := shared, calls := loop.calls.set i (arg, c) }
      | _ => none

end EventLoop

/-! ## §4. A guarded section. -/

section Guarded

open Coroutine

variable {κ Q : Type} [DecidableEq κ] {A : Q → Type} {ε α : Type}

/-- `if key in held: raise refused`, `held.add(key)`, and then
`try: body finally: held.discard(key)`. -/
def guarded (key : κ) (refused : ε) (body : Coroutine (Finset κ) Q A ε α) :
    Coroutine (Finset κ) Q A ε α := do
  if key ∈ (← Coroutine.get) then raise refused
  else
    modify fun held => insert key held
    tryFinally (modify fun held => held.erase key) body

/-- The check and the addition run in one go, before the first await. -/
theorem advance_guarded (key : κ) (refused : ε) (body : Coroutine (Finset κ) Q A ε α)
    (held : Finset κ) :
    (guarded key refused body).advance held
      = if key ∈ held then (held, raise refused)
        else (tryFinally (modify fun held => held.erase key) body).advance (insert key held) := by
  show (if key ∈ held then raise refused else _ : Coroutine (Finset κ) Q A ε α).advance held = _
  by_cases hkey : key ∈ held
  · rw [if_pos hkey, if_pos hkey]
    rfl
  · rw [if_neg hkey, if_neg hkey]
    rfl

theorem answered_guarded (answer : (q : Q) → Except ε (A q)) {key : κ} {refused : ε}
    {body : Coroutine (Finset κ) Q A ε α} {held held' : Finset κ} {result : Except ε α}
    (hkey : key ∉ held) (hbody : body.answered answer (insert key held) = (held', result)) :
    (guarded key refused body).answered answer held = (held'.erase key, result) := by
  show (if key ∈ held then raise refused else _ : Coroutine (Finset κ) Q A ε α).answered _ _ = _
  rw [if_neg hkey]
  exact answered_tryFinally answer hbody rfl

/-- The call stands inside its section: whichever way it goes from here, it
discards its key on the way out, and touches nothing before. -/
def Inside (key : κ) (c : Coroutine (Finset κ) Q A ε α) : Prop :=
  ∃ body : Coroutine (Finset κ) Q A ε α,
    body.Quiet ∧ c = tryFinally (modify fun held => held.erase key) body

/-- **The guard.**  The keys held are those of the calls under way, and no two
of these have the same key. -/
structure Guards (loop : EventLoop κ (Finset κ) Q A ε α) : Prop where
  alone : (underway loop.calls).Nodup
  held : loop.shared = (underway loop.calls).toFinset
  inside : ∀ c ∈ loop.calls, c.2.Suspended → Inside c.1 c.2

variable {key : κ} {refused : κ → ε} {body : κ → Coroutine (Finset κ) Q A ε α}
  {loop loop' : EventLoop κ (Finset κ) Q A ε α} {i : Nat} {reply : (q : Q) → Except ε (A q)}

theorem guards_start : Guards ({ shared := ∅ } : EventLoop κ (Finset κ) Q A ε α) where
  alone := List.nodup_nil
  held := rfl
  inside := by
    intro c hc
    exact absurd hc List.not_mem_nil

theorem Guards.mem_shared (h : Guards loop) :
    key ∈ loop.shared ↔ ∃ c, (key, c) ∈ loop.calls ∧ c.Suspended := by
  rw [h.held, List.mem_toFinset, mem_underway]

/-- A call that is over as soon as it is made. -/
theorem Guards.append_ended (h : Guards loop) {c : Coroutine (Finset κ) Q A ε α}
    (hc : ¬ c.Suspended) : Guards { loop with calls := loop.calls ++ [(key, c)] } := by
  -- a call that ended at once is not under way
  have hafter : underway (loop.calls ++ [(key, c)]) = underway loop.calls := by
    rw [underway_append, underway_ended hc]
    exact List.append_nil _
  refine { alone := ?_, held := ?_, inside := ?_ }
  · rw [hafter]
    exact h.alone
  · rw [hafter]
    exact h.held
  · intro d hd hsus
    rcases List.mem_append.mp hd with hold | hlast
    · exact h.inside d hold hsus
    · rw [List.mem_singleton.mp hlast] at hsus
      exact absurd hsus hc

/-- What a call does: it is refused, with the keys as they were, or it enters
its section, and may have come out of it already. -/
theorem call_cases (hbody : (body key).Quiet)
    (h : EventLoop.step (fun key => guarded key (refused key) (body key)) loop (.call key)
      = some loop') :
    (key ∈ loop.shared ∧ loop' = { loop with
        calls := loop.calls ++ [(key, raise (refused key))] }) ∨
    (key ∉ loop.shared ∧ ∃ c, c.Suspended ∧ Inside key c ∧
      loop' = { shared := insert key loop.shared, calls := loop.calls ++ [(key, c)] }) ∨
    (key ∉ loop.shared ∧ ∃ c, ¬ c.Suspended ∧
      loop' = { loop with calls := loop.calls ++ [(key, c)] }) := by
  simp only [EventLoop.step, advance_guarded, Option.some.injEq] at h
  -- a key that is held is refused; otherwise the call runs to its first await
  by_cases hkey : key ∈ loop.shared
  · simp only [if_pos hkey] at h
    exact Or.inl ⟨hkey, h.symm⟩
  · simp only [if_neg hkey] at h
    rcases advance_tryFinally hbody (fun held => held.erase key) (insert key loop.shared) with
      hwaits | hends
    · obtain ⟨c, hquiet, hc, hadv⟩ := hwaits
      rw [hadv] at h
      exact Or.inr (Or.inl ⟨hkey, _, suspended_tryFinally _ hc, ⟨c, hquiet, rfl⟩, h.symm⟩)
    · obtain ⟨c, hc, hadv⟩ := hends
      rw [hadv, Finset.erase_insert hkey] at h
      exact Or.inr (Or.inr ⟨hkey, c, hc, h.symm⟩)

/-- What an await that comes back does: the call goes on to its next await, or
it ends and its key is discarded. -/
theorem Guards.resume_cases {program : κ → Coroutine (Finset κ) Q A ε α} (hG : Guards loop)
    (h : EventLoop.step program loop (.resume i reply) = some loop') :
    ∃ pre key c post c', loop.calls = pre ++ (key, c) :: post ∧ pre.length = i ∧ c.Suspended ∧
      loop'.calls = pre ++ (key, c') :: post ∧
      ((c'.Suspended ∧ Inside key c' ∧ loop'.shared = loop.shared) ∨
        (¬ c'.Suspended ∧ loop'.shared = loop.shared.erase key)) := by
  unfold EventLoop.step at h
  simp only at h
  split at h
  · rename_i key q k hget
    obtain ⟨hlt, hi⟩ := List.getElem?_eq_some_iff.mp hget
    have hcalls : loop.calls
        = loop.calls.take i ++ (key, .await q k) :: loop.calls.drop (i + 1) := by
      rw [← hi, List.cons_getElem_drop_succ, List.take_append_drop]
    have hinside : Inside key (Coroutine.await q k) :=
      hG.inside _ (List.mem_of_getElem? hget) trivial
    obtain ⟨b, hquiet, heq⟩ := hinside
    -- the body stands at the await the call stands at
    cases b with
    | ret a => cases heq
    | raise e => cases heq
    | read k' => cases heq
    | write s k' => cases heq
    | await q' k' =>
        cases heq
        have hset (c : κ × Coroutine (Finset κ) Q A ε α) :
            loop.calls.set i c = loop.calls.take i ++ c :: loop.calls.drop (i + 1) :=
          List.set_eq_take_append_cons_drop.trans (if_pos hlt)
        have hlen : (loop.calls.take i).length = i := List.length_take_of_le (le_of_lt hlt)
        rcases advance_tryFinally (hquiet (reply q)) (fun held => held.erase key) loop.shared with
          hwaits | hends
        · obtain ⟨c, hc, hsus, hadv⟩ := hwaits
          simp only [hadv, Option.some.injEq] at h
          subst h
          exact ⟨_, key, _, _, _, hcalls, hlen, trivial, hset _,
            Or.inl ⟨suspended_tryFinally _ hsus, ⟨c, hc, rfl⟩, rfl⟩⟩
        · obtain ⟨c, hsus, hadv⟩ := hends
          simp only [hadv, Option.some.injEq] at h
          subst h
          exact ⟨_, key, _, _, c, hcalls, hlen, trivial, hset _, Or.inr ⟨hsus, rfl⟩⟩
  · cases h

/-- A call that enters under a free key. -/
theorem Guards.enter (h : Guards loop) (hkey : key ∉ loop.shared)
    {c : Coroutine (Finset κ) Q A ε α} (hc : c.Suspended) (hin : Inside key c) :
    Guards { shared := insert key loop.shared, calls := loop.calls ++ [(key, c)] } := by
  -- nobody is under way with the key, since it was free
  have hnew : key ∉ underway loop.calls := by
    rw [← List.mem_toFinset, ← h.held]
    exact hkey
  refine { alone := ?_, held := ?_, inside := ?_ }
  · rw [underway_append, underway_suspended hc]
    exact h.alone.append (List.nodup_singleton key) (by simpa [underway] using hnew)
  · rw [underway_append, underway_suspended hc, h.held]
    ext x
    have hnone : underway ([] : List (κ × Coroutine (Finset κ) Q A ε α)) = [] := rfl
    rw [Finset.mem_insert, List.mem_toFinset, List.mem_toFinset, List.mem_append, hnone,
        List.mem_singleton]
    exact or_comm
  · intro d hd hsus
    rcases List.mem_append.mp hd with hold | hlast
    · exact h.inside d hold hsus
    · rw [List.mem_singleton.mp hlast]
      exact hin

section Resumed

variable {pre post : List (κ × Coroutine (Finset κ) Q A ε α)}
  {c c' : Coroutine (Finset κ) Q A ε α}

/-- With one call replaced, all stand inside their sections if that one does. -/
theorem Guards.inside_replaced (h : Guards loop) (hcalls : loop.calls = pre ++ (key, c) :: post)
    (hin : c'.Suspended → Inside key c') :
    ∀ d ∈ pre ++ (key, c') :: post, d.2.Suspended → Inside d.1 d.2 := by
  -- the other calls are as they were
  have hothers : ∀ d, d ∈ pre ∨ d ∈ post → d.2.Suspended → Inside d.1 d.2 := by
    intro d hd
    refine h.inside d ?_
    rw [hcalls, List.mem_append, List.mem_cons]
    exact hd.imp_right Or.inr
  intro d hd hsus
  rw [List.mem_append, List.mem_cons] at hd
  rcases hd with hpre | rfl | hpost
  · exact hothers d (Or.inl hpre) hsus
  · exact hin hsus
  · exact hothers d (Or.inr hpost) hsus

/-- A call that goes on to its next await. -/
theorem Guards.goOn (h : Guards loop) (hcalls : loop.calls = pre ++ (key, c) :: post)
    (hc : c.Suspended) (hc' : c'.Suspended) (hin : Inside key c') :
    Guards { loop with calls := pre ++ (key, c') :: post } := by
  have hsame : underway (pre ++ (key, c') :: post) = underway loop.calls := by
    rw [hcalls, underway_append, underway_append, underway_suspended hc, underway_suspended hc']
  refine { alone := ?_, held := ?_, inside := h.inside_replaced hcalls fun _ => hin }
  · rw [hsame]
    exact h.alone
  · rw [hsame]
    exact h.held

/-- A call that ends lets go of its key, which no other holds. -/
theorem Guards.leave (h : Guards loop) (hcalls : loop.calls = pre ++ (key, c) :: post)
    (hc : c.Suspended) (hc' : ¬ c'.Suspended) :
    Guards { shared := loop.shared.erase key, calls := pre ++ (key, c') :: post } := by
  have hbefore : underway loop.calls = underway pre ++ key :: underway post := by
    rw [hcalls, underway_append, underway_suspended hc]
  have hafter : underway (pre ++ (key, c') :: post) = underway pre ++ underway post := by
    rw [underway_append, underway_ended hc']
  -- the key was under way once, so none is left of it
  have halone := h.alone
  rw [hbefore] at halone
  obtain ⟨hnew, hrest⟩ := List.nodup_cons.mp (List.nodup_middle.mp halone)
  refine { alone := ?_, held := ?_,
           inside := h.inside_replaced hcalls fun hsus => absurd hsus hc' }
  · rw [hafter]
    exact hrest
  · rw [hafter, h.held, hbefore]
    ext x
    by_cases hx : x = key
    · subst hx
      simpa using hnew
    · simp [hx]

end Resumed

/-- **One turn of the loop keeps the guard.** -/
theorem Guards.step (hbody : ∀ key, (body key).Quiet) {action : LoopAction κ Q A ε}
    (hG : Guards loop)
    (h : EventLoop.step (fun key => guarded key (refused key) (body key)) loop action
      = some loop') : Guards loop' := by
  cases action with
  | call key =>
      -- refused, inside its guard, or over before its first await
      rcases call_cases (hbody key) h with hrefused | henters | hdone
      · obtain ⟨hkey, rfl⟩ := hrefused
        exact hG.append_ended id
      · obtain ⟨hkey, c, hc, hin, rfl⟩ := henters
        exact hG.enter hkey hc hin
      · obtain ⟨hkey, c, hc, rfl⟩ := hdone
        exact hG.append_ended hc
  | resume i reply =>
      obtain ⟨pre, key, c, post, c', hcalls, -, hc, hcalls', hway⟩ := hG.resume_cases h
      obtain ⟨shared', calls'⟩ := loop'
      obtain rfl : calls' = _ := hcalls'
      rcases hway with hgoesOn | hends
      · obtain ⟨hc', hin, hshared⟩ := hgoesOn
        obtain rfl : shared' = _ := hshared
        exact hG.goOn hcalls hc hc' hin
      · obtain ⟨hc', hshared⟩ := hends
        obtain rfl : shared' = _ := hshared
        exact hG.leave hcalls hc hc'

/-- **So does every run**, whatever the awaits come back with. -/
theorem guards_of_run (hbody : ∀ key, (body key).Quiet) {actions : List (LoopAction κ Q A ε)}
    (h : Run (EventLoop.step fun key => guarded key (refused key) (body key))
      { shared := ∅ } actions loop) : Guards loop :=
  h.invariant (fun _ _ _ hG hstep => hG.step hbody hstep) guards_start

end Guarded

end Feedcast.Lib
