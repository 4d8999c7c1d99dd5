/-
  Feedcast.Lib.Session — programs over a database session.

  A session works on its own view of the database.  A commit makes the view the
  database's; a session that is closed without one, by a return or by an
  exception, leaves nothing behind but the numbers it has drawn, for a sequence
  is not rolled back.

    • `Tentative` — programs that commit nothing, and their rules,
    • `Atomic` — programs that commit nothing if they raise,
    • `Tentative.bind_atomic` — checks first, the commit after them,
    • `Atomic.run` — hence what a program that raised leaves behind,
    • `run_andFinally_commit` — what one leaves that commits in its `finally`,
    • `ComesTo` — the answer and the database a program comes to, and a rule for
      each statement.
-/
import Mathlib.Logic.Basic

namespace Feedcast.Lib

variable {σ τ ε α β : Type}

/-! ## §1. Programs. -/

/-- The database, and the view of an open session. -/
structure Txn (σ : Type) where
  committed : σ
  view : σ

/-- A program in a session: its answer or its exception, and where it leaves
both. -/
def Session (σ ε α : Type) : Type := Txn σ → Except ε α × Txn σ

namespace Session

def ret (a : α) : Session σ ε α := fun txn => (.ok a, txn)

def raise (e : ε) : Session σ ε α := fun txn => (.error e, txn)

def andThen (p : Session σ ε α) (f : α → Session σ ε β) : Session σ ε β := fun txn =>
  match p txn with
  | (.ok a, txn') => f a txn'
  | (.error e, txn') => (.error e, txn')

instance : Monad (Session σ ε) where
  pure := ret
  bind := andThen

/-- A query, of what the session sees. -/
def query (f : σ → α) : Session σ ε α := fun txn => (.ok (f txn.view), txn)

/-- A query whose answer may be refused. -/
def ask (f : σ → Except ε α) : Session σ ε α := fun txn => (f txn.view, txn)

/-- A write that waits for its commit. -/
def write (f : σ → σ) : Session σ ε Unit := fun txn => (.ok (), { txn with view := f txn.view })

/-- A number drawn from a sequence: drawn for good. -/
def draw (f : σ → σ) : Session σ ε Unit := fun txn =>
  (.ok (), { committed := f txn.committed, view := f txn.view })

def commit : Session σ ε Unit := fun txn => (.ok (), { txn with committed := txn.view })

/-- A session of its own: opened, run and closed. -/
def run (p : Session σ ε α) (db : σ) : Except ε α × σ :=
  let (answer, txn) := p { committed := db, view := db }
  (answer, txn.committed)

/-- `try: p`, `finally: q`.  What `q` raises takes the place of what `p` came to. -/
def andFinally (p : Session σ ε α) (q : Session σ ε Unit) : Session σ ε α := fun txn =>
  let (answer, txn') := p txn
  match q txn' with
  | (.ok (), txn'') => (answer, txn'')
  | (.error e, txn'') => (.error e, txn'')

/-- **A commit in the `finally` keeps the view**, whatever the program came to. -/
theorem run_andFinally_commit {p : Session σ ε α} {db : σ} {answer : Except ε α} {txn : Txn σ}
    (h : p { committed := db, view := db } = (answer, txn)) :
    (p.andFinally commit).run db = (answer, txn.view) := by
  unfold run andFinally
  rw [h]
  rfl

theorem bind_ok {p : Session σ ε α} {k : α → Session σ ε β} {a : α}
    {txn txn' : Txn σ} (h : p txn = (.ok a, txn')) : (p >>= k) txn = k a txn' := by
  show andThen p k txn = k a txn'
  unfold andThen
  rw [h]

theorem bind_error {p : Session σ ε α} {k : α → Session σ ε β} {e : ε}
    {txn txn' : Txn σ} (h : p txn = (.error e, txn')) : (p >>= k) txn = (.error e, txn') := by
  show andThen p k txn = (.error e, txn')
  unfold andThen
  rw [h]

/-! ## §2. What is left behind. -/

/-- **Commits nothing**, as far as `obs` sees. -/
def Tentative (obs : σ → τ) (p : Session σ ε α) : Prop :=
  ∀ txn, obs (p txn).2.committed = obs txn.committed

/-- **Commits nothing if it raises.** -/
def Atomic (obs : σ → τ) (p : Session σ ε α) : Prop :=
  ∀ txn e txn', p txn = (.error e, txn') → obs txn'.committed = obs txn.committed

/-- Never raises. -/
def Safe (p : Session σ ε α) : Prop := ∀ txn, ∃ a txn', p txn = (.ok a, txn')

section Rules

variable {obs : σ → τ}

theorem tentative_raise (e : ε) : Tentative obs (raise e : Session σ ε α) := fun _ => rfl

theorem tentative_query (f : σ → α) : Tentative obs (query f : Session σ ε α) := fun _ => rfl

theorem tentative_ask (f : σ → Except ε α) : Tentative obs (ask f) := fun _ => rfl

theorem tentative_write (f : σ → σ) : Tentative obs (write f : Session σ ε Unit) := fun _ => rfl

/-- A sequence is not looked at. -/
theorem tentative_draw {f : σ → σ} (hf : ∀ db, obs (f db) = obs db) :
    Tentative obs (draw f : Session σ ε Unit) := fun txn => hf txn.committed

theorem Tentative.atomic {p : Session σ ε α} (hp : Tentative obs p) : Atomic obs p := by
  intro txn e txn' hrun
  have hleft := hp txn
  rw [hrun] at hleft
  exact hleft

/-- **Checks first**: what raises before the commit has committed nothing. -/
theorem Tentative.bind_atomic {p : Session σ ε α} {f : α → Session σ ε β}
    (hp : Tentative obs p) (hf : ∀ a, Atomic obs (f a)) : Atomic obs (p >>= f) := by
  intro txn e txn' hrun
  have hfirst := hp txn
  change andThen p f txn = _ at hrun
  unfold andThen at hrun
  split at hrun
  -- the second one raised: it left what the first had left, which is what was there
  · next a mid hmid =>
      rw [hmid] at hfirst
      exact (hf a mid e txn' hrun).trans hfirst
  · -- the first has raised, and its exception is the answer
    next e' mid hmid =>
      rw [hmid] at hfirst
      cases hrun
      exact hfirst

theorem safe_ret (a : α) : Safe (ret a : Session σ ε α) := fun txn => ⟨a, txn, rfl⟩

theorem safe_query (f : σ → α) : Safe (query f : Session σ ε α) := fun txn => ⟨_, txn, rfl⟩

theorem safe_commit : Safe (commit : Session σ ε Unit) := fun _ => ⟨(), _, rfl⟩

theorem Safe.bind {p : Session σ ε α} {f : α → Session σ ε β} (hp : Safe p)
    (hf : ∀ a, Safe (f a)) : Safe (p >>= f) := by
  intro txn
  obtain ⟨a, txn', hrun⟩ := hp txn
  obtain ⟨b, txn'', hrest⟩ := hf a txn'
  refine ⟨b, txn'', ?_⟩
  show andThen p f txn = _
  unfold andThen
  rw [hrun]
  exact hrest

/-- What never raises leaves nothing behind when it does. -/
theorem Safe.atomic {p : Session σ ε α} (hp : Safe p) : Atomic obs p := by
  intro txn e txn' hrun
  obtain ⟨a, txn'', hok⟩ := hp txn
  rw [hok] at hrun
  cases hrun

/-- The answer dropped. -/
theorem Atomic.drop {p : Session σ ε α} (hp : Atomic obs p) :
    Atomic obs (p >>= fun _ => pure ()) := by
  intro txn e txn' hrun
  cases hfirst : p txn with
  | mk answer mid =>
      cases answer with
      -- only the first of the two can raise
      | error e' =>
          rw [bind_error hfirst] at hrun
          cases hrun
          exact hp txn e _ hfirst
      | ok a =>
          rw [bind_ok hfirst] at hrun
          cases hrun

/-- **A program that raised has left the database as it was.** -/
theorem Atomic.run {p : Session σ ε α} (hp : Atomic obs p) {db db' : σ} {e : ε}
    (h : p.run db = (.error e, db')) : obs db' = obs db := by
  unfold Session.run at h
  cases hrun : p { committed := db, view := db } with
  | mk answer txn =>
      rw [hrun] at h
      obtain ⟨rfl, rfl⟩ := Prod.mk.inj h
      exact hp _ _ _ hrun

end Rules

/-! ## §3. What a program comes to. -/

/-- **A program comes to an answer and a database**, or to an exception. -/
def ComesTo (p : Session σ ε α) (txn : Txn σ) : Except ε (σ × α) → Prop
  | .ok (db, a) => ∃ txn', p txn = (.ok a, txn') ∧ txn'.committed = db
  | .error e => ∃ txn', p txn = (.error e, txn')

section ComesTo

variable {txn : Txn σ}

/-- A check is where a program and its specification raise alike. -/
theorem comesTo_ask {f : σ → Except ε α} {k : α → Session σ ε β}
    {g : α → Except ε (σ × β)} (h : ∀ a, f txn.view = .ok a → ComesTo (k a) txn (g a)) :
    ComesTo (ask f >>= k) txn (f txn.view >>= g) := by
  have hrun : ask f txn = (f txn.view, txn) := rfl
  cases hf : f txn.view with
  -- the question is refused, and nothing has been written
  | error e =>
      rw [hf] at hrun
      exact ⟨txn, bind_error hrun⟩
  | ok a =>
      rw [hf] at hrun
      have hrest := h a hf
      show ComesTo (ask f >>= k) txn (g a)
      unfold ComesTo at hrest ⊢
      rw [bind_ok hrun]
      exact hrest

theorem comesTo_query {f : σ → α} {k : α → Session σ ε β} {x : Except ε (σ × β)}
    (h : ComesTo (k (f txn.view)) txn x) : ComesTo (query f >>= k) txn x := h

theorem comesTo_write {f : σ → σ} {k : Unit → Session σ ε β} {x : Except ε (σ × β)}
    (h : ComesTo (k ()) { txn with view := f txn.view } x) : ComesTo (write f >>= k) txn x := h

theorem comesTo_draw {f : σ → σ} {k : Unit → Session σ ε β} {x : Except ε (σ × β)}
    (h : ComesTo (k ()) { committed := f txn.committed, view := f txn.view } x) :
    ComesTo (draw f >>= k) txn x := h

theorem comesTo_commit {k : Unit → Session σ ε β} {x : Except ε (σ × β)}
    (h : ComesTo (k ()) { txn with committed := txn.view } x) : ComesTo (commit >>= k) txn x := h

/-- The last statement is a commit. -/
theorem comesTo_committed : ComesTo (commit : Session σ ε Unit) txn (.ok (txn.view, ())) :=
  ⟨_, rfl, rfl⟩

/-- The last statement reads the answer. -/
theorem comesTo_answer {f : σ → α} :
    ComesTo (query f : Session σ ε α) txn (.ok (txn.committed, f txn.view)) := ⟨_, rfl, rfl⟩

theorem comesTo_return {a : α} :
    ComesTo (pure a : Session σ ε α) txn (.ok (txn.committed, a)) := ⟨_, rfl, rfl⟩

theorem comesTo_raise {e : ε} : ComesTo (raise e : Session σ ε α) txn (.error e) := ⟨_, rfl⟩

/-- An answer that is dropped. -/
theorem ComesTo.drop {p : Session σ ε α} {x : Except ε (σ × α)} (h : ComesTo p txn x) :
    ComesTo (p >>= fun _ => pure ()) txn ((x.map (·.1)).map fun db => (db, ())) := by
  cases x with
  | error e =>
      obtain ⟨txn', hp⟩ := h
      exact ⟨txn', bind_error hp⟩
  | ok result =>
      obtain ⟨txn', hp, hcommitted⟩ := h
      exact ⟨txn', bind_ok hp, hcommitted⟩

/-- What a session of its own comes to. -/
theorem ComesTo.run_ok {p : Session σ ε α} {db db' : σ} {a : α}
    (h : ComesTo p { committed := db, view := db } (.ok (db', a))) :
    p.run db = (.ok a, db') := by
  obtain ⟨txn', hp, rfl⟩ := h
  unfold Session.run
  rw [hp]

theorem ComesTo.run_error {p : Session σ ε α} {db : σ} {e : ε}
    (h : ComesTo p { committed := db, view := db } (.error e)) :
    ∃ db', p.run db = (.error e, db') := by
  obtain ⟨txn', hp⟩ := h
  unfold Session.run
  rw [hp]
  exact ⟨_, rfl⟩

end ComesTo

end Session

end Feedcast.Lib
