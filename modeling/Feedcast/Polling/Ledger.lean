/-
  Feedcast.Polling.Ledger — the articles table under any interleaving of passes.

  `Ledger` ties the committed rows to what the passes hold and report: the held
  ids are new and nobody else's, and the rows created are the sum of what was
  reported.  One pass step either leaves the table alone or commits exactly what
  the pass held (`Pass.step_rows`); every step of the world keeps the ledger
  (`World.step_ledger`), and so does every run (`ledger_exact`).
-/
import Feedcast.Ingest.TickDedupe
import Feedcast.Lib.Custody
import Feedcast.Polling.World

namespace Feedcast

open Feedcast.Lib

/-! ## §1. One step of a pass. -/

/-- The count of a transaction about to commit is that of its rows. -/
def TxnStage.Honest : TxnStage → Prop
  | .ready _ ingested => ingested.outcome.newArticles = ingested.articles.length
  | _ => True

def Pass.Honest (pass : Pass) : Prop :=
  match pass.phase with
  | .persisting _ _ _ (some txn) => txn.stage.Honest
  | _ => True

theorem newArticles_append (outcomes outcomes' : List SourceIngestOutcome) :
    newArticles (outcomes ++ outcomes') = newArticles outcomes + newArticles outcomes' := by
  simp [newArticles]

/-- What is left to commit when there is nothing to insert. -/
theorem parseResult_done {P : Platform} {w : Weather} {cities : List City} {source : Source}
    {result : FetchResult} {now : Time} {seen : List Str} {ingested : Ingested}
    (h : (parseResult P w cities source result now seen).2 = .ok (.done ingested)) :
    ingested.articles = [] ∧ ingested.outcome.newArticles = 0 := by
  rcases parseResult_eq_done h with ⟨source', -, rfl⟩ | ⟨error, rfl⟩
  · exact ⟨rfl, rfl⟩
  · exact ⟨rfl, rfl⟩

/-- What a step of a pass does to the table, and to what it holds and reports. -/
inductive RowEffect (db : Db) (taken : List Str) (pass : Pass) (db' : Db) (pass' : Pass) : Prop
  /-- Nothing inserted; a rollback lets go of what was held. -/
  | quiet (articles : db'.articles = db.articles)
      (reported : newArticles pass'.outcomes = newArticles pass.outcomes)
      (held : pass'.pending = pass.pending ∨ pass'.pending = [])
  /-- One row inserted, of an id nobody has. -/
  | insert (row : Article) (articles : db'.articles = db.articles)
      (reported : newArticles pass'.outcomes = newArticles pass.outcomes)
      (held : pass'.pending = pass.pending ++ [row]) (free : row.id ∉ taken)
      (fresh : row.id ∉ (db.articles ++ pass.pending).map (·.id))
  /-- Everything held is committed and counted. -/
  | commit (articles : db'.articles = db.articles ++ pass.pending)
      (reported : newArticles pass'.outcomes = newArticles pass.outcomes + pass.pending.length)
      (held : pass'.pending = [])

/-- What a statement of an open transaction does to the rows it holds. -/
theorem OpenTxn.Effect.rows {P : Platform} {db : Db} {taken : List Str} {fetched : Fetched}
    {loaded : Source} {seen seen' : List Str} {action : PassAction} {stage stage' : TxnStage}
    (heffect : OpenTxn.Effect P db taken fetched loaded seen action stage seen' stage') :
    stage'.Honest ∧ (stage'.pending = stage.pending ∨ stage'.pending = []
      ∨ ∃ row : Article, stage'.pending = stage.pending ++ [row] ∧ row.id ∉ taken
        ∧ row.id ∉ (db.articles ++ stage.pending).map (·.id)) := by
  cases heffect with
  | unfetched w hfetched => exact ⟨rfl, Or.inl rfl⟩
  | parseRaised w hfetched hparse => exact ⟨trivial, Or.inl rfl⟩
  | parseDone w hfetched hparse =>
      obtain ⟨harticles, hcount⟩ := parseResult_done hparse
      refine ⟨?_, Or.inl harticles⟩
      simp [TxnStage.Honest, harticles, hcount]
  | parseRows w hfetched hparse => exact ⟨trivial, Or.inl rfl⟩
  | conflict dbNow => exact ⟨trivial, Or.inl rfl⟩
  | insert dbNow hfree hfresh => exact ⟨trivial, Or.inr (Or.inr ⟨_, rfl, hfree, hfresh⟩)⟩
  | unrecorded hrecord => exact ⟨trivial, Or.inr (Or.inl rfl)⟩
  | recorded hrecord =>
      -- the rows wait for the commit
      obtain ⟨-, -, -, -, harticles, hcount⟩ := recordInserted_ok hrecord
      refine ⟨?_, Or.inl harticles⟩
      simp [TxnStage.Honest, harticles, hcount]
  | raise exc hrunning hfirst => exact ⟨trivial, Or.inr (Or.inl rfl)⟩

/-- **One step of a pass**, whatever the action. -/
theorem Pass.step_rows {P : Platform} {db db' : Db} {taken : List Str} {pass pass' : Pass}
    {action : PassAction} (hhonest : pass.Honest)
    (h : pass.step P db taken action = some (db', pass')) :
    pass'.Honest ∧ RowEffect db taken pass db' pass' := by
  obtain ⟨-, heffect⟩ := Pass.step_effect h
  obtain ⟨city, phase⟩ := pass
  obtain ⟨city', phase'⟩ := pass'
  -- rows appear with an insert and are counted with the outcome of the commit
  cases heffect with
  | respond slot attemptedAt fetched hslot => exact ⟨trivial, .quiet rfl rfl (Or.inl rfl)⟩
  | startPersist hreturned => exact ⟨trivial, .quiet rfl rfl (Or.inl rfl)⟩
  | gone fetched todo seen outcomes hget => exact ⟨trivial, .quiet rfl rfl (Or.inl rfl)⟩
  | opened fetched todo seen outcomes hget => exact ⟨trivial, .quiet rfl rfl (Or.inl rfl)⟩
  | statement todo outcomes heffect =>
      obtain ⟨hhonest', hsame | hgone | ⟨row, hnew, hfree, hfresh⟩⟩ := heffect.rows
      · exact ⟨hhonest', .quiet rfl rfl (Or.inl hsame)⟩
      · exact ⟨hhonest', .quiet rfl rfl (Or.inr hgone)⟩
      · exact ⟨hhonest', .insert row rfl rfl hnew hfree hfresh⟩
  | recover fetched loaded exc todo seen outcomes hget =>
      exact ⟨rfl, .quiet rfl rfl (Or.inr rfl)⟩
  | commit fetched loaded recovery ingested todo seen outcomes =>
      refine ⟨trivial, .commit ?_ ?_ rfl⟩
      · simp [Pass.pending, TxnStage.pending]
      · -- the outcome counts the rows it commits
        have hcount : _ = _ := hhonest
        simp only [Pass.outcomes, newArticles_append]
        simp only [newArticles, List.map_cons, List.map_nil, List.sum_singleton]
        rw [hcount]
        rfl
  | finish seen outcomes => exact ⟨trivial, .quiet rfl rfl (Or.inl rfl)⟩

/-! ## §2. The ledger. -/

/-- The ids the open transaction of one pass holds. -/
def World.heldAt (w : World) (index : Nat) : List Str :=
  (((w.passes[index]?).map Pass.pending).getD []).map (·.id)

theorem World.mem_taken {w : World} {index : Nat} {x : Str} :
    x ∈ w.taken index ↔ ∃ other, other ≠ index ∧ x ∈ w.heldAt other := by
  unfold taken heldAt
  rw [List.map_flatMap, List.mem_flatMap]
  -- a key is taken by another pass that holds it in its open transaction
  constructor
  · intro h
    obtain ⟨pass, hpass, hx⟩ := h
    obtain ⟨other, hne, hget⟩ := List.mem_eraseIdx_iff_getElem?.mp hpass
    exact ⟨other, hne, by simpa [hget] using hx⟩
  · intro h
    obtain ⟨other, hne, hx⟩ := h
    cases hget : w.passes[other]? with
    | none => simp [hget] at hx
    | some pass =>
        have hpass : pass ∈ w.passes.eraseIdx index :=
          List.mem_eraseIdx_iff_getElem?.mpr ⟨other, hne, hget⟩
        exact ⟨pass, hpass, by simpa [hget] using hx⟩

/-- The committed rows against what the passes hold and have reported, since the
table had `start` rows. -/
structure Ledger (start : Nat) (w : World) : Prop where
  stored : (w.db.articles.map (·.id)).Nodup
  held : ∀ i, (w.heldAt i).Nodup
  held_new : ∀ i, ∀ x ∈ w.heldAt i, x ∉ w.db.articles.map (·.id)
  held_alone : ∀ i j, i ≠ j → ∀ x ∈ w.heldAt i, x ∉ w.heldAt j
  honest : ∀ pass ∈ w.passes, pass.Honest
  counted : w.db.articles.length
    = start + (w.passes.map fun pass => newArticles pass.outcomes).sum

theorem Ledger.start {db : Db} (h : (db.articles.map (·.id)).Nodup) :
    Ledger db.articles.length (World.start db) where
  stored := h
  held := by simp [World.heldAt, World.start]
  held_new := by simp [World.heldAt, World.start]
  held_alone := by simp [World.heldAt, World.start]
  honest := by simp [World.start]
  counted := by simp [World.start]

/-- A step that leaves the table and the passes' books alone. -/
theorem Ledger.of_same {start : Nat} {w w' : World} (h : Ledger start w)
    (harticles : w'.db.articles = w.db.articles) (hheld : ∀ i, w'.heldAt i = w.heldAt i)
    (hhonest : ∀ pass ∈ w'.passes, pass.Honest)
    (hcount : (w'.passes.map fun pass => newArticles pass.outcomes).sum
      = (w.passes.map fun pass => newArticles pass.outcomes).sum) : Ledger start w' where
  stored := harticles ▸ h.stored
  held i := hheld i ▸ h.held i
  held_new i x hx := by
    rw [hheld] at hx
    rw [harticles]
    exact h.held_new i x hx
  held_alone i j hij x hx := by
    rw [hheld] at hx ⊢
    exact h.held_alone i j hij x hx
  honest := hhonest
  counted := by rw [harticles, hcount, h.counted]

/-- A pass that has just begun holds and reports nothing. -/
theorem Ledger.begin {start : Nat} {w w' : World} (h : Ledger start w)
    (hdb : w'.db = w.db) {city : Option Nat} {targets : List FetchTarget}
    (hpasses : w'.passes = w.passes ++ [Pass.begin city targets]) : Ledger start w' := by
  -- a pass that begins holds nothing and has reported nothing
  have hpending : (Pass.begin city targets).pending = [] := by
    by_cases ht : targets = [] <;> simp [Pass.begin, Pass.pending, ht]
  have houtcomes : (Pass.begin city targets).outcomes = [] := by
    by_cases ht : targets = [] <;> simp [Pass.begin, Pass.outcomes, ht]
  refine h.of_same (by rw [hdb]) ?_ ?_ ?_
  · intro i
    unfold World.heldAt
    rw [hpasses, List.getElem?_append]
    split
    · rfl
    · next hlen =>
        rw [List.getElem?_eq_none (Nat.le_of_not_lt hlen)]
        cases hi : [Pass.begin city targets][i - w.passes.length]? with
        | none => rfl
        | some pass =>
            have hmem := List.mem_of_getElem? hi
            rw [List.mem_singleton] at hmem
            simp [hmem, hpending]
  · intro pass hpass
    rw [hpasses] at hpass
    rcases List.mem_append.mp hpass with hold | hnew
    · exact h.honest pass hold
    · rw [List.mem_singleton.mp hnew]
      by_cases ht : targets = [] <;> simp [Pass.begin, Pass.Honest, ht]
  · rw [hpasses]
    simp [houtcomes, newArticles]

/-- Replacing one summand. -/
theorem sum_map_set {α : Type} (f : α → Nat) {l : List α} {i : Nat} {a b : α}
    (h : l[i]? = some a) : ((l.set i b).map f).sum + f a = (l.map f).sum + f b := by
  induction l generalizing i with
  | nil => simp at h
  | cons c l ih =>
      cases i with
      -- the pass that moved is the first one, or a later one
      | zero =>
          simp only [List.getElem?_cons_zero, Option.some.injEq] at h
          simp only [List.set_cons_zero, List.map_cons, List.sum_cons, h]
          omega
      | succ i =>
          have hrest := ih (i := i) (by simpa using h)
          simp only [List.set_cons_succ, List.map_cons, List.sum_cons]
          omega

/-- The keys of the ledger: an article id is stored, or held by one pass. -/
theorem Ledger.custody {start : Nat} {w : World} (h : Ledger start w) :
    Custody (w.db.articles.map (·.id)) w.heldAt where
  stored := h.stored
  distinct := h.held
  new := h.held_new
  alone := h.held_alone

/-- **A step of one pass keeps the ledger.** -/
theorem Ledger.pass {start : Nat} {w w' : World} (h : Ledger start w) {index : Nat}
    {pass pass' : Pass} (hget : w.passes[index]? = some pass)
    (hpasses : w'.passes = w.passes.set index pass') (hhonest : pass'.Honest)
    (heffect : RowEffect w.db (w.taken index) pass w'.db pass') : Ledger start w' := by
  have hlt : index < w.passes.length := (List.getElem?_eq_some_iff.mp hget).1
  have hold : w.heldAt index = pass.pending.map (·.id) := by
    unfold World.heldAt
    rw [hget]
    rfl
  have hnew : w'.heldAt = Function.update w.heldAt index (pass'.pending.map (·.id)) := by
    funext j
    unfold World.heldAt
    by_cases hj : j = index
    · rw [hj, Function.update_self, hpasses, List.getElem?_set_self hlt]
      rfl
    · rw [Function.update_of_ne hj, hpasses, List.getElem?_set_ne (Ne.symm hj)]
  have hall : ∀ p ∈ w'.passes, p.Honest := by
    intro p hp
    rw [hpasses] at hp
    rcases List.mem_or_eq_of_mem_set hp with hmem | rfl
    · exact h.honest p hmem
    · exact hhonest
  have hsum := sum_map_set (fun pass : Pass => newArticles pass.outcomes) (b := pass') hget
  rw [← hpasses] at hsum
  -- the keys first, then the count
  have hledger : Custody (w'.db.articles.map (·.id)) w'.heldAt →
      w'.db.articles.length
        = start + (w'.passes.map fun pass => newArticles pass.outcomes).sum → Ledger start w' :=
    fun hkeys hcounted =>
      { stored := hkeys.stored, held := hkeys.distinct, held_new := hkeys.new
        held_alone := hkeys.alone, honest := hall, counted := hcounted }
  have hcount := h.counted
  cases heffect with
  | quiet harticles hreported hheld =>
      refine hledger ?_ ?_
      · rw [harticles, hnew]
        refine h.custody.release ?_
        rcases hheld with hsame | hnone
        · rw [hsame, hold]
        · rw [hnone]
          exact List.nil_sublist _
      · rw [harticles]
        omega
  | insert row harticles hreported hheld hfree hfresh =>
      rw [List.map_append, List.mem_append, not_or, ← hold] at hfresh
      refine hledger ?_ ?_
      · rw [harticles, hnew, hheld, List.map_append, ← hold]
        refine h.custody.take hfresh.1 hfresh.2 ?_
        intro j hj hx
        exact hfree (World.mem_taken.mpr ⟨j, hj, hx⟩)
      · rw [harticles]
        omega
  | commit harticles hreported hheld =>
      refine hledger ?_ ?_
      · rw [harticles, hnew, hheld, List.map_append, ← hold]
        exact h.custody.commit index
      · rw [harticles, List.length_append]
        omega

/-- **Every step of the world keeps the ledger.** -/
theorem World.step_ledger {P : Platform} {settings : Settings} {start : Nat}
    {w w' : World} {action : WorldAction} (h : Ledger start w)
    (hstep : w.step P settings action = some w') : Ledger start w' := by
  cases World.step_effect hstep with
  | refused => exact h
  | begin => exact h.begin rfl rfl
  | pass index action pass pass' db hget hpass =>
      -- the only steps that touch the books
      obtain ⟨hhonest, heffect⟩ := Pass.step_rows (h.honest pass (List.mem_of_getElem? hget)) hpass
      exact h.pass hget rfl hhonest heffect
  | patches => exact h.of_same rfl (fun _ => rfl) h.honest rfl
  | commitPatch => exact h.of_same (by simp) (fun _ => rfl) h.honest rfl
  | call call db hrun =>
      exact h.of_same (OnboardingCall.run_articles hrun) (fun _ => rfl) h.honest rfl

/-- **No step changes or removes a committed row.** -/
theorem World.step_keeps_rows {P : Platform} {settings : Settings} {w w' : World}
    {action : WorldAction} (hhonest : ∀ pass ∈ w.passes, pass.Honest)
    (hstep : w.step P settings action = some w') : w.db.articles <+: w'.db.articles := by
  cases World.step_effect hstep with
  | refused => exact List.prefix_rfl
  | begin => exact List.prefix_rfl
  | pass index action pass pass' db hget hpass =>
      -- of a pass's steps only the commit adds rows, at the end
      have heffect := (Pass.step_rows (hhonest pass (List.mem_of_getElem? hget)) hpass).2
      cases heffect with
      | quiet harticles => exact harticles ▸ List.prefix_rfl
      | insert row harticles => exact harticles ▸ List.prefix_rfl
      | commit harticles => exact harticles ▸ List.prefix_append _ _
  | patches => exact List.prefix_rfl
  | commitPatch => simp
  | call call db hrun => exact (OnboardingCall.run_articles hrun).symm ▸ List.prefix_rfl

/-- **THE ARTICLES TABLE IS AN EXACT LEDGER.**  In every run of any passes, from
any table whose ids are unique: an id has one row, a row once committed is still
there at any later point, and the rows created are the sum of the counts the
passes have reported, which is over all outcomes once every pass has returned. -/
theorem ledger_exact (P : Platform) (settings : Settings) (db : Db)
    (hids : (db.articles.map (·.id)).Nodup) (first rest : List WorldAction) (u w : World)
    (hfirst : Run (World.step P settings) (World.start db) first u)
    (hrest : Run (World.step P settings) u rest w) :
    (w.db.articles.map (·.id)).Nodup
      ∧ u.db.articles <+: w.db.articles
      ∧ w.db.articles.length
          = db.articles.length + (w.passes.map fun pass => newArticles pass.outcomes).sum := by
  have hu : Ledger db.articles.length u :=
    hfirst.invariant (fun _ _ _ h hs => World.step_ledger h hs) (Ledger.start hids)
  -- the prefix is a relation between two states, hence `Run.relates`
  have hkept : Ledger db.articles.length u →
      u.db.articles <+: w.db.articles ∧ Ledger db.articles.length w := by
    refine Run.relates (R := fun s t : World => Ledger db.articles.length s →
      s.db.articles <+: t.db.articles ∧ Ledger db.articles.length t) ?_ ?_ ?_ hrest
    · exact fun s h => ⟨List.prefix_rfl, h⟩
    · intro s t v hst htv h
      obtain ⟨hpre, ht⟩ := hst h
      obtain ⟨hpre', hv⟩ := htv ht
      exact ⟨hpre.trans hpre', hv⟩
    · intro s a t hs h
      exact ⟨World.step_keeps_rows h.honest hs, World.step_ledger h hs⟩
  obtain ⟨hpre, hw⟩ := hkept hu
  exact ⟨hw.stored, hpre, hw.counted⟩

/-- A tick and a refresh of the city fetch both sources, and the tick has its
first insert open. -/
def tickInserts : List WorldAction :=
  let targets := [(testTimes.row 1 1).target, (testTimes.row 2 1).target]
  let page := (fetchedAt 1).fetched
  [.beginTick 0 targets, .beginRefresh 1 targets,
    .pass 0 (.respond 0 0 page), .pass 0 (.respond 1 0 page),
    .pass 1 (.respond 1 0 page), .pass 1 (.respond 0 0 page),
    .pass 0 .startPersist, .pass 1 .startPersist,
    .pass 0 .openNext, .pass 0 (.parse calm), .pass 0 (.insertRow 0)]

/-- The tick's transaction fails, the refresh inserts the story, and both
return. -/
def refreshDelivers : List WorldAction :=
  [.pass 1 .openNext, .pass 1 (.parse calm), .pass 0 (.raise "deadlock".toList),
    .pass 1 (.insertRow 0), .pass 1 .finishInsert, .pass 1 .commit,
    .pass 0 .recover, .pass 0 .commit,
    .pass 0 .openNext, .pass 0 (.parse calm), .pass 0 .finishInsert, .pass 0 .commit,
    .pass 1 .openNext, .pass 1 (.parse calm), .pass 1 .finishInsert, .pass 1 .commit,
    .pass 0 .finish, .pass 1 .finish]

/-- The ledger of that run. -/
theorem ledger_exact_race :
    ∃ u w, Run (World.step oneStory defaultSettings) (World.start twoSources) tickInserts u
      ∧ Run (World.step oneStory defaultSettings) u refreshDelivers w
      ∧ (w.db.articles.map (·.id)).Nodup ∧ u.db.articles <+: w.db.articles
      ∧ w.db.articles.length
          = twoSources.articles.length
            + (w.passes.map fun pass => newArticles pass.outcomes).sum := by
  -- evaluated only for whether the run is there
  have henabled : (exec (World.step oneStory defaultSettings) (World.start twoSources)
      (tickInserts ++ refreshDelivers)).isSome := by
    decide +kernel
  obtain ⟨w, hw⟩ := Option.isSome_iff_exists.mp henabled
  obtain ⟨u, hu, hrest⟩ := (run_iff_exec.mpr hw).split
  exact ⟨u, w, hu, hrest, ledger_exact oneStory defaultSettings twoSources (by decide) tickInserts
    refreshDelivers u w hu hrest⟩

end Feedcast
