/-
  Feedcast.Polling.Alone — a pass that nothing disturbs.

  `Pass.step` cuts a pass at its awaits; `persistAttempts` runs through one on a
  database nobody else writes.  With one pass in the world the two are the same:

    • `Pass.insert_alone` — an insert row by row is the insert of the statement,
    • `Pass.txn_alone` — the transaction of one attempt,
    • `Pass.persist_alone` — all of them,
    • `tick_alone`, `refresh_alone` — `run_tick` and `refresh_city`, from the
      targets to the outcomes.
-/
import Feedcast.Ingest.Transaction
import Feedcast.Polling.World

namespace Feedcast

open Feedcast.Lib

/-! ## §1. One transaction. -/

/-- A pass and the database, with no other pass. -/
def Pass.stepAlone (P : Platform) (s : Db × Pass) (action : PassAction) : Option (Db × Pass) :=
  s.2.step P s.1 [] action

section Transaction

variable {P : Platform} {db : Db} {city : Option Nat} {todo : List Fetched} {seen : List Str}
  {outcomes : List SourceIngestOutcome} {fetched : Fetched} {loaded : Source}

/-- The transaction of an attempt, opened. -/
def Pass.inTxn (city : Option Nat) (todo : List Fetched) (seen : List Str)
    (outcomes : List SourceIngestOutcome) (fetched : Fetched) (loaded : Source)
    (stage : TxnStage) : Pass :=
  { city := city
    phase := .persisting todo seen outcomes
      (some { fetched := fetched, loaded := loaded, stage := stage }) }

/-- Where a transaction stands once it has been run through. -/
def TxnStage.ofResult : Raises Ingested → TxnStage
  | .ok ingested => .ready false ingested
  | .error e => .rolledBack e

/-- One row of an insert, with no id held elsewhere. -/
theorem Pass.insertRow_alone (headers : Headers) (dbNow : Time) (row : ArticleRow)
    (rows : List ArticleRow) (new : List Article) :
    Pass.stepAlone P
        (db, Pass.inTxn city todo seen outcomes fetched loaded
          (.inserting headers (row :: rows) new)) (.insertRow dbNow)
      = some (db, Pass.inTxn city todo seen outcomes fetched loaded
          (.inserting headers rows
            (if row.id ∈ (db.articles ++ new).map (·.id) then new
              else new ++ [row.insert dbNow]))) := by
  show (if row.id ∈ ([] : List Str) then none else _) = _
  rw [if_neg List.not_mem_nil]
  rfl

/-- **An insert, row by row**, is the insert of the whole statement. -/
theorem Pass.insert_alone (headers : Headers) (dbNow : Time) (rows : List ArticleRow)
    (new : List Article) :
    Run (Pass.stepAlone P)
      (db, Pass.inTxn city todo seen outcomes fetched loaded (.inserting headers rows new))
      (rows.map fun _ => .insertRow dbNow)
      (db, Pass.inTxn city todo seen outcomes fetched loaded
        (.inserting headers [] (new ++ inserted (fun a : Article => a.id) (db.articles ++ new)
          (rows.map (·.insert dbNow))))) := by
  induction rows generalizing new with
  | nil =>
      rw [List.map_nil, List.map_nil, inserted, List.append_nil]
      exact Run.nil _
  | cons row rows ih =>
      have hstep := @Pass.insertRow_alone P db city todo seen outcomes fetched loaded headers
        dbNow row rows new
      have hkey : (row.insert dbNow).id = row.id := rfl
      rw [List.map_cons, List.map_cons, inserted, hkey]
      -- nobody else holds a key, so every statement goes through at once
      by_cases hmem : row.id ∈ (db.articles ++ new).map (·.id)
      · -- the id is stored, or came earlier in the statement
        rw [if_pos hmem] at hstep ⊢
        exact Run.cons hstep (ih new)
      · rw [if_neg hmem] at hstep ⊢
        have hrest := ih (new ++ [row.insert dbNow])
        rw [List.append_assoc, ← List.append_assoc db.articles, List.singleton_append] at hrest
        exact Run.cons hstep hrest

/-- Where a transaction stands once the response is parsed. -/
def TxnStage.afterParse (headers : Headers) : Raises Parse → TxnStage
  | .error e => .rolledBack e
  | .ok (.done ingested) => .ready false ingested
  | .ok (.rows rows) => .inserting headers rows []

theorem Pass.parse_alone (w : Weather) {result : FetchResult}
    (hfetched : fetched.attempt.fetched = .ok result) :
    Pass.stepAlone P (db, Pass.inTxn city todo seen outcomes fetched loaded .opened) (.parse w)
      = some (db, Pass.inTxn city todo
          (parseResult P w db.cities loaded result fetched.attempt.attemptedAt seen).1 outcomes
          fetched loaded
          (.afterParse result.headers
            (parseResult P w db.cities loaded result fetched.attempt.attemptedAt seen).2)) := by
  simp only [Pass.stepAlone, Pass.step, Pass.inTxn, OpenTxn.at, hfetched]
  rfl

/-- A statement raises: the session is rolled back. -/
theorem Pass.raise_alone {stage : TxnStage} (hstage : ∀ e, stage ≠ .rolledBack e)
    (hrecovery : ∀ ingested, stage ≠ .ready true ingested) (e : Str) :
    Pass.stepAlone P (db, Pass.inTxn city todo seen outcomes fetched loaded stage) (.raise e)
      = some (db, Pass.inTxn city todo seen outcomes fetched loaded (.rolledBack e)) := by
  cases stage with
  | rolledBack e' => exact absurd rfl (hstage e')
  | ready recovery ingested =>
      cases recovery with
      | true => exact absurd rfl (hrecovery ingested)
      | false => rfl
  | _ => rfl

/-- The rows of an insert that does not raise, and the success record. -/
theorem Pass.finish_alone {w : Weather} {headers : Headers} {rows : List ArticleRow}
    (hquiet : rows = [] ∨ w.raises .insert = none) :
    ∃ actions, Run (Pass.stepAlone P)
      (db, Pass.inTxn city todo seen outcomes fetched loaded (.inserting headers rows [])) actions
      (db, Pass.inTxn city todo seen outcomes fetched loaded
        (.ofResult
          (insertRows P w db.articles loaded headers fetched.attempt.attemptedAt rows))) := by
  have hinsert := @Pass.insert_alone P db city todo seen outcomes fetched loaded headers
    w.dbNow rows []
  rw [List.nil_append, List.append_nil] at hinsert
  have hrows : insertRows P w db.articles loaded headers fetched.attempt.attemptedAt rows
      = recordInserted P loaded headers fetched.attempt.attemptedAt
          (inserted (fun a : Article => a.id) db.articles (rows.map (·.insert w.dbNow))) := by
    unfold insertRows
    -- without rows there is no statement to raise
    rcases hquiet with rfl | hnone
    · rfl
    · rw [check_eq_ok.mpr hnone]
      split <;> rfl
  refine ⟨_, hinsert.append (Run.cons (a := .finishInsert) ?_ (Run.nil _))⟩
  rw [hrows]
  cases hrecord : recordInserted P loaded headers fetched.attempt.attemptedAt
      (inserted (fun a : Article => a.id) db.articles (rows.map (·.insert w.dbNow))) with
  | error e => simp [Pass.stepAlone, Pass.step, Pass.inTxn, OpenTxn.at, TxnStage.ofResult, hrecord]
  | ok ingested =>
      simp [Pass.stepAlone, Pass.step, Pass.inTxn, OpenTxn.at, TxnStage.ofResult, hrecord]

/-- The statements of one transaction, up to its commit. -/
theorem Pass.statements_alone (w : Weather) :
    ∃ actions, Run (Pass.stepAlone P)
      (db, Pass.inTxn city todo seen outcomes fetched loaded .opened) actions
      (db, Pass.inTxn city todo (persistAttempt P w db loaded fetched.attempt seen).1 outcomes
        fetched loaded
        (.ofResult (persistAttempt P w db loaded fetched.attempt seen).2)) := by
  cases hfetched : fetched.attempt.fetched with
  | error e =>
      refine ⟨[.parse w], Run.cons ?_ (Run.nil _)⟩
      simp [Pass.stepAlone, Pass.step, Pass.inTxn, OpenTxn.at, persistAttempt, hfetched,
        TxnStage.ofResult]
  | ok result =>
      have hstep := @Pass.parse_alone P db city todo seen outcomes fetched loaded w result
        hfetched
      simp only [persistAttempt, hfetched, parseAndPersist]
      cases hparse : (parseResult P w db.cities loaded result fetched.attempt.attemptedAt
          seen).2 with
      | error e =>
          rw [hparse] at hstep
          exact ⟨[.parse w], Run.cons hstep (Run.nil _)⟩
      | ok parsed =>
          rw [hparse] at hstep
          cases parsed with
          | done ingested => exact ⟨[.parse w], Run.cons hstep (Run.nil _)⟩
          | rows rows =>
              -- the weather of `insertRows` is one failure; here each statement may have its
              -- own
              by_cases hquiet : rows = [] ∨ w.raises .insert = none
              · obtain ⟨actions, hrun⟩ := @Pass.finish_alone P db city todo _ outcomes fetched
                  loaded w result.headers rows hquiet
                exact ⟨.parse w :: actions, Run.cons hstep hrun⟩
              · -- the insert is sent, and raises
                rw [not_or] at hquiet
                obtain ⟨e, he⟩ := Option.ne_none_iff_exists'.mp hquiet.2
                have hinsert : insertRows P w db.articles loaded result.headers
                    fetched.attempt.attemptedAt rows = .error e := by
                  unfold insertRows
                  rw [if_pos hquiet.1, check_eq_error.mpr he]
                  rfl
                have hraise := @Pass.raise_alone P db city todo
                  (parseResult P w db.cities loaded result fetched.attempt.attemptedAt seen).1
                  outcomes fetched loaded (.inserting result.headers rows []) (by simp) (by simp)
                  e
                refine ⟨[.parse w, .raise e], Run.cons hstep (Run.cons ?_ (Run.nil _))⟩
                show _ = some (db, Pass.inTxn city todo _ outcomes fetched loaded
                  (.ofResult (insertRows P w db.articles loaded result.headers
                    fetched.attempt.attemptedAt rows)))
                rw [hinsert]
                exact hraise

/-- **One transaction**, its commit included. -/
theorem Pass.txn_alone (w : Weather) :
    ∃ actions, Run (Pass.stepAlone P)
      (db, Pass.inTxn city todo seen outcomes fetched loaded .opened) actions
      (db, Pass.inTxn city todo (persistAttempt P w db loaded fetched.attempt seen).1 outcomes
        fetched loaded
        (.ofResult (commitTxn w (persistAttempt P w db loaded fetched.attempt seen).2))) := by
  obtain ⟨actions, hrun⟩ :=
    @Pass.statements_alone P db city todo seen outcomes fetched loaded w
  cases htxn : (persistAttempt P w db loaded fetched.attempt seen).2 with
  | error e =>
      rw [htxn] at hrun
      exact ⟨actions, hrun⟩
  | ok ingested =>
      rw [htxn] at hrun
      -- a commit that fails raises out of a transaction that was ready
      cases hcommit : w.check .commit with
      | error e =>
          have herror : commitTxn w (.ok ingested) = .error e := by
            unfold commitTxn
            rw [hcommit]
            rfl
          rw [herror]
          exact ⟨actions ++ [.raise e],
            hrun.append (Run.cons (Pass.raise_alone (by simp [TxnStage.ofResult])
              (by simp [TxnStage.ofResult]) e) (Run.nil _))⟩
      | ok _ =>
          have hok : commitTxn w (.ok ingested) = .ok ingested := by
            unfold commitTxn
            rw [hcommit]
            rfl
          rw [hok]
          exact ⟨actions, hrun⟩

/-- Between two transactions. -/
def Pass.idle (city : Option Nat) (todo : List Fetched) (seen : List Str)
    (outcomes : List SourceIngestOutcome) : Pass :=
  { city := city, phase := .persisting todo seen outcomes none }

/-- A commit on a row that is still as it was loaded. -/
theorem Pass.commit_alone {recovery : Bool} {ingested : Ingested}
    (hget : db.getSource loaded.id = some loaded) (hid : ingested.source.id = loaded.id) :
    Pass.stepAlone P
        (db, Pass.inTxn city todo seen outcomes fetched loaded (.ready recovery ingested)) .commit
      = some (db.commitIngested ingested,
          Pass.idle city todo seen (outcomes ++ [ingested.outcome])) := by
  show some ({ db.flushSource loaded ingested.source with
    articles := (db.flushSource loaded ingested.source).articles ++ ingested.articles }, _) = _
  rw [Db.flushSource_alone hget hid]
  rfl

/-- A recovery re-reads the row, which is the one that was loaded, and commits
the failure record. -/
theorem Pass.recover_alone {e : Str}
    (hget : db.getSource fetched.attempt.sourceId = some loaded) :
    Run (Pass.stepAlone P)
      (db, Pass.inTxn city todo seen outcomes fetched loaded (.rolledBack e))
      [.recover, .commit]
      (db.putSource
          (recordFetchFailure loaded (persistFailed e) fetched.attempt.attemptedAt).1,
        Pass.idle city todo seen (outcomes ++
          [(recordFetchFailure loaded (persistFailed e) fetched.attempt.attemptedAt).2])) := by
  let recorded := recordFetchFailure loaded (persistFailed e) fetched.attempt.attemptedAt
  let ingested : Ingested := { outcome := recorded.2, source := recorded.1, articles := [] }
  have hrecover : Pass.stepAlone P
      (db, Pass.inTxn city todo seen outcomes fetched loaded (.rolledBack e)) .recover
      = some (db, Pass.inTxn city todo seen outcomes fetched loaded (.ready true ingested)) := by
    simp [Pass.stepAlone, Pass.step, Pass.inTxn, hget, ingested, recorded]
  -- a failure brings no rows
  have hcommitted : db.commitIngested ingested = db.putSource recorded.1 := by
    show { db.putSource recorded.1 with articles := db.articles ++ [] } = _
    rw [List.append_nil]
    rfl
  have hcommit := @Pass.commit_alone P db city todo seen outcomes fetched loaded true ingested
    (Db.getSource_self hget) rfl
  rw [hcommitted] at hcommit
  exact Run.cons hrecover (Run.cons hcommit (Run.nil _))

end Transaction

/-! ## §2. The transactions of a pass. -/

/-- A persist job: the fetch and what the environment does to its transaction. -/
def Fetched.job (work : Fetched × Weather) : FetchAttempt × Weather := (work.1.attempt, work.2)

/-- **The transactions of a pass are those of `persistAttempts`.** -/
theorem Pass.persist_alone (P : Platform) (city : Option Nat) (works : List (Fetched × Weather))
    (db : Db) (seen : List Str) (outcomes : List SourceIngestOutcome) : ∃ actions seen',
      Run (Pass.stepAlone P) (db, Pass.idle city (works.map (·.1)) seen outcomes) actions
        ((persistAttempts P (works.map Fetched.job) db seen).2,
          Pass.idle city [] seen'
            (outcomes ++ (persistAttempts P (works.map Fetched.job) db seen).1)) := by
  induction works generalizing db seen outcomes with
  | nil =>
      refine ⟨[], seen, ?_⟩
      simp only [List.map_nil, persistAttempts, List.append_nil]
      exact Run.nil _
  | cons work works ih =>
      obtain ⟨fetched, w⟩ := work
      rw [List.map_cons, List.map_cons]
      cases hget : db.getSource fetched.attempt.sourceId with
      | none =>
          -- the row is gone, and the attempt is dropped
          have hopen : Pass.stepAlone P
              (db, Pass.idle city (fetched :: works.map (·.1)) seen outcomes) .openNext
              = some (db, Pass.idle city (works.map (·.1)) seen outcomes) := by
            simp [Pass.stepAlone, Pass.step, Pass.idle, hget]
          obtain ⟨actions, seen', hrun⟩ := ih db seen outcomes
          rw [persistAttempts_gone hget]
          exact ⟨.openNext :: actions, seen', Run.cons hopen hrun⟩
      | some loaded =>
          have hself := Db.getSource_self hget
          have hopen : Pass.stepAlone P
              (db, Pass.idle city (fetched :: works.map (·.1)) seen outcomes) .openNext
              = some (db, Pass.inTxn city (works.map (·.1)) seen outcomes fetched loaded
                  .opened) := by
            simp [Pass.stepAlone, Pass.step, Pass.idle, Pass.inTxn, hget]
          obtain ⟨actions, hrun⟩ := @Pass.txn_alone P db city (works.map (·.1)) seen outcomes
            fetched loaded w
          cases htxn : commitTxn w (persistAttempt P w db loaded fetched.attempt seen).2 with
          | ok ingested =>
              -- the statements, their commit, and the rest of the works
              rw [htxn] at hrun
              have hid : ingested.source.id = loaded.id :=
                (persistAttempt_ok (commitTxn_ok htxn)).1
              obtain ⟨actions', seen', hrest⟩ := ih (db.commitIngested ingested)
                (persistAttempt P w db loaded fetched.attempt seen).1
                (outcomes ++ [ingested.outcome])
              rw [List.append_assoc, List.singleton_append] at hrest
              rw [@persistAttempts_committed P (Fetched.job (fetched, w)) _ _ _ _ hget _ htxn]
              exact ⟨_, seen', Run.cons hopen
                (hrun.append (Run.cons (Pass.commit_alone hself hid) hrest))⟩
          | error e =>
              -- the statements up to where they raised, and the recovery
              rw [htxn] at hrun
              obtain ⟨actions', seen', hrest⟩ := ih
                (db.putSource
                  (recordFetchFailure loaded (persistFailed e) fetched.attempt.attemptedAt).1)
                (persistAttempt P w db loaded fetched.attempt seen).1
                (outcomes ++
                  [(recordFetchFailure loaded (persistFailed e) fetched.attempt.attemptedAt).2])
              rw [List.append_assoc, List.singleton_append] at hrest
              rw [@persistAttempts_rolledBack P (Fetched.job (fetched, w)) _ _ _ _ hget _ htxn]
              have hrecover := @Pass.recover_alone P db city (works.map (·.1))
                (persistAttempt P w db loaded fetched.attempt seen).1 outcomes fetched loaded e hget
              exact ⟨_, seen', Run.cons hopen (hrun.append (hrecover.append hrest))⟩

/-! ## §3. A pass alone. -/

/-- The slots of a fetch phase: the targets answered, and those to come. -/
def slotsAfter (fetch : FetchTarget → Time × Except Str FetchResult)
    (answered waiting : List FetchTarget) : List (FetchTarget × Option FetchAttempt) :=
  (answered.map fun target => (target, some (target.attempt (fetch target).1 (fetch target).2)))
    ++ waiting.map fun target => (target, none)

/-- The fetches come back one after the other. -/
theorem Pass.fetch_alone (P : Platform) (db : Db) (city : Option Nat)
    (fetch : FetchTarget → Time × Except Str FetchResult) (answered waiting : List FetchTarget) :
    ∃ actions, Run (Pass.stepAlone P)
      (db, { city := city, phase := .fetching (slotsAfter fetch answered waiting) }) actions
      (db, { city := city, phase := .fetching (slotsAfter fetch (answered ++ waiting) []) }) := by
  -- in the order of the targets; any other would do
  induction waiting generalizing answered with
  | nil =>
      rw [List.append_nil]
      exact ⟨[], Run.nil _⟩
  | cons target waiting ih =>
      obtain ⟨actions, hrun⟩ := ih (answered ++ [target])
      rw [List.append_assoc, List.singleton_append] at hrun
      have hslot : (slotsAfter fetch answered (target :: waiting))[answered.length]?
          = some (target, none) := by
        simp [slotsAfter]
      have hset : (slotsAfter fetch answered (target :: waiting)).set answered.length
          (target, some (target.attempt (fetch target).1 (fetch target).2))
          = slotsAfter fetch (answered ++ [target]) waiting := by
        simp [slotsAfter]
      refine ⟨.respond answered.length (fetch target).1 (fetch target).2 :: actions,
        Run.cons ?_ hrun⟩
      rw [← hset]
      simp only [Pass.stepAlone, Pass.step, hslot]
      rfl

/-- The only pass of the world runs as it does alone. -/
theorem World.run_alone {P : Platform} {settings : Settings} {s t : Db × Pass}
    {actions : List PassAction} (hrun : Run (Pass.stepAlone P) s actions t) {w : World}
    (hdb : w.db = s.1) (hpasses : w.passes = [s.2]) :
    ∃ w', Run (World.step P settings) w (actions.map (.pass 0)) w'
      ∧ w'.db = t.1 ∧ w'.passes = [t.2] := by
  induction hrun generalizing w with
  | nil s => exact ⟨w, Run.nil w, hdb, hpasses⟩
  | @cons s t u a actions hstep _ ih =>
      -- no other pass, hence no id held elsewhere
      have htaken : w.taken 0 = [] := by
        simp [World.taken, hpasses]
      have hpass : s.2.step P w.db (w.taken 0) a = some (t.1, t.2) := by
        rw [hdb, htaken]
        exact hstep
      have hworld : w.step P settings (.pass 0 a) = some { w with
          db := t.1
          passes := [t.2]
          refreshing := w.refreshingAfter t.2
          responses := w.responses ++ s.2.heard a } := by
        simp [World.step, hpasses, hpass]
      obtain ⟨w', hrest, hdb', hpasses'⟩ := @ih { w with
        db := t.1
        passes := [t.2]
        refreshing := w.refreshingAfter t.2
        responses := w.responses ++ s.2.heard a } rfl rfl
      exact ⟨w', Run.cons hworld hrest, hdb', hpasses'⟩

/-- **A whole pass**, from its targets to its outcomes. -/
theorem World.pass_alone (P : Platform) (settings : Settings) (city : Option Nat)
    (fetch : FetchTarget → Time × Except Str FetchResult) (weather : FetchTarget → Weather)
    (targets : List FetchTarget) {w : World} (hpasses : w.passes = [Pass.begin city targets]) :
    ∃ actions w', Run (World.step P settings) w actions w'
      ∧ w'.db = (fetchAndPersist P fetch weather targets w.db).2
      ∧ w'.passes = [⟨city, .returned (fetchAndPersist P fetch weather targets w.db).1⟩] := by
  unfold fetchAndPersist
  cases targets with
  | nil => exact ⟨[], w, Run.nil w, rfl, hpasses⟩
  | cons target targets =>
      let works : List (Fetched × Weather) := (target :: targets).map fun t =>
        ({ target := t, attempt := t.attempt (fetch t).1 (fetch t).2 }, weather t)
      have hjobs : works.map Fetched.job = (target :: targets).map fun t =>
          (t.attempt (fetch t).1 (fetch t).2, weather t) := by
        simp [works, Fetched.job]
      obtain ⟨fetching, hfetch⟩ := Pass.fetch_alone P w.db city fetch [] (target :: targets)
      obtain ⟨persisting, seen, hpersist⟩ := Pass.persist_alone P city works w.db [] []
      rw [hjobs, List.nil_append] at hpersist
      -- `gather` returns once the last fetch is back
      have hstart : Pass.stepAlone P (w.db, { city := city
                                              phase := .fetching
                                                (slotsAfter fetch ([] ++ target :: targets) []) })
          .startPersist = some (w.db, Pass.idle city (works.map (·.1)) [] []) := by
        simp [Pass.stepAlone, Pass.step, Pass.fetches, Pass.idle, slotsAfter, works,
          Function.comp_def]
      have hfinish : ∀ (db : Db) (outcomes : List SourceIngestOutcome),
          Pass.stepAlone P (db, Pass.idle city [] seen outcomes) .finish
            = some (db, { city := city, phase := .returned outcomes }) := fun _ _ => rfl
      have hpass := hfetch.append (Run.cons hstart
        (hpersist.append (Run.cons (hfinish _ _) (Run.nil _))))
      obtain ⟨w', hrun, hdb, hpasses'⟩ := @World.run_alone P settings _ _ _ hpass w rfl
        (by simp [hpasses, Pass.begin, slotsAfter])
      exact ⟨_, w', hrun, hdb, hpasses'⟩

/-- **A TICK ALONE IS `run_tick`**: the same outcomes, and the same database. -/
theorem tick_alone (P : Platform) (settings : Settings) (now : Time)
    (fetch : FetchTarget → Time × Except Str FetchResult) (weather : FetchTarget → Weather)
    (db : Db) :
    ∃ actions w, Run (World.step P settings) (World.start db)
        (.beginTick now (loadDueTargets db now settings) :: actions) w
      ∧ w.db = (runTick P settings now fetch weather db).2
      ∧ w.passes = [⟨none, .returned (runTick P settings now fetch weather db).1⟩] := by
  -- no tick runs, so this one may begin
  have hbegin : World.step P settings (World.start db)
      (.beginTick now (loadDueTargets db now settings))
      = some { World.start db with
          passes := [Pass.begin none (loadDueTargets db now settings)] } := by
    simp [World.step, World.start]
  obtain ⟨actions, w, hrun, hdb, hpasses⟩ := @World.pass_alone P settings none fetch weather
    (loadDueTargets db now settings)
    { World.start db with passes := [Pass.begin none (loadDueTargets db now settings)] } rfl
  exact ⟨actions, w, Run.cons hbegin hrun, hdb, hpasses⟩

/-- **A refresh alone is `refresh_city`.** -/
theorem refresh_alone (P : Platform) (settings : Settings) (cityId : Nat)
    (fetch : FetchTarget → Time × Except Str FetchResult) (weather : FetchTarget → Weather)
    {db : Db} {targets : List FetchTarget} (htargets : loadCityTargets db cityId = some targets) :
    ∃ actions w outcomes, Run (World.step P settings) (World.start db)
        (.beginRefresh cityId targets :: actions) w
      ∧ w.passes = [⟨some cityId, .returned outcomes⟩]
      ∧ refreshCity P cityId fetch weather db
        = some (outcomes.map (·.refreshed w.db), w.db) := by
  -- a city without targets is not entered in `_refreshing`
  let begun : World := { World.start db with
    passes := [Pass.begin (some cityId) targets]
    refreshing := if targets = [] then [] else [cityId] }
  have hbegin : World.step P settings (World.start db) (.beginRefresh cityId targets)
      = some begun := by
    simp [World.step, World.start, htargets, begun]
  obtain ⟨actions, w, hrun, hdb, hpasses⟩ := @World.pass_alone P settings (some cityId) fetch
    weather targets begun rfl
  refine ⟨actions, w, _, Run.cons hbegin hrun, hpasses, ?_⟩
  rw [hdb]
  simp only [refreshCity, htargets, Option.bind_eq_bind, Option.bind_some, Option.pure_def]
  rfl

end Feedcast
