/-
  Feedcast.Polling.World — polling passes over one database, step by step.

  A scheduler tick and a forced city refresh are the same three phases: load the
  targets, fetch them holding no session, persist one transaction per source.
  Any number of passes run at once, among each other and among the city and
  source calls, and give way at every `await`.  `World.step` is one stretch
  between two of them.

  Assumed of the database, as the source does: a statement sees what was
  committed when it ran; a row an open transaction has inserted makes every
  other insert of its id wait; a commit is atomic and an UPDATE writes the
  columns that differ from the row as it was loaded.

  `World.step_effect` says once what a step can do; the invariants of the runs
  are proved over it.
-/
import Feedcast.Services.Cities
import Feedcast.Services.Scheduler

namespace Feedcast

open Feedcast.Lib

/-! ## §1. Writing a row back. -/

section WriteBack

variable {α : Type} [DecidableEq α]

/-- One column of an UPDATE. -/
def written (loaded edited stored : α) : α := if edited = loaded then stored else edited

@[simp] theorem written_same (loaded stored : α) : written loaded loaded stored = stored := by
  simp [written]

theorem written_cases (loaded edited stored : α) :
    (edited = loaded ∧ written loaded edited stored = stored)
      ∨ (edited ≠ loaded ∧ written loaded edited stored = edited) := by
  by_cases h : edited = loaded
  · exact Or.inl ⟨h, if_pos h⟩
  · exact Or.inr ⟨h, if_neg h⟩

end WriteBack

/-- The stored row after a session that loaded the row `loaded` and edited it to
`edited` has flushed. -/
def Source.writeBack (loaded edited stored : Source) : Source where
  id := stored.id
  name := written loaded.name edited.name stored.name
  feedUrl := written loaded.feedUrl edited.feedUrl stored.feedUrl
  language := written loaded.language edited.language stored.language
  enabled := written loaded.enabled edited.enabled stored.enabled
  publisherGroup := written loaded.publisherGroup edited.publisherGroup stored.publisherGroup
  cityId := written loaded.cityId edited.cityId stored.cityId
  isLocalOutlet := written loaded.isLocalOutlet edited.isLocalOutlet stored.isLocalOutlet
  fetchIntervalMinutes :=
    written loaded.fetchIntervalMinutes edited.fetchIntervalMinutes stored.fetchIntervalMinutes
  etag := written loaded.etag edited.etag stored.etag
  lastModified := written loaded.lastModified edited.lastModified stored.lastModified
  cacheMaxAgeSeconds :=
    written loaded.cacheMaxAgeSeconds edited.cacheMaxAgeSeconds stored.cacheMaxAgeSeconds
  lastFetchedAt := written loaded.lastFetchedAt edited.lastFetchedAt stored.lastFetchedAt
  consecutiveFailures :=
    written loaded.consecutiveFailures edited.consecutiveFailures stored.consecutiveFailures
  lastSuccessAt := written loaded.lastSuccessAt edited.lastSuccessAt stored.lastSuccessAt
  lastError := written loaded.lastError edited.lastError stored.lastError
  lastErrorAt := written loaded.lastErrorAt edited.lastErrorAt stored.lastErrorAt
  archivedAt := written loaded.archivedAt edited.archivedAt stored.archivedAt

/-- Alone on its row, a session writes what it edited. -/
theorem Source.writeBack_alone {loaded edited : Source} (hid : edited.id = loaded.id) :
    loaded.writeBack edited loaded = edited := by
  have h : ∀ {α : Type} [DecidableEq α] (a b : α), written a b a = b := by
    intro α _ a b
    rcases written_cases a b a with ⟨hab, hw⟩ | ⟨-, hw⟩
    · rw [hw, hab]
    · exact hw
  simp only [writeBack, h]
  rw [← hid]

def Db.flushSource (db : Db) (loaded edited : Source) : Db :=
  match db.getSource loaded.id with
  | some stored => db.putSource (loaded.writeBack edited stored)
  | none => db

/-- Alone on its row, a flush stores what was edited. -/
theorem Db.flushSource_alone {db : Db} {loaded edited : Source}
    (hget : db.getSource loaded.id = some loaded) (hid : edited.id = loaded.id) :
    db.flushSource loaded edited = db.putSource edited := by
  unfold Db.flushSource
  rw [hget]
  simp only [Source.writeBack_alone hid]

@[simp] theorem Db.flushSource_articles (db : Db) (loaded edited : Source) :
    (db.flushSource loaded edited).articles = db.articles := by
  unfold flushSource
  split <;> rfl

/-! ## §2. A pass. -/

/-- A fetch and the target it was made for.  Persisting reads the attempt only. -/
structure Fetched where
  target : FetchTarget
  attempt : FetchAttempt

/-- How far the transaction of one attempt is. -/
inductive TxnStage where
  /-- The source is loaded. -/
  | opened
  /-- Inside the insert: the rows to come, and those inserted. -/
  | inserting (headers : Headers) (todo : List ArticleRow) (new : List Article)
  /-- The commit is outstanding; `recovery` marks the write after a rollback. -/
  | ready (recovery : Bool) (ingested : Ingested)
  /-- Something raised. -/
  | rolledBack (exc : Str)

/-- The transaction of one attempt, and the row it loaded. -/
structure OpenTxn where
  fetched : Fetched
  loaded : Source
  stage : TxnStage

inductive PassPhase where
  | fetching (slots : List (FetchTarget × Option FetchAttempt))
  | persisting (todo : List Fetched) (seen : List Str) (outcomes : List SourceIngestOutcome)
      (txn : Option OpenTxn)
  | returned (outcomes : List SourceIngestOutcome)

/-- A call of `run_tick`, or of `refresh_city` for a city. -/
structure Pass where
  city : Option Nat
  phase : PassPhase

/-- The rows an open transaction holds. -/
def TxnStage.pending : TxnStage → List Article
  | .inserting _ _ new => new
  | .ready _ ingested => ingested.articles
  | _ => []

def Pass.pending (pass : Pass) : List Article :=
  match pass.phase with
  | .persisting _ _ _ (some txn) => txn.stage.pending
  | _ => []

/-- The outcomes a pass has to report so far. -/
def Pass.outcomes (pass : Pass) : List SourceIngestOutcome :=
  match pass.phase with
  | .fetching _ => []
  | .persisting _ _ outcomes _ => outcomes
  | .returned outcomes => outcomes

/-- `sum(o.new_articles for o in outcomes)`. -/
def newArticles (outcomes : List SourceIngestOutcome) : Nat := (outcomes.map (·.newArticles)).sum

/-- The fetches of a pass in progress. -/
def Pass.fetches (pass : Pass) : List Fetched :=
  match pass.phase with
  | .fetching slots => slots.filterMap fun slot => slot.2.map fun a => ⟨slot.1, a⟩
  | .persisting todo _ _ txn => todo ++ (txn.map (·.fetched)).toList
  | .returned _ => []

inductive PassAction where
  /-- One of the concurrent fetches comes back. -/
  | respond (slot : Nat) (attemptedAt : Time) (fetched : Except Str FetchResult)
  /-- `gather` returns, and the second session opens. -/
  | startPersist
  /-- `db.get(Source, …)` of the next attempt. -/
  | openNext
  /-- The failure record, or `parse_and_persist` up to its insert. -/
  | parse (w : Weather)
  /-- One row of the insert. -/
  | insertRow (dbNow : Time)
  /-- `RETURNING`, and the success record. -/
  | finishInsert
  /-- Any statement raises; `rollback()`. -/
  | raise (exc : Str)
  /-- The recovery re-reads the source and records the failure. -/
  | recover
  | commit
  /-- `persist_attempts` returns. -/
  | finish

/-- The phase of a pass whose open transaction moves to `stage`. -/
def OpenTxn.at (txn : OpenTxn) (stage : TxnStage) : Option OpenTxn :=
  some { txn with stage := stage }

/-- One step of a pass; `taken` are the ids other open transactions hold. -/
def Pass.step (P : Platform) (db : Db) (taken : List Str) (pass : Pass) :
    PassAction → Option (Db × Pass)
  | .respond slot attemptedAt fetched =>
      match pass.phase with
      | .fetching slots =>
          match slots[slot]? with
          | some (target, none) =>
              let attempt : FetchAttempt :=
                { sourceId := target.sourceId, attemptedAt := attemptedAt, fetched := fetched }
              some (db, { pass with
                phase := .fetching (slots.set slot (target, some attempt)) })
          | _ => none
      | _ => none
  | .startPersist =>
      match pass.phase with
      | .fetching slots =>
          if slots.all (·.2.isSome) then
            some (db, { pass with phase := .persisting pass.fetches [] [] none })
          else none
      | _ => none
  | .openNext =>
      match pass.phase with
      | .persisting (fetched :: todo) seen outcomes none =>
          match db.getSource fetched.attempt.sourceId with
          -- deleted mid-tick
          | none => some (db, { pass with phase := .persisting todo seen outcomes none })
          | some source =>
              let txn : OpenTxn := { fetched := fetched, loaded := source, stage := .opened }
              some (db, { pass with phase := .persisting todo seen outcomes (some txn) })
      | _ => none
  | .parse w =>
      match pass.phase with
      | .persisting todo seen outcomes (some ⟨fetched, loaded, .opened⟩) =>
          let txn : OpenTxn := ⟨fetched, loaded, .opened⟩
          match fetched.attempt.fetched with
          | .error e =>
              let (source, outcome) := recordFetchFailure loaded e fetched.attempt.attemptedAt
              let ingested : Ingested := { outcome := outcome, source := source, articles := [] }
              some (db, { pass with
                phase := .persisting todo seen outcomes (txn.at (.ready false ingested)) })
          | .ok result =>
              let (seen', parse) :=
                parseResult P w db.cities loaded result fetched.attempt.attemptedAt seen
              let stage : TxnStage :=
                match parse with
                | .error e => .rolledBack e
                | .ok (.done ingested) => .ready false ingested
                | .ok (.rows rows) => .inserting result.headers rows []
              some (db, { pass with phase := .persisting todo seen' outcomes (txn.at stage) })
      | _ => none
  | .insertRow dbNow =>
      match pass.phase with
      | .persisting todo seen outcomes
          (some ⟨fetched, loaded, .inserting headers (row :: rows) new⟩) =>
          let txn : OpenTxn := ⟨fetched, loaded, .inserting headers (row :: rows) new⟩
          -- an id another transaction holds: the statement waits for its end
          if row.id ∈ taken then none
          else
            -- ON CONFLICT DO NOTHING
            let new' :=
              if row.id ∈ (db.articles ++ new).map (·.id) then new
              else new ++ [row.insert dbNow]
            some (db, { pass with
              phase := .persisting todo seen outcomes (txn.at (.inserting headers rows new')) })
      | _ => none
  | .finishInsert =>
      match pass.phase with
      | .persisting todo seen outcomes (some ⟨fetched, loaded, .inserting headers [] new⟩) =>
          let txn : OpenTxn := ⟨fetched, loaded, .inserting headers [] new⟩
          let stage : TxnStage :=
            match recordInserted P loaded headers fetched.attempt.attemptedAt new with
            | .error e => .rolledBack e
            | .ok ingested => .ready false ingested
          some (db, { pass with phase := .persisting todo seen outcomes (txn.at stage) })
      | _ => none
  | .raise exc =>
      match pass.phase with
      | .persisting todo seen outcomes (some txn) =>
          match txn.stage with
          | .rolledBack _ => none
          -- the recovery write is assumed to succeed
          | .ready true _ => none
          | _ =>
              some (db, { pass with
                phase := .persisting todo seen outcomes (txn.at (.rolledBack exc)) })
      | _ => none
  | .recover =>
      match pass.phase with
      | .persisting todo seen outcomes (some ⟨fetched, _, .rolledBack exc⟩) =>
          match db.getSource fetched.attempt.sourceId with
          | none => none
          | some source =>
              let (source', outcome) :=
                recordFetchFailure source (persistFailed exc) fetched.attempt.attemptedAt
              let ingested : Ingested := { outcome := outcome, source := source', articles := [] }
              let txn : OpenTxn := ⟨fetched, source, .ready true ingested⟩
              some (db, { pass with phase := .persisting todo seen outcomes (some txn) })
      | _ => none
  | .commit =>
      match pass.phase with
      | .persisting todo seen outcomes (some ⟨_, loaded, .ready _ ingested⟩) =>
          let db' := db.flushSource loaded ingested.source
          some ({ db' with articles := db'.articles ++ ingested.articles },
            { pass with
              phase := .persisting todo seen (outcomes ++ [ingested.outcome]) none })
      | _ => none
  | .finish =>
      match pass.phase with
      | .persisting [] _ outcomes none => some (db, { pass with phase := .returned outcomes })
      | _ => none

/-! ## §3. The world. -/

/-- An open PATCH: the row it loaded, and the body. -/
structure PatchSession where
  loaded : Source
  data : SourceUpdate

structure World where
  db : Db
  passes : List Pass := []
  /-- `_refreshing`. -/
  refreshing : List Nat := []
  patches : List PatchSession := []
  /-- Every response so far, under the URL it was asked of. -/
  responses : List (Str × Headers) := []

inductive WorldAction where
  /-- A tick loads its targets, in the order the database returned them. -/
  | beginTick (now : Time) (targets : List FetchTarget)
  | beginRefresh (cityId : Nat) (targets : List FetchTarget)
  | pass (index : Nat) (action : PassAction)
  /-- A PATCH of a source loads its row. -/
  | openPatch (sourceId : Nat) (data : SourceUpdate)
  | commitPatch (index : Nat)
  /-- Any other city or source call. -/
  | call (call : OnboardingCall)

/-- A pass over the targets it has loaded. -/
def Pass.begin (city : Option Nat) (targets : List FetchTarget) : Pass where
  city := city
  phase := if targets = [] then .returned [] else .fetching (targets.map fun t => (t, none))

/-- The ids the open transactions of the other passes hold. -/
def World.taken (w : World) (index : Nat) : List Str :=
  ((w.passes.eraseIdx index).flatMap (·.pending)).map (·.id)

/-- The response that an action of a pass brings in. -/
def Pass.heard (pass : Pass) : PassAction → List (Str × Headers)
  | .respond slot _ (.ok result) =>
      match pass.phase with
      | .fetching slots => (slots[slot]?.map fun s => (s.1.feedUrl, result.headers)).toList
      | _ => []
  | _ => []

/-- `_refreshing` once a pass has taken a step. -/
def World.refreshingAfter (w : World) (pass : Pass) : List Nat :=
  match pass.city, pass.phase with
  | some cityId, .returned _ => w.refreshing.filter (· ≠ cityId)
  | _, _ => w.refreshing

def World.step (P : Platform) (settings : Settings) (w : World) : WorldAction → Option World
  | .beginTick now targets =>
      if targets.Perm (loadDueTargets w.db now settings) then
        some { w with passes := w.passes ++ [Pass.begin none targets] }
      else none
  | .beginRefresh cityId targets =>
      -- `RefreshInProgressError`
      if cityId ∈ w.refreshing then none
      else
        match loadCityTargets w.db cityId with
        | none => some w
        | some loaded =>
            if targets.Perm loaded then
              some { w with
                passes := w.passes ++ [Pass.begin (some cityId) targets]
                refreshing := if targets = [] then w.refreshing else cityId :: w.refreshing }
            else none
  | .pass index action =>
      match w.passes[index]? with
      | none => none
      | some pass =>
          match pass.step P w.db (w.taken index) action with
          | none => none
          | some (db, pass') =>
              some { w with
                db := db
                passes := w.passes.set index pass'
                refreshing := w.refreshingAfter pass'
                responses := w.responses ++ pass.heard action }
  | .openPatch sourceId data =>
      match w.db.getSource sourceId with
      | none => some w
      | some source => some { w with patches := w.patches ++ [{ loaded := source, data := data }] }
  | .commitPatch index =>
      match w.patches[index]? with
      | none => none
      | some patch =>
          match patch.data.apply patch.loaded with
          -- the flush raises, and the session is rolled back
          | .error _ => some { w with patches := w.patches.eraseIdx index }
          | .ok edited =>
              some { w with
                db := w.db.flushSource patch.loaded edited
                patches := w.patches.eraseIdx index }
  | .call call =>
      match call.run P settings w.db with
      | .ok db => some { w with db := db }
      | .error _ => some w

/-- Nothing running yet. -/
def World.start (db : Db) : World := { db := db }

/-! ## §4. What a step does. -/

/-- What a statement of an open transaction does to `seen_ids` and to its stage,
for each way it can end. -/
inductive OpenTxn.Effect (P : Platform) (db : Db) (taken : List Str) (fetched : Fetched)
    (loaded : Source) (seen : List Str) : PassAction → TxnStage → List Str → TxnStage → Prop
  /-- A failed fetch is recorded. -/
  | unfetched (w : Weather) {e : Str} (fetch : fetched.attempt.fetched = .error e) :
      OpenTxn.Effect P db taken fetched loaded seen (.parse w) .opened seen
        (.ready false
          { outcome := (recordFetchFailure loaded e fetched.attempt.attemptedAt).2
            source := (recordFetchFailure loaded e fetched.attempt.attemptedAt).1
            articles := [] })
  | parseRaised (w : Weather) {result : FetchResult} {e : Str}
      (fetch : fetched.attempt.fetched = .ok result)
      (parse : (parseResult P w db.cities loaded result fetched.attempt.attemptedAt seen).2
        = .error e) :
      OpenTxn.Effect P db taken fetched loaded seen (.parse w) .opened
        (parseResult P w db.cities loaded result fetched.attempt.attemptedAt seen).1
        (.rolledBack e)
  | parseDone (w : Weather) {result : FetchResult} {ingested : Ingested}
      (fetch : fetched.attempt.fetched = .ok result)
      (parse : (parseResult P w db.cities loaded result fetched.attempt.attemptedAt seen).2
        = .ok (.done ingested)) :
      OpenTxn.Effect P db taken fetched loaded seen (.parse w) .opened
        (parseResult P w db.cities loaded result fetched.attempt.attemptedAt seen).1
        (.ready false ingested)
  | parseRows (w : Weather) {result : FetchResult} {rows : List ArticleRow}
      (fetch : fetched.attempt.fetched = .ok result)
      (parse : (parseResult P w db.cities loaded result fetched.attempt.attemptedAt seen).2
        = .ok (.rows rows)) :
      OpenTxn.Effect P db taken fetched loaded seen (.parse w) .opened
        (parseResult P w db.cities loaded result fetched.attempt.attemptedAt seen).1
        (.inserting result.headers rows [])
  /-- ON CONFLICT DO NOTHING. -/
  | conflict (dbNow : Time) {headers : Headers} {row : ArticleRow} {rows : List ArticleRow}
      {new : List Article} :
      OpenTxn.Effect P db taken fetched loaded seen (.insertRow dbNow)
        (.inserting headers (row :: rows) new) seen (.inserting headers rows new)
  | insert (dbNow : Time) {headers : Headers} {row : ArticleRow} {rows : List ArticleRow}
      {new : List Article} (free : row.id ∉ taken)
      (fresh : row.id ∉ (db.articles ++ new).map (·.id)) :
      OpenTxn.Effect P db taken fetched loaded seen (.insertRow dbNow)
        (.inserting headers (row :: rows) new) seen
        (.inserting headers rows (new ++ [row.insert dbNow]))
  /-- The success record raised. -/
  | unrecorded {headers : Headers} {new : List Article} {e : Str}
      (record : recordInserted P loaded headers fetched.attempt.attemptedAt new = .error e) :
      OpenTxn.Effect P db taken fetched loaded seen .finishInsert (.inserting headers [] new) seen
        (.rolledBack e)
  | recorded {headers : Headers} {new : List Article} {ingested : Ingested}
      (record : recordInserted P loaded headers fetched.attempt.attemptedAt new = .ok ingested) :
      OpenTxn.Effect P db taken fetched loaded seen .finishInsert (.inserting headers [] new) seen
        (.ready false ingested)
  | raise (exc : Str) {stage : TxnStage} (running : ∀ exc, stage ≠ .rolledBack exc)
      (first : ∀ ingested, stage ≠ .ready true ingested) :
      OpenTxn.Effect P db taken fetched loaded seen (.raise exc) stage seen (.rolledBack exc)

/-- What one step of a pass does, for each way an action can end. -/
inductive Pass.Effect (P : Platform) (db : Db) (taken : List Str) (city : Option Nat) :
    PassAction → PassPhase → Db → PassPhase → Prop
  | respond (slot : Nat) (attemptedAt : Time) (fetched : Except Str FetchResult)
      {slots : List (FetchTarget × Option FetchAttempt)} {target : FetchTarget}
      (get : slots[slot]? = some (target, none)) :
      Pass.Effect P db taken city (.respond slot attemptedAt fetched) (.fetching slots) db
        (.fetching (slots.set slot (target, some
          { sourceId := target.sourceId, attemptedAt := attemptedAt, fetched := fetched })))
  | startPersist {slots : List (FetchTarget × Option FetchAttempt)}
      (returned : slots.all (·.2.isSome) = true) :
      Pass.Effect P db taken city .startPersist (.fetching slots) db
        (.persisting (Pass.mk city (.fetching slots)).fetches [] [] none)
  /-- The source is gone, and its fetch is dropped. -/
  | gone (fetched : Fetched) (todo : List Fetched) (seen : List Str)
      (outcomes : List SourceIngestOutcome)
      (get : db.getSource fetched.attempt.sourceId = none) :
      Pass.Effect P db taken city .openNext (.persisting (fetched :: todo) seen outcomes none) db
        (.persisting todo seen outcomes none)
  | opened (fetched : Fetched) (todo : List Fetched) (seen : List Str)
      (outcomes : List SourceIngestOutcome) {source : Source}
      (get : db.getSource fetched.attempt.sourceId = some source) :
      Pass.Effect P db taken city .openNext (.persisting (fetched :: todo) seen outcomes none) db
        (.persisting todo seen outcomes (some ⟨fetched, source, .opened⟩))
  | statement {action : PassAction} {fetched : Fetched} {loaded : Source} {stage stage' : TxnStage}
      {seen seen' : List Str} (todo : List Fetched) (outcomes : List SourceIngestOutcome)
      (effect : OpenTxn.Effect P db taken fetched loaded seen action stage seen' stage') :
      Pass.Effect P db taken city action
        (.persisting todo seen outcomes (some ⟨fetched, loaded, stage⟩)) db
        (.persisting todo seen' outcomes (some ⟨fetched, loaded, stage'⟩))
  /-- The source is read again, and the failure recorded. -/
  | recover (fetched : Fetched) (loaded : Source) (exc : Str) (todo : List Fetched)
      (seen : List Str) (outcomes : List SourceIngestOutcome) {source : Source}
      (get : db.getSource fetched.attempt.sourceId = some source) :
      Pass.Effect P db taken city .recover
        (.persisting todo seen outcomes (some ⟨fetched, loaded, .rolledBack exc⟩)) db
        (.persisting todo seen outcomes (some ⟨fetched, source, .ready true
          { outcome :=
              (recordFetchFailure source (persistFailed exc) fetched.attempt.attemptedAt).2
            source := (recordFetchFailure source (persistFailed exc) fetched.attempt.attemptedAt).1
            articles := [] }⟩))
  | commit (fetched : Fetched) (loaded : Source) (recovery : Bool) (ingested : Ingested)
      (todo : List Fetched) (seen : List Str) (outcomes : List SourceIngestOutcome) :
      Pass.Effect P db taken city .commit
        (.persisting todo seen outcomes (some ⟨fetched, loaded, .ready recovery ingested⟩))
        { db.flushSource loaded ingested.source with
          articles := (db.flushSource loaded ingested.source).articles ++ ingested.articles }
        (.persisting todo seen (outcomes ++ [ingested.outcome]) none)
  | finish (seen : List Str) (outcomes : List SourceIngestOutcome) :
      Pass.Effect P db taken city .finish (.persisting [] seen outcomes none) db
        (.returned outcomes)

/-- **Every step of a pass is one of these.** -/
theorem Pass.step_effect {P : Platform} {db db' : Db} {taken : List Str} {pass pass' : Pass}
    {action : PassAction} (hstep : pass.step P db taken action = some (db', pass')) :
    pass'.city = pass.city
      ∧ Pass.Effect P db taken pass.city action pass.phase db' pass'.phase := by
  obtain ⟨city, phase⟩ := pass
  -- one constructor of `Effect` for each way through `step`
  cases action with
  | respond slot attemptedAt fetched =>
      simp only [Pass.step] at hstep
      split at hstep
      · split at hstep
        · next target hslot =>
            cases hstep
            exact ⟨rfl, .respond slot attemptedAt fetched hslot⟩
        · cases hstep
      · cases hstep
  | startPersist =>
      simp only [Pass.step] at hstep
      split at hstep
      · split at hstep
        · next hreturned =>
            cases hstep
            exact ⟨rfl, .startPersist hreturned⟩
        · cases hstep
      · cases hstep
  | openNext =>
      simp only [Pass.step] at hstep
      split at hstep
      · next fetched todo seen outcomes =>
          split at hstep
          · next hget =>
              cases hstep
              exact ⟨rfl, .gone fetched todo seen outcomes hget⟩
          · next source hget =>
              cases hstep
              exact ⟨rfl, .opened fetched todo seen outcomes hget⟩
      · cases hstep
  | parse w =>
      simp only [Pass.step] at hstep
      split at hstep
      · next todo seen outcomes fetched loaded =>
          split at hstep
          · next e hfetched =>
              cases hstep
              exact ⟨rfl, .statement todo outcomes (.unfetched w hfetched)⟩
          · next result hfetched =>
              cases hstep
              refine ⟨rfl, .statement todo outcomes ?_⟩
              split
              · next e hparse => exact .parseRaised w hfetched hparse
              · next ingested hparse => exact .parseDone w hfetched hparse
              · next rows hparse => exact .parseRows w hfetched hparse
      · cases hstep
  | insertRow dbNow =>
      simp only [Pass.step] at hstep
      split at hstep
      · next todo seen outcomes fetched loaded headers row rows new =>
          split at hstep
          · -- the statement waits
            cases hstep
          · next hfree =>
              cases hstep
              refine ⟨rfl, .statement todo outcomes ?_⟩
              split
              · exact .conflict dbNow
              · next hfresh => exact .insert dbNow hfree hfresh
      · cases hstep
  | finishInsert =>
      simp only [Pass.step] at hstep
      split at hstep
      · next todo seen outcomes fetched loaded headers new =>
          cases hstep
          refine ⟨rfl, .statement todo outcomes ?_⟩
          split
          · next hrecord => exact .unrecorded hrecord
          · next hrecord => exact .recorded hrecord
      · cases hstep
  -- only a transaction that is running, and has not raised yet, can raise
  | raise exc =>
      simp only [Pass.step] at hstep
      split at hstep
      · next todo seen outcomes txn =>
          split at hstep
          · cases hstep
          · cases hstep
          · next hrunning hfirst =>
              cases hstep
              exact ⟨rfl, .statement todo outcomes (.raise exc hrunning hfirst)⟩
      · cases hstep
  | recover =>
      simp only [Pass.step] at hstep
      split at hstep
      · next todo seen outcomes fetched loaded exc =>
          split at hstep
          · cases hstep
          · next source hget =>
              cases hstep
              exact ⟨rfl, .recover fetched loaded exc todo seen outcomes hget⟩
      · cases hstep
  | commit =>
      simp only [Pass.step] at hstep
      split at hstep
      · next todo seen outcomes fetched loaded recovery ingested =>
          cases hstep
          exact ⟨rfl, .commit fetched loaded recovery ingested todo seen outcomes⟩
      · cases hstep
  | finish =>
      simp only [Pass.step] at hstep
      split at hstep
      · next seen outcomes =>
          cases hstep
          exact ⟨rfl, .finish seen outcomes⟩
      · cases hstep

/-- What one step of the world does, for each way an action can end. -/
inductive World.Effect (P : Platform) (settings : Settings) (w : World) :
    WorldAction → World → Prop
  /-- A 404, or a call that raised. -/
  | refused (action : WorldAction) : World.Effect P settings w action w
  | begin (action : WorldAction) (city : Option Nat) (targets : List FetchTarget)
      (refreshing : List Nat) :
      World.Effect P settings w action
        { w with passes := w.passes ++ [Pass.begin city targets], refreshing := refreshing }
  | pass (index : Nat) (action : PassAction) (pass pass' : Pass) (db : Db)
      (get : w.passes[index]? = some pass)
      (step : pass.step P w.db (w.taken index) action = some (db, pass')) :
      World.Effect P settings w (.pass index action)
        { w with
          db := db
          passes := w.passes.set index pass'
          refreshing := w.refreshingAfter pass'
          responses := w.responses ++ pass.heard action }
  /-- A PATCH opened, or rolled back. -/
  | patches (action : WorldAction) (patches : List PatchSession) :
      World.Effect P settings w action { w with patches := patches }
  | commitPatch (index : Nat) (patch : PatchSession) (edited : Source)
      (get : w.patches[index]? = some patch) (edit : patch.data.apply patch.loaded = .ok edited) :
      World.Effect P settings w (.commitPatch index)
        { w with
          db := w.db.flushSource patch.loaded edited
          patches := w.patches.eraseIdx index }
  | call (call : OnboardingCall) (db : Db) (run : call.run P settings w.db = .ok db) :
      World.Effect P settings w (.call call) { w with db := db }

/-- **Every step is one of these.** -/
theorem World.step_effect {P : Platform} {settings : Settings} {w w' : World}
    {action : WorldAction} (hstep : w.step P settings action = some w') :
    World.Effect P settings w action w' := by
  cases action with
  | beginTick now targets =>
      simp only [World.step] at hstep
      split at hstep
      · cases hstep
        exact .begin _ none targets w.refreshing
      · cases hstep
  -- 409 for a city in `_refreshing`, 404 for one that is not there
  | beginRefresh cityId targets =>
      simp only [World.step] at hstep
      split at hstep
      · cases hstep
      · split at hstep
        · -- no such city
          cases hstep
          exact .refused _
        · split at hstep
          · cases hstep
            exact .begin _ (some cityId) targets _
          · cases hstep
  | pass index action =>
      simp only [World.step] at hstep
      split at hstep
      · cases hstep
      · next pass hget =>
          split at hstep
          · cases hstep
          · next db pass' hpass =>
              cases hstep
              exact .pass index action pass pass' db hget hpass
  | openPatch sourceId data =>
      simp only [World.step] at hstep
      split at hstep
      · -- no such source
        cases hstep
        exact .refused _
      · cases hstep
        exact .patches _ _
  -- a PATCH that cannot be applied leaves its session and no change
  | commitPatch index =>
      simp only [World.step] at hstep
      split at hstep
      · cases hstep
      · next patch hpatch =>
          split at hstep
          · cases hstep
            exact .patches _ _
          · next edited happly =>
              cases hstep
              exact .commitPatch index patch edited hpatch happly
  | call call =>
      simp only [World.step] at hstep
      split at hstep
      · next db hrun =>
          cases hstep
          exact .call call db hrun
      · cases hstep
        exact .refused _

end Feedcast
